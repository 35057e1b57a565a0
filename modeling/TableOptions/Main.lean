import TableOptions.CommandLine.Run

/-!
# The program

Reads the words of the command line and the files that the command needs, prints its text to the
standard output and everything else to the standard error output. The exit code is 0, 1 for a command
that failed, or that of a refused command line.
-/

namespace TableOptions.CommandLine

/-- The text of a file. -/
def readFile (path : String) : IO (Except FileError String) := do
  try
    let content ← IO.FS.readBinFile path
    match String.fromUTF8? content with
    | some text => return .ok text
    | none => return .error .notUtf8
  catch
    | .noFileOrDirectory _ _ _ => return .error .notFound
    | e => return .error (.other (toString e))

/-- The texts of files. -/
def readFiles (paths : List String) : IO TextSource := do
  let texts ← paths.mapM fun path => return (path, ← readFile path)
  return fun path => (texts.lookup path).getD (.error .notFound)

/-- Runs a command. The files are read in two rounds, because a document may name another file. -/
def runCommand (command : Command) : IO UInt32 := do
  let nothing : TextSource := fun _ => .error .notFound
  let first ← readFiles (command.files nothing)
  let source ← readFiles (command.files first)
  let result := command.run source
  for notice in result.warnings do
    IO.eprintln notice.message
  match result.value with
  | .ok text =>
    IO.print text
    return 0
  | .error e =>
    IO.eprintln (report e.chain)
    return 1

end TableOptions.CommandLine

open TableOptions.CommandLine

/-- The program. -/
def main (words : List String) : IO UInt32 := do
  match Command.ofWords words with
  | .ok command => runCommand command
  | .error .helpRequested =>
    IO.println UsageError.helpRequested.message
    return 0
  | .error e =>
    IO.eprintln e.message
    return UInt32.ofNat e.exitCode
