import TableOptions.Catalog.Standard
import TableOptions.Changes
import TableOptions.CommandLine.Command
import TableOptions.Streamer.Bridge
import TableOptions.Streamer.Document

/-!
# Running commands

A command turns the texts of files into the text that it prints, with notices on the way. It fails
with a chain of reasons, outermost first.
-/

namespace TableOptions.CommandLine

open Streamer (Settings)

/-- What a command has to say besides its text. -/
inductive Notice where
  | escape (w : Properties.Warning)
  | hidden (o : Override)
  | problem (p : Problem)
  | unreadable (e : ReadError)
deriving DecidableEq

/-- The wording of a notice. -/
def Notice.message : Notice → String
  | escape w => w.message
  | hidden o => o.message
  | problem p => p.message
  | unreadable e => e.message

/-- Why a command fails. -/
inductive CommandError where
  | listing (cause : ListingError)
  | settings (cause : Streamer.SettingsError)
  | unreadableProperties (cause : Properties.UnreadableFile)
  | unreadableDocument (path : String) (cause : FileError)
  | refusedDocument (path : String) (cause : Streamer.DocumentError)

/-- What a refused document in a file is reported under. -/
def refusedFile (path : String) : String :=
  "Failed to parse legacy config file: " ++ String.ofList (Text.quoted path.toList)

/-- The wording of a failure, outermost part first. -/
def CommandError.chain : CommandError → List String
  | listing cause => [cause.message]
  | settings cause => cause.chain
  | unreadableProperties cause => cause.chain
  | unreadableDocument path cause =>
    ["Failed to read legacy config file: " ++ String.ofList (Text.quoted path.toList),
      cause.message]
  | refusedDocument path (.misfit cause) => [refusedFile path, cause.message]
  | refusedDocument path .notToml => [refusedFile path, "not a TOML document"]

/-- The report on a failure: its outermost reason, and below it the others. -/
def report : List String → String
  | [] => "Error"
  | [reason] => "Error: " ++ reason
  | reason :: causes => "Error: " ++ reason ++ "\n\nCaused by:\n    " ++
    String.intercalate "\n    " causes

/-- The text of a configuration. Flattening comes first, then the check of the values. -/
def printConfiguration (conf : Configuration) (o : Output) : Warned Notice String := do
  let conf ← if o.flat then conf.flatten.mapWarnings .hidden else pure conf
  let () ← ⟨(), (conf.problems Registry.standard).map .problem⟩
  let entries ← (conf.explicitEntries Registry.standard o.changedOnly).mapWarnings .unreadable
  return render entries o.format

/-- The text of the configuration of a job. -/
def resolve (s : Settings) (o : Output) (source : TextSource) :
    Warned Notice (Except CommandError String) := do
  match ← (s.configuration source).mapWarnings .escape with
  | .ok conf => return .ok (← printConfiguration conf o)
  | .error cause => return .error (.settings cause)

/-- The settings in the document of a file. -/
def readDocument (path : String) (source : TextSource) : Except CommandError Settings :=
  match source path with
  | .error cause => .error (.unreadableDocument path cause)
  | .ok text => (Settings.ofDocument text).mapError (.refusedDocument path)

/-- The text of the configuration of a job that a document describes. -/
def convert (path : String) (o : Output) (source : TextSource) :
    Warned Notice (Except CommandError String) :=
  match readDocument path source with
  | .ok s => resolve s o source
  | .error e => pure (.error e)

/-- The text of the marked properties of a file. -/
def select (path mark : String) (format : EntryFormat) (source : TextSource) :
    Warned Notice (Except CommandError String) := do
  match ← (Properties.load source path).mapWarnings .escape with
  | .ok m => return .ok (render (selectMarked mark m) format)
  | .error cause => return .error (.unreadableProperties cause)

/-- The text of a command. -/
def Command.run (source : TextSource) : Command → Warned Notice (Except CommandError String)
  | .list filter format => pure ((Registry.standard.list filter format).mapError .listing)
  | .describe key => pure ((Registry.standard.describe key).mapError .listing)
  | .resolve s o => CommandLine.resolve s o source
  | .convert path o => CommandLine.convert path o source
  | .select path mark format => CommandLine.select path mark format source

/-- The files that a command reads, as far as the given texts tell. -/
def Command.files (source : TextSource) : Command → List String
  | .resolve s _ => s.propertiesPath.toList
  | .convert path _ =>
    path :: match readDocument path source with
      | .ok s => s.propertiesPath.toList
      | .error _ => []
  | .select path _ _ => [path]
  | .list _ _ => []
  | .describe _ => []

end TableOptions.CommandLine
