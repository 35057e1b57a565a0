import TableOptions.FileTree
import TableOptions.Properties.Reader
import TableOptions.Text.Quoted

/-!
# Properties files

The map of a file is the map of its text; a file that cannot be read is reported by its path.
-/

namespace TableOptions.Properties

/-- A properties file that cannot be read. -/
structure UnreadableFile where
  path : String
  cause : FileError
deriving DecidableEq

/-- The wording of a file that cannot be read, outermost part first. -/
def UnreadableFile.chain (e : UnreadableFile) : List String :=
  ["Failed to read properties file: " ++ String.ofList (Text.quoted e.path.toList),
    e.cause.message]

/-- The map of a file. -/
def load (source : TextSource) (path : String) :
    Warned Warning (Except UnreadableFile (KeyMap String)) :=
  match source path with
  | .ok text =>
    let found := read text
    ⟨.ok found.value, found.warnings⟩
  | .error cause => ⟨.error ⟨path, cause⟩, []⟩

end TableOptions.Properties
