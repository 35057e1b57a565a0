import TableOptions.JsonText
import TableOptions.Properties.Writer
import TableOptions.Toml.Writer

/-!
# Rendering of entries

Entries go out as properties text, as one JSON object or as a TOML document, always in ascending
order of their keys.
-/

namespace TableOptions

/-- The formats for entries. -/
inductive EntryFormat where
  | properties
  | json
  | toml
deriving DecidableEq, Repr

/-- The text of entries in a format. -/
def render (m : KeyMap String) : EntryFormat → String
  | .properties => Properties.write m
  | .json => String.ofList (JsonText.object 0 (m.entries.map fun e => (e.1, JsonText.string e.2)))
  | .toml => Toml.write m

end TableOptions
