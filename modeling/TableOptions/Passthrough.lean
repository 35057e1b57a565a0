import TableOptions.Configuration
import TableOptions.Warned

/-!
# Passthrough properties

A key that starts with a mark belongs to someone behind the pipeline, who knows it by the rest of
the key. `selectMarked` takes those entries out of a map; `flatten` unwraps them within a
configuration, where an unwrapped entry hides a plain one of the same key and says so.
-/

namespace TableOptions

/-- The mark of properties that are forwarded to the storage engine. -/
def passthroughMark : String := "properties."

/-- The rest of a key after a mark. The mark is plain text; dots mean nothing in it. -/
def unmark? (mark key : String) : Option String :=
  if mark.toList.isPrefixOf key.toList then
    some (String.ofList (key.toList.drop mark.toList.length))
  else none

/-- The entries whose key starts with a mark, under the rest of their key. -/
def selectMarked (mark : String) (m : KeyMap String) : KeyMap String :=
  KeyMap.ofList (m.entries.filterMap fun e => (unmark? mark e.1).map fun key => (key, e.2))

/-- An unwrapped property that hides a plain one of the same key. -/
structure Override where
  key : String
deriving DecidableEq

/-- The wording of a hidden property. -/
def Override.message (o : Override) : String :=
  "Passthrough property '" ++ passthroughMark ++ o.key ++ "' overrides '" ++ o.key ++ "'"

namespace Configuration

/-- The entries without the passthrough mark, as texts. -/
def plainEntries (conf : Configuration) : KeyMap String :=
  conf.toMap.filter fun key _ => (unmark? passthroughMark key).isNone

/-- The entries with the passthrough mark, as texts under the rest of their keys. -/
def unwrappedEntries (conf : Configuration) : KeyMap String :=
  selectMarked passthroughMark conf.toMap

/-- The configuration with one mark taken off every key that has it. Unwrapped entries win. -/
def flatten (conf : Configuration) : Warned Override Configuration :=
  let plain := conf.plainEntries
  let unwrapped := conf.unwrappedEntries
  ⟨ofMap (plain.overlay unwrapped), (unwrapped.keys.filter plain.contains).map Override.mk⟩

end Configuration

end TableOptions
