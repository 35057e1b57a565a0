import TableOptions.Toml.Statement

/-!
# Reading TOML

The statements of a document build its root table one after another. A value goes to the table of the
last header, at first to the root.
-/

namespace TableOptions.Toml

/-- A document under construction: its root table and the way to the table of the last header. -/
structure Assembly where
  root : Members
  current : List String

namespace Assembly

/-- The start of an empty document. -/
def empty : Assembly := ⟨[], []⟩

/-- The document after one more statement. -/
def add (d : Assembly) : Statement → Option Assembly
  | .assign key value => do
    let root ← Members.within (Members.assign value key.name key.tables) d.current d.root
    some ⟨root, d.current⟩
  | .table key => do
    let root ← Members.within (Members.openTable key.name) key.tables d.root
    some ⟨root, key.tables ++ [key.name]⟩
  | .element key => do
    let root ← Members.within (Members.openElement key.name) key.tables d.root
    some ⟨root, key.tables ++ [key.name]⟩

end Assembly

/-- A text without the mark of its byte order. -/
def withoutMark : List Char → List Char
  | '\ufeff' :: rest => rest
  | s => s

/-- The members of the root table of a document, or nothing if the text is no document. -/
def read? (text : String) : Option (List (String × Value)) := do
  let found ← statements (unifyLineEnds (withoutMark text.toList))
  let built ← found.foldlM Assembly.add Assembly.empty
  some (finishMembers built.root)

end TableOptions.Toml
