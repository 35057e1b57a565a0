import TableOptions.KeyMap.Basic
import TableOptions.Properties.Entry
import TableOptions.Properties.LogicalLine

/-!
# Reading properties text

The text is cut into physical lines, these are joined to logical lines, and each logical line is an
entry. Of several entries with one key the last one counts. Every text is accepted; the reader only
warns.
-/

namespace TableOptions.Properties

/-- The entries of a text in their order, each with its warnings. -/
def readEntries (text : String) : List (Warned Warning Entry) :=
  (logicalLines (Text.lines text.toList)).map readEntry

/-- The map of a text. -/
def read (text : String) : Warned Warning (KeyMap String) :=
  let entries := readEntries text
  ⟨KeyMap.ofList (entries.map fun e => (e.value.key, e.value.value)),
    entries.flatMap (·.warnings)⟩

end TableOptions.Properties
