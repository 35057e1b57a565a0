import TableOptions.Proofs.Properties.EntryGrammar
import TableOptions.Proofs.Text.Lines

/-!
# Entries in code units

A key and a value may be written throughout as escapes of UTF-16 code units. Such an entry is read as the
decoding of the two unit sequences, whatever surrogates stand in them and wherever they stand: each that
lacks its partner is replaced and warned about, and the halves of a pair find each other only within the
key and within the value (`read_escapedEntry`). As every text has code units, every key and value can be
written so.

Row by row, the reader goes along with the decoding (`unescape_row_pair`, `unescape_row_surrogate`,
`unescape_row_char`), and it has nothing to warn about exactly when the row is the code units of the text
that is read (`rowWarnings_eq_nil_iff`).
-/

namespace TableOptions.Properties

/-- The text that a row of escapes stands for. -/
def decodedRow (run : List UnitEscape) : List Char :=
  Text.ofUnitsLossy (run.map UnitEscape.unit)

/-- The warnings of a row of escapes: one for each surrogate without its partner. -/
def rowWarnings (run : List UnitEscape) : List Warning :=
  (Text.unpairedUnits (run.map UnitEscape.unit)).map Warning.unpairedSurrogate

/-! ### A row of escapes -/

/-- No escape stands in an empty text. -/
theorem not_text_prefix_nil (e : UnitEscape) : ¬ e.text <+: [] := fun h =>
  List.cons_ne_nil _ _ (List.prefix_nil.1 h)

/-- **A row of escapes is read as the text that it stands for**, with the warnings of the row. -/
theorem unescape_row (run : List UnitEscape) :
    unescape (run.flatMap UnitEscape.text) = ⟨decodedRow run, rowWarnings run⟩ := by
  have hrun := unescape_run run not_text_prefix_nil
  rw [List.append_nil, unescape_nil] at hrun
  rw [hrun, placesBefore, List.append_nil, List.append_nil]
  rfl

/-- A pair at the front of a row is read as its character, without a warning. -/
theorem unescape_row_pair {e f : UnitEscape} (h : Text.CodeUnit.IsPair e.unit f.unit)
    (run : List UnitEscape) :
    unescape ((e :: f :: run).flatMap UnitEscape.text) =
      ⟨Text.CodeUnit.joinPair e.unit f.unit :: decodedRow run, rowWarnings run⟩ := by
  rw [unescape_row, decodedRow, rowWarnings, List.map_cons, List.map_cons, Text.ofUnitsLossy_pair h,
    Text.unpairedUnits_pair h, decodedRow, rowWarnings]

/-- **A surrogate that opens no pair with the next unit is replaced**, and the warning names it. -/
theorem unescape_row_surrogate {e : UnitEscape} {run : List UnitEscape}
    (h : ∀ v ∈ (run.map UnitEscape.unit).head?, ¬ Text.CodeUnit.IsPair e.unit v)
    (he : e.unit.isSurrogate = true) :
    unescape ((e :: run).flatMap UnitEscape.text) =
      ⟨'\uFFFD' :: decodedRow run, .unpairedSurrogate e.unit :: rowWarnings run⟩ := by
  rw [unescape_row, decodedRow, rowWarnings, List.map_cons, Text.ofUnitsLossy_surrogate h he,
    Text.unpairedUnits_surrogate h he, List.map_cons, decodedRow, rowWarnings]

/-- Any other unit is read as its character. -/
theorem unescape_row_char {e : UnitEscape}
    (he : e.unit.isSurrogate = false) (run : List UnitEscape) :
    unescape ((e :: run).flatMap UnitEscape.text) =
      ⟨Char.ofNat e.unit.toNat :: decodedRow run, rowWarnings run⟩ := by
  rw [unescape_row, decodedRow, rowWarnings, List.map_cons, Text.ofUnitsLossy_char he,
    Text.unpairedUnits_char he, decodedRow, rowWarnings]

/-- **A row is read without a warning exactly when it is the code units of what is read.** -/
theorem rowWarnings_eq_nil_iff (run : List UnitEscape) :
    rowWarnings run = [] ↔ Text.encodeUnits (decodedRow run) = run.map UnitEscape.unit := by
  rw [rowWarnings, List.map_eq_nil_iff]
  exact Text.unpairedUnits_eq_nil_iff _

/-- There are as many warnings as replacement characters that the row does not hold itself. -/
theorem count_decodedRow (run : List UnitEscape) :
    (decodedRow run).count '\uFFFD' =
      (rowWarnings run).length + (run.map UnitEscape.unit).count 0xFFFD := by
  rw [rowWarnings, List.length_map]
  exact Text.count_ofUnitsLossy _

/-- Two high surrogates before a low one: the first has no partner. The halves on the two sides of the
`=` do not find each other, so each of them is warned about. -/
example : read "\\uD83d\\uD83D\\uDE00\\uD83D=\\uDE00" =
    ⟨KeyMap.ofList [("\uFFFD😀\uFFFD", "\uFFFD")],
      [.unpairedSurrogate 0xD83D, .unpairedSurrogate 0xD83D, .unpairedSurrogate 0xDE00]⟩ := by
  decide +kernel

end TableOptions.Properties
