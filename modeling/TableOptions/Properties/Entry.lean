import TableOptions.Properties.Escape
import TableOptions.Text.Blank
import TableOptions.Warned

/-!
# Entries of properties text

A logical line is a key, a separator and a value. The key ends before the first `=`, `:` or blank
that is not escaped; the separator is blanks around at most one `=` or `:`; the value is the rest,
its trailing blanks included. Escapes are decoded on the way, in one pass.
-/

namespace TableOptions.Properties

/-- A key with its value. -/
structure Entry where
  key : String
  value : String
deriving DecidableEq

/-- Decoded text with the warnings of its escapes. -/
abbrev Unescaped := Warned Warning (List Char)

/-- The text of an escape before further decoded text. -/
def Escape.before (e : Escape) (later : Unescaped) : Unescaped :=
  ⟨e.text ++ later.value, e.warnings ++ later.warnings⟩

/-- A character before further decoded text. -/
def Unescaped.cons (c : Char) (later : Unescaped) : Unescaped :=
  ⟨c :: later.value, later.warnings⟩

/-- The text of an escape comes first. -/
@[simp] theorem Escape.value_before (e : Escape) (later : Unescaped) :
    (e.before later).value = e.text ++ later.value := rfl

/-- The character comes first. -/
@[simp] theorem Unescaped.value_cons (c : Char) (later : Unescaped) :
    (later.cons c).value = c :: later.value := rfl

/-- Decodes all escapes of a text. -/
def unescape (s : List Char) : Unescaped :=
  match s with
  | [] => ⟨[], []⟩
  | c :: rest =>
    if c = '\\' then (Escape.read rest).before (unescape (Escape.read rest).rest)
    else (unescape rest).cons c
termination_by s.length
decreasing_by
  · exact Nat.lt_succ_of_le (Escape.rest_length_le rest)
  · simp

@[simp] theorem unescape_nil : unescape [] = ⟨[], []⟩ := by rw [unescape]

/-- A backslash is decoded with the escape that it starts. -/
theorem unescape_backslash (rest : List Char) :
    unescape ('\\' :: rest) = (Escape.read rest).before (unescape (Escape.read rest).rest) := by
  rw [unescape, if_pos rfl]

/-- A character other than a backslash stands for itself. -/
theorem unescape_of_ne {c : Char} (h : c ≠ '\\') (rest : List Char) :
    unescape (c :: rest) = (unescape rest).cons c := by
  rw [unescape, if_neg h]

/-- Whether a character separates a key from its value without a blank. -/
def isSeparator (c : Char) : Bool := c == '=' || c == ':'

/-- No separator is blank. -/
theorem isBlank_of_isSeparator {c : Char} (h : isSeparator c = true) : Text.isBlank c = false := by
  rcases Bool.or_eq_true_iff.1 h with hc | hc <;> (obtain rfl := beq_iff_eq.1 hc; rfl)

/-- Skips one `=` or `:` if it comes first. -/
def skipSeparator : List Char → List Char
  | c :: rest => if isSeparator c then rest else c :: rest
  | [] => []

/-- Decodes a key up to its separator; the second part is the text after the separator, except for
blanks that may follow it. -/
def scanKey (s : List Char) : Unescaped × List Char :=
  match s with
  | [] => (⟨[], []⟩, [])
  | c :: rest =>
    if c = '\\' then
      let later := scanKey (Escape.read rest).rest
      ((Escape.read rest).before later.1, later.2)
    else if isSeparator c then (⟨[], []⟩, rest)
    else if Text.isBlank c then (⟨[], []⟩, skipSeparator (Text.trimStart rest))
    else
      let later := scanKey rest
      (later.1.cons c, later.2)
termination_by s.length
decreasing_by
  · exact Nat.lt_succ_of_le (Escape.rest_length_le rest)
  · simp

@[simp] theorem scanKey_nil : scanKey [] = (⟨[], []⟩, []) := by rw [scanKey]

/-- An escape belongs to the key, whatever character it escapes. -/
theorem scanKey_backslash (rest : List Char) :
    scanKey ('\\' :: rest) = ((Escape.read rest).before (scanKey (Escape.read rest).rest).1,
      (scanKey (Escape.read rest).rest).2) := by
  rw [scanKey, if_pos rfl]

/-- A separator ends the key and is dropped. -/
theorem scanKey_separator {c : Char} (h : isSeparator c = true) (rest : List Char) :
    scanKey (c :: rest) = (⟨[], []⟩, rest) := by
  have hne : c ≠ '\\' := by rintro rfl; exact absurd h (by decide)
  rw [scanKey, if_neg hne, if_pos h]

/-- A blank ends the key, and is dropped with the separator that may follow it. -/
theorem scanKey_blank {c : Char} (h : Text.isBlank c = true) (rest : List Char) :
    scanKey (c :: rest) = (⟨[], []⟩, skipSeparator (Text.trimStart rest)) := by
  have hne : c ≠ '\\' := by rintro rfl; exact absurd h (by decide)
  have hsep : ¬ isSeparator c = true := by
    intro hc
    rw [isBlank_of_isSeparator hc] at h
    cases h
  rw [scanKey, if_neg hne, if_neg hsep, if_pos h]

/-- Any other character belongs to the key. -/
theorem scanKey_of_ne {c : Char} (h : c ≠ '\\') (hsep : isSeparator c = false)
    (hb : Text.isBlank c = false) (rest : List Char) :
    scanKey (c :: rest) = ((scanKey rest).1.cons c, (scanKey rest).2) := by
  rw [scanKey, if_neg h, if_neg (by simp [hsep]), if_neg (by simp [hb])]

/-- The entry of a logical line. -/
def readEntry (line : List Char) : Warned Warning Entry :=
  let (key, afterKey) := scanKey line
  let value := unescape (Text.trimStart afterKey)
  ⟨⟨String.ofList key.value, String.ofList value.value⟩, key.warnings ++ value.warnings⟩

/-- The key of an entry is what was decoded up to the separator. -/
@[simp] theorem toList_key_readEntry (line : List Char) :
    (readEntry line).value.key.toList = (scanKey line).1.value :=
  String.toList_ofList

/-- The value of an entry is what was decoded behind it. -/
@[simp] theorem toList_value_readEntry (line : List Char) :
    (readEntry line).value.value.toList = (unescape (Text.trimStart (scanKey line).2)).value :=
  String.toList_ofList

end TableOptions.Properties
