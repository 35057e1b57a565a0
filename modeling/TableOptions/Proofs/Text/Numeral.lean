import TableOptions.Proofs.Text.Integer
import TableOptions.Value

/-!
# What an integer may look like

`Numeral` is the grammar of integers in decimal: perhaps a sign, then at least one digit. Zeros may
lead. A range reads exactly the numerals of its own integers, each as the integer that it stands for
(`IntegerRange.read_eq_ok_iff`), so nothing wraps and nothing else is read.
-/

namespace TableOptions

namespace Text

/-- A text and the integer that it stands for in decimal. -/
inductive Numeral : List Char → Int → Prop
  | unsigned {digits : List Char} (ne_nil : digits ≠ [])
      (isDigit : ∀ c ∈ digits, c.isDigit = true) : Numeral digits (ofDecimalDigits digits)
  | plus {digits : List Char} (ne_nil : digits ≠ [])
      (isDigit : ∀ c ∈ digits, c.isDigit = true) : Numeral ('+' :: digits) (ofDecimalDigits digits)
  | minus {digits : List Char} (ne_nil : digits ≠ [])
      (isDigit : ∀ c ∈ digits, c.isDigit = true) :
      Numeral ('-' :: digits) (-(ofDecimalDigits digits : Int))

namespace IntegerRange

variable {range : IntegerRange}

/-- An integer passes a check unchanged, and only within the range. -/
theorem check_eq_ok_iff {n k : Int} :
    range.check n = .ok k ↔ n = k ∧ range.least ≤ k ∧ k ≤ range.greatest := by
  constructor
  · intro h
    unfold check at h
    split at h
    · cases h
    · split at h
      · cases h
      · obtain rfl := Except.ok.inj h
        exact ⟨rfl, by omega, by omega⟩
  · rintro ⟨rfl, hleast, hgreatest⟩
    exact check_eq_ok hleast hgreatest

/-- Reading digits stops at anything else. -/
theorem isDigit_of_readDigits {negative : Bool} {sofar n : Int} {s : List Char}
    (h : range.readDigits negative sofar s = .ok n) : ∀ c ∈ s, c.isDigit = true := by
  induction s generalizing sofar with
  | nil => exact fun c hc => absurd hc List.not_mem_nil
  | cons c rest ih =>
    unfold readDigits at h
    by_cases hc : c.isDigit = true
    · rw [if_pos hc] at h
      dsimp only at h
      generalize (if negative then _ else _ : Int) = next at h
      split at h
      · cases h
      · split at h
        · cases h
        · intro d hd
          rcases List.mem_cons.1 hd with rfl | hmem
          · exact hc
          · exact ih h d hmem
    · rw [if_neg hc] at h
      cases h

/-- Digits with a sign read as their number, if the range has it. -/
theorem readDigits_eq_ok_iff (hzero : range.HasZero) {negative : Bool} {digits : List Char} {n : Int} :
    range.readDigits negative 0 digits = .ok n ↔
      (∀ c ∈ digits, c.isDigit = true) ∧ withSign negative (ofDecimalDigits digits) = n ∧
        range.least ≤ n ∧ n ≤ range.greatest := by
  have hread : (∀ c ∈ digits, c.isDigit = true) → range.readDigits negative 0 digits =
      range.check (withSign negative (ofDecimalDigits digits)) := by
    intro hdigits
    have hstart : withSign negative 0 = 0 := by cases negative <;> rfl
    have heq := readDigits_eq_check hzero negative digits hdigits 0 (check_zero hzero negative)
    rw [hstart] at heq
    exact heq
  constructor
  · intro h
    have hdigits := isDigit_of_readDigits h
    rw [hread hdigits, check_eq_ok_iff] at h
    exact ⟨hdigits, h⟩
  · rintro ⟨hdigits, h⟩
    rw [hread hdigits, check_eq_ok_iff]
    exact h

/-- A numeral without a sign begins with a digit. -/
theorem read_digits {digits : List Char} (hne : digits ≠ [])
    (hdigits : ∀ c ∈ digits, c.isDigit = true) :
    range.read digits = range.readDigits false 0 digits := by
  cases digits with
  | nil => exact absurd rfl hne
  | cons c rest => exact read_of_isDigit range (hdigits c List.mem_cons_self) rest

/-- Behind a plus sign the digits count up. -/
theorem read_plus (range : IntegerRange) {digits : List Char} (h : digits ≠ []) :
    range.read ('+' :: digits) = range.readDigits false 0 digits := by
  cases digits with
  | nil => exact absurd rfl h
  | cons c rest => rfl

/-- **A range reads the numerals of its integers**, and nothing else. -/
theorem read_eq_ok_iff (hzero : range.HasZero) {s : List Char} {n : Int} :
    range.read s = .ok n ↔ Numeral s n ∧ range.least ≤ n ∧ n ≤ range.greatest := by
  constructor
  · intro h
    unfold read at h
    split at h
    · cases h
    · cases h
    · cases h
    · rename_i digits hne
      obtain ⟨hdigits, rfl, hrange⟩ := (readDigits_eq_ok_iff hzero).1 h
      exact ⟨.plus hne hdigits, hrange⟩
    · rename_i digits hne
      obtain ⟨hdigits, rfl, hrange⟩ := (readDigits_eq_ok_iff hzero).1 h
      exact ⟨.minus hne hdigits, hrange⟩
    · rename_i hne _ _ _ _
      obtain ⟨hdigits, rfl, hrange⟩ := (readDigits_eq_ok_iff hzero).1 h
      exact ⟨.unsigned hne hdigits, hrange⟩
  · rintro ⟨hnumeral, hrange⟩
    cases hnumeral with
    | unsigned hne hdigits =>
      rw [read_digits hne hdigits]
      exact (readDigits_eq_ok_iff hzero).2 ⟨hdigits, rfl, hrange⟩
    | plus hne hdigits =>
      rw [read_plus range hne]
      exact (readDigits_eq_ok_iff hzero).2 ⟨hdigits, rfl, hrange⟩
    | minus hne hdigits =>
      rw [read_minus range hne]
      exact (readDigits_eq_ok_iff hzero).2 ⟨hdigits, rfl, hrange⟩

/-- The same for machine integers whose values are those of the range. -/
theorem map_read_eq_ok_iff (hzero : range.HasZero) {α : Type} {ofInt : Int → α} {toInt : α → Int}
    (hto : ∀ k, range.least ≤ k → k ≤ range.greatest → toInt (ofInt k) = k)
    (hof : ∀ a, ofInt (toInt a) = a)
    (hrange : ∀ a, range.least ≤ toInt a ∧ toInt a ≤ range.greatest) {s : List Char} {a : α} :
    (range.read s).map ofInt = .ok a ↔ Numeral s (toInt a) := by
  constructor
  · intro h
    cases hvalue : range.read s with
    | error cause =>
      rw [hvalue] at h
      cases h
    | ok k =>
      rw [hvalue] at h
      obtain rfl : ofInt k = a := Except.ok.inj h
      obtain ⟨hnumeral, hlow, hhigh⟩ := (read_eq_ok_iff hzero).1 hvalue
      rw [hto k hlow hhigh]
      exact hnumeral
  · intro hnumeral
    rw [(read_eq_ok_iff hzero).2 ⟨hnumeral, hrange a⟩]
    exact congrArg Except.ok (hof a)

end IntegerRange

end Text

namespace Value

open Text (Numeral IntegerRange)

/-- A text reads as a 32-bit integer exactly if it is a numeral of that integer. -/
theorem readInt_eq_ok_iff {s : List Char} {n : Int32} :
    readInt s = .ok n ↔ Numeral s n.toInt :=
  IntegerRange.map_read_eq_ok_iff IntegerRange.hasZero_bits32
    (fun _ hlow hhigh => Int32.toInt_ofInt_of_le hlow (Int.lt_add_one_of_le hhigh))
    Int32.ofInt_toInt (fun a => ⟨a.le_toInt, Int.le_of_lt_add_one a.toInt_lt⟩)

/-- A text reads as a 64-bit integer exactly if it is a numeral of that integer. -/
theorem readLong_eq_ok_iff {s : List Char} {n : Int64} :
    readLong s = .ok n ↔ Numeral s n.toInt :=
  IntegerRange.map_read_eq_ok_iff IntegerRange.hasZero_bits64
    (fun _ hlow hhigh => Int64.toInt_ofInt_of_le hlow (Int.lt_add_one_of_le hhigh))
    Int64.ofInt_toInt (fun a => ⟨a.le_toInt, Int.le_of_lt_add_one a.toInt_lt⟩)

end Value

end TableOptions
