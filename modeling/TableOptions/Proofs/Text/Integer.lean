import TableOptions.Text.Blank
import TableOptions.Text.Integer

/-!
# Integers read back from their text

Digits that are read one by one, each with a check against the range, end where the whole number
would have been checked once: away from zero a number that has left the range never comes back
(`check_eq_error_of_le`). So a range reads the text of any integer as that integer, if it lies in the
range, and otherwise fails on the side where the integer lies (`read_integerText`).
-/

namespace TableOptions.Text

/-! ### Digits -/

/-- The digits are ten neighbouring characters. -/
theorem isDigit_iff (c : Char) : c.isDigit = true ↔ 48 ≤ c.toNat ∧ c.toNat ≤ 57 := by
  simp only [Char.isDigit, Bool.and_eq_true, decide_eq_true_eq, ge_iff_le, UInt32.le_iff_toNat_le]
  exact Iff.rfl

/-- No digit is blank. -/
theorem isBlank_of_isDigit {c : Char} (h : c.isDigit = true) : isBlank c = false := by
  obtain ⟨hleast, hgreatest⟩ := (isDigit_iff c).1 h
  simp [isBlank]
  omega

/-- A number is written in digits. -/
theorem isDigit_of_mem_decimalDigits {n : Nat} {c : Char} (h : c ∈ decimalDigits n) :
    c.isDigit = true :=
  Nat.isDigit_of_mem_toDigits (by decide) (by decide) h

/-- Every number has a digit, zero included. -/
theorem decimalDigits_ne_nil (n : Nat) : decimalDigits n ≠ [] :=
  Nat.toDigits_ne_nil

/-- **A number is read back from its digits.** -/
@[simp] theorem ofDecimalDigits_decimalDigits (n : Nat) : ofDecimalDigits (decimalDigits n) = n :=
  Nat.ofDigitChars_ten_toDigits

/-- Further digits never make a number smaller. -/
theorem le_ofDigitChars (digits : List Char) (n : Nat) : n ≤ Nat.ofDigitChars 10 digits n := by
  induction digits generalizing n with
  | nil => exact Nat.le_refl n
  | cons c rest ih =>
    rw [Nat.ofDigitChars_cons]
    refine Nat.le_trans ?_ (ih _)
    omega

/-! ### Ranges -/

namespace IntegerRange

/-- The range reaches to both sides of zero, as every range of machine integers does. -/
structure HasZero (range : IntegerRange) : Prop where
  least : range.least ≤ 0
  greatest : 0 ≤ range.greatest

theorem hasZero_bits32 : bits32.HasZero := ⟨by decide, by decide⟩

theorem hasZero_bits64 : bits64.HasZero := ⟨by decide, by decide⟩

/-- The integer itself if it lies in the range, and otherwise the side on which it lies. -/
def check (range : IntegerRange) (n : Int) : Except IntegerFault Int :=
  if n < range.least then .error .tooSmall
  else if range.greatest < n then .error .tooLarge
  else .ok n

/-- An integer within a range passes its check. -/
theorem check_eq_ok {range : IntegerRange} {n : Int} (hleast : range.least ≤ n)
    (hgreatest : n ≤ range.greatest) : range.check n = .ok n := by
  rw [check, if_neg (by omega), if_neg (by omega)]

/-- The integer with a sign and a magnitude. -/
def withSign (negative : Bool) (magnitude : Nat) : Int :=
  if negative then -(magnitude : Int) else magnitude

/-- A number that has left the range on the way from zero stays outside, on the same side. -/
theorem check_eq_error_of_le {range : IntegerRange} (hzero : range.HasZero) {negative : Bool}
    {a b : Nat} {fault : IntegerFault} (hle : a ≤ b)
    (h : range.check (withSign negative a) = .error fault) :
    range.check (withSign negative b) = .error fault := by
  obtain ⟨hleast, hgreatest⟩ := hzero
  unfold check withSign at h ⊢
  cases negative with
  | false =>
    rw [if_neg Bool.false_ne_true, if_neg (by omega)] at h ⊢
    split at h
    · rw [if_pos (by omega)]
      exact h
    · exact absurd h (by simp)
  | true =>
    rw [if_pos rfl] at h ⊢
    split at h
    · rw [if_pos (by omega)]
      exact h
    · rw [if_neg (by omega)] at h
      exact absurd h (by simp)

/-- One more digit, checked at once. -/
theorem readDigits_cons (range : IntegerRange) (negative : Bool) (sofar : Nat) {c : Char}
    (hc : c.isDigit = true) (rest : List Char) :
    range.readDigits negative (withSign negative sofar) (c :: rest) =
      match range.check (withSign negative (10 * sofar + (c.toNat - '0'.toNat))) with
      | .ok next => range.readDigits negative next rest
      | .error fault => .error fault := by
  have hnext : (if negative then withSign negative sofar * 10 - ((c.toNat - '0'.toNat : Nat) : Int)
      else withSign negative sofar * 10 + ((c.toNat - '0'.toNat : Nat) : Int)) =
      withSign negative (10 * sofar + (c.toNat - '0'.toNat)) := by
    cases negative with
    | false =>
      simp only [withSign, if_neg Bool.false_ne_true]
      omega
    | true =>
      simp only [withSign, if_true]
      omega
  simp only [readDigits, hc, if_true, hnext]
  unfold check
  split
  · rfl
  · split
    · rfl
    · rfl

/-- **Reading digits is checking the number they stand for.** The number read so far is in the
range; the faults met on the way are the fault of the whole number. -/
theorem readDigits_eq_check {range : IntegerRange} (hzero : range.HasZero) (negative : Bool)
    (digits : List Char) (hdigits : ∀ c ∈ digits, c.isDigit = true) (sofar : Nat)
    (hsofar : range.check (withSign negative sofar) = .ok (withSign negative sofar)) :
    range.readDigits negative (withSign negative sofar) digits =
      range.check (withSign negative (Nat.ofDigitChars 10 digits sofar)) := by
  induction digits generalizing sofar with
  | nil =>
    rw [Nat.ofDigitChars_nil, hsofar]
    rfl
  | cons c rest ih =>
    rw [readDigits_cons range negative sofar (hdigits c List.mem_cons_self), Nat.ofDigitChars_cons]
    cases hnext : range.check (withSign negative (10 * sofar + (c.toNat - '0'.toNat))) with
    | error fault => exact (check_eq_error_of_le hzero (le_ofDigitChars rest _) hnext).symm
    | ok next =>
      obtain rfl : withSign negative (10 * sofar + (c.toNat - '0'.toNat)) = next := by
        unfold check at hnext
        split at hnext
        · exact absurd hnext (by simp)
        · split at hnext
          · exact absurd hnext (by simp)
          · exact Except.ok.inj hnext
      exact ih (fun d hd => hdigits d (List.mem_cons_of_mem c hd)) _ hnext

/-- Zero passes with either sign. -/
theorem check_zero {range : IntegerRange} (hzero : range.HasZero) (negative : Bool) :
    range.check (withSign negative 0) = .ok (withSign negative 0) := by
  have h : withSign negative 0 = 0 := by cases negative <;> rfl
  rw [h]
  exact check_eq_ok hzero.least hzero.greatest

/-! ### Reading -/

/-- A text that begins with a digit has no sign to read. -/
theorem read_of_isDigit (range : IntegerRange) {c : Char} (hc : c.isDigit = true)
    (rest : List Char) : range.read (c :: rest) = range.readDigits false 0 (c :: rest) := by
  have hplus : c ≠ '+' := by rintro rfl; exact absurd hc (by decide)
  have hminus : c ≠ '-' := by rintro rfl; exact absurd hc (by decide)
  unfold read
  split
  · rename_i heq
    exact absurd heq (by simp)
  · rename_i heq
    exact absurd (List.cons.inj heq).1 hplus
  · rename_i heq
    exact absurd (List.cons.inj heq).1 hminus
  · rename_i heq
    exact absurd (List.cons.inj heq).1 hplus
  · rename_i heq
    exact absurd (List.cons.inj heq).1 hminus
  · rfl

/-- Behind a minus sign the digits count down. -/
theorem read_minus (range : IntegerRange) {digits : List Char} (h : digits ≠ []) :
    range.read ('-' :: digits) = range.readDigits true 0 digits := by
  cases digits with
  | nil => exact absurd rfl h
  | cons c rest => rfl

/-- **A range reads the text of every integer**: as that integer if it lies in the range, and
otherwise with the fault of the side on which it lies. -/
theorem read_integerText {range : IntegerRange} (hzero : range.HasZero) (n : Int) :
    range.read (integerText n) = range.check n := by
  have hdigits : ∀ c ∈ decimalDigits n.natAbs, c.isDigit = true :=
    fun c => isDigit_of_mem_decimalDigits
  have hnumber : Nat.ofDigitChars 10 (decimalDigits n.natAbs) 0 = n.natAbs :=
    ofDecimalDigits_decimalDigits n.natAbs
  unfold integerText
  split
  · rename_i hneg
    have hread := readDigits_eq_check hzero true _ hdigits 0 (check_zero hzero true)
    have hn : withSign true n.natAbs = n := by rw [withSign, if_pos rfl]; omega
    rw [hnumber, hn] at hread
    rw [read_minus range (decimalDigits_ne_nil _)]
    exact hread
  · rename_i hneg
    have hread := readDigits_eq_check hzero false _ hdigits 0 (check_zero hzero false)
    have hn : withSign false n.natAbs = n := by rw [withSign, if_neg Bool.false_ne_true]; omega
    rw [hnumber, hn] at hread
    cases hlist : decimalDigits n.natAbs with
    | nil => exact absurd hlist (decimalDigits_ne_nil _)
    | cons c rest =>
      rw [hlist] at hdigits hread
      rw [read_of_isDigit range (hdigits c List.mem_cons_self)]
      exact hread

end IntegerRange

/-- The text of an integer has no blanks. -/
theorem isBlank_of_mem_integerText {n : Int} {c : Char} (h : c ∈ integerText n) :
    isBlank c = false := by
  unfold integerText at h
  split at h
  · rcases List.mem_cons.1 h with rfl | hmem
    · rfl
    · exact isBlank_of_isDigit (isDigit_of_mem_decimalDigits hmem)
  · exact isBlank_of_isDigit (isDigit_of_mem_decimalDigits h)

end TableOptions.Text
