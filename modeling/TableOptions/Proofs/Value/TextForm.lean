import TableOptions.Proofs.Double.Reading
import TableOptions.Proofs.Text.LetterCase
import TableOptions.Value

/-!
# Values and their texts

A value and its text convert alike: `Value.coerce?_string_text` goes through every kind of value and
every type. The one exception is a double asked for as an integer. It never converts, but its text
does when it shows a whole number; `ValueType.IsWhole` names the types concerned.
-/

namespace TableOptions

/-- The types of integers, to which no double converts. -/
def ValueType.IsWhole (type : ValueType) : Prop := type = .integer ∨ type = .long

instance (type : ValueType) : Decidable type.IsWhole := inferInstanceAs (Decidable (_ ∨ _))

namespace Value

/-! ### Integers -/

/-- A 32-bit integer is read back from its text. -/
theorem readInt_integerText (n : Int32) : readInt (Text.integerText n.toInt) = .ok n := by
  have hleast := n.le_toInt
  have hgreatest := n.toInt_lt
  rw [readInt, Text.IntegerRange.read_integerText Text.IntegerRange.hasZero_bits32,
    Text.IntegerRange.check_eq_ok hleast (Int.le_of_lt_add_one hgreatest)]
  exact congrArg Except.ok (Int32.ofInt_toInt n)

/-- An integer in the range of 64 bits is read back from its text. -/
theorem readLong_integerText {n : Int} (hleast : -9223372036854775808 ≤ n)
    (hgreatest : n ≤ 9223372036854775807) :
    readLong (Text.integerText n) = .ok (Int64.ofInt n) := by
  rw [readLong, Text.IntegerRange.read_integerText Text.IntegerRange.hasZero_bits64,
    Text.IntegerRange.check_eq_ok hleast hgreatest]
  rfl

/-- The text of a 64-bit integer reads as a 32-bit one exactly when the number fits. -/
theorem readInt_eq_narrow? (n : Int64) :
    (readInt (Text.integerText n.toInt)).toOption = narrow? n := by
  rw [readInt, Text.IntegerRange.read_integerText Text.IntegerRange.hasZero_bits32, narrow?]
  by_cases hfits : -2147483648 ≤ n.toInt ∧ n.toInt ≤ 2147483647
  · rw [if_pos hfits, Text.IntegerRange.check_eq_ok hfits.1 hfits.2]
    rfl
  · rw [if_neg hfits, Text.IntegerRange.check]
    split
    · rfl
    · rename_i hleast
      have hgreatest : Text.IntegerRange.bits32.greatest < n.toInt :=
        Int.not_le.1 fun h => hfits ⟨Int.not_lt.1 hleast, h⟩
      rw [if_pos hgreatest]
      rfl

/-- The text of an integer has no blanks to trim. -/
theorem trim_integerText (n : Int) : Text.trim (Text.integerText n) = Text.integerText n :=
  Text.trim_eq_self fun _ => Text.isBlank_of_mem_integerText

/-- The integers of the machine are short enough to be read as doubles. -/
theorem read?_integerText_of_natAbs_le {n : Int} (h : n.natAbs ≤ 9223372036854775808) :
    Double.read? (Text.integerText n) = some (Double.ofInt n) := by
  refine Double.read?_integerText (Nat.lt_of_le_of_lt h ?_)
  decide +kernel

/-! ### Truth values -/

/-- What begins with neither letter of `true` and `false` is no truth value. -/
theorem readBool?_cons {c : Char} (htrue : c.toLower ≠ 't') (hfalse : c.toLower ≠ 'f')
    (rest : List Char) : readBool? (c :: rest) = none := by
  have hne : ∀ (d : Char) (word : List Char), c.toLower ≠ d.toLower →
      Text.sameIgnoringCase (c :: rest) (d :: word) = false := by
    intro d word hdiff
    rw [Text.sameIgnoringCase, List.map_cons, List.map_cons, beq_eq_false_iff_ne]
    exact fun heq => hdiff (List.cons.inj heq).1
  have hfirst : Text.sameIgnoringCase (c :: rest) "true".toList = false :=
    hne 't' ['r', 'u', 'e'] htrue
  have hsecond : Text.sameIgnoringCase (c :: rest) "false".toList = false :=
    hne 'f' ['a', 'l', 's', 'e'] hfalse
  rw [readBool?, hfirst, hsecond]
  rfl

/-- A digit is the same in lower case. -/
theorem toLower_of_isDigit {c : Char} (h : c.isDigit = true) : c.toLower = c := by
  have hrange := (Text.isDigit_iff c).1 h
  exact Text.toLower_eq_self (by omega)

/-- What begins with a digit is no truth value. -/
theorem readBool?_of_isDigit {c : Char} (h : c.isDigit = true) (rest : List Char) :
    readBool? (c :: rest) = none := by
  refine readBool?_cons ?_ ?_ rest
  · rw [toLower_of_isDigit h]
    rintro rfl
    exact absurd h (by decide)
  · rw [toLower_of_isDigit h]
    rintro rfl
    exact absurd h (by decide)

/-- What begins with a minus sign is no truth value. -/
theorem readBool?_minus (rest : List Char) : readBool? ('-' :: rest) = none :=
  readBool?_cons (by decide) (by decide) rest

/-- The text of an integer is no truth value. -/
theorem readBool?_integerText (n : Int) : readBool? (Text.integerText n) = none := by
  unfold Text.integerText
  split
  · exact readBool?_minus _
  · cases hdigits : Text.decimalDigits n.natAbs with
    | nil => exact absurd hdigits (Text.decimalDigits_ne_nil _)
    | cons c rest =>
      refine readBool?_of_isDigit (Text.isDigit_of_mem_decimalDigits (n := n.natAbs) ?_) rest
      rw [hdigits]
      exact List.mem_cons_self

/-- The text of a double is no truth value, not even that of an infinite one. -/
theorem readBool?_doubleText (x : Double) : readBool? x.text = none := by
  cases x with
  | nan => rfl
  | infinite negative => cases negative <;> rfl
  | finite negative units hunits =>
    cases negative with
    | true => exact readBool?_minus _
    | false =>
      rw [Double.text, Double.signed, if_neg Bool.false_ne_true]
      split
      · rfl
      · obtain ⟨c, rest, hcons, hc⟩ := Double.exists_cons_positional (shortestDecimal units)
        rw [hcons]
        exact readBool?_of_isDigit hc rest

/-! ### Every kind and every type -/

/-- **A value and its text convert alike**, except for a double in a type of integers. -/
theorem coerce?_string_text (v : Value) (type : ValueType)
    (h : v.type = .double → ¬ type.IsWhole) :
    (string v.text).coerce? type = v.coerce? type := by
  have htrim := trim_integerText
  cases v with
  | bool b => cases type <;> cases b <;> decide
  | int n =>
    have hleast := n.le_toInt
    have hgreatest := n.toInt_lt
    cases type with
    | string => rfl
    | boolean => simp [coerce?, text, htrim, readBool?_integerText]
    | integer => simp [coerce?, text, htrim, readInt_integerText, Except.toOption]
    | long =>
      have hread : readLong (Text.integerText n.toInt) = .ok (Int64.ofInt n.toInt) :=
        readLong_integerText (by omega) (by omega)
      simp [coerce?, text, htrim, hread, Except.toOption]
    | double =>
      have hread := read?_integerText_of_natAbs_le (n := n.toInt) (by omega)
      simp [coerce?, text, htrim, hread]
  | long n =>
    have hleast := n.le_toInt
    have hgreatest := n.toInt_lt
    cases type with
    | string => rfl
    | boolean => simp [coerce?, text, htrim, readBool?_integerText]
    | integer => simp [coerce?, text, htrim, readInt_eq_narrow?]
    | long =>
      have hread : readLong (Text.integerText n.toInt) = .ok n := by
        rw [readLong_integerText (by omega) (by omega), Int64.ofInt_toInt]
      simp [coerce?, text, htrim, hread, Except.toOption]
    | double =>
      have hread := read?_integerText_of_natAbs_le (n := n.toInt) (by omega)
      simp [coerce?, text, htrim, hread]
  | double x =>
    have htrim : Text.trim x.text = x.text :=
      Text.trim_eq_self fun _ => Double.isBlank_of_mem_text
    cases type with
    | string => rfl
    | boolean => simp [coerce?, text, htrim, readBool?_doubleText]
    -- the exception: the text of 4.0 is that of an integer
    | integer => exact absurd (Or.inl rfl) (h rfl)
    | long => exact absurd (Or.inr rfl) (h rfl)
    | double => simp [coerce?, text, htrim, Double.read?_text]
  | string s => cases type <;> rfl

/-- A value of the type of doubles is a double. -/
theorem exists_eq_double {v : Value} (h : v.type = .double) : ∃ x, v = double x := by
  cases v with
  | double x => exact ⟨x, rfl⟩
  | bool b => cases h
  | int n => cases h
  | long n => cases h
  | string s => cases h

/-- What converts does so from its text, too. -/
theorem coerce?_string_text_of_coerce? {v w : Value} {type : ValueType}
    (h : v.coerce? type = some w) : (string v.text).coerce? type = some w := by
  rw [coerce?_string_text v type ?_, h]
  intro hdouble hwhole
  obtain ⟨x, rfl⟩ := exists_eq_double hdouble
  rcases hwhole with rfl | rfl <;> cases h

end Value

end TableOptions
