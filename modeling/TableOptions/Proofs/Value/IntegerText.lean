import TableOptions.Proofs.Text.Numeral
import TableOptions.Proofs.Text.Padding
import TableOptions.Proofs.Value.Conversion

/-!
# Texts that convert to integers

A text converts to a type of integers exactly if it is a numeral in perhaps some blanks and the type
has the integer that it denotes; the value is that integer (`coerce_long_eq_ok_iff`,
`coerce_integer_eq_ok_iff`). The narrow type is read on its own and not by way of the wide one, but
the outcome is as if it were (`coerce?_integer_eq_bind`): both readings are of one numeral, and an
integer that fits the narrow type fits the wide one.
-/

namespace TableOptions

namespace Text

/-- A numeral holds no blanks. -/
theorem Numeral.isBlank_of_mem {s : List Char} {n : Int} (h : Numeral s n) :
    ∀ c ∈ s, isBlank c = false := by
  cases h with
  | unsigned _ isDigit => exact fun c hc => isBlank_of_isDigit (isDigit c hc)
  | plus _ isDigit | minus _ isDigit =>
    exact List.forall_mem_cons.2 ⟨rfl, fun c hc => isBlank_of_isDigit (isDigit c hc)⟩

/-- A text is a numeral of an integer, with blanks around it perhaps. -/
def Denotes (s : String) (n : Int) : Prop :=
  ∃ bare, Padded bare s.toList ∧ Numeral bare n

/-- The numeral is what trimming leaves. -/
theorem denotes_iff {s : String} {n : Int} : Denotes s n ↔ Numeral (trim s.toList) n := by
  constructor
  · rintro ⟨bare, hpadded, hnumeral⟩
    rw [hpadded.trim_eq hnumeral.isBlank_of_mem]
    exact hnumeral
  · exact fun h => ⟨trim s.toList, padded_trim s.toList, h⟩

end Text

namespace Value

/-- What a success was mapped to comes from that success. -/
theorem map_toOption_eq_some_iff {ε α β : Type} {x : Except ε α} {f : α → β} {b : β} :
    x.toOption.map f = some b ↔ ∃ a, x = .ok a ∧ b = f a := by
  cases x with
  | error e => simp [Except.toOption]
  | ok a => simp [Except.toOption, eq_comm]

variable {s : String} {w : Value}

/-- **A text converts to a 64-bit integer exactly when it denotes one.** -/
theorem coerce?_long_eq_some_iff :
    (string s).coerce? .long = some w ↔ ∃ n : Int64, Text.Denotes s n.toInt ∧ w = long n := by
  simp only [Text.denotes_iff, ← readLong_eq_ok_iff]
  exact map_toOption_eq_some_iff

/-- **A text converts to a 32-bit integer exactly when it denotes one.** -/
theorem coerce?_integer_eq_some_iff :
    (string s).coerce? .integer = some w ↔ ∃ n : Int32, Text.Denotes s n.toInt ∧ w = int n := by
  simp only [Text.denotes_iff, ← readInt_eq_ok_iff]
  exact map_toOption_eq_some_iff

/-- **A text converts to a 64-bit integer** exactly if it denotes one. -/
theorem coerce_long_eq_ok_iff :
    (string s).coerce .long = .ok w ↔
      ∃ n : Int, Text.Denotes s n ∧ -9223372036854775808 ≤ n ∧ n < 9223372036854775808 ∧
        ∃ k : Int64, k.toInt = n ∧ w = long k := by
  rw [coerce_eq_ok_iff, coerce?_long_eq_some_iff]
  constructor
  · rintro ⟨k, hdenotes, rfl⟩
    exact ⟨k.toInt, hdenotes, k.le_toInt, k.toInt_lt, k, rfl, rfl⟩
  · rintro ⟨n, hdenotes, -, -, k, rfl, rfl⟩
    exact ⟨k, hdenotes, rfl⟩

/-- A 64-bit integer is narrowed to the 32-bit integer of the same value, if there is one. -/
theorem narrow?_eq_some_iff {n : Int64} {m : Int32} : narrow? n = some m ↔ m.toInt = n.toInt := by
  have hleast := m.le_toInt
  have hgreatest := m.toInt_lt
  unfold narrow?
  constructor
  · intro h
    split at h
    · rename_i hfits
      obtain rfl := Option.some.inj h
      exact Int32.toInt_ofInt_of_le hfits.1 (Int.lt_add_one_of_le hfits.2)
    · cases h
  · intro h
    rw [← h, if_pos ⟨hleast, Int.le_of_lt_add_one hgreatest⟩, Int32.ofInt_toInt]

/-- **Reading a narrow integer is reading a wide one and narrowing it.** -/
theorem coerce?_integer_eq_bind (s : String) :
    (string s).coerce? .integer = ((string s).coerce? .long).bind (·.coerce? .integer) := by
  ext w
  rw [coerce?_integer_eq_some_iff, Option.bind_eq_some_iff]
  constructor
  · rintro ⟨m, hdenotes, rfl⟩
    -- a 32-bit integer is a 64-bit one, which fits
    have hwide : m.toInt64.toInt = m.toInt := Int32.toInt_toInt64 m
    refine ⟨long m.toInt64, coerce?_long_eq_some_iff.2 ⟨_, hwide ▸ hdenotes, rfl⟩, ?_⟩
    show (narrow? m.toInt64).map int = some (int m)
    rw [narrow?_eq_some_iff.2 hwide.symm]
    rfl
  · rintro ⟨_, hlong, hnarrow⟩
    obtain ⟨n, hdenotes, rfl⟩ := coerce?_long_eq_some_iff.1 hlong
    obtain ⟨m, hm, rfl⟩ := Option.map_eq_some_iff.1 hnarrow
    exact ⟨m, narrow?_eq_some_iff.1 hm ▸ hdenotes, rfl⟩

/-- **A text converts to a 32-bit integer** exactly if it converts to a 64-bit one that fits. -/
theorem coerce_integer_eq_ok_iff :
    (string s).coerce .integer = .ok w ↔
      ∃ n : Int64, (string s).coerce .long = .ok (long n) ∧ -2147483648 ≤ n.toInt ∧
        n.toInt < 2147483648 ∧ ∃ m : Int32, m.toInt = n.toInt ∧ w = int m := by
  rw [coerce_eq_ok_iff, coerce?_integer_eq_bind, Option.bind_eq_some_iff]
  constructor
  · rintro ⟨_, hlong, hnarrow⟩
    obtain ⟨n, -, rfl⟩ := coerce?_long_eq_some_iff.1 hlong
    obtain ⟨m, hm, rfl⟩ := Option.map_eq_some_iff.1 hnarrow
    have heq := narrow?_eq_some_iff.1 hm
    exact ⟨n, coerce_eq_ok_iff.2 hlong, heq ▸ m.le_toInt, heq ▸ m.toInt_lt, m, heq, rfl⟩
  · rintro ⟨n, hlong, -, -, m, hm, rfl⟩
    refine ⟨long n, coerce_eq_ok_iff.1 hlong, ?_⟩
    show (narrow? n).map int = some (int m)
    rw [narrow?_eq_some_iff.2 hm]
    rfl

end Value

end TableOptions
