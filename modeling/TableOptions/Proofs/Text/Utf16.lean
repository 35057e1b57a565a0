import Mathlib.Data.List.Induction
import TableOptions.Text.Utf16

/-!
# Text in code units

`encodeUnits` writes a text in UTF-16: a character below U+10000 as one code unit, any other as a
surrogate pair. Decoding gives the text back, with no surrogate left over (`decodeUnits_encodeUnits`).

A sequence of code units is decoded from the left by two steps: a surrogate pair at its front is one
character (`decodeUnits_pair`), and any other unit stands alone (`decodeUnits_cons`). The text shown for
the sequence and the surrogates left over go along with these steps, and nothing is left over exactly
when the sequence is the code units of the text shown for it (`unpairedUnits_eq_nil_iff`).
-/

namespace TableOptions.Text

namespace CodeUnit

/-- Whether two code units form a surrogate pair. -/
def IsPair (u v : CodeUnit) : Prop := u.isHighSurrogate = true ∧ v.isLowSurrogate = true

instance (u v : CodeUnit) : Decidable (IsPair u v) := inferInstanceAs (Decidable (_ ∧ _))

/-- Whether a code unit is a half of pairs. -/
def isSurrogate (u : CodeUnit) : Bool := u.isHighSurrogate || u.isLowSurrogate

/-- What a code unit without a partner stands for. -/
def alone (u : CodeUnit) : Decoded :=
  if u.isHighSurrogate || u.isLowSurrogate then .unpaired u else .char (Char.ofNat u.toNat)

/-- The units of a pair are told by their numbers. -/
theorem isPair_iff {u v : CodeUnit} :
    IsPair u v ↔ (0xD800 ≤ u.toNat ∧ u.toNat < 0xDC00) ∧ 0xDC00 ≤ v.toNat ∧ v.toNat < 0xE000 := by
  simp only [IsPair, isHighSurrogate, isLowSurrogate, Bool.and_eq_true, decide_eq_true_eq]

/-- Below the surrogates and above them, a unit is none. -/
theorem isSurrogate_eq_false_iff {u : CodeUnit} :
    u.isSurrogate = false ↔ u.toNat < 0xD800 ∨ 0xE000 ≤ u.toNat := by
  simp only [isSurrogate, isHighSurrogate, isLowSurrogate, Bool.or_eq_false_iff,
    Bool.and_eq_false_iff, decide_eq_false_iff_not]
  omega

end CodeUnit

open CodeUnit

/-- The surrogates of a unit sequence that have no partner, from left to right. -/
def unpairedUnits (us : List CodeUnit) : List CodeUnit :=
  (decodeUnits us).filterMap Decoded.unpaired?

/-- The code units of a character. -/
def unitsOfChar (c : Char) : List CodeUnit :=
  if c.toNat < 0x10000 then [UInt16.ofNat c.toNat]
  else [UInt16.ofNat (0xD800 + (c.toNat - 0x10000) / 0x400),
    UInt16.ofNat (0xDC00 + (c.toNat - 0x10000) % 0x400)]

/-- A text in code units. -/
def encodeUnits (s : List Char) : List CodeUnit :=
  s.flatMap unitsOfChar

/-- The units of a text are those of its first character before those of the others. -/
theorem encodeUnits_cons (c : Char) (s : List Char) :
    encodeUnits (c :: s) = unitsOfChar c ++ encodeUnits s :=
  List.flatMap_cons

/-! ### Decoding from the left -/

/-- The last unit of a sequence stands alone. -/
theorem decodeUnits_singleton (u : CodeUnit) : decodeUnits [u] = [u.alone] := by
  rw [decodeUnits, alone]
  split <;> rfl

/-- **A surrogate pair is one character.** -/
theorem decodeUnits_pair {u v : CodeUnit} (h : IsPair u v) (rest : List CodeUnit) :
    decodeUnits (u :: v :: rest) = .char (joinPair u v) :: decodeUnits rest := by
  rw [decodeUnits, if_pos h.1, if_pos h.2]

/-- **A unit that opens no pair stands alone.** -/
theorem decodeUnits_cons {u : CodeUnit} {rest : List CodeUnit} (h : ∀ v ∈ rest.head?, ¬ IsPair u v) :
    decodeUnits (u :: rest) = u.alone :: decodeUnits rest := by
  cases rest with
  | nil => exact decodeUnits_singleton u
  | cons v rest =>
    have hpair : ¬ IsPair u v := h v rfl
    rw [decodeUnits, alone]
    cases hhigh : u.isHighSurrogate with
    | true =>
      have hlow : v.isLowSurrogate = false := Bool.eq_false_iff.2 fun hlow => hpair ⟨hhigh, hlow⟩
      rw [hlow]
      rfl
    | false =>
      cases u.isLowSurrogate <;> rfl

/-- A surrogate stands for no character of its own. -/
theorem alone_of_surrogate {u : CodeUnit} (h : u.isSurrogate = true) : alone u = .unpaired u :=
  if_pos h

/-- Any other unit is the character of its number. -/
theorem alone_of_not_surrogate {u : CodeUnit} (h : u.isSurrogate = false) :
    alone u = .char (Char.ofNat u.toNat) :=
  if_neg (Bool.eq_false_iff.1 h)

/-- Only a surrogate opens a pair. -/
theorem not_isPair_of_not_surrogate {u : CodeUnit} (h : u.isSurrogate = false) (v : CodeUnit) :
    ¬ IsPair u v := by
  rintro ⟨hhigh, _⟩
  rw [isSurrogate, hhigh] at h
  cases h

/-- **Induction along the decoding**: a pair goes before what is behind it, and so does a surrogate
without its partner, and a unit that is no surrogate. -/
@[elab_as_elim]
theorem decodingInduction {motive : List CodeUnit → Prop} (nil : motive [])
    (pair : ∀ {u v rest}, IsPair u v → motive rest → motive (u :: v :: rest))
    (surrogate : ∀ {u rest}, (∀ v ∈ rest.head?, ¬ IsPair u v) → u.isSurrogate = true →
      motive rest → motive (u :: rest))
    (char : ∀ {u rest}, u.isSurrogate = false → motive rest → motive (u :: rest))
    (us : List CodeUnit) : motive us := by
  have alone : ∀ {u rest}, (∀ v ∈ rest.head?, ¬ IsPair u v) → motive rest → motive (u :: rest) := by
    intro u rest hnext ih
    cases hu : u.isSurrogate with
    | true => exact surrogate hnext hu ih
    | false => exact char hu ih
  induction us using List.twoStepInduction with
  | nil => exact nil
  | singleton u => exact alone (fun _ hv => nomatch hv) nil
  | cons_cons u v rest ih ihv =>
    by_cases hpair : IsPair u v
    · exact pair hpair ih
    · refine alone ?_ (ihv v)
      rintro w ⟨⟩
      exact hpair

/-! ### What is shown and what is left over, step by step -/

section Steps

variable {u v : CodeUnit} {rest : List CodeUnit}

@[simp] theorem ofUnitsLossy_nil : ofUnitsLossy [] = [] := rfl

@[simp] theorem unpairedUnits_nil : unpairedUnits [] = [] := rfl

/-- A pair is shown as its character. -/
theorem ofUnitsLossy_pair (h : IsPair u v) (rest : List CodeUnit) :
    ofUnitsLossy (u :: v :: rest) = joinPair u v :: ofUnitsLossy rest := by
  rw [ofUnitsLossy, decodeUnits_pair h, List.map_cons, Decoded.shown_char, ofUnitsLossy]

/-- A pair leaves no surrogate over. -/
theorem unpairedUnits_pair (h : IsPair u v) (rest : List CodeUnit) :
    unpairedUnits (u :: v :: rest) = unpairedUnits rest := by
  rw [unpairedUnits, decodeUnits_pair h, List.filterMap_cons_none (Decoded.unpaired?_char _),
    unpairedUnits]

/-- A surrogate that opens no pair is shown as the replacement character. -/
theorem ofUnitsLossy_surrogate (h : ∀ v ∈ rest.head?, ¬ IsPair u v) (hu : u.isSurrogate = true) :
    ofUnitsLossy (u :: rest) = '\uFFFD' :: ofUnitsLossy rest := by
  rw [ofUnitsLossy, decodeUnits_cons h, alone_of_surrogate hu, List.map_cons,
    Decoded.shown_unpaired, ofUnitsLossy]

/-- **A surrogate that opens no pair is left over.** -/
theorem unpairedUnits_surrogate (h : ∀ v ∈ rest.head?, ¬ IsPair u v) (hu : u.isSurrogate = true) :
    unpairedUnits (u :: rest) = u :: unpairedUnits rest := by
  rw [unpairedUnits, decodeUnits_cons h, alone_of_surrogate hu,
    List.filterMap_cons_some (Decoded.unpaired?_unpaired u), unpairedUnits]

/-- A unit that is no surrogate is shown as its character. -/
theorem ofUnitsLossy_char (hu : u.isSurrogate = false) (rest : List CodeUnit) :
    ofUnitsLossy (u :: rest) = Char.ofNat u.toNat :: ofUnitsLossy rest := by
  rw [ofUnitsLossy, decodeUnits_cons fun v _ => not_isPair_of_not_surrogate hu v,
    alone_of_not_surrogate hu, List.map_cons, Decoded.shown_char, ofUnitsLossy]

/-- A unit that is no surrogate is not left over. -/
theorem unpairedUnits_char (hu : u.isSurrogate = false) (rest : List CodeUnit) :
    unpairedUnits (u :: rest) = unpairedUnits rest := by
  rw [unpairedUnits, decodeUnits_cons fun v _ => not_isPair_of_not_surrogate hu v,
    alone_of_not_surrogate hu, List.filterMap_cons_none (Decoded.unpaired?_char _), unpairedUnits]

end Steps

/-! ### Decoding what was encoded -/

/-- A number of 16 bits is the number of its unit. -/
theorem toNat_unit {n : Nat} (h : n < 0x10000) : (UInt16.ofNat n).toNat = n :=
  UInt16.toNat_ofNat_of_lt' h

/-- No character is a surrogate. -/
theorem isSurrogate_of_char {c : Char} (h : c.toNat < 0x10000) :
    isSurrogate (UInt16.ofNat c.toNat) = false := by
  have hvalid : c.toNat < 0xD800 ∨ 0xDFFF < c.toNat ∧ c.toNat < 0x110000 := c.valid
  rw [isSurrogate_eq_false_iff, toNat_unit h]
  omega

/-- A character that fits into a unit is what the unit stands for alone. -/
theorem alone_of_char {c : Char} (h : c.toNat < 0x10000) :
    alone (UInt16.ofNat c.toNat) = .char c := by
  rw [alone_of_not_surrogate (isSurrogate_of_char h), toNat_unit h, Char.ofNat_toNat]

/-- The two units of a character from U+10000 on are a pair that stands for it. -/
theorem joinPair_of_char {c : Char} (h : ¬ c.toNat < 0x10000) :
    let high := UInt16.ofNat (0xD800 + (c.toNat - 0x10000) / 0x400)
    let low := UInt16.ofNat (0xDC00 + (c.toNat - 0x10000) % 0x400)
    IsPair high low ∧ joinPair high low = c := by
  have hvalid : c.toNat < 0xD800 ∨ 0xDFFF < c.toNat ∧ c.toNat < 0x110000 := c.valid
  have hhigh := toNat_unit (n := 0xD800 + (c.toNat - 0x10000) / 0x400) (by omega)
  have hlow := toNat_unit (n := 0xDC00 + (c.toNat - 0x10000) % 0x400) (by omega)
  constructor
  · rw [isPair_iff, hhigh, hlow]
    omega
  · have hnumber : 0x10000 + (0xD800 + (c.toNat - 0x10000) / 0x400 - 0xD800) * 0x400 +
        (0xDC00 + (c.toNat - 0x10000) % 0x400 - 0xDC00) = c.toNat := by omega
    rw [joinPair, hhigh, hlow, hnumber, Char.ofNat_toNat]

/-- **Every text comes back from its code units**, and no surrogate is left over. -/
theorem decodeUnits_encodeUnits (s : List Char) :
    decodeUnits (encodeUnits s) = s.map Decoded.char := by
  induction s with
  | nil => rfl
  | cons c s ih =>
    rw [encodeUnits_cons, unitsOfChar, List.map_cons, ← ih]
    split
    · rename_i h
      rw [List.singleton_append, decodeUnits_cons fun v _ =>
        not_isPair_of_not_surrogate (isSurrogate_of_char h) v,
        alone_of_char h]
    · rename_i h
      obtain ⟨hpair, hjoin⟩ := joinPair_of_char h
      rw [List.cons_append, List.singleton_append, decodeUnits_pair hpair, hjoin]

/-- A text in code units leaves no surrogate over. -/
theorem unpairedUnits_encodeUnits (s : List Char) : unpairedUnits (encodeUnits s) = [] := by
  rw [unpairedUnits, decodeUnits_encodeUnits, List.filterMap_map, List.filterMap_eq_nil_iff]
  exact fun _ _ => rfl

/-! ### Encoding what was decoded -/

/-- The number of a character that has one. -/
theorem toNat_ofNat_of_isValidChar {n : Nat} (h : n.isValidChar) : (Char.ofNat n).toNat = n := by
  rw [Char.ofNat, dif_pos h]
  rfl

/-- A unit that is no surrogate is the number of its character. -/
theorem toNat_char_of_not_surrogate {u : CodeUnit} (h : u.isSurrogate = false) :
    (Char.ofNat u.toNat).toNat = u.toNat := by
  have hlt : u.toNat < 0x10000 := u.toNat_lt
  rw [isSurrogate_eq_false_iff] at h
  refine toNat_ofNat_of_isValidChar ?_
  unfold Nat.isValidChar
  omega

/-- The number of a pair's character. -/
theorem toNat_joinPair {u v : CodeUnit} (h : IsPair u v) :
    (joinPair u v).toNat = 0x10000 + (u.toNat - 0xD800) * 0x400 + (v.toNat - 0xDC00) := by
  rw [isPair_iff] at h
  refine toNat_ofNat_of_isValidChar ?_
  unfold Nat.isValidChar
  omega

/-- A unit that is no surrogate is the whole of its character. -/
theorem unitsOfChar_of_not_surrogate {u : CodeUnit} (h : u.isSurrogate = false) :
    unitsOfChar (Char.ofNat u.toNat) = [u] := by
  rw [unitsOfChar, toNat_char_of_not_surrogate h, if_pos u.toNat_lt, UInt16.ofNat_toNat]

/-- The two units of a pair are the whole of its character. -/
theorem unitsOfChar_joinPair {u v : CodeUnit} (h : IsPair u v) :
    unitsOfChar (joinPair u v) = [u, v] := by
  have hnumber := toNat_joinPair h
  rw [isPair_iff] at h
  have hu : 0xD800 + ((joinPair u v).toNat - 0x10000) / 0x400 = u.toNat := by omega
  have hv : 0xDC00 + ((joinPair u v).toNat - 0x10000) % 0x400 = v.toNat := by omega
  rw [unitsOfChar, if_neg (by omega), hu, hv, UInt16.ofNat_toNat, UInt16.ofNat_toNat]

/-- **Decoding loses nothing exactly when no surrogate is left over.** Then the sequence is the code
units of the text that is shown for it. -/
theorem unpairedUnits_eq_nil_iff (us : List CodeUnit) :
    unpairedUnits us = [] ↔ encodeUnits (ofUnitsLossy us) = us := by
  constructor
  · intro h
    induction us using decodingInduction with
    | nil => rfl
    | pair hpair ih =>
      rw [unpairedUnits_pair hpair] at h
      rw [ofUnitsLossy_pair hpair, encodeUnits_cons, unitsOfChar_joinPair hpair, ih h]
      rfl
    | surrogate hnext hu ih =>
      -- the surrogate itself would be left over
      rw [unpairedUnits_surrogate hnext hu] at h
      cases h
    | char hu ih =>
      rw [unpairedUnits_char hu] at h
      rw [ofUnitsLossy_char hu, encodeUnits_cons, unitsOfChar_of_not_surrogate hu, ih h]
      rfl
  · intro h
    rw [← h]
    exact unpairedUnits_encodeUnits _

/-- **Each replacement character that is shown stands for a surrogate left over**, or was written. -/
theorem count_ofUnitsLossy (us : List CodeUnit) :
    (ofUnitsLossy us).count '\uFFFD' = (unpairedUnits us).length + us.count 0xFFFD := by
  induction us using decodingInduction with
  | nil => rfl
  | @pair u v rest hpair ih =>
    have hu : u ≠ 0xFFFD := by
      rintro rfl
      exact absurd hpair.1 (by decide)
    have hv : v ≠ 0xFFFD := by
      rintro rfl
      exact absurd hpair.2 (by decide)
    have hjoin : joinPair u v ≠ '\uFFFD' := by
      intro heq
      have hnumber := toNat_joinPair hpair
      rw [heq] at hnumber
      have hreplacement : '\uFFFD'.toNat = 0xFFFD := rfl
      omega
    rw [ofUnitsLossy_pair hpair, unpairedUnits_pair hpair, List.count_cons_of_ne hjoin,
      List.count_cons_of_ne hu, List.count_cons_of_ne hv, ih]
  | @surrogate u rest hnext hu ih =>
    have hne : u ≠ 0xFFFD := by
      rintro rfl
      exact absurd hu (by decide)
    rw [ofUnitsLossy_surrogate hnext hu, unpairedUnits_surrogate hnext hu, List.count_cons_self,
      List.count_cons_of_ne hne, List.length_cons, ih]
    omega
  | @char u rest hu ih =>
    rw [ofUnitsLossy_char hu, unpairedUnits_char hu]
    by_cases heq : u = 0xFFFD
    · rw [heq, List.count_cons_self, ← Nat.add_assoc, ← ih]
      exact List.count_cons_self
    · -- no other unit has the number of the replacement character
      have hne : Char.ofNat u.toNat ≠ '\uFFFD' := by
        intro hchar
        have hnumber := toNat_char_of_not_surrogate hu
        rw [hchar] at hnumber
        exact heq (UInt16.toNat_inj.1 hnumber.symm)
      rw [List.count_cons_of_ne hne, List.count_cons_of_ne heq, ih]

end TableOptions.Text
