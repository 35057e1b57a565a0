import Mathlib.Data.List.Induction
import TableOptions.Proofs.Text.LetterCase
import TableOptions.Text.Hex

/-!
# Hexadecimal read and written

A row of hexadecimal digits is read as the number for which the same row is written at its width, up
to the case of the letters (`ofHex?_eq_some_iff`). So a number has exactly the rows of digits that the
writer's row gives in any case, and anything else is no number.
-/

namespace TableOptions.Text

/-! ### Digits -/

/-- Among the first 128 characters, the digits are those of the sixteen values, in either case. -/
theorem hexValue?_ofNat : ∀ n < 128, ∀ d < 16, hexValue? (Char.ofNat n) = some d ↔
    (Char.ofNat n).toLower = (Nat.digitChar d).toLower := by
  decide +kernel

/-- A digit in lower case is among the first 128 characters. -/
theorem toNat_toLower_digitChar : ∀ d < 16, (Nat.digitChar d).toLower.toNat < 128 := by
  decide

/-- A hexadecimal digit is among the first 128 characters, and its value is below sixteen. -/
theorem lt_of_hexValue?_eq_some {c : Char} {d : Nat} (h : hexValue? c = some d) :
    c.toNat < 128 ∧ d < 16 := by
  unfold hexValue? at h
  dsimp only at h
  split at h
  · obtain rfl := Option.some.inj h
    omega
  · split at h
    · obtain rfl := Option.some.inj h
      omega
    · split at h
      · obtain rfl := Option.some.inj h
        omega
      · cases h

/-- A character is a digit if it is the one that is written for its value, in either case. -/
theorem hexValue?_eq_some_iff {c : Char} {d : Nat} :
    hexValue? c = some d ↔ d < 16 ∧ c.toLower = (Nat.digitChar d).toLower := by
  by_cases hc : c.toNat < 128
  · have htable := hexValue?_ofNat c.toNat hc d
    rw [Char.ofNat_toNat] at htable
    exact ⟨fun h => ⟨(lt_of_hexValue?_eq_some h).2, (htable (lt_of_hexValue?_eq_some h).2).1 h⟩,
      fun h => (htable h.1).2 h.2⟩
  · constructor
    · exact fun h => absurd (lt_of_hexValue?_eq_some h).1 hc
    · rintro ⟨hd, hlower⟩
      rw [toLower_eq_self (Or.inr (by omega))] at hlower
      have := toNat_toLower_digitChar d hd
      rw [← hlower] at this
      exact absurd this hc

/-! ### Rows of digits -/

/-- One more digit makes a number sixteen times as great, and adds its value. -/
theorem ofHex?_concat (s : List Char) (c : Char) :
    ofHex? (s ++ [c]) = (ofHex? s).bind fun m => (hexValue? c).map fun d => m * 16 + d := by
  unfold ofHex?
  rw [List.foldl_append, List.foldl_cons, List.foldl_nil]
  generalize List.foldl _ _ s = sofar
  cases sofar with
  | none => rfl
  | some m => cases hexValue? c <;> rfl

/-- A row is read as a number exactly when all but its last digit and its last digit are. -/
theorem ofHex?_concat_eq_some_iff {s : List Char} {c : Char} {n : Nat} :
    ofHex? (s ++ [c]) = some n ↔
      ∃ m, ofHex? s = some m ∧ ∃ d, hexValue? c = some d ∧ m * 16 + d = n := by
  simp only [ofHex?_concat, Option.bind_eq_some_iff, Option.map_eq_some_iff]

/-- The last digit of a number that is written at some width. -/
theorem paddedHex_succ {width : Nat} (h : 0 < width) (n : Nat) :
    paddedHex (width + 1) n = paddedHex width (n / 16) ++ [Nat.digitChar (n % 16)] := by
  unfold paddedHex hexDigits
  dsimp only
  by_cases hn : n < 16
  · obtain ⟨width, rfl⟩ := Nat.exists_eq_succ_of_ne_zero (Nat.ne_of_gt h)
    rw [Nat.toDigits_of_lt_base hn, Nat.div_eq_of_lt hn, Nat.mod_eq_of_lt hn,
      Nat.toDigits_of_lt_base (by decide : 0 < 16)]
    simp [List.replicate_succ']
  · rw [Nat.toDigits_of_base_le (by decide) (Nat.le_of_not_lt hn), List.length_append,
      List.length_singleton, Nat.add_sub_add_right, List.append_assoc]

/-- A written number is as long as its width exactly if its digits have room there. -/
theorem length_paddedHex (width n : Nat) :
    (paddedHex width n).length = width ↔ (hexDigits n).length ≤ width := by
  simp only [paddedHex, List.length_append, List.length_replicate]
  omega

/-- One digit is enough below sixteen. -/
theorem length_hexDigits_le_one {n : Nat} : (hexDigits n).length ≤ 1 ↔ n < 16 :=
  Nat.length_toDigits_le_iff (by decide) (by decide)

/-- Four digits are enough for the numbers of code units. -/
theorem length_hexDigits_le_four {n : Nat} : (hexDigits n).length ≤ 4 ↔ n < 0x10000 :=
  Nat.length_toDigits_le_iff (by decide) (by decide)

/-- Two rows are the same in any case when their last letters and the rows before are. -/
theorem sameIgnoringCase_concat (s t : List Char) (c d : Char) :
    sameIgnoringCase (s ++ [c]) (t ++ [d]) = true ↔
      sameIgnoringCase s t = true ∧ c.toLower = d.toLower := by
  simp [sameIgnoringCase]

/-- Texts that are the same in any case are of the same length. -/
theorem length_eq_of_sameIgnoringCase {s t : List Char} (h : sameIgnoringCase s t = true) :
    s.length = t.length := by
  have hmap := congrArg List.length (beq_iff_eq.1 h)
  simpa using hmap

/-- A single digit is read as the number that it writes. -/
theorem hexValue?_eq_some_iff_paddedHex {c : Char} {n : Nat} :
    hexValue? c = some n ↔ sameIgnoringCase [c] (paddedHex 1 n) = true := by
  have hdigit : n < 16 → paddedHex 1 n = [] ++ [Nat.digitChar n] := by
    intro hn
    rw [paddedHex, hexDigits, Nat.toDigits_of_lt_base hn]
    rfl
  rw [hexValue?_eq_some_iff]
  constructor
  · rintro ⟨hn, hlower⟩
    rw [hdigit hn]
    exact (sameIgnoringCase_concat [] [] c _).2 ⟨rfl, hlower⟩
  · intro h
    have hn : n < 16 :=
      length_hexDigits_le_one.1 ((length_paddedHex 1 n).1 (length_eq_of_sameIgnoringCase h).symm)
    rw [hdigit hn] at h
    exact ⟨hn, ((sameIgnoringCase_concat [] [] c _).1 h).2⟩

/-- **A row of digits is read as the number for which it is written**, in any case of its letters. -/
theorem ofHex?_eq_some_iff {digits : List Char} (h : digits ≠ []) {n : Nat} :
    ofHex? digits = some n ↔ sameIgnoringCase digits (paddedHex digits.length n) = true := by
  induction digits using List.reverseRecOn generalizing n with
  | nil => exact absurd rfl h
  | append_singleton s c ih =>
    rw [ofHex?_concat_eq_some_iff]
    by_cases hs : s = []
    · subst hs
      rw [List.nil_append, List.length_singleton, ← hexValue?_eq_some_iff_paddedHex]
      simp [ofHex?]
    · have hpos : 0 < s.length := List.length_pos_iff.2 hs
      rw [List.length_append, List.length_singleton, paddedHex_succ hpos, sameIgnoringCase_concat]
      constructor
      · rintro ⟨m, hm, d, hd, rfl⟩
        obtain ⟨hlt, hlower⟩ := hexValue?_eq_some_iff.1 hd
        have hdiv : (m * 16 + d) / 16 = m := by omega
        have hmod : (m * 16 + d) % 16 = d := by omega
        rw [hdiv, hmod]
        exact ⟨(ih hs).1 hm, hlower⟩
      · rintro ⟨hsame, hlower⟩
        exact ⟨n / 16, (ih hs).2 hsame, n % 16,
          hexValue?_eq_some_iff.2 ⟨Nat.mod_lt n (by decide), hlower⟩, by omega⟩

/-- Four digits make a number of sixteen bits. -/
theorem lt_of_ofHex?_eq_some {digits : List Char} (h : digits.length = 4) {n : Nat}
    (hread : ofHex? digits = some n) : n < 0x10000 := by
  have hne : digits ≠ [] := by rintro rfl; cases h
  have hsame := (ofHex?_eq_some_iff hne).1 hread
  rw [h] at hsame
  have hlength := length_eq_of_sameIgnoringCase hsame
  rw [h] at hlength
  exact length_hexDigits_le_four.1 ((length_paddedHex 4 n).1 hlength.symm)

/-- A row that is read holds nothing but digits. -/
theorem isSome_hexValue?_of_ofHex?_eq_some {digits : List Char} {n : Nat}
    (h : ofHex? digits = some n) : ∀ c ∈ digits, (hexValue? c).isSome = true := by
  induction digits using List.reverseRecOn generalizing n with
  | nil => exact fun _ hc => absurd hc List.not_mem_nil
  | append_singleton s c ih =>
    obtain ⟨m, hm, d, hd, _⟩ := ofHex?_concat_eq_some_iff.1 h
    refine List.forall_mem_append.2 ⟨ih hm, ?_⟩
    rw [List.forall_mem_singleton, hd]
    rfl

end TableOptions.Text
