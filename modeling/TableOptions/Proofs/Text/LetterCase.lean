import TableOptions.Text.Blank

/-!
# Texts up to the case of their letters

Only the capital letters A to Z have a small letter in their place (`toLower_eq_self`). None of them
is blank, and neither is what stands for them, so a text without blanks has none in any case of its
letters (`isBlank_of_sameIgnoringCase`).
-/

namespace TableOptions.Text

/-- Only A to Z change in lower case. -/
theorem toLower_eq_self {c : Char} (h : c.toNat < 65 ∨ 90 < c.toNat) : c.toLower = c := by
  refine dif_neg ?_
  rintro ⟨hlow, hhigh⟩
  have hlow : 65 ≤ c.toNat := hlow
  have hhigh : c.toNat ≤ 90 := hhigh
  omega

/-- Among the first 128 characters, lower case makes nothing blank that was not. -/
theorem isBlank_toLower_ofNat : ∀ n < 128,
    isBlank (Char.ofNat n).toLower = isBlank (Char.ofNat n) := by
  decide +kernel

/-- **No character becomes blank in lower case, and none stops being blank.** -/
theorem isBlank_toLower (c : Char) : isBlank c.toLower = isBlank c := by
  by_cases hc : c.toNat < 128
  · have htable := isBlank_toLower_ofNat c.toNat hc
    rwa [Char.ofNat_toNat] at htable
  · rw [toLower_eq_self (Or.inr (by omega))]

/-- **A text without blanks has none in any case of its letters.** -/
theorem isBlank_of_sameIgnoringCase {s word : List Char} (h : sameIgnoringCase s word = true)
    (hword : ∀ c ∈ word, isBlank c = false) : ∀ c ∈ s, isBlank c = false := by
  intro c hc
  have hmem : c.toLower ∈ word.map Char.toLower := beq_iff_eq.1 h ▸ List.mem_map_of_mem hc
  obtain ⟨d, hd, heq⟩ := List.mem_map.1 hmem
  rw [← isBlank_toLower, ← heq, isBlank_toLower]
  exact hword d hd

end TableOptions.Text
