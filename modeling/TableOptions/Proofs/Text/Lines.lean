import TableOptions.Text.Lines

/-!
# Line ends

A text without line ends is one line, and so is what a line feed ends, with or without a carriage return
before it. Carriage returns that are put before line feeds do not show in the lines
(`lines_withReturns`).
-/

namespace TableOptions.Text

/-- A text with a carriage return before each line feed that stands at a marked place. -/
def withReturns (marked : Nat → Bool) (s : List Char) : List Char :=
  s.zipIdx.flatMap fun (c, i) => if c == '\n' && marked i then ['\r', '\n'] else [c]

/-- A character that ends no line goes to the front of the first line. -/
theorem lines_cons_congr {c : Char} (hn : c ≠ '\n') (hr : c ≠ '\r') {s t : List Char}
    (h : lines s = lines t) : lines (c :: s) = lines (c :: t) := by
  rw [lines, lines, h]
  · exact hn
  · exact fun _ hc => absurd hc hr
  · exact hn
  · exact fun _ hc => absurd hc hr

/-- A carriage return before a line feed is as good as none. -/
theorem lines_append_returnLineFeed {s : List Char} (h : ∀ c ∈ s, c ≠ '\n' ∧ c ≠ '\r')
    (rest : List Char) : lines (s ++ '\r' :: '\n' :: rest) = lines (s ++ '\n' :: rest) := by
  induction s with
  | nil => rfl
  | cons c s ih =>
    obtain ⟨⟨hn, hr⟩, hs⟩ := List.forall_mem_cons.1 h
    exact lines_cons_congr hn hr (ih hs)

/-- A text without line ends is a line, whichever line end follows. -/
theorem lines_append_lineEnd {s lineEnd : List Char} (h : ∀ c ∈ s, c ≠ '\n' ∧ c ≠ '\r')
    (hend : lineEnd = ['\n'] ∨ lineEnd = ['\r', '\n']) (rest : List Char) :
    lines (s ++ (lineEnd ++ rest)) = s :: lines rest := by
  rcases hend with rfl | rfl
  · exact lines_append_lineFeed h rest
  · exact (lines_append_returnLineFeed h rest).trans (lines_append_lineFeed h rest)

/-- A text that holds no line end and is not empty is one line. -/
theorem lines_eq_singleton {s : List Char} (h : ∀ c ∈ s, c ≠ '\n' ∧ c ≠ '\r') (hne : s ≠ []) :
    lines s = [s] := by
  induction s with
  | nil => exact absurd rfl hne
  | cons c s ih =>
    obtain ⟨⟨hn, hr⟩, hs⟩ := List.forall_mem_cons.1 h
    rw [lines]
    · cases s with
      | nil => rfl
      | cons d s => rw [ih hs (List.cons_ne_nil d s)]
    · exact hn
    · exact fun _ hc => absurd hc hr

/-- **Carriage returns before line feeds do not show in the lines.** -/
theorem lines_withReturns (marked : Nat → Bool) {s : List Char} (h : '\r' ∉ s) :
    lines (withReturns marked s) = lines s := by
  unfold withReturns
  -- the places are those of the whole text, so the induction is over any place of the first
  generalize 0 = first
  induction s generalizing first with
  | nil => rfl
  | cons c s ih =>
    obtain ⟨hc, hs⟩ := List.ne_and_not_mem_of_not_mem_cons h
    rw [List.zipIdx_cons, List.flatMap_cons]
    by_cases hreturn : (c == '\n' && marked first) = true
    · obtain rfl : c = '\n' := by simpa using (Bool.and_eq_true_iff.1 hreturn).1
      simp only [if_pos hreturn]
      exact congrArg ([] :: ·) (ih hs (first + 1))
    · simp only [if_neg hreturn]
      by_cases hn : c = '\n'
      · subst hn
        exact congrArg ([] :: ·) (ih hs (first + 1))
      · exact lines_cons_congr hn (Ne.symm hc) (ih hs (first + 1))

end TableOptions.Text
