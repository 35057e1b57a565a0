/-!
# Physical lines

A line ends at a line feed, which takes one carriage return before it along. The text after the
last line feed is a line only when it is not empty, and then keeps all its characters.
-/

namespace TableOptions.Text

/-- The lines of a text, without their ends. -/
def lines : List Char → List (List Char)
  | [] => []
  | '\n' :: rest => [] :: lines rest
  | '\r' :: '\n' :: rest => [] :: lines rest
  | c :: rest =>
    match lines rest with
    | [] => [[c]]
    | line :: others => (c :: line) :: others

/-- A text without line ends before a line feed is a line. -/
theorem lines_append_lineFeed {s : List Char} (h : ∀ c ∈ s, c ≠ '\n' ∧ c ≠ '\r')
    (rest : List Char) : lines (s ++ '\n' :: rest) = s :: lines rest := by
  induction s with
  | nil => rfl
  | cons c s ih =>
    obtain ⟨⟨hn, hr⟩, hs⟩ := List.forall_mem_cons.1 h
    rw [List.cons_append, lines, ih hs]
    · exact hn
    · exact fun _ hc => absurd hc hr

/-- Whether a text is empty or ends with a line feed, so that what follows it begins a line. -/
def endsLine (s : List Char) : Bool :=
  s.isEmpty || s.getLast? == some '\n'

/-- A text that ends its line does so from any character on. -/
theorem endsLine_of_cons {c : Char} {s : List Char} (h : endsLine (c :: s) = true) :
    endsLine s = true := by
  cases s with
  | nil => rfl
  | cons d s => exact h

/-- Only the empty text has no line. -/
theorem eq_nil_of_lines_eq_nil {s : List Char} (h : lines s = []) : s = [] := by
  unfold lines at h
  split at h
  · rfl
  · cases h
  · cases h
  · split at h <;> cases h

/-- **Behind a line feed the lines begin anew.** -/
theorem lines_append {s : List Char} (h : endsLine s = true) (t : List Char) :
    lines (s ++ t) = lines s ++ lines t := by
  induction s using lines.induct with
  | case1 => rfl
  | case2 rest ih =>
    have hrest := ih (endsLine_of_cons h)
    simp only [List.cons_append, lines, hrest]
  | case3 rest ih =>
    have hrest := ih (endsLine_of_cons (endsLine_of_cons h))
    simp only [List.cons_append, lines, hrest]
  | case4 c rest hfeed hreturn hnil ih =>
    -- the text is one character, which would have to be the line feed
    obtain rfl := eq_nil_of_lines_eq_nil hnil
    exact absurd (by simpa [endsLine] using h) hfeed
  | case5 c rest hfeed hreturn line others hlines ih =>
    have hrest := ih (endsLine_of_cons h)
    have hreturn' : ∀ later, c = '\r' → rest ++ t = '\n' :: later → False := by
      intro later hc heq
      cases rest with
      | nil => cases hlines
      | cons d rest =>
        obtain ⟨rfl, _⟩ := List.cons.inj heq
        exact hreturn rest hc rfl
    rw [List.cons_append, lines, hrest, hlines, lines, hlines]
    · rfl
    · exact hfeed
    · exact hreturn
    · exact hfeed
    · exact hreturn'

end TableOptions.Text
