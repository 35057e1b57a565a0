import TableOptions.Properties.LogicalLine

/-!
# Where a logical line goes on

`continues` counts the backslashes at the end of a text. Read from the left the same question is
whether the last character opens an escape that nothing closes: a backslash opens an escape unless
it is itself the escaped character (`continues_append`). In this form the answer for a text follows
from the answers for its parts.

Physical lines of which none continues are the logical lines themselves, without their leading
blanks and without the blank and comment lines (`logicalLines_eq_filter`).
-/

namespace TableOptions.Properties

/-- Whether an escape is open after one more character. -/
def opensAfter (isOpen : Bool) (c : Char) : Bool := !isOpen && c == '\\'

/-- Whether a text continues is known from its last character and whether it continued before. -/
theorem continues_concat (s : List Char) (c : Char) :
    continues (s ++ [c]) = opensAfter (continues s) c := by
  unfold continues opensAfter
  rw [List.reverse_append, List.reverse_singleton, List.singleton_append]
  by_cases hc : c = '\\'
  · subst hc
    rw [List.takeWhile_cons_of_pos (by rfl), List.length_cons, beq_self_eq_true, Bool.and_true]
    rcases Nat.mod_two_eq_zero_or_one (s.reverse.takeWhile (· == '\\')).length with h | h
    · rw [Nat.add_mod, h]; rfl
    · rw [Nat.add_mod, h]; rfl
  · rw [List.takeWhile_cons_of_neg (by simpa using hc), beq_eq_false_iff_ne.2 hc, Bool.and_false]
    rfl

/-- **Whether a text continues is found out from the left**, one character after the other. -/
theorem continues_append (s t : List Char) :
    continues (s ++ t) = t.foldl opensAfter (continues s) := by
  induction t generalizing s with
  | nil => rw [List.append_nil]; rfl
  | cons c t ih =>
    rw [List.append_cons, ih, continues_concat]
    rfl

/-- Going through a text from the left finds whether it continues. -/
theorem continues_eq_foldl (s : List Char) : continues s = s.foldl opensAfter false :=
  continues_append [] s

/-- Behind a text that does not continue, what follows decides as it would by itself. -/
theorem continues_append_of_not_continues {s : List Char} (h : continues s = false)
    (t : List Char) : continues (s ++ t) = continues t := by
  rw [continues_append, h, ← continues_eq_foldl]

/-- A character that is no backslash may be left out in front of a text. -/
theorem continues_cons_of_ne {c : Char} (h : c ≠ '\\') (s : List Char) :
    continues (c :: s) = continues s := by
  have hclosed : continues [c] = false := by
    rw [continues_eq_foldl, List.foldl_cons, opensAfter, beq_eq_false_iff_ne.2 h]
    rfl
  exact continues_append_of_not_continues hclosed s

/-- A backslash and the character behind it close what they open. -/
theorem continues_escape (c : Char) (s : List Char) : continues ('\\' :: c :: s) = continues s :=
  continues_append_of_not_continues (s := ['\\', c]) (by rw [continues_eq_foldl]; rfl) s

/-- A text without a backslash does not continue. -/
theorem continues_of_no_backslash {s : List Char} (h : ∀ c ∈ s, c ≠ '\\') :
    continues s = false := by
  induction s with
  | nil => rfl
  | cons c s ih =>
    obtain ⟨hc, hs⟩ := List.forall_mem_cons.1 h
    rw [continues_cons_of_ne hc, ih hs]

/-- The leading blanks of a text have no say in whether it continues. -/
theorem continues_trimStart (s : List Char) : continues (Text.trimStart s) = continues s := by
  induction s with
  | nil => rfl
  | cons c s ih =>
    by_cases hc : Text.isBlank c
    · have hne : c ≠ '\\' := by rintro rfl; exact absurd hc (by decide)
      have htrim : Text.trimStart (c :: s) = Text.trimStart s := List.dropWhile_cons_of_pos hc
      rw [htrim, ih, continues_cons_of_ne hne]
    · have htrim : Text.trimStart (c :: s) = c :: s := List.dropWhile_cons_of_neg hc
      rw [htrim]

/-- A text that does not continue takes no further line. -/
theorem joinLines_of_not_continues {sofar : List Char} (h : continues sofar = false)
    (rest : List (List Char)) : joinLines sofar rest = (sofar, rest) := by
  cases rest with
  | nil => rw [joinLines, h]; rfl
  | cons line rest => rw [joinLines, h]; rfl

/-- **Lines that do not continue are logical lines by themselves.** -/
theorem logicalLines_eq_filter {physical : List (List Char)}
    (h : ∀ line ∈ physical, continues line = false) :
    logicalLines physical = (physical.map Text.trimStart).filter fun s => !isSkipped s := by
  induction physical with
  | nil => rw [logicalLines]; rfl
  | cons line rest ih =>
    have hline : continues (Text.trimStart line) = false := by
      rw [continues_trimStart]
      exact h line (List.mem_cons_self ..)
    have hrest := ih fun l hl => h l (List.mem_cons_of_mem _ hl)
    rw [logicalLines, joinLines_of_not_continues hline, List.map_cons, hrest]
    by_cases hskip : isSkipped (Text.trimStart line)
    · rw [if_pos hskip, List.filter_cons_of_neg (by simp [hskip])]
    · rw [if_neg hskip, List.filter_cons_of_pos (by simp [hskip])]

end TableOptions.Properties
