import TableOptions.Proofs.Properties.Concatenation

/-!
# Logical lines as groups of physical lines

The reader asks of the text joined so far whether it continues. The same logical lines come out when
each physical line is asked on its own (`lineGroups`): a group begins with a line that is neither blank
nor a comment and takes further lines up to the first that does not continue, and a logical line is
what the lines of its group add to it (`logicalLines_eq_joined_lineGroups`).

What carries the argument is that the backslash which continues a text is dropped before the next
line is joined. So the text joined so far always ends in an even number of backslashes, and whether it
continues after the next line is a matter of that line alone (`continues_joined_line`).
-/

namespace TableOptions.Properties

/-- A text without the backslash that continues it, if it has one. -/
def withoutContinuation (s : List Char) : List Char :=
  if continues s then s.dropLast else s

/-- A physical line and those after it up to the first that does not continue; the second part is the
lines that are left. -/
def cutGroup : List (List Char) → List (List Char) × List (List Char)
  | [] => ([], [])
  | line :: rest =>
    if continues line then (line :: (cutGroup rest).1, (cutGroup rest).2) else ([line], rest)

/-- A group takes at least its first line. -/
theorem cutGroup_rest_length_le (line : List Char) (rest : List (List Char)) :
    (cutGroup (line :: rest)).2.length ≤ rest.length := by
  induction rest generalizing line with
  | nil =>
    rw [cutGroup]
    split <;> exact Nat.le_refl _
  | cons next rest ih =>
    rw [cutGroup]
    split
    · exact Nat.le_trans (ih next) (Nat.le_succ _)
    · exact Nat.le_refl _

/-- The groups of physical lines that make the logical lines. A line that could begin a group and is
blank or a comment is left out, whatever it ends in. -/
def lineGroups : List (List Char) → List (List (List Char))
  | [] => []
  | line :: rest =>
    if isSkipped (Text.trimStart line) then lineGroups rest
    else (cutGroup (line :: rest)).1 :: lineGroups (cutGroup (line :: rest)).2
termination_by physical => physical.length
decreasing_by
  · simp
  · exact Nat.lt_succ_of_le (cutGroup_rest_length_le line rest)

/-- The logical line of a group: each physical line adds its text without its leading blanks and
without the backslash that continues it. -/
def joinGroup (group : List (List Char)) : List Char :=
  group.flatMap fun line => withoutContinuation (Text.trimStart line)

/-! ### What is left of a text that continues -/

/-- A text that continues ends in a backslash before which nothing is left open. -/
theorem exists_eq_concat_of_continues {s : List Char} (h : continues s = true) :
    ∃ start, s = start ++ ['\\'] ∧ continues start = false := by
  rcases List.eq_nil_or_concat s with rfl | ⟨start, c, rfl⟩
  · cases h
  · rw [List.concat_eq_append, continues_concat, opensAfter, Bool.and_eq_true] at h
    obtain ⟨hstart, hc⟩ := h
    refine ⟨start, ?_, by simpa using hstart⟩
    rw [List.concat_eq_append, beq_iff_eq.1 hc]

/-- Without the backslash that continues it a text does not continue. -/
theorem continues_withoutContinuation (s : List Char) :
    continues (withoutContinuation s) = false := by
  cases h : continues s with
  | false => rw [withoutContinuation, h, if_neg Bool.false_ne_true, h]
  | true =>
    obtain ⟨start, rfl, hstart⟩ := exists_eq_concat_of_continues h
    rw [withoutContinuation, if_pos h, List.dropLast_concat, hstart]

/-- A text that is complete stays whole in front of another. -/
theorem withoutContinuation_append {s : List Char} (h : continues s = false) (t : List Char) :
    withoutContinuation (s ++ t) = s ++ withoutContinuation t := by
  have happend := continues_append_of_not_continues h t
  cases ht : continues t with
  | false =>
    rw [ht] at happend
    rw [withoutContinuation, happend, withoutContinuation, ht]
    rfl
  | true =>
    rw [ht] at happend
    have hne : t ≠ [] := by rintro rfl; cases ht
    rw [withoutContinuation, if_pos happend, withoutContinuation, if_pos ht,
      List.dropLast_append_of_ne_nil hne]

/-- **Whether joining goes on is a matter of the line just joined**, whatever was joined before. -/
theorem continues_joined_line (sofar line : List Char) :
    continues (withoutContinuation sofar ++ Text.trimStart line) = continues line := by
  rw [continues_append_of_not_continues (continues_withoutContinuation sofar), continues_trimStart]

/-! ### Joining line by line -/

/-- At the end of the lines, a text that continues loses its last backslash all the same. -/
theorem joinLines_nil (sofar : List Char) : joinLines sofar [] = (withoutContinuation sofar, []) :=
  rfl

/-- A text that continues takes the next line, without the backslash and the indentation. -/
theorem joinLines_of_continues {sofar : List Char} (h : continues sofar = true)
    (line : List Char) (rest : List (List Char)) :
    joinLines sofar (line :: rest) =
      joinLines (withoutContinuation sofar ++ Text.trimStart line) rest := by
  rw [joinLines, if_pos h, withoutContinuation, if_pos h]

/-- What has been joined does not continue at its end. -/
theorem continues_joinLines (sofar : List Char) (rest : List (List Char)) :
    continues (joinLines sofar rest).1 = false := by
  induction rest generalizing sofar with
  | nil => exact continues_withoutContinuation sofar
  | cons line rest ih =>
    cases h : continues sofar with
    | false =>
      rw [joinLines_of_not_continues h]
      exact h
    | true =>
      rw [joinLines_of_continues h]
      exact ih _

/-- **A logical line never continues**: it closes every escape that it opens. -/
theorem continues_of_mem_logicalLines {physical : List (List Char)} {line : List Char}
    (h : line ∈ logicalLines physical) : continues line = false := by
  fun_induction logicalLines physical with
  | case1 => exact absurd h List.not_mem_nil
  | case2 first rest start hskip ih => exact ih h
  | case3 first rest start hbegins ih =>
    rcases List.mem_cons.1 h with rfl | hrest
    · exact continues_joinLines start rest
    · exact ih hrest

/-- A line that continues stands in one group with the line after it. -/
theorem cutGroup_of_continues {line : List Char} (h : continues line = true)
    (rest : List (List Char)) :
    cutGroup (line :: rest) = (line :: (cutGroup rest).1, (cutGroup rest).2) := by
  rw [cutGroup, if_pos h]

/-- A line that does not continue ends its group. -/
theorem cutGroup_of_not_continues {line : List Char} (h : continues line = false)
    (rest : List (List Char)) : cutGroup (line :: rest) = ([line], rest) := by
  rw [cutGroup, h, if_neg Bool.false_ne_true]

/-- Each line of a group adds its own part. -/
theorem joinGroup_cons (line : List Char) (group : List (List Char)) :
    joinGroup (line :: group) = withoutContinuation (Text.trimStart line) ++ joinGroup group :=
  List.flatMap_cons

/-- **Joining takes exactly the lines of a group.** The induction is on the lines to come; of those
already joined it needs only that what they added does not continue. -/
theorem joinLines_eq_joinGroup {added : List Char} (h : continues added = false)
    (line : List Char) (rest : List (List Char)) :
    joinLines (added ++ Text.trimStart line) rest =
      (added ++ joinGroup (cutGroup (line :: rest)).1, (cutGroup (line :: rest)).2) := by
  induction rest generalizing added line with
  | nil =>
    rw [joinLines_nil, withoutContinuation_append h]
    have hcut : cutGroup [line] = ([line], []) := by
      rw [cutGroup]
      split <;> rfl
    rw [hcut, joinGroup_cons]
    simp [joinGroup]
  | cons next rest ih =>
    -- the indentation is dropped, but no backslash is blank
    have hjoined : continues (added ++ Text.trimStart line) = continues line := by
      rw [continues_append_of_not_continues h, continues_trimStart]
    cases hline : continues line with
    | false =>
      have hkept : withoutContinuation (Text.trimStart line) = Text.trimStart line := by
        rw [withoutContinuation, continues_trimStart, hline, if_neg Bool.false_ne_true]
      rw [joinLines_of_not_continues (hjoined.trans hline), cutGroup_of_not_continues hline,
        joinGroup_cons, hkept]
      simp [joinGroup]
    | true =>
      have hadded : continues (added ++ withoutContinuation (Text.trimStart line)) = false := by
        rw [continues_append_of_not_continues h, continues_withoutContinuation]
      rw [joinLines_of_continues (hjoined.trans hline), withoutContinuation_append h, ih hadded,
        cutGroup_of_continues hline, joinGroup_cons, List.append_assoc]

/-- **Logical lines are the groups of physical lines, each line asked on its own**: a line that begins
no group because it is blank or a comment is left out, every other one begins a group, and the group
goes on exactly behind lines that end in an odd number of backslashes. What was joined before a line
has no say in whether the group goes on behind it. -/
theorem logicalLines_eq_joined_lineGroups (text : String) :
    logicalLines (Text.lines text.toList) = (lineGroups (Text.lines text.toList)).map joinGroup ∧
      ∀ sofar line, continues (withoutContinuation sofar ++ Text.trimStart line) = continues line := by
  refine ⟨?_, continues_joined_line⟩
  generalize Text.lines text.toList = physical
  fun_induction lineGroups physical with
  | case1 => rw [logicalLines_nil, List.map_nil]
  | case2 line rest hskip ih => rw [logicalLines_of_skipped hskip, ih]
  | case3 line rest hbegins ih =>
    have hbegins : isSkipped (Text.trimStart line) = false := by simpa using hbegins
    have hjoin := @joinLines_eq_joinGroup [] rfl line rest
    rw [List.nil_append, List.nil_append] at hjoin
    rw [logicalLines_of_begins hbegins, hjoin, ih, List.map_cons]

/-- A line of backslashes, a blank line and a comment are taken by the line before if that continues,
and a comment that stands alone takes nothing, not even with a backslash at its end. -/
example : lineGroups (Text.lines "a\\\\\\\n\\\n\n# b\\\n  c \\\n#d".toList) =
    [["a\\\\\\", "\\", ""], ["  c \\", "#d"]].map (·.map String.toList) := by decide +kernel

end TableOptions.Properties
