import TableOptions.KeyMap.Enumeration
import TableOptions.Properties.Reader
import TableOptions.Proofs.Properties.Continuation

/-!
# Texts one after the other

Where nothing is left open, reading goes on as if it began anew. Two things can be left open at the
end of a text: its last line, if no line feed ends it, and a logical line that continues when there is
no physical line left to take (`runsOut`, `endsOpen`). Behind a text that is `Closed` the lines, the
logical lines and the entries are those of the two texts, one after the other (`Text.lines_append`,
`logicalLines_append`, `readEntries_append`), and so the maps lie one over the other (`read_append`).

Blank lines and comments give no entries and leave nothing open, not even with a backslash at their
end: a skipped line is never joined to anything.
-/

namespace TableOptions.Properties

/-- Whether joining takes all the lines there are and the text still continues. -/
def runsOut (sofar : List Char) : List (List Char) → Bool
  | [] => continues sofar
  | line :: rest => continues sofar && runsOut (sofar.dropLast ++ Text.trimStart line) rest

/-- Whether a sequence of physical lines runs out in the middle of a logical line. -/
def endsOpen : List (List Char) → Bool
  | [] => false
  | line :: rest =>
    let start := Text.trimStart line
    if isSkipped start then endsOpen rest
    else runsOut start rest || endsOpen (joinLines start rest).2
termination_by physical => physical.length
decreasing_by
  · simp
  · exact Nat.lt_succ_of_le (joinLines_rest_length_le _ _)

/-- A text behind which a new line and a new logical line begin. -/
structure Closed (text : String) : Prop where
  endsLine : Text.endsLine text.toList = true
  complete : endsOpen (Text.lines text.toList) = false

instance (text : String) : Decidable (Closed text) :=
  decidable_of_iff (Text.endsLine text.toList = true ∧ endsOpen (Text.lines text.toList) = false)
    ⟨fun h => ⟨h.1, h.2⟩, fun h => ⟨h.1, h.2⟩⟩

/-- A text of whole lines that are all blank or comments. -/
structure Remarks (text : String) : Prop where
  endsLine : Text.endsLine text.toList = true
  skipped : ∀ line ∈ Text.lines text.toList, isSkipped (Text.trimStart line) = true

instance (text : String) : Decidable (Remarks text) :=
  decidable_of_iff (Text.endsLine text.toList = true ∧
      ∀ line ∈ Text.lines text.toList, isSkipped (Text.trimStart line) = true)
    ⟨fun h => ⟨h.1, h.2⟩, fun h => ⟨h.1, h.2⟩⟩

/-! ### Logical lines -/

theorem logicalLines_nil : logicalLines [] = [] := by rw [logicalLines]

/-- A blank line or a comment is no logical line. -/
theorem logicalLines_of_skipped {line : List Char} (h : isSkipped (Text.trimStart line) = true)
    (rest : List (List Char)) : logicalLines (line :: rest) = logicalLines rest := by
  rw [logicalLines, if_pos h]

/-- Any other line begins a logical line, which takes the lines that it continues on. -/
theorem logicalLines_of_begins {line : List Char} (h : isSkipped (Text.trimStart line) = false)
    (rest : List (List Char)) :
    logicalLines (line :: rest) = (joinLines (Text.trimStart line) rest).1 ::
      logicalLines (joinLines (Text.trimStart line) rest).2 := by
  rw [logicalLines, if_neg (by simp [h])]

/-- Joining that does not run out of lines never gets to those that follow. -/
theorem joinLines_append {sofar : List Char} {physical : List (List Char)}
    (h : runsOut sofar physical = false) (later : List (List Char)) :
    joinLines sofar (physical ++ later) =
      ((joinLines sofar physical).1, (joinLines sofar physical).2 ++ later) := by
  induction physical generalizing sofar with
  | nil =>
    rw [List.nil_append, joinLines_of_not_continues h, joinLines_of_not_continues h]
    rfl
  | cons line rest ih =>
    cases hcontinues : continues sofar with
    | false =>
      rw [joinLines_of_not_continues hcontinues, joinLines_of_not_continues hcontinues]
    | true =>
      rw [runsOut, hcontinues, Bool.true_and] at h
      rw [List.cons_append, joinLines, if_pos hcontinues, ih h, joinLines, if_pos hcontinues]

/-- **Behind lines that leave nothing open the logical lines begin anew.** -/
theorem logicalLines_append {physical : List (List Char)} (h : endsOpen physical = false)
    (later : List (List Char)) :
    logicalLines (physical ++ later) = logicalLines physical ++ logicalLines later := by
  fun_induction endsOpen physical with
  | case1 => rw [logicalLines_nil, List.nil_append, List.nil_append]
  | case2 line rest start hskip ih =>
    rw [List.cons_append, logicalLines_of_skipped hskip, logicalLines_of_skipped hskip, ih h]
  | case3 line rest start hbegins ih =>
    have hbegins : isSkipped (Text.trimStart line) = false := by simpa using hbegins
    obtain ⟨hjoin, hrest⟩ := Bool.or_eq_false_iff.1 h
    rw [List.cons_append, logicalLines_of_begins hbegins, joinLines_append hjoin, ih hrest,
      logicalLines_of_begins hbegins, List.cons_append]

/-- Lines that are all blank or comments give no logical line. -/
theorem logicalLines_eq_nil {physical : List (List Char)}
    (h : ∀ line ∈ physical, isSkipped (Text.trimStart line) = true) :
    logicalLines physical = [] := by
  induction physical with
  | nil => exact logicalLines_nil
  | cons line rest ih =>
    obtain ⟨hline, hrest⟩ := List.forall_mem_cons.1 h
    rw [logicalLines_of_skipped hline, ih hrest]

/-- Lines that are skipped leave nothing open. -/
theorem endsOpen_of_skipped {physical : List (List Char)}
    (h : ∀ line ∈ physical, isSkipped (Text.trimStart line) = true) :
    endsOpen physical = false := by
  induction physical with
  | nil => rw [endsOpen]
  | cons line rest ih =>
    obtain ⟨hline, hrest⟩ := List.forall_mem_cons.1 h
    rw [endsOpen, if_pos hline, ih hrest]

/-! ### Texts -/

/-- **Blank lines and comments leave nothing open.** -/
theorem Remarks.closed {text : String} (h : Remarks text) : Closed text :=
  ⟨h.endsLine, endsOpen_of_skipped h.skipped⟩

/-- **Behind a closed text the entries begin anew.** -/
theorem readEntries_append {a : String} (h : Closed a) (b : String) :
    readEntries (a ++ b) = readEntries a ++ readEntries b := by
  simp only [readEntries, String.toList_append, Text.lines_append h.endsLine,
    logicalLines_append h.complete, List.map_append]

/-- Blank lines and comments give no entries. -/
theorem readEntries_remarks {text : String} (h : Remarks text) : readEntries text = [] := by
  rw [readEntries, logicalLines_eq_nil h.skipped, List.map_nil]

/-- Remarks go unnoticed, wherever a logical line could begin. -/
theorem readEntries_insert_remarks {a remarks : String} (ha : Closed a) (h : Remarks remarks)
    (b : String) : readEntries (a ++ (remarks ++ b)) = readEntries (a ++ b) := by
  rw [readEntries_append ha, readEntries_append h.closed, readEntries_remarks h, List.nil_append,
    readEntries_append ha]

/-- **Texts one after the other are read as one map over the other.** Behind a closed text the later
text wins where both have a key, its warnings follow, and remarks between the two change nothing. -/
theorem read_append {a : String} (h : Closed a) (b : String) :
    (read (a ++ b)).value = (read a).value.overlay (read b).value ∧
    (∀ key, (read (a ++ b)).value.get? key =
      ((read b).value.get? key).or ((read a).value.get? key)) ∧
    (read (a ++ b)).warnings = (read a).warnings ++ (read b).warnings ∧
    ∀ remarks, Remarks remarks → read (a ++ (remarks ++ b)) = read (a ++ b) := by
  have hentries := readEntries_append h b
  have hget : ∀ key, (read (a ++ b)).value.get? key =
      ((read b).value.get? key).or ((read a).value.get? key) := by
    intro key
    simp only [read, hentries, List.map_append, KeyMap.get?_ofList, List.reverse_append,
      List.lookup_append]
  refine ⟨?_, hget, ?_, ?_⟩
  · ext key : 1
    rw [hget, KeyMap.get?_overlay]
  · simp only [read, hentries, List.flatMap_append]
  · intro remarks hremarks
    simp only [read, readEntries_insert_remarks h hremarks]

/-- A continued line, a carriage return, a comment with a backslash at its end, and a key that is set
twice. -/
theorem read_append_sample :
    let a := "x=1,\\\r\n  2\ny=\\u12\n"
    let remarks := "# y=3 \\\n \r\n"
    let b := "y=4"
    Closed a ∧ Remarks remarks ∧
      (read (a ++ b)).value = (read a).value.overlay (read b).value ∧
      (read (a ++ b)).value.get? "y" = some "4" ∧
      (read (a ++ b)).warnings = (read a).warnings ++ (read b).warnings ∧
      read (a ++ (remarks ++ b)) = read (a ++ b) := by
  intro a remarks b
  have ha : Closed a := by decide +kernel
  have hremarks : Remarks remarks := by decide +kernel
  obtain ⟨hvalue, hget, hwarnings, hinsert⟩ := read_append ha b
  refine ⟨ha, hremarks, hvalue, ?_, hwarnings, hinsert remarks hremarks⟩
  rw [hget]
  decide +kernel

/-- Behind an open text a line is taken for a continuation. -/
example : (read ("x=1\\\n" ++ "y=2")).value = KeyMap.ofList [("x", "1y=2")] := by decide +kernel

end TableOptions.Properties
