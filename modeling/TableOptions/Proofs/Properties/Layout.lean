import TableOptions.Proofs.Properties.Grouping
import TableOptions.Proofs.Text.Lines
import TableOptions.Proofs.Text.Padding

/-!
# The layout of properties text

Two ways to lay out a text leave what is read from it as it is, its warnings included (`read_layout`).
A line may be broken by a backslash wherever that opens no escape and closes none, and the line after
the break may be indented; and a line may end in a line feed alone or behind a carriage return.

A break shows in the physical lines only: the line and its continuation are joined to the text they
were cut from, before any key, separator or escape is looked at (`logicalLines_broken`). The kind of a
line end does not even show there (`Text.lines_withReturns`).
-/

namespace TableOptions.Properties

/-- A line that may be broken between its two parts: it holds no line end and begins neither with a
comment sign nor only with blanks, the first part leaves no escape open, and the second does not begin
with a blank, which would be taken for the indentation. -/
structure Breakable (x y : String) : Prop where
  begins : isSkipped (Text.trimStart x.toList) = false
  settled : continues x.toList = false
  tight : ∀ c ∈ y.toList.head?, Text.isBlank c = false
  oneLine : ∀ c ∈ x.toList ++ y.toList, c ≠ '\n' ∧ c ≠ '\r'

/-- Blanks without line ends, to indent a line with. -/
def Indent (s : String) : Prop :=
  ∀ c ∈ s.toList, Text.isBlank c = true ∧ c ≠ '\n' ∧ c ≠ '\r'

/-- The characters are tested in the texts where they stand. -/
theorem breakable_iff_all (x y : String) :
    (isSkipped (Text.trimStart x.toList) = false ∧ continues x.toList = false) ∧
      y.toList.head?.all (fun c => !Text.isBlank c) = true ∧
      (x.toList ++ y.toList).all (fun c => c != '\n' && c != '\r') = true ↔ Breakable x y := by
  simp only [Option.all_eq_true, List.all_eq_true, Bool.not_eq_true', Bool.and_eq_true, bne_iff_ne]
  exact ⟨fun h => ⟨h.1.1, h.1.2, h.2.1, h.2.2⟩, fun h => ⟨⟨h.1, h.2⟩, h.3, h.4⟩⟩

instance (x y : String) : Decidable (Breakable x y) :=
  decidable_of_iff _ (breakable_iff_all x y)

instance (s : String) : Decidable (Indent s) :=
  decidable_of_iff (s.toList.all (fun c => Text.isBlank c && (c != '\n' && c != '\r')) = true) <| by
    simp only [List.all_eq_true, Bool.and_eq_true, bne_iff_ne]
    rfl

/-! ### Blanks at the start -/

/-- Blanks are skipped in front of a line that begins, whatever comes after it. -/
theorem trimStart_append_of_begins {s : List Char} (h : isSkipped (Text.trimStart s) = false)
    (t : List Char) : Text.trimStart (s ++ t) = Text.trimStart s ++ t := by
  have hne : (s.dropWhile Text.isBlank).isEmpty = false := by
    cases hs : s.dropWhile Text.isBlank with
    | nil => rw [Text.trimStart, hs] at h; cases h
    | cons c rest => rfl
  rw [Text.trimStart, List.dropWhile_append, if_neg (by simp [hne])]
  rfl

/-- A line that has begun is not skipped, whatever comes after it. -/
theorem isSkipped_append {s : List Char} (h : isSkipped s = false) (t : List Char) :
    isSkipped (s ++ t) = false := by
  cases s with
  | nil => cases h
  | cons c s => exact h

/-! ### Broken lines -/

variable {x y indent : List Char}

/-- A line that begins a logical line still does with more behind it. -/
theorem logicalLines_of_begins_append (h : isSkipped (Text.trimStart x) = false)
    (rest : List (List Char)) :
    logicalLines ((x ++ y) :: rest) = (joinLines (Text.trimStart x ++ y) rest).1 ::
      logicalLines (joinLines (Text.trimStart x ++ y) rest).2 := by
  have htrim := trimStart_append_of_begins h y
  rw [logicalLines_of_begins (by rw [htrim]; exact isSkipped_append h y), htrim]

/-- A text that does not continue does so with a backslash behind it. -/
theorem continues_append_backslash (h : continues x = false) : continues (x ++ ['\\']) = true := by
  rw [continues_concat, h]
  rfl

/-- **The backslash that breaks a line is dropped when the lines are joined.** -/
theorem withoutContinuation_append_backslash (h : continues x = false) :
    withoutContinuation (x ++ ['\\']) = x := by
  rw [withoutContinuation, if_pos (continues_append_backslash h), List.dropLast_concat]

/-- **A broken line and its continuation make the logical line of the unbroken one.** -/
theorem logicalLines_broken (hbegins : isSkipped (Text.trimStart x) = false)
    (hsettled : continues x = false) (htrim : Text.trimStart (indent ++ y) = y)
    (rest : List (List Char)) :
    logicalLines ((x ++ ['\\']) :: (indent ++ y) :: rest) = logicalLines ((x ++ y) :: rest) := by
  have hsettled' : continues (Text.trimStart x) = false := by rw [continues_trimStart, hsettled]
  have hjoin : joinLines (Text.trimStart x ++ ['\\']) ((indent ++ y) :: rest) =
      joinLines (Text.trimStart x ++ y) rest := by
    rw [joinLines_of_continues (continues_append_backslash hsettled'),
      withoutContinuation_append_backslash hsettled', htrim]
  rw [logicalLines_of_begins_append hbegins, logicalLines_of_begins_append hbegins, hjoin]

/-- A break behind which the text ends is no break. -/
theorem logicalLines_broken_end (hbegins : isSkipped (Text.trimStart x) = false)
    (hsettled : continues x = false) : logicalLines [x ++ ['\\']] = logicalLines [x] := by
  have hsettled' : continues (Text.trimStart x) = false := by rw [continues_trimStart, hsettled]
  rw [logicalLines_of_begins_append hbegins, logicalLines_of_begins hbegins, joinLines_nil,
    withoutContinuation_append_backslash hsettled', joinLines_of_not_continues hsettled']

/-- **A broken line in its text**, two physical lines in place of one, changes no logical line. -/
theorem logicalLines_lines_broken {x y indent : String} {lineEnd after : List Char}
    (h : Breakable x y) (hindent : Indent indent)
    (hend : lineEnd = ['\n'] ∨ lineEnd = ['\r', '\n']) (hafter : ∀ c ∈ after.head?, c = '\n') :
    logicalLines (Text.lines
        (x.toList ++ ['\\'] ++ (lineEnd ++ (indent.toList ++ y.toList ++ after)))) =
      logicalLines (Text.lines (x.toList ++ y.toList ++ after)) := by
  obtain ⟨hx, hy⟩ := List.forall_mem_append.1 h.oneLine
  have htrim : Text.trimStart (indent.toList ++ y.toList) = y.toList :=
    Text.trimStart_append_of_blank (fun c hc => (hindent c hc).1) h.tight
  have hbroken : ∀ c ∈ x.toList ++ ['\\'], c ≠ '\n' ∧ c ≠ '\r' :=
    List.forall_mem_append.2 ⟨hx, List.forall_mem_singleton.2 (by decide)⟩
  have hnext : ∀ c ∈ indent.toList ++ y.toList, c ≠ '\n' ∧ c ≠ '\r' :=
    List.forall_mem_append.2 ⟨fun c hc => (hindent c hc).2, hy⟩
  rw [Text.lines_append_lineEnd hbroken hend]
  cases after with
  | cons c rest =>
    obtain rfl := hafter c rfl
    rw [Text.lines_append_lineFeed hnext, Text.lines_append_lineFeed h.oneLine,
      logicalLines_broken h.begins h.settled htrim]
  | nil =>
    have hne : x.toList ≠ [] := by
      intro hnil
      have hbegins := h.begins
      rw [hnil] at hbegins
      cases hbegins
    rw [List.append_nil, List.append_nil,
      Text.lines_eq_singleton h.oneLine (List.append_ne_nil_of_left_ne_nil hne y.toList)]
    by_cases hempty : indent.toList ++ y.toList = []
    · -- nothing is left to continue with, so the text ends in the backslash
      obtain ⟨hindentNil, hyNil⟩ := List.append_eq_nil_iff.1 hempty
      rw [hindentNil, hyNil, List.append_nil, List.append_nil]
      exact logicalLines_broken_end h.begins h.settled
    · rw [Text.lines_eq_singleton hnext hempty, logicalLines_broken h.begins h.settled htrim]

/-- **The layout of a text changes nothing that is read from it**, neither the map nor the warnings.
A line may be broken behind any part of it that leaves no escape open, with either line end and any
indentation, be it within a key, between the digits of an escape or at the end of the text. And any of
the line feeds of a text may have a carriage return before it. -/
theorem read_layout :
    (∀ before x y after lineEnd indent : String, Closed before → Breakable x y → Indent indent →
      lineEnd ∈ ["\n", "\r\n"] → (∀ c ∈ after.toList.head?, c = '\n') →
        read (before ++ x ++ "\\" ++ lineEnd ++ indent ++ y ++ after) =
          read (before ++ x ++ y ++ after)) ∧
    ∀ (text : String) (marked : Nat → Bool), '\r' ∉ text.toList →
      read (String.ofList (Text.withReturns marked text.toList)) = read text := by
  constructor
  · intro before x y after lineEnd indent hbefore h hindent hend hafter
    have hend : lineEnd.toList = ['\n'] ∨ lineEnd.toList = ['\r', '\n'] := by
      simp only [List.mem_cons, List.not_mem_nil, or_false] at hend
      rcases hend with rfl | rfl
      · exact .inl rfl
      · exact .inr rfl
    have hlogical := logicalLines_lines_broken h hindent hend hafter
    have hentries : readEntries (before ++ (x ++ "\\" ++ (lineEnd ++ (indent ++ y ++ after)))) =
        readEntries (before ++ (x ++ y ++ after)) := by
      rw [readEntries_append hbefore, readEntries_append hbefore]
      simp only [readEntries, String.toList_append]
      exact congrArg (_ ++ ·) (congrArg (·.map readEntry) hlogical)
    simp only [String.append_assoc] at hentries ⊢
    simp only [read, hentries]
  · intro text marked h
    simp only [read, readEntries, String.toList_ofList, Text.lines_withReturns marked h]

/-- A break between the digits of the second half of a surrogate pair, after a line that is continued,
before a comment; and carriage returns at every other place. -/
theorem read_layout_sample :
    let before := "a=1\\\r\n 2\n"
    let x := "  b \\uD83D\\uDE"
    let y := "00 = \\"
    let after := "\n# c\\\n"
    let text := "d\\\n=1\ne"
    (Closed before ∧ Breakable x y ∧ Indent " \t" ∧ "\r\n" ∈ ["\n", "\r\n"] ∧
      (∀ c ∈ after.toList.head?, c = '\n') ∧
      read (before ++ x ++ "\\" ++ "\r\n" ++ " \t" ++ y ++ after) =
        read (before ++ x ++ y ++ after)) ∧
    '\r' ∉ text.toList ∧
      String.ofList (Text.withReturns (· % 2 == 0) text.toList) = "d\\\r\n=1\ne" ∧
      read (String.ofList (Text.withReturns (· % 2 == 0) text.toList)) = read text := by
  intro before x y after text
  have hbefore : Closed before := by decide +kernel
  have hbreak : Breakable x y := by decide +kernel
  have hindent : Indent " \t" := by decide +kernel
  have hend : "\r\n" ∈ ["\n", "\r\n"] := by decide
  have hhead : after.toList.head? = some '\n' := by decide +kernel
  have hafter : ∀ c ∈ after.toList.head?, c = '\n' := fun c hc =>
    Option.some.inj (hc.symm.trans hhead)
  have hreturns : '\r' ∉ text.toList := by decide +kernel
  exact ⟨⟨hbefore, hbreak, hindent, hend, hafter,
      read_layout.1 before x y after "\r\n" " \t" hbefore hbreak hindent hend hafter⟩,
    hreturns, by decide +kernel, read_layout.2 text _ hreturns⟩

end TableOptions.Properties
