import Mathlib.Logic.Function.Basic
import TableOptions.Proofs.Properties.Concatenation
import TableOptions.Proofs.Properties.RoundTrip

/-!
# Written entries stay apart

Whatever the keys and values of a map are, its properties text is one line for each entry, and no line
goes on with the next. So nothing of an entry gets into another: the reader makes of the text what it
makes of each line alone (`readEntries_flatMap_entryLine`). That may differ from what was written, for
a bare blank can end a key or make a line a comment.

The text still tells the map. A `=` is escaped in every key, so the first one that no backslash escapes
stands behind the key (`cutKey_append`), and both sides decode to what was written. This undoes the
writer on all maps (`unwrite_write`), not only on those that the reader gets back.
-/

namespace TableOptions.Properties

/-- The texts before and after the first `=` that is not escaped. -/
def cutKey (isOpen : Bool) : List Char → List Char × List Char
  | [] => ([], [])
  | c :: rest =>
    if c == '=' && !isOpen then ([], rest)
    else
      let later := cutKey (opensAfter isOpen c) rest
      (c :: later.1, later.2)

/-- The entry that a line was written for. -/
def unwriteLine (line : List Char) : String × String :=
  let (key, value) := cutKey false line
  (String.ofList (unescape key).value, String.ofList (unescape value).value)

/-- The map that a text was written for. -/
def unwrite (text : String) : KeyMap String :=
  KeyMap.ofList ((Text.lines text.toList).map unwriteLine)

/-! ### What the lines hold -/

/-- A spelling has no tabs. -/
theorem Spells.no_tab {s t : List Char} (h : Spells staysBare s t) : '\t' ∉ s := by
  induction h with
  | nil => exact List.not_mem_nil
  | bare hc _ ih =>
    refine List.not_mem_cons_of_ne_of_not_mem ?_ ih
    rintro rfl
    exact absurd hc (by decide)
  | @escaped letter c _ _ hc _ ih =>
    have hletter : letter ≠ '\t' :=
      (by decide : ∀ e ∈ writerEscapes, e.1 ≠ '\t') (letter, c) hc
    exact List.not_mem_cons_of_ne_of_not_mem (by decide)
      (List.not_mem_cons_of_ne_of_not_mem hletter.symm ih)

/-- A written map is the lines of its entries, each with a line feed at its end. -/
theorem toList_write (m : KeyMap String) :
    (write m).toList = m.entries.flatMap fun e => lineText e.1 e.2 ++ ['\n'] := by
  rw [write, String.toList_ofList]
  exact congrArg (m.entries.flatMap ·) (funext fun e => entryLine_eq e.1 e.2)

/-- What no line holds, apart from the line feeds between them, the text does not hold. -/
theorem notMem_write {c : Char} (hfeed : c ≠ '\n')
    (hline : ∀ key value, c ∉ lineText key value) (m : KeyMap String) : c ∉ (write m).toList := by
  rw [toList_write, List.mem_flatMap]
  rintro ⟨e, _, hc⟩
  rcases List.mem_append.1 hc with hc | hc
  · exact hline e.1 e.2 hc
  · exact hfeed (List.mem_singleton.1 hc)

/-! ### Each line is read alone -/

/-- Behind the line of an entry the text begins anew. -/
theorem closed_entryLine (key value : String) : Closed (String.ofList (entryLine key value)) := by
  have hspells := spells_lineText key value
  have hlines : Text.lines (entryLine key value) = [lineText key value] := by
    rw [entryLine_eq]
    exact Text.lines_append_lineFeed hspells.no_lineEnd []
  have hcontinues : continues (Text.trimStart (lineText key value)) = false := by
    rw [continues_trimStart]
    exact hspells.continues
  constructor
  · rw [String.toList_ofList, entryLine_eq, Text.endsLine, List.getLast?_concat]
    simp
  · rw [String.toList_ofList, hlines, endsOpen, joinLines_of_not_continues hcontinues]
    simp [runsOut, endsOpen, hcontinues]

/-- **The lines of entries are read one by one.** -/
theorem readEntries_flatMap_entryLine (entries : List (String × String)) :
    readEntries (String.ofList (entries.flatMap fun e => entryLine e.1 e.2)) =
      entries.flatMap fun e => readEntries (String.ofList (entryLine e.1 e.2)) := by
  induction entries with
  | nil => exact readEntries_remarks ⟨rfl, by simp [Text.lines]⟩
  | cons e rest ih =>
    rw [List.flatMap_cons, List.flatMap_cons, String.ofList_append,
      readEntries_append (closed_entryLine e.1 e.2), ih]

/-- **A written map is read as its lines are**, each one's entries over those of the lines before. -/
theorem read_write_eq_foldl (m : KeyMap String) :
    (read (write m)).value = m.entries.foldl (fun sofar e =>
      sofar.overlay (read (String.ofList (entryLine e.1 e.2))).value) KeyMap.empty := by
  simp only [read]
  rw [write, readEntries_flatMap_entryLine, List.map_flatMap, KeyMap.ofList,
    KeyMap.insertAll_flatMap]

/-! ### The text tells the map -/

/-- **The first `=` that is not escaped stands behind the key.** -/
theorem cutKey_append {s t : List Char} (h : Spells (fun c => staysBare c && c != '=') s t)
    (rest : List Char) : cutKey false (s ++ '=' :: rest) = (s, rest) := by
  induction h with
  | nil => rfl
  | @bare c _ _ hc _ ih =>
    obtain ⟨hbare, hne⟩ := Bool.and_eq_true_iff.1 hc
    have hopens : opensAfter false c = false := by
      rw [opensAfter, beq_eq_false_iff_ne.2 (ne_of_staysBare hbare).1]
      rfl
    have hcut : (c == '=' && !false) = false := by
      rw [beq_eq_false_iff_ne.2 (bne_iff_ne.1 hne)]
      rfl
    rw [List.cons_append, cutKey, hcut, hopens, ih]
    rfl
  | @escaped letter c s _ _ _ ih =>
    -- the backslash opens an escape, which the letter closes, whatever it is
    have hletter : cutKey true (letter :: (s ++ '=' :: rest)) = (letter :: s, rest) := by
      have hopens : opensAfter true letter = false := rfl
      rw [cutKey, Bool.not_true, Bool.and_false, hopens, ih]
      rfl
    have hbackslash : opensAfter false '\\' = true := rfl
    rw [List.cons_append, List.cons_append, cutKey, hbackslash, hletter]
    rfl

/-- **A line tells its entry.** -/
theorem unwriteLine_lineText (key value : String) :
    unwriteLine (lineText key value) = (key, value) := by
  have hcut : cutKey false (lineText key value) =
      (escapeKey key.toList, escapeValue value.toList) := by
    refine cutKey_append (.escapeKey fun c _ hbare hsep _ => ?_) _
    have hne : c ≠ '=' := by
      rintro rfl
      cases hsep
    rw [hbare, bne_iff_ne.2 hne]
    rfl
  have hkey : Spells staysBare (escapeKey key.toList) key.toList :=
    .escapeKey fun _ _ h _ _ => h
  have hvalue : Spells staysBare (escapeValue value.toList) value.toList :=
    .escapeValue fun _ _ h => h
  simp only [unwriteLine, hcut, hkey.unescape, hvalue.unescape, String.ofList_toList]

/-- **A text tells the map that it was written for**, whatever the keys and values are. -/
theorem unwrite_write (m : KeyMap String) : unwrite (write m) = m := by
  have hentries : (m.entries.map fun e => lineText e.1 e.2).map unwriteLine = m.entries := by
    rw [List.map_map]
    exact List.map_id'' (fun e => unwriteLine_lineText e.1 e.2) m.entries
  rw [unwrite, lines_write, hentries, KeyMap.ofList_entries]

/-- **Written entries stay apart.** The properties text of a map is one line for each entry, ended by a
line feed. No line holds another line feed, a carriage return or a tab, and none ends in an odd number
of backslashes. So the text is read as its lines are, each alone, the later over the earlier; and
different maps have different texts. -/
theorem render_keeps_entries_apart (m : KeyMap String) :
    (render m .properties).toList = (m.entries.flatMap fun e => lineText e.1 e.2 ++ ['\n']) ∧
    (∀ e ∈ m.entries, '\n' ∉ lineText e.1 e.2 ∧ continues (lineText e.1 e.2) = false) ∧
    '\r' ∉ (render m .properties).toList ∧
    '\t' ∉ (render m .properties).toList ∧
    (read (render m .properties)).value =
      m.entries.foldl (fun sofar e =>
        sofar.overlay (read (String.ofList (lineText e.1 e.2 ++ ['\n']))).value) KeyMap.empty ∧
    ∀ n : KeyMap String, n ≠ m → render n .properties ≠ render m .properties := by
  have hlineEnd : ∀ key value, ∀ c ∈ lineText key value, c ≠ '\n' ∧ c ≠ '\r' :=
    fun key value => (spells_lineText key value).no_lineEnd
  refine ⟨toList_write m, ?_, ?_, ?_, ?_, ?_⟩
  · intro e _
    exact ⟨fun hc => (hlineEnd e.1 e.2 _ hc).1 rfl, (spells_lineText e.1 e.2).continues⟩
  · exact notMem_write (by decide) (fun key value hc => (hlineEnd key value _ hc).2 rfl) m
  · exact notMem_write (by decide) (fun key value => (spells_lineText key value).no_tab) m
  · simp only [← entryLine_eq]
    exact read_write_eq_foldl m
  · intro n hne heq
    exact hne (Function.LeftInverse.injective unwrite_write heq)

/-- A key that the reader cuts short, and a value that looks like a further entry. -/
example :
    let m := KeyMap.ofList [("a\x0cb=c", "d\ne=f\\")]
    render m .properties = "a\x0cb\\=c=d\\ne=f\\\\\n" ∧
      (read (render m .properties)).value = KeyMap.ofList [("a", "b=c=d\ne=f\\")] ∧
      unwrite (render m .properties) = m := by
  decide +kernel

end TableOptions.Properties
