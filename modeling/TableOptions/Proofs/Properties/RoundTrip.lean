import TableOptions.KeyMap.Lemmas
import TableOptions.Properties.Reader
import TableOptions.Proofs.Properties.Spelling
import TableOptions.Rendering

/-!
# Written maps read back

Properties text that was written for a map is read as that map exactly when no key holds a bare blank
and no value begins with one (`read_render_eq_self_iff`). Each entry is one physical line and that
line is one logical line, so the question is one of single entries.
-/

namespace TableOptions.Properties

/-- An entry whose key holds no bare blank and whose value begins with none. -/
structure PlainEntry (key value : String) : Prop where
  key : ∀ c ∈ key.toList, isBareBlank c = false
  value : ∀ c ∈ value.toList.head?, isBareBlank c = false

/-- The characters are tested in the lists where they stand. -/
theorem plainEntry_iff_all (key value : String) :
    key.toList.all (fun c => !isBareBlank c) = true ∧
      value.toList.head?.all (fun c => !isBareBlank c) = true ↔ PlainEntry key value := by
  constructor
  · rintro ⟨hkey, hvalue⟩
    constructor
    · intro c hc
      simpa using List.all_eq_true.1 hkey c hc
    · intro c hc
      rw [Option.mem_def.1 hc] at hvalue
      simpa using hvalue
  · rintro ⟨hkey, hvalue⟩
    constructor
    · rw [List.all_eq_true]
      intro c hc
      rw [hkey c hc]
      rfl
    · cases hhead : value.toList.head? with
      | none => rfl
      | some c =>
        rw [Option.all_some, hvalue c hhead]
        rfl

instance (key value : String) : Decidable (PlainEntry key value) :=
  decidable_of_iff _ (plainEntry_iff_all key value)

/-- A map of plain entries. -/
def Plain (m : KeyMap String) : Prop :=
  ∀ e ∈ m.entries, PlainEntry e.1 e.2

instance (m : KeyMap String) : Decidable (Plain m) :=
  inferInstanceAs (Decidable (∀ e ∈ m.entries, PlainEntry e.1 e.2))

/-- The line of an entry, without its end. -/
def lineText (key value : String) : List Char :=
  escapeKey key.toList ++ '=' :: escapeValue value.toList

/-! ### The lines of a written map -/

/-- The line of an entry spells the key, an `=` and the value. -/
theorem spells_lineText (key value : String) :
    Spells staysBare (lineText key value) (key.toList ++ '=' :: value.toList) := by
  have hkey : Spells staysBare (escapeKey key.toList) key.toList :=
    .escapeKey fun _ _ h _ _ => h
  have hvalue : Spells staysBare (escapeValue value.toList) value.toList :=
    .escapeValue fun _ _ h => h
  exact hkey.append (.bare (by decide) hvalue)

/-- The line of an entry is its text with a line feed. -/
theorem entryLine_eq (key value : String) : entryLine key value = lineText key value ++ ['\n'] := by
  simp [entryLine, lineText]

/-- **Written entries are read line by line**, as none of them holds a line end. -/
theorem lines_flatMap_entryLine (entries : List (String × String)) :
    Text.lines (entries.flatMap fun e => entryLine e.1 e.2) =
      entries.map fun e => lineText e.1 e.2 := by
  induction entries with
  | nil => rfl
  | cons e rest ih =>
    have hline : entryLine e.1 e.2 ++ rest.flatMap (fun e => entryLine e.1 e.2) =
        lineText e.1 e.2 ++ '\n' :: rest.flatMap fun e => entryLine e.1 e.2 := by
      rw [entryLine_eq, List.append_assoc, List.singleton_append]
    rw [List.flatMap_cons, hline,
      Text.lines_append_lineFeed (spells_lineText e.1 e.2).no_lineEnd, ih]
    rfl

/-- **A written map has one line for each entry.** -/
theorem lines_write (m : KeyMap String) :
    Text.lines (write m).toList = m.entries.map fun e => lineText e.1 e.2 := by
  rw [write, String.toList_ofList, lines_flatMap_entryLine]

/-- No line of a written map goes on with the next. -/
theorem logicalLines_write (m : KeyMap String) :
    logicalLines (Text.lines (write m).toList) =
      ((m.entries.map fun e => lineText e.1 e.2).map Text.trimStart).filter
        fun s => !isSkipped s := by
  rw [lines_write]
  refine logicalLines_eq_filter fun line hline => ?_
  obtain ⟨e, _, rfl⟩ := List.mem_map.1 hline
  exact (spells_lineText e.1 e.2).continues

/-! ### What is read from a written map is plain -/

/-- What is read from bare characters and escapes of the writer is a plain entry. -/
theorem plainEntry_readEntry {s t : List Char} (h : Spells staysBare s t) :
    PlainEntry (readEntry s).value.key (readEntry s).value.value := by
  obtain ⟨hkey, u, hu⟩ := h.scanKey_plain
  constructor
  · rw [toList_key_readEntry]
    exact hkey
  · rw [toList_value_readEntry]
    exact hu.value_plain

/-- **Whatever is written, what is read from it is plain.** -/
theorem plain_read_write (m : KeyMap String) : Plain (read (write m)).value := by
  intro e he
  obtain ⟨found, hfound, rfl⟩ := List.mem_map.1 (KeyMap.mem_of_mem_entries_ofList he)
  obtain ⟨line, hline, rfl⟩ := List.mem_map.1 hfound
  rw [logicalLines_write] at hline
  obtain ⟨raw, hraw, rfl⟩ := List.mem_map.1 (List.mem_filter.1 hline).1
  obtain ⟨e, _, rfl⟩ := List.mem_map.1 hraw
  obtain ⟨u, hu⟩ := (spells_lineText e.1 e.2).trimStart
  exact plainEntry_readEntry hu

/-! ### A plain entry is read as it was written -/

/-- A key without bare blanks is written as a spelling of itself. -/
theorem spells_escapeKey_of_plain {k : List Char} (h : ∀ c ∈ k, isBareBlank c = false) :
    Spells staysBareInKey (escapeKey k) k := by
  refine .escapeKey fun c hc hbare hsep hspace => ?_
  have hblank : Text.isBlank c = false := by
    refine Bool.eq_false_iff.2 fun hb => ?_
    have hbareBlank := isBareBlank_of_staysBare hbare hspace hb
    rw [h c hc] at hbareBlank
    exact Bool.false_ne_true hbareBlank
  simp [staysBareInKey, hbare, hsep, hblank]

/-- A written key does not begin with a blank, and neither does its line. -/
theorem trimStart_of_spelled_key {s t : List Char} (h : Spells staysBareInKey s t)
    (rest : List Char) : Text.trimStart (s ++ '=' :: rest) = s ++ '=' :: rest := by
  cases h with
  | nil => rfl
  | bare hc _ =>
    simp only [staysBareInKey, Bool.and_eq_true, Bool.not_eq_true'] at hc
    exact List.dropWhile_cons_of_neg (by simp [hc.2])
  | escaped _ _ => rfl

/-- A value that begins with no bare blank is not written with one in front. -/
theorem trimStart_escapeValue {w : List Char} (h : ∀ c ∈ w.head?, isBareBlank c = false) :
    Text.trimStart (escapeValue w) = escapeValue w := by
  cases w with
  | nil => rfl
  | cons c w =>
    rw [escapeValue]
    by_cases hs : (c == ' ') = true
    · rw [if_pos hs]
      rfl
    · rw [if_neg hs, escapeInValue]
      cases he : escapeAlways? c with
      | some e =>
        obtain ⟨letter, _, rfl⟩ := escapeAlways?_eq_some he
        rfl
      | none =>
        have hblank : ¬ Text.isBlank c = true := by
          intro hb
          have hbareBlank :=
            isBareBlank_of_staysBare (by simp [staysBare, he]) (by simpa using hs) hb
          rw [h c rfl] at hbareBlank
          exact Bool.false_ne_true hbareBlank
        exact List.dropWhile_cons_of_neg hblank

/-- No line of an entry is taken for a comment. -/
theorem not_isSkipped_lineText (key value : String) : isSkipped (lineText key value) = false := by
  unfold lineText
  cases key.toList with
  | nil => rfl
  | cons c k =>
    rw [escapeKey]
    by_cases hc : (c == '#' || c == '!') = true
    · rw [if_pos hc]
      rfl
    · rw [if_neg hc, escapeInKey]
      cases he : escapeAlways? c with
      | some e =>
        obtain ⟨letter, _, rfl⟩ := escapeAlways?_eq_some he
        rfl
      | none =>
        by_cases hsep : (c == '=' || c == ':' || c == ' ') = true
        · simp only [if_pos hsep]
          rfl
        · simp only [if_neg hsep]
          exact Bool.eq_false_iff.2 hc

/-- The line of a plain entry is not indented. -/
theorem trimStart_lineText {key value : String} (h : PlainEntry key value) :
    Text.trimStart (lineText key value) = lineText key value :=
  trimStart_of_spelled_key (spells_escapeKey_of_plain h.key) _

/-- **The line of a plain entry is read as that entry**, without a warning. -/
theorem readEntry_lineText {key value : String} (h : PlainEntry key value) :
    readEntry (lineText key value) = ⟨⟨key, value⟩, []⟩ := by
  have hvalue : Spells staysBare (escapeValue value.toList) value.toList :=
    .escapeValue fun _ _ h => h
  have hscan : scanKey (lineText key value) = (⟨key.toList, []⟩, escapeValue value.toList) :=
    (spells_escapeKey_of_plain h.key).scanKey _
  simp only [readEntry, hscan, trimStart_escapeValue h.value, hvalue.unescape,
    String.ofList_toList, List.append_nil]

/-- **A plain map is read as it was written**, without a warning. -/
theorem read_write_of_plain {m : KeyMap String} (h : Plain m) : read (write m) = ⟨m, []⟩ := by
  have hlines : logicalLines (Text.lines (write m).toList) =
      m.entries.map fun e => lineText e.1 e.2 := by
    rw [logicalLines_write, List.map_map, List.filter_eq_self.2]
    · refine List.map_congr_left fun e he => ?_
      exact trimStart_lineText (h e he)
    · intro s hs
      obtain ⟨e, he, rfl⟩ := List.mem_map.1 hs
      rw [Function.comp_apply, trimStart_lineText (h e he), not_isSkipped_lineText]
      rfl
  have hentries : readEntries (write m) = m.entries.map fun e => ⟨⟨e.1, e.2⟩, []⟩ := by
    rw [readEntries, hlines, List.map_map]
    exact List.map_congr_left fun e he => readEntry_lineText (h e he)
  have hpairs : (readEntries (write m)).map (fun e => (e.value.key, e.value.value)) = m.entries := by
    rw [hentries, List.map_map]
    exact List.map_id m.entries
  have hwarnings : (readEntries (write m)).flatMap (·.warnings) = [] := by
    rw [hentries, List.flatMap_map]
    simp
  rw [read, hpairs, hwarnings, KeyMap.ofList_entries]

/-- The maps that are read as they were written are the plain ones. -/
theorem read_write_eq_iff_plain (m : KeyMap String) : (read (write m)).value = m ↔ Plain m := by
  constructor
  · intro h
    rw [← h]
    exact plain_read_write m
  · intro h
    rw [read_write_of_plain h]

/-- **A map is read back from its properties text exactly when it is plain**: when none of its keys
holds, and none of its values begins with, a blank other than space, tab, line feed and carriage
return. -/
theorem read_render_eq_self_iff (m : KeyMap String) :
    (read (render m .properties)).value = m ↔
      ∀ e ∈ m.entries, (∀ c ∈ e.1.toList, isBareBlank c = false) ∧
        ∀ c ∈ e.2.toList.head?, isBareBlank c = false := by
  rw [render, read_write_eq_iff_plain]
  exact ⟨fun h e he => ⟨(h e he).key, (h e he).value⟩, fun h e he => ⟨(h e he).1, (h e he).2⟩⟩

end TableOptions.Properties
