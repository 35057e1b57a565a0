import Mathlib.Data.List.TakeWhile
import TableOptions.KeyMap.Enumeration
import TableOptions.Streamer.Bridge

/-!
# A job's own entries over its file

The free-form properties of a job are those of its file with its own entries put on top, one after
another. An entry assigns the text after its first `=` to the text before it, without the blanks around
both (`Assigns`). So the loop stops at the first entry that has no `=` (`addEntries_eq_error`), and
otherwise of several entries for a key the last one counts (`get?_insertAll_of_lastAssigns`), whatever
stands before and after it.

Entries that assign to different keys can therefore be given in any order
(`freeProperties_last_entry_counts`).
-/

namespace TableOptions.Streamer

/-- The entry gives a key a value: they are the texts before and after its first `=`, without the blanks
around them. -/
def Assigns (entry key value : String) : Prop :=
  ∃ before after, entry.toList = before ++ '=' :: after ∧ '=' ∉ before ∧
    key.toList = Text.trim before ∧ value.toList = Text.trim after

/-- The last of the entries for a key gives it a value. -/
def LastAssigns (entries : List String) (key value : String) : Prop :=
  ∃ earlier entry later, entries = earlier ++ entry :: later ∧ Assigns entry key value ∧
    ∀ e ∈ later, ∀ v, ¬ Assigns e key v

/-- The two entries do not give the same key a value. -/
def AssignApart (entry other : String) : Prop :=
  ∀ key v w, Assigns entry key v → ¬ Assigns other key w

/-- What the file of a job gives: without a file, no properties. -/
def Settings.FileGives (s : Settings) (source : TextSource) (fromFile : KeyMap String) : Prop :=
  match s.propertiesPath with
  | none => fromFile = KeyMap.empty
  | some path => (Properties.load source path).value = .ok fromFile

variable {m : KeyMap String} {entry key value : String} {earlier entries later : List String}

/-! ### One entry -/

/-- The test of the splitter passes over all that stands before an `=`. -/
theorem bne_of_notMem {s : List Char} (h : '=' ∉ s) : ∀ c ∈ s, (c != '=') = true := by
  intro c hc
  rw [bne_iff_ne]
  rintro rfl
  exact h hc

/-- An entry is split at its first `=`, and both parts lose the blanks around them. -/
theorem splitEntry?_of_eq {before after : List Char} (h : entry.toList = before ++ '=' :: after)
    (hbefore : '=' ∉ before) :
    splitEntry? entry =
      some (String.ofList (Text.trim before), String.ofList (Text.trim after)) := by
  have hne := bne_of_notMem hbefore
  have hdrop : entry.toList.dropWhile (· != '=') = '=' :: after := by
    rw [h, List.dropWhile_append_of_pos hne]
    exact List.dropWhile_cons_of_neg (by decide)
  have htake : entry.toList.takeWhile (· != '=') = before := by
    rw [h, List.takeWhile_append_of_pos hne, List.takeWhile_cons_of_neg (by decide),
      List.append_nil]
  unfold splitEntry?
  simp only [hdrop, htake]

/-- An entry without `=` cannot be split. -/
theorem splitEntry?_eq_none (h : '=' ∉ entry.toList) : splitEntry? entry = none := by
  have hdrop : entry.toList.dropWhile (· != '=') = [] :=
    List.dropWhile_eq_nil_iff.2 (bne_of_notMem h)
  unfold splitEntry?
  simp only [hdrop]

/-- **An entry is split into what it assigns.** -/
theorem splitEntry?_eq_some_iff : splitEntry? entry = some (key, value) ↔ Assigns entry key value := by
  constructor
  · intro h
    by_cases hmem : '=' ∈ entry.toList
    · obtain ⟨before, after, heq, hbefore⟩ := List.eq_append_cons_of_mem hmem
      rw [splitEntry?_of_eq heq hbefore] at h
      obtain ⟨rfl, rfl⟩ := Prod.mk.inj (Option.some.inj h)
      exact ⟨before, after, heq, hbefore, String.toList_ofList, String.toList_ofList⟩
    · rw [splitEntry?_eq_none hmem] at h
      cases h
  · rintro ⟨before, after, heq, hbefore, hkey, hvalue⟩
    rw [splitEntry?_of_eq heq hbefore, ← hkey, ← hvalue, String.ofList_toList,
      String.ofList_toList]

instance (entry key value : String) : Decidable (Assigns entry key value) :=
  decidable_of_iff _ splitEntry?_eq_some_iff

/-- Whether no entry assigns to a key is found out by splitting them all. -/
theorem unassigned_iff : (∀ e ∈ entries, ∀ v, ¬ Assigns e key v) ↔
    key ∉ (entries.filterMap splitEntry?).map Prod.fst := by
  simp only [← splitEntry?_eq_some_iff]
  constructor
  · intro h hmem
    obtain ⟨⟨_, value⟩, hassigned, rfl⟩ := List.mem_map.1 hmem
    obtain ⟨e, he, hsplit⟩ := List.mem_filterMap.1 hassigned
    exact h e he value hsplit
  · intro h e he value hsplit
    exact h (List.mem_map.2 ⟨(key, value), List.mem_filterMap.2 ⟨e, he, hsplit⟩, rfl⟩)

/-- An entry with `=` can be split. -/
theorem exists_split (h : '=' ∈ entry.toList) :
    ∃ key value, splitEntry? entry = some (key, value) := by
  obtain ⟨before, after, heq, hbefore⟩ := List.eq_append_cons_of_mem h
  exact ⟨_, _, splitEntry?_of_eq heq hbefore⟩

/-! ### Many entries -/

/-- **Entries that all have an `=` are put on top one after another.** -/
theorem addEntries_eq_ok (m : KeyMap String) (h : ∀ e ∈ entries, '=' ∈ e.toList) :
    addEntries m entries = .ok (m.insertAll (entries.filterMap splitEntry?)) := by
  induction entries generalizing m with
  | nil => rfl
  | cons entry rest ih =>
    obtain ⟨hentry, hrest⟩ := List.forall_mem_cons.1 h
    obtain ⟨key, value, hsplit⟩ := exists_split hentry
    rw [addEntries, hsplit, List.filterMap_cons_some hsplit]
    exact ih (m.insert key value) hrest

/-- **The first entry without an `=` is the one that is named**, whatever follows it. -/
theorem addEntries_eq_error (m : KeyMap String) (h : ∀ e ∈ earlier, '=' ∈ e.toList)
    (hentry : '=' ∉ entry.toList) (later : List String) :
    addEntries m (earlier ++ entry :: later) = .error (.malformedEntry entry) := by
  induction earlier generalizing m with
  | nil => rw [List.nil_append, addEntries, splitEntry?_eq_none hentry]
  | cons first rest ih =>
    obtain ⟨hfirst, hrest⟩ := List.forall_mem_cons.1 h
    obtain ⟨key, value, hsplit⟩ := exists_split hfirst
    rw [List.cons_append, addEntries, hsplit]
    exact ih (m.insert key value) hrest

/-- A key that no entry assigns to is not found among the assignments. -/
theorem lookup_of_unassigned (h : ∀ e ∈ entries, ∀ v, ¬ Assigns e key v) :
    (entries.filterMap splitEntry?).reverse.lookup key = none := by
  refine KeyMap.lookup_eq_none fun e he hkey => unassigned_iff.1 h ?_
  rw [← hkey]
  exact List.mem_map_of_mem (List.mem_reverse.1 he)

/-- A key that no entry assigns keeps what it had. -/
theorem get?_insertAll_of_unassigned (m : KeyMap String)
    (h : ∀ e ∈ entries, ∀ v, ¬ Assigns e key v) :
    (m.insertAll (entries.filterMap splitEntry?)).get? key = m.get? key := by
  rw [KeyMap.get?_insertAll, lookup_of_unassigned h, Option.none_or]

/-- **The last entry for a key counts.** -/
theorem get?_insertAll_of_lastAssigns (m : KeyMap String) (h : LastAssigns entries key value) :
    (m.insertAll (entries.filterMap splitEntry?)).get? key = some value := by
  obtain ⟨earlier, entry, later, rfl, hentry, hlater⟩ := h
  have hsplit := splitEntry?_eq_some_iff.2 hentry
  rw [KeyMap.get?_insertAll, List.filterMap_append, List.filterMap_cons_some hsplit,
    List.reverse_append, List.reverse_cons, List.append_assoc, List.lookup_append,
    lookup_of_unassigned hlater, Option.none_or, List.singleton_append, KeyMap.lookup_cons,
    if_pos rfl, Option.some_or]

/-- Entries that assign apart make assignments to distinct keys. -/
theorem distinct_assignments (h : entries.Pairwise AssignApart) :
    KeyMap.Distinct (entries.filterMap splitEntry?) := by
  refine List.Pairwise.filterMap splitEntry? ?_ h
  intro entry other hapart a ha b hb heq
  have hother : splitEntry? other = some (a.1, b.2) := by rw [hb, heq]
  exact hapart a.1 a.2 b.2 (splitEntry?_eq_some_iff.1 ha) (splitEntry?_eq_some_iff.1 hother)

namespace Settings

variable {s : Settings} {source : TextSource} {fromFile : KeyMap String}

/-! ### The properties of a job -/

/-- A file that cannot be read leaves nothing but its error. -/
theorem value_freeProperties_of_unreadable {path : String} {cause : Properties.UnreadableFile}
    (hpath : s.propertiesPath = some path)
    (hload : (Properties.load source path).value = .error cause) :
    (s.freeProperties source).value = .error (.unreadableFile cause) := by
  simp only [freeProperties, fileProperties, hpath, hload]
  rfl

/-- Once the file is read, the entries of the job are added to it. -/
theorem FileGives.value_freeProperties (h : s.FileGives source fromFile) :
    (s.freeProperties source).value = addEntries fromFile s.properties := by
  unfold FileGives at h
  cases hpath : s.propertiesPath with
  | none =>
    rw [hpath] at h
    simp only [freeProperties, fileProperties, hpath, h]
  | some path =>
    rw [hpath] at h
    simp only [freeProperties, fileProperties, hpath, h]
    rfl

/-- A job with its own entries in another order has the same properties, if they assign apart. -/
theorem freeProperties_of_perm (source : TextSource) {reordered : List String}
    (hperm : reordered.Perm s.properties) (hall : ∀ e ∈ s.properties, '=' ∈ e.toList)
    (hapart : s.properties.Pairwise AssignApart) :
    { s with properties := reordered }.freeProperties source = s.freeProperties source := by
  have hadd : ∀ m, addEntries m reordered = addEntries m s.properties := by
    intro m
    have hall' : ∀ e ∈ reordered, '=' ∈ e.toList := fun e he => hall e (hperm.mem_iff.1 he)
    have hsame := KeyMap.insertAll_perm m (distinct_assignments hapart)
      (hperm.symm.filterMap splitEntry?)
    rw [addEntries_eq_ok m hall', addEntries_eq_ok m hall, hsame]
  simp only [freeProperties, fileProperties, hadd]

/-- **Of a job's own entries the last one for a key counts, over what its file gives.** A file that
cannot be loaded is reported first, then the first entry that has no `=`. Otherwise every key has what
the last entry for it assigns, and a key that no entry assigns to has what the file gives. The order
does not matter for entries that assign apart. -/
theorem freeProperties_last_entry_counts (s : Settings) (source : TextSource) :
    (∀ path cause, s.propertiesPath = some path →
      (Properties.load source path).value = .error cause →
        (s.freeProperties source).value = .error (.unreadableFile cause)) ∧
    (∀ fromFile, s.FileGives source fromFile →
      (∀ earlier entry later, s.properties = earlier ++ entry :: later →
        (∀ e ∈ earlier, '=' ∈ e.toList) → '=' ∉ entry.toList →
          (s.freeProperties source).value = .error (.malformedEntry entry)) ∧
      ((∀ e ∈ s.properties, '=' ∈ e.toList) →
        ∃ free, (s.freeProperties source).value = .ok free ∧
          ∀ key, (∀ value, LastAssigns s.properties key value → free.get? key = some value) ∧
            ((∀ e ∈ s.properties, ∀ value, ¬ Assigns e key value) →
              free.get? key = fromFile.get? key))) ∧
    (∀ entry, (SettingsError.malformedEntry entry).chain =
      ["Invalid --hoodie-conf entry '" ++ entry ++ "', expected KEY=VALUE"]) ∧
    ∀ reordered : List String, reordered.Perm s.properties →
      (∀ e ∈ s.properties, '=' ∈ e.toList) → s.properties.Pairwise AssignApart →
        { s with properties := reordered }.freeProperties source = s.freeProperties source := by
  refine ⟨fun path cause => value_freeProperties_of_unreadable, fun fromFile hfile => ⟨?_, ?_⟩,
    fun entry => rfl, fun reordered => freeProperties_of_perm source⟩
  · intro earlier entry later hentries hearlier hentry
    rw [hfile.value_freeProperties, hentries]
    exact addEntries_eq_error fromFile hearlier hentry later
  · intro hall
    refine ⟨_, hfile.value_freeProperties.trans (addEntries_eq_ok fromFile hall), fun key => ?_⟩
    exact ⟨fun value => get?_insertAll_of_lastAssigns fromFile,
      get?_insertAll_of_unassigned fromFile⟩

/-- A key that the file gives and two entries give again, and a value with an `=` in it. -/
theorem freeProperties_last_entry_counts_sample :
    let s := { Settings.standard "/data/t" "t" with
      propertiesPath := some "t.properties", properties := ["a = 1", "b=2=3", " a=4 "] }
    let source : TextSource := fun _ => .ok "a=0\nc=5"
    ∃ free, (s.freeProperties source).value = .ok free ∧ free.get? "a" = some "4" ∧
      free.get? "b" = some "2=3" ∧ free.get? "c" = some "5" := by
  intro s source
  have hfile : s.FileGives source (Properties.read "a=0\nc=5").value := rfl
  have hall : ∀ e ∈ s.properties, '=' ∈ e.toList := by decide
  obtain ⟨free, hfree, hkey⟩ :=
    ((freeProperties_last_entry_counts s source).2.1 _ hfile).2 hall
  have ha : LastAssigns s.properties "a" "4" :=
    ⟨["a = 1", "b=2=3"], " a=4 ", [], rfl, by decide +kernel, by simp⟩
  have hb : LastAssigns s.properties "b" "2=3" :=
    ⟨["a = 1"], "b=2=3", [" a=4 "], rfl, by decide +kernel, unassigned_iff.2 (by decide +kernel)⟩
  have hc : ∀ e ∈ s.properties, ∀ v, ¬ Assigns e "c" v := unassigned_iff.2 (by decide +kernel)
  refine ⟨free, hfree, (hkey "a").1 "4" ha, (hkey "b").1 "2=3" hb, ?_⟩
  rw [(hkey "c").2 hc]
  decide +kernel

end Settings

end TableOptions.Streamer
