import TableOptions.KeyMap.Enumeration
import TableOptions.Passthrough

/-!
# Selecting marked keys

Taking a mark off a key undoes putting it in front (`unmark?_eq_some_iff`). Different keys therefore
stay different, and what a selection holds at a key is what the map holds at the marked key
(`get?_selectMarked`). It follows that selections compose (`selectMarked_selectMarked`).
-/

namespace TableOptions

/-- A key that begins with a mark. -/
def Marked (mark key : String) : Prop := mark.toList <+: key.toList

instance (mark key : String) : Decidable (Marked mark key) :=
  inferInstanceAs (Decidable (_ <+: _))

/-- A mark is taken off exactly the keys that begin with it. -/
theorem unmark?_eq_some_iff {mark key rest : String} :
    unmark? mark key = some rest ↔ key = mark ++ rest := by
  unfold unmark?
  constructor
  · intro h
    split at h
    · rename_i hbegins
      obtain rfl := Option.some.inj h
      have hlist := List.prefix_iff_eq_append.1 (List.isPrefixOf_iff_prefix.1 hbegins)
      apply String.ext
      rw [String.toList_append, String.toList_ofList, hlist]
    · cases h
  · rintro rfl
    have hbegins : mark.toList.isPrefixOf (mark ++ rest).toList = true := by
      rw [List.isPrefixOf_iff_prefix, String.toList_append]
      exact List.prefix_append _ _
    rw [if_pos hbegins, String.toList_append, List.drop_left, String.ofList_toList]

/-- The mark that was put before a key is taken off again. -/
theorem unmark?_append (mark rest : String) : unmark? mark (mark ++ rest) = some rest :=
  unmark?_eq_some_iff.2 rfl

/-- A mark is taken off when there is one. -/
theorem isSome_unmark?_iff {mark key : String} :
    (unmark? mark key).isSome = true ↔ Marked mark key := by
  unfold unmark? Marked
  rw [← List.isPrefixOf_iff_prefix]
  split
  · rename_i hbegins
    simp [hbegins]
  · rename_i hbegins
    simp [hbegins]

/-- No mark is taken off when there is none. -/
theorem isNone_unmark?_iff {mark key : String} :
    (unmark? mark key).isNone = true ↔ ¬ Marked mark key := by
  rw [← isSome_unmark?_iff]
  cases unmark? mark key with
  | none => simp
  | some rest => simp

/-- A marked key is a key behind the mark. -/
theorem marked_iff {mark key : String} : Marked mark key ↔ ∃ rest, key = mark ++ rest := by
  rw [← isSome_unmark?_iff, Option.isSome_iff_exists]
  simp only [unmark?_eq_some_iff]

/-- A key behind the mark is marked. -/
theorem marked_append (mark rest : String) : Marked mark (mark ++ rest) :=
  marked_iff.2 ⟨rest, rfl⟩

/-- What an entry contributes to a selection: the rest of its key with its text. -/
def unmarkPair? (mark : String) (e : String × String) : Option (String × String) :=
  (unmark? mark e.1).map fun key => (key, e.2)

/-- An entry without its mark keeps its text. -/
theorem unmarkPair?_eq_some_iff {mark : String} {e e' : String × String} :
    unmarkPair? mark e = some e' ↔ e = (mark ++ e'.1, e'.2) := by
  obtain ⟨key, text⟩ := e
  obtain ⟨key', text'⟩ := e'
  rw [unmarkPair?, Option.map_eq_some_iff]
  constructor
  · rintro ⟨rest, hrest, heq⟩
    obtain ⟨rfl, rfl⟩ := Prod.mk.inj heq
    obtain rfl : key = mark ++ rest := unmark?_eq_some_iff.1 hrest
    rfl
  · intro heq
    obtain ⟨rfl, rfl⟩ := Prod.mk.inj heq
    exact ⟨key', unmark?_append mark key', rfl⟩

/-- An entry is selected by its key alone. -/
theorem isSome_unmarkPair? (mark : String) (e : String × String) :
    (unmarkPair? mark e).isSome = (unmark? mark e.1).isSome :=
  Option.isSome_map

/-- **A selection is the marked entries without their mark.** -/
theorem selectMarked_eq (mark : String) (m : KeyMap String) :
    selectMarked mark m = KeyMap.ofList (m.entries.filterMap (unmarkPair? mark)) := rfl

/-- Keys that differ do so after the mark. -/
theorem distinct_filterMap_unmarkPair? (mark : String) {list : List (String × String)}
    (hd : KeyMap.Distinct list) : KeyMap.Distinct (list.filterMap (unmarkPair? mark)) := by
  refine hd.filterMap fun a b a' b' ha hb heq => ?_
  rw [unmarkPair?_eq_some_iff.1 ha, unmarkPair?_eq_some_iff.1 hb, heq]

/-- **A selection holds at a key what the map holds at the marked key.** -/
theorem get?_selectMarked (mark : String) (m : KeyMap String) (key : String) :
    (selectMarked mark m).get? key = m.get? (mark ++ key) := by
  have hd := distinct_filterMap_unmarkPair? mark m.distinct_entries
  apply Option.ext
  intro text
  rw [selectMarked_eq, KeyMap.ofList, KeyMap.get?_insertAll_of_distinct _ hd, KeyMap.get?_empty,
    Option.or_none, hd.lookup_eq_some_iff, KeyMap.get?_eq_some_iff, List.mem_filterMap]
  constructor
  · rintro ⟨e, hmem, he⟩
    rw [unmarkPair?_eq_some_iff.1 he] at hmem
    exact hmem
  · intro hmem
    exact ⟨(mark ++ key, text), hmem, unmarkPair?_eq_some_iff.2 rfl⟩

/-- The order in which a map is walked does not matter to what is selected from it. -/
theorem ofList_filterMap_unmarkPair? (mark : String) (m : KeyMap String)
    {list : List (String × String)} (h : list.Perm m.entries) :
    KeyMap.ofList (list.filterMap (unmarkPair? mark)) = selectMarked mark m := by
  have hd := distinct_filterMap_unmarkPair? mark (m.distinct_entries.perm h.symm)
  exact KeyMap.insertAll_perm KeyMap.empty hd (h.filterMap _)

/-- No two selected entries collide. -/
theorem size_selectMarked (mark : String) (m : KeyMap String) :
    (selectMarked mark m).size = m.entries.countP fun e => (unmark? mark e.1).isSome := by
  have hd := distinct_filterMap_unmarkPair? mark m.distinct_entries
  rw [selectMarked_eq, KeyMap.size_ofList hd, List.length_filterMap_eq_countP]
  simp only [isSome_unmarkPair?]

/-- As many are selected as there are keys with the mark. -/
theorem size_selectMarked_eq_countP_keys (mark : String) (m : KeyMap String) :
    (selectMarked mark m).size = m.keys.countP fun key => Marked mark key := by
  rw [size_selectMarked, KeyMap.keys, List.countP_map]
  refine List.countP_congr fun e _ => ?_
  rw [Function.comp_apply, decide_eq_true_iff]
  exact isSome_unmark?_iff

/-! ### One selection after another -/

/-- Two marks are taken off one after the other like the mark that they make together. -/
theorem selectMarked_selectMarked (mark further : String) (m : KeyMap String) :
    selectMarked further (selectMarked mark m) = selectMarked (mark ++ further) m := by
  ext key : 1
  rw [get?_selectMarked, get?_selectMarked, get?_selectMarked, String.append_assoc]

/-- The empty mark is on every key, and to take it off changes nothing. -/
theorem selectMarked_empty (m : KeyMap String) : selectMarked "" m = m := by
  ext key : 1
  rw [get?_selectMarked, String.empty_append]

/-- **A selection takes exactly the marked keys, and selections compose.** It holds a text at a key
exactly if the map holds it at the marked key. In whatever order the entries of the map are gone
through, no two of them meet at one key, and the outcome is the same; so as many entries are selected as
there are keys with the mark. Selecting by one mark and by another from what is left is selecting by
both, one behind the other, and the empty mark selects everything. -/
theorem selection_takes_marked_keys (mark : String) (m : KeyMap String) :
    (∀ key text, (selectMarked mark m).get? key = some text ↔ m.get? (mark ++ key) = some text) ∧
    (∀ walk : List (String × String), walk.Perm m.entries →
      KeyMap.Distinct (walk.filterMap (unmarkPair? mark)) ∧
      KeyMap.ofList (walk.filterMap (unmarkPair? mark)) = selectMarked mark m) ∧
    (selectMarked mark m).size = (m.keys.countP fun key => Marked mark key) ∧
    (∀ further, selectMarked further (selectMarked mark m) = selectMarked (mark ++ further) m) ∧
    selectMarked "" m = m := by
  refine ⟨?_, ?_, size_selectMarked_eq_countP_keys mark m,
    fun further => selectMarked_selectMarked mark further m, selectMarked_empty m⟩
  · intro key text
    rw [get?_selectMarked]
  · intro walk hwalk
    have hd := m.distinct_entries.perm hwalk.symm
    exact ⟨distinct_filterMap_unmarkPair? mark hd, ofList_filterMap_unmarkPair? mark m hwalk⟩

/-- A mark may overlap itself in a key, and may be all of it. -/
example : selectMarked "aa" (KeyMap.ofList [("aaa", "1"), ("aa", "2"), ("a", "3")]) =
    KeyMap.ofList [("a", "1"), ("", "2")] := by decide +kernel

end TableOptions
