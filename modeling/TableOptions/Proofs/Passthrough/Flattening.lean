import TableOptions.Proofs.Changes.Entries
import TableOptions.Proofs.Passthrough.Selection

/-!
# Flattening in any order

Flattening is a merge in which unwrapped entries win: `get?_flatten` says what it holds at a key,
`mem_warnings_flatten` which plain entries it hides, and `size_flatten` that nothing else is lost.

A `Walk` does the same work entry by entry, in two loops over maps whose entries come in any order,
the second of which asks what the first one has left. Its result does not depend on these orders
(`Walk.value_result`, `Walk.warnings_result`): within a loop no two entries meet at one key, and what
the second loop asks for at a key nothing but the first one has written.
-/

namespace TableOptions.Configuration

/-! ### What flattening holds -/

variable (conf : Configuration)

/-- The plain entries are those of the keys without a mark. -/
theorem get?_plainEntries (key : String) :
    conf.plainEntries.get? key =
      if Marked passthroughMark key then none else (conf.get? key).map Value.text := by
  rw [plainEntries, KeyMap.get?_filter, toMap, KeyMap.get?_mapValues]
  by_cases hmarked : Marked passthroughMark key
  · have hnone : (unmark? passthroughMark key).isNone = false :=
      Bool.eq_false_iff.2 fun h => isNone_unmark?_iff.1 h hmarked
    rw [if_pos hmarked, hnone]
    cases conf.get? key <;> rfl
  · have hnone : (unmark? passthroughMark key).isNone = true := isNone_unmark?_iff.2 hmarked
    rw [if_neg hmarked, hnone]
    cases conf.get? key <;> rfl

/-- The unwrapped entries are those of the marked keys, without the mark. -/
theorem get?_unwrappedEntries (key : String) :
    conf.unwrappedEntries.get? key = (conf.get? (passthroughMark ++ key)).map Value.text := by
  rw [unwrappedEntries, get?_selectMarked, toMap, KeyMap.get?_mapValues]

/-- **The passthrough value wins**, at every key. -/
theorem get?_flatten (key : String) :
    conf.flatten.value.get? key =
      match conf.get? (passthroughMark ++ key) with
      | some stored => some (.string stored.text)
      | none =>
        if Marked passthroughMark key then none
        else (conf.get? key).map fun stored => .string stored.text := by
  rw [flatten]
  dsimp only
  rw [get?_ofMap, KeyMap.get?_overlay, get?_unwrappedEntries, get?_plainEntries]
  cases conf.get? (passthroughMark ++ key) with
  | some stored => rfl
  | none =>
    rw [Option.map_none, Option.none_or]
    dsimp only
    split
    · rfl
    · rw [Option.map_map]
      rfl

/-! ### What it hides -/

/-- A key is plain when it is stored and not marked. -/
theorem contains_plainEntries (key : String) :
    conf.plainEntries.contains key = true ↔
      ¬ Marked passthroughMark key ∧ conf.contains key = true := by
  rw [KeyMap.contains, get?_plainEntries, KeyMap.contains]
  by_cases hmarked : Marked passthroughMark key
  · simp [hmarked]
  · simp [hmarked]

/-- A key is unwrapped when it is stored behind a mark. -/
theorem contains_unwrappedEntries (key : String) :
    conf.unwrappedEntries.contains key = conf.contains (passthroughMark ++ key) := by
  rw [KeyMap.contains, get?_unwrappedEntries, Option.isSome_map, KeyMap.contains]

/-- There is a warning for each unwrapped key that hides a plain one, in the order of the keys. -/
theorem warnings_flatten :
    conf.flatten.warnings =
      (conf.unwrappedEntries.keys.filter conf.plainEntries.contains).map Override.mk := rfl

/-- **The hidden keys** are the plain ones that are there with the mark, too. -/
theorem mem_warnings_flatten (key : String) :
    ⟨key⟩ ∈ conf.flatten.warnings ↔
      ¬ Marked passthroughMark key ∧ conf.contains key = true ∧
        conf.contains (passthroughMark ++ key) = true := by
  rw [warnings_flatten, ← contains_unwrappedEntries,
    KeyMap.contains_iff_mem_keys conf.unwrappedEntries]
  simp only [List.mem_map, List.mem_filter, contains_plainEntries, Override.mk.injEq]
  constructor
  · rintro ⟨key', ⟨hmem, hplain, hcontains⟩, rfl⟩
    exact ⟨hplain, hcontains, hmem⟩
  · rintro ⟨hplain, hcontains, hmem⟩
    exact ⟨key, ⟨hmem, hplain, hcontains⟩, rfl⟩

/-- No key is warned about twice. -/
theorem nodup_warnings_flatten : conf.flatten.warnings.Nodup := by
  rw [warnings_flatten, List.Nodup, List.pairwise_map]
  refine (List.Pairwise.filter _ conf.unwrappedEntries.nodup_keys).imp ?_
  intro key key' hne heq
  exact hne (Override.mk.inj heq)

/-! ### What is left -/

/-- The plain entries are the stored ones without a mark. -/
theorem size_plainEntries :
    conf.plainEntries.size = conf.toMap.entries.countP fun e => (unmark? passthroughMark e.1).isNone :=
  List.countP_eq_length_filter.symm

/-- An entry is plain or will be unwrapped. -/
theorem size_plainEntries_add : conf.plainEntries.size + conf.unwrappedEntries.size = conf.size := by
  have hsize : conf.toMap.entries.length = conf.size := List.length_map _
  have hcount := List.length_eq_countP_add_countP
    (fun e : String × String => (unmark? passthroughMark e.1).isSome) (l := conf.toMap.entries)
  have hplain : (fun e : String × String => decide ¬ (unmark? passthroughMark e.1).isSome = true) =
      fun e => (unmark? passthroughMark e.1).isNone := by
    funext e
    cases unmark? passthroughMark e.1 <;> rfl
  rw [hplain] at hcount
  rw [size_plainEntries, unwrappedEntries, size_selectMarked, ← hsize, hcount, Nat.add_comm]

/-- **Nothing is lost** but what is hidden. -/
theorem size_flatten : conf.flatten.value.size + conf.flatten.warnings.length = conf.size := by
  have hvalue : conf.flatten.value.size =
      (conf.plainEntries.insertAll conf.unwrappedEntries.entries).size := List.length_map _
  have hwarnings : conf.flatten.warnings.length =
      (conf.unwrappedEntries.entries.filter fun e => conf.plainEntries.contains e.1).length := by
    rw [warnings_flatten, KeyMap.keys, List.filter_map, List.length_map, List.length_map]
    rfl
  have hadded := KeyMap.size_insertAll conf.plainEntries conf.unwrappedEntries.distinct_entries
  have hall := conf.size_plainEntries_add
  have hunwrapped : conf.unwrappedEntries.entries.length = conf.unwrappedEntries.size := rfl
  omega

variable {conf}

/-! ### Flattening entry by entry -/

/-- Puts the entries without the passthrough mark into a map, one after another. -/
def putPlain : KeyMap String → List (String × String) → KeyMap String
  | flat, [] => flat
  | flat, (key, text) :: rest =>
    if (unmark? passthroughMark key).isSome then putPlain flat rest
    else putPlain (flat.insert key text) rest

/-- Puts entries into a map, one after another, with a warning where a key is there already. -/
def putUnwrapped : KeyMap String → List (String × String) → Warned Override (KeyMap String)
  | flat, [] => ⟨flat, []⟩
  | flat, (key, text) :: rest =>
    let next := putUnwrapped (flat.insert key text) rest
    ⟨next.value, (if flat.contains key then [⟨key⟩] else []) ++ next.warnings⟩

/-- The orders in which one run of flattening goes through the maps that it builds and reads: the
stored values when they are turned to texts, the texts in the loop over plain entries and again when
the marked ones are selected, the selection in the loop that unwraps, and the outcome when it is
copied to a configuration. -/
structure Walk (conf : Configuration) where
  stored : List (String × Value)
  stored_perm : stored.Perm conf.entries
  texts : List (String × String)
  texts_perm : texts.Perm (KeyMap.ofList (stored.map fun e => (e.1, e.2.text))).entries
  candidates : List (String × String)
  candidates_perm : candidates.Perm (KeyMap.ofList (stored.map fun e => (e.1, e.2.text))).entries
  unwrapped : List (String × String)
  unwrapped_perm : unwrapped.Perm
    (KeyMap.ofList (candidates.filterMap (unmarkPair? passthroughMark))).entries
  merged : List (String × String)
  merged_perm : merged.Perm (putUnwrapped (putPlain KeyMap.empty texts) unwrapped).value.entries

namespace Walk

/-- The outcome of a run. -/
def result (walk : Walk conf) : Warned Override Configuration :=
  ⟨ofTexts walk.merged, (putUnwrapped (putPlain KeyMap.empty walk.texts) walk.unwrapped).warnings⟩

/-- The walk through every map in ascending order of its keys. -/
def ascending (conf : Configuration) : Walk conf where
  stored := _
  stored_perm := .refl _
  texts := _
  texts_perm := .refl _
  candidates := _
  candidates_perm := .refl _
  unwrapped := _
  unwrapped_perm := .refl _
  merged := _
  merged_perm := .refl _

instance : Inhabited (Walk conf) := ⟨ascending conf⟩

end Walk

/-! ### The loops -/

/-- The first loop writes the plain entries and nothing else. -/
theorem putPlain_eq_insertAll (flat : KeyMap String) (list : List (String × String)) :
    putPlain flat list =
      flat.insertAll (list.filter fun e => (unmark? passthroughMark e.1).isNone) := by
  induction list generalizing flat with
  | nil => rfl
  | cons head rest ih =>
    rw [putPlain]
    cases hmark : unmark? passthroughMark head.1 with
    | some key =>
      rw [Option.isSome_some, if_pos rfl, ih, List.filter_cons, hmark, Option.isNone_some,
        if_neg Bool.false_ne_true]
    | none =>
      rw [Option.isSome_none, if_neg Bool.false_ne_true, ih, List.filter_cons, hmark,
        Option.isNone_none, if_pos rfl]
      rfl

/-- The second loop writes every entry that it goes through. -/
theorem value_putUnwrapped (flat : KeyMap String) (list : List (String × String)) :
    (putUnwrapped flat list).value = flat.insertAll list := by
  induction list generalizing flat with
  | nil => rfl
  | cons head rest ih => exact ih (flat.insert head.1 head.2)

/-- What the second loop warns of was there before it began, for it meets no key twice. -/
theorem warnings_putUnwrapped (flat : KeyMap String) {list : List (String × String)}
    (hd : KeyMap.Distinct list) :
    (putUnwrapped flat list).warnings =
      (list.filter fun e => flat.contains e.1).map fun e => ⟨e.1⟩ := by
  induction list generalizing flat with
  | nil => rfl
  | cons head rest ih =>
    obtain ⟨hhead, hrest⟩ := List.pairwise_cons.1 hd
    have hnext := ih (flat.insert head.1 head.2) hrest
    rw [KeyMap.filter_contains_insert flat head.2 hhead] at hnext
    rw [putUnwrapped]
    dsimp only
    rw [hnext, List.filter_cons]
    split
    · rfl
    · rfl

/-! ### The outcome of a run -/

namespace Walk

variable (walk : Walk conf)

/-- In whatever order the stored values are turned to texts, the texts are the same. -/
theorem ofList_stored : KeyMap.ofList (walk.stored.map fun e => (e.1, e.2.text)) = conf.toMap :=
  KeyMap.ofList_of_perm (walk.stored_perm.map _)

/-- **In whatever order the first loop goes, it writes the plain entries.** -/
theorem putPlain_texts : putPlain KeyMap.empty walk.texts = conf.plainEntries := by
  have hperm := walk.texts_perm
  rw [ofList_stored] at hperm
  rw [putPlain_eq_insertAll]
  exact KeyMap.ofList_of_perm (hperm.filter _)

/-- What the second loop goes through is the unwrapped entries in some order. -/
theorem perm_unwrapped : walk.unwrapped.Perm conf.unwrappedEntries.entries := by
  have hperm := walk.candidates_perm
  rw [ofList_stored] at hperm
  have hselected := ofList_filterMap_unmarkPair? passthroughMark conf.toMap hperm
  have hunwrapped := walk.unwrapped_perm
  rw [hselected] at hunwrapped
  exact hunwrapped

/-- The second loop meets no key twice. -/
theorem distinct_unwrapped : KeyMap.Distinct walk.unwrapped :=
  conf.unwrappedEntries.distinct_entries.perm walk.perm_unwrapped.symm

/-- **Every run ends in the same configuration.** -/
theorem value_result : walk.result.value = conf.flatten.value := by
  have hmerged := walk.merged_perm
  rw [putPlain_texts, value_putUnwrapped,
    KeyMap.insertAll_perm _ walk.distinct_unwrapped walk.perm_unwrapped] at hmerged
  exact KeyMap.ofList_of_perm (hmerged.map _)

/-- **Every run gives the same warnings**, in an order of its own. -/
theorem warnings_result : walk.result.warnings.Perm conf.flatten.warnings := by
  have hwarnings : walk.result.warnings =
      (walk.unwrapped.filter fun e => conf.plainEntries.contains e.1).map fun e => ⟨e.1⟩ := by
    rw [result, putPlain_texts]
    exact warnings_putUnwrapped _ walk.distinct_unwrapped
  have hflatten : conf.flatten.warnings =
      (conf.unwrappedEntries.entries.filter fun e => conf.plainEntries.contains e.1).map
        fun e => ⟨e.1⟩ := by
    rw [warnings_flatten, KeyMap.keys, List.filter_map, List.map_map]
    rfl
  rw [hwarnings, hflatten]
  exact (walk.perm_unwrapped.filter _).map _

end Walk

/-- **Flattening is the merge in which the passthrough value wins**, in whatever order its loops go
through the maps. A key holds the text of what stands at the marked key; without that, a plain key
holds its own text, and a marked key nothing. There is one warning for each plain key that is hidden,
and as many entries are missing as there are warnings. Every run has this outcome. -/
theorem flatten_passthrough_wins (conf : Configuration) :
    (∀ key, conf.flatten.value.get? key =
      match conf.get? (passthroughMark ++ key) with
      | some stored => some (.string stored.text)
      | none =>
        if Marked passthroughMark key then none
        else (conf.get? key).map fun stored => .string stored.text) ∧
    (∀ key, conf.flatten.warnings.count ⟨key⟩ =
      if ¬ Marked passthroughMark key ∧ conf.contains key = true ∧
        conf.contains (passthroughMark ++ key) = true then 1 else 0) ∧
    (∀ key, (Override.mk key).message =
      "Passthrough property 'properties." ++ key ++ "' overrides '" ++ key ++ "'") ∧
    conf.flatten.value.size = conf.size - conf.flatten.warnings.length ∧
    conf.flatten.warnings.length ≤ conf.size ∧
    ∀ walk : Walk conf, walk.result.value = conf.flatten.value ∧
      walk.result.warnings.Perm conf.flatten.warnings := by
  have hsize := conf.size_flatten
  refine ⟨conf.get?_flatten, ?_, fun key => rfl, by omega, by omega, ?_⟩
  · intro key
    rw [conf.nodup_warnings_flatten.count]
    simp only [mem_warnings_flatten]
  · intro walk
    exact ⟨walk.value_result, walk.warnings_result⟩

end TableOptions.Configuration
