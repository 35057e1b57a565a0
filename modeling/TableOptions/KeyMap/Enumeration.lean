import TableOptions.KeyMap.Lemmas

/-!
# Maps from entries in any order

Entries whose keys are distinct can be put into a map in any order: `insertAll_perm` says that the map
is the same, and `ofList_of_perm` that a map is got back from its entries however they are walked.
`size_insertAll` counts: each of the entries is new, or takes the place of one that was there.
-/

namespace TableOptions

namespace KeyMap

variable {α β : Type}

/-- No two entries have the same key. -/
def Distinct (list : List (String × α)) : Prop := list.Pairwise fun a b => a.1 ≠ b.1

/-- The entries of a map have pairwise distinct keys. -/
theorem distinct_entries (m : KeyMap α) : Distinct m.entries := by
  refine List.Pairwise.imp ?_ m.sorted
  intro a b hlt heq
  rw [heq] at hlt
  exact String.lt_irrefl _ hlt

/-- Pairwise distinct keys do not depend on the order of the entries. -/
theorem Distinct.perm {l₁ l₂ : List (String × α)} (h : l₁.Perm l₂) (hd : Distinct l₁) :
    Distinct l₂ :=
  (h.pairwise_iff fun hne heq => hne heq.symm).1 hd

/-- No key occurs twice among pairwise distinct ones. -/
theorem Distinct.nodup_keys {list : List (String × α)} (hd : Distinct list) :
    (list.map Prod.fst).Nodup :=
  List.pairwise_map.2 hd

/-- Distinct keys stay distinct where equal new keys come from equal old ones. -/
theorem Distinct.filterMap {list : List (String × α)} (hd : Distinct list)
    {f : String × α → Option (String × β)}
    (hf : ∀ a b a' b', f a = some a' → f b = some b' → a'.1 = b'.1 → a.1 = b.1) :
    Distinct (list.filterMap f) := by
  refine List.Pairwise.filterMap f ?_ hd
  intro a b hne a' ha b' hb heq
  exact hne (hf a b a' b' ha hb heq)

/-! ### Lookups -/

/-- Among distinct keys an entry is found whatever stands before it. -/
theorem Distinct.lookup_eq_some_iff {list : List (String × α)} (hd : Distinct list) (k : String)
    (v : α) : list.lookup k = some v ↔ (k, v) ∈ list := by
  constructor
  · exact mem_of_lookup_eq_some
  · intro hmem
    induction list with
    | nil => exact absurd hmem List.not_mem_nil
    | cons head rest ih =>
      obtain ⟨hhead, hrest⟩ := List.pairwise_cons.1 hd
      rw [lookup_cons]
      rcases List.mem_cons.1 hmem with rfl | htail
      · rw [if_pos rfl]
      · rw [if_neg (hhead _ htail).symm]
        exact ih hrest htail

/-- With pairwise distinct keys, a lookup does not depend on the order of the entries. -/
theorem Distinct.lookup_perm {l₁ l₂ : List (String × α)} (hd : Distinct l₁) (h : l₁.Perm l₂)
    (k : String) : l₁.lookup k = l₂.lookup k := by
  apply Option.ext
  intro v
  rw [hd.lookup_eq_some_iff, (hd.perm h).lookup_eq_some_iff, h.mem_iff]

/-- With distinct keys no entry hides another. -/
theorem get?_insertAll_of_distinct (m : KeyMap α) {list : List (String × α)} (hd : Distinct list)
    (k : String) : (m.insertAll list).get? k = (list.lookup k).or (m.get? k) := by
  have hreverse : list.Perm list.reverse := (List.reverse_perm list).symm
  rw [get?_insertAll, hd.lookup_perm hreverse]

/-- **The order does not matter** in which entries with distinct keys are put into a map. -/
theorem insertAll_perm (m : KeyMap α) {l₁ l₂ : List (String × α)} (hd : Distinct l₁)
    (h : l₁.Perm l₂) : m.insertAll l₁ = m.insertAll l₂ := by
  ext k : 1
  rw [get?_insertAll_of_distinct m hd, get?_insertAll_of_distinct m (hd.perm h), hd.lookup_perm h]

/-- A map is got back from its entries in any order. -/
theorem ofList_of_perm {list : List (String × α)} {m : KeyMap α} (h : list.Perm m.entries) :
    ofList list = m := by
  have hd : Distinct list := m.distinct_entries.perm h.symm
  rw [ofList, insertAll_perm empty hd h]
  exact ofList_entries m

/-- In an overlay the upper map is asked first. -/
theorem get?_overlay (m n : KeyMap α) (k : String) :
    (m.overlay n).get? k = (n.get? k).or (m.get? k) :=
  get?_insertAll_of_distinct m n.distinct_entries k

/-- A map laid over another is the list that it was made of, put in entry by entry. -/
theorem overlay_ofList (m : KeyMap α) (list : List (String × α)) :
    m.overlay (ofList list) = m.insertAll list := by
  ext k : 1
  rw [get?_overlay, get?_ofList, get?_insertAll]

/-- Groups of entries are put in one after another, each as a map of its own. -/
theorem insertAll_flatMap {ι : Type} (m : KeyMap α) (f : ι → List (String × α)) (list : List ι) :
    m.insertAll (list.flatMap f) = list.foldl (fun sofar i => sofar.overlay (ofList (f i))) m := by
  induction list generalizing m with
  | nil => rfl
  | cons i rest ih =>
    have happend : m.insertAll (f i ++ rest.flatMap f) =
        (m.insertAll (f i)).insertAll (rest.flatMap f) := List.foldl_append
    rw [List.flatMap_cons, List.foldl_cons, happend, overlay_ofList, ih]

/-! ### Membership and size -/

/-- A map contains the keys that it lists. -/
theorem contains_iff_mem_keys (m : KeyMap α) (k : String) : m.contains k = true ↔ k ∈ m.keys := by
  rw [contains, Option.isSome_iff_exists, keys, List.mem_map]
  constructor
  · rintro ⟨v, hv⟩
    exact ⟨(k, v), (get?_eq_some_iff m k v).1 hv, rfl⟩
  · rintro ⟨⟨k', v⟩, hmem, rfl⟩
    exact ⟨v, (get?_eq_some_iff m k' v).2 hmem⟩

/-- A map lists no key twice. -/
theorem nodup_keys (m : KeyMap α) : m.keys.Nodup := m.distinct_entries.nodup_keys

/-- After an insertion, the new key is there and so is what was there before. -/
theorem contains_insert (m : KeyMap α) (key : String) (value : α) (k : String) :
    (m.insert key value).contains k = (k == key || m.contains k) := by
  rw [contains, get?_insert, contains]
  by_cases hk : k = key
  · simp [hk]
  · simp [hk]

/-- An insertion changes nothing about the entries of other keys. -/
theorem filter_contains_insert (m : KeyMap α) {key : String} (value : α)
    {list : List (String × β)} (h : ∀ e ∈ list, key ≠ e.1) :
    (list.filter fun e => (m.insert key value).contains e.1) =
      list.filter fun e => m.contains e.1 := by
  refine List.filter_congr fun e he => ?_
  rw [contains_insert, beq_eq_false_iff_ne.2 (h e he).symm, Bool.false_or]

/-- Placing an entry makes a sorted list longer exactly when its key is new. -/
theorem length_place (key : String) (value : α) {list : List (String × α)}
    (h : list.Pairwise fun a b => a.1 < b.1) :
    (place key value list).length =
      if (list.lookup key).isSome then list.length else list.length + 1 := by
  induction list with
  | nil => rfl
  | cons head rest ih =>
    obtain ⟨hhead, hrest⟩ := List.pairwise_cons.1 h
    unfold place
    rw [lookup_cons]
    split
    · rename_i hlt
      have hne : key ≠ head.1 := fun heq => String.lt_irrefl _ (heq ▸ hlt)
      have hnone : rest.lookup key = none := lookup_eq_none fun e he hek =>
        String.lt_irrefl key (String.lt_trans hlt (hek ▸ hhead e he))
      simp [hne, hnone]
    · split
      · rename_i hlt
        have hne : key ≠ head.1 := fun heq => String.lt_irrefl _ (heq ▸ hlt)
        rw [if_neg hne, List.length_cons, ih hrest]
        split
        · rfl
        · rfl
      · rename_i hnl hnr
        have heq := eq_of_not_lt hnl hnr
        simp [heq]

/-- An insertion counts exactly when its key is new. -/
theorem size_insert (m : KeyMap α) (key : String) (value : α) :
    (m.insert key value).size = if m.contains key then m.size else m.size + 1 :=
  length_place key value m.sorted

/-- **What entries add to a map**: each one counts, unless its key was there. -/
theorem size_insertAll (m : KeyMap α) {list : List (String × α)} (hd : Distinct list) :
    (m.insertAll list).size + (list.filter fun e => m.contains e.1).length =
      m.size + list.length := by
  induction list generalizing m with
  | nil => rfl
  | cons head rest ih =>
    obtain ⟨hhead, hrest⟩ := List.pairwise_cons.1 hd
    have hstep : m.insertAll (head :: rest) = (m.insert head.1 head.2).insertAll rest := rfl
    have hsame := filter_contains_insert m head.2 hhead
    have hrec := ih (m.insert head.1 head.2) hrest
    rw [hsame, size_insert] at hrec
    rw [hstep, List.length_cons]
    by_cases hcontains : m.contains head.1 = true
    · rw [if_pos hcontains] at hrec
      rw [List.filter_cons, if_pos hcontains, List.length_cons]
      omega
    · rw [if_neg hcontains] at hrec
      rw [List.filter_cons, if_neg hcontains]
      omega

/-- A map of distinct keys has as many as there are entries. -/
theorem size_ofList {list : List (String × α)} (hd : Distinct list) :
    (ofList list).size = list.length := by
  have hsize := size_insertAll empty hd
  have hnone : (list.filter fun e => (empty : KeyMap α).contains e.1) = [] :=
    List.filter_eq_nil_iff.2 fun e _ => Bool.false_ne_true
  rw [hnone] at hsize
  have hempty : (empty : KeyMap α).size = 0 := rfl
  rw [hempty, Nat.zero_add] at hsize
  exact hsize

end KeyMap

end TableOptions
