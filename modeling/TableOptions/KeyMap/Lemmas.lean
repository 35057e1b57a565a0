import TableOptions.KeyMap.Basic

/-!
# Lookups in key maps

`get?_insert`, `get?_erase`, `get?_filter` and `get?_mapValues` say what each operation does to the
lookups; `KeyMap.ext` says that the lookups are all there is. `get?_insertAll` and `get?_ofList` say
that of several entries with one key the last one counts.
-/

namespace TableOptions

namespace KeyMap

variable {α β : Type}

@[simp] theorem get?_empty (key : String) : (empty : KeyMap α).get? key = none := rfl

/-- The first entry of a key is the one that counts. -/
theorem lookup_cons (head : String × α) (rest : List (String × α)) (k : String) :
    (head :: rest).lookup k = if k = head.1 then some head.2 else rest.lookup k := by
  obtain ⟨key, value⟩ := head
  rw [List.lookup_cons]
  by_cases hk : k = key
  · simp [hk]
  · simp [hk, beq_eq_false_iff_ne.2 hk]

/-- **A placed entry is found at its key**, and every other key keeps what it had. -/
theorem lookup_place (key : String) (value : α) (list : List (String × α)) (k : String) :
    (place key value list).lookup k = if k = key then some value else list.lookup k := by
  induction list with
  | nil => exact lookup_cons (key, value) [] k
  | cons head rest ih =>
    unfold place
    split
    · rw [lookup_cons (key, value)]
    · split
      · rename_i hlt
        rw [lookup_cons, lookup_cons, ih]
        have : k = head.1 → ¬ k = key := by
          rintro rfl h
          rw [h] at hlt
          exact String.lt_irrefl key hlt
        grind
      · rename_i hnl hnr
        have heq := eq_of_not_lt hnl hnr
        rw [lookup_cons, lookup_cons]
        grind

/-- An inserted value is found at its key, and nothing else changes. -/
theorem get?_insert (m : KeyMap α) (key : String) (value : α) (k : String) :
    (m.insert key value).get? k = if k = key then some value else m.get? k :=
  lookup_place key value m.entries k

/-- Values can be changed before or after they are looked up. -/
theorem lookup_map (f : α → β) (list : List (String × α)) (k : String) :
    (list.map fun e => (e.1, f e.2)).lookup k = (list.lookup k).map f := by
  induction list with
  | nil => rfl
  | cons head rest ih =>
    rw [List.map_cons, lookup_cons, lookup_cons, ih]
    split <;> rfl

/-- A lookup in a map with changed values gives the changed value. -/
@[simp] theorem get?_mapValues (m : KeyMap α) (f : α → β) (k : String) :
    (m.mapValues f).get? k = (m.get? k).map f :=
  lookup_map f m.entries k

/-- Nothing is found at a key that no entry has. -/
theorem lookup_eq_none {list : List (String × α)} {k : String}
    (h : ∀ e ∈ list, e.1 ≠ k) : list.lookup k = none := by
  induction list with
  | nil => rfl
  | cons head rest ih =>
    rw [lookup_cons, if_neg (h head (by simp)).symm]
    exact ih fun e he => h e (by simp [he])

/-- Among sorted entries, what a filter keeps is found and nothing else, since no other entry of the
key comes up behind the one that was dropped. -/
theorem lookup_filter {list : List (String × α)} (h : list.Pairwise fun a b => a.1 < b.1)
    (keep : String → α → Bool) (k : String) :
    (list.filter fun e => keep e.1 e.2).lookup k = (list.lookup k).filter (keep k) := by
  induction list with
  | nil => rfl
  | cons head rest ih =>
    obtain ⟨hhead, hrest⟩ := List.pairwise_cons.1 h
    by_cases hk : k = head.1
    · subst hk
      by_cases hkeep : keep head.1 head.2
      · simp [lookup_cons, hkeep, Option.filter]
      · have hnone : (rest.filter fun e => keep e.1 e.2).lookup head.1 = none :=
          lookup_eq_none fun e he hek => by
            have hlt := hhead e (List.mem_filter.1 he).1
            rw [hek] at hlt
            exact String.lt_irrefl _ hlt
        simp [lookup_cons, hkeep, hnone, Option.filter]
    · by_cases hkeep : keep head.1 head.2
      · simp [lookup_cons, hk, hkeep, ih hrest]
      · simp [lookup_cons, hk, hkeep, ih hrest]

/-- A filtered map gives the values that the filter keeps. -/
@[simp] theorem get?_filter (m : KeyMap α) (keep : String → α → Bool) (k : String) :
    (m.filter keep).get? k = (m.get? k).filter (keep k) :=
  lookup_filter m.sorted keep k

/-- An erased key is no longer found; the others are. -/
theorem get?_erase (m : KeyMap α) (key k : String) :
    (m.erase key).get? k = if k = key then none else m.get? k := by
  rw [erase, get?_filter]
  by_cases hk : k = key <;> cases m.get? k <;> simp [hk]

/-- An entry is what the lookup of its key finds. -/
theorem get?_eq_some_iff (m : KeyMap α) (k : String) (v : α) :
    m.get? k = some v ↔ (k, v) ∈ m.entries := by
  obtain ⟨list, h⟩ := m
  simp only [get?]
  induction list with
  | nil => simp
  | cons head rest ih =>
    obtain ⟨hhead, hrest⟩ := List.pairwise_cons.1 h
    by_cases hk : k = head.1
    · subst hk
      have hnot : (head.1, v) ∉ rest := fun hm => String.lt_irrefl head.1 (hhead (head.1, v) hm)
      simp only [lookup_cons, if_true, Option.some.injEq, List.mem_cons, hnot, or_false]
      constructor
      · rintro rfl; rfl
      · intro he; rw [← he]
    · have hnh : (k, v) ≠ head := fun he => hk (by rw [← he])
      simp [lookup_cons, hk, hnh, ih hrest]

/-- **Sorted lists with the same entries are the same list.** It goes along both lists at once: the
smaller of the two first keys would be missing in the other list. -/
theorem entries_eq_of_lookup_eq {l₁ l₂ : List (String × α)}
    (h₁ : l₁.Pairwise fun a b => a.1 < b.1) (h₂ : l₂.Pairwise fun a b => a.1 < b.1)
    (h : ∀ k v, (k, v) ∈ l₁ ↔ (k, v) ∈ l₂) : l₁ = l₂ := by
  induction l₁ generalizing l₂ with
  | nil =>
    cases l₂ with
    | nil => rfl
    | cons head rest => exact absurd ((h head.1 head.2).2 (by simp)) (by simp)
  | cons a r ih =>
    cases l₂ with
    | nil => exact absurd ((h a.1 a.2).1 (by simp)) (by simp)
    | cons b s =>
      obtain ⟨ha, hr⟩ := List.pairwise_cons.1 h₁
      obtain ⟨hb, hs⟩ := List.pairwise_cons.1 h₂
      have hab : a = b := by
        rcases List.mem_cons.1 ((h a.1 a.2).1 (by simp)) with he | he
        · exact he
        · rcases List.mem_cons.1 ((h b.1 b.2).2 (by simp)) with he' | he'
          · exact he'.symm
          · exact absurd (ha _ he') (String.lt_asymm (hb _ he))
      subst hab
      congr 1
      refine ih hr hs fun k v => ?_
      have hkv := h k v
      constructor
      · intro hm
        rcases List.mem_cons.1 (hkv.1 (by simp [hm])) with he | he
        · exact absurd (ha _ hm) (by rw [← he]; exact String.lt_irrefl _)
        · exact he
      · intro hm
        rcases List.mem_cons.1 (hkv.2 (by simp [hm])) with he | he
        · exact absurd (hb _ hm) (by rw [← he]; exact String.lt_irrefl _)
        · exact he

/-- **Extensionality.** Maps with the same lookups are the same. -/
@[ext] theorem ext {m n : KeyMap α} (h : ∀ k, m.get? k = n.get? k) : m = n := by
  have hentries : m.entries = n.entries :=
    entries_eq_of_lookup_eq m.sorted n.sorted fun k v => by
      rw [← get?_eq_some_iff, ← get?_eq_some_iff, h k]
  cases m; cases n; simpa using hentries

/-! ### Lists of entries -/

/-- Entries put in one after another: the last of a key counts, then what was there before. -/
theorem get?_insertAll (m : KeyMap α) (list : List (String × α)) (k : String) :
    (m.insertAll list).get? k = (list.reverse.lookup k).or (m.get? k) := by
  induction list generalizing m with
  | nil => rfl
  | cons head rest ih =>
    have hstep : m.insertAll (head :: rest) = (m.insert head.1 head.2).insertAll rest := rfl
    rw [hstep, ih, get?_insert, List.reverse_cons, List.lookup_append, lookup_cons head []]
    cases rest.reverse.lookup k with
    | some v => rfl
    | none => by_cases hk : k = head.1 <;> simp [hk]

/-- Of the entries of a list, the last one of a key is found. -/
theorem get?_ofList (list : List (String × α)) (k : String) :
    (ofList list).get? k = list.reverse.lookup k := by
  rw [ofList, get?_insertAll, get?_empty, Option.or_none]

/-- What is found stands in the list. -/
theorem mem_of_lookup_eq_some {list : List (String × α)} {k : String} {v : α}
    (h : list.lookup k = some v) : (k, v) ∈ list := by
  obtain ⟨before, after, heq, _⟩ := List.lookup_eq_some_iff.1 h
  rw [heq]
  exact List.mem_append_right _ (List.mem_cons_self ..)

/-- The entries of the map of a list come from the list. -/
theorem mem_of_mem_entries_ofList {list : List (String × α)} {e : String × α}
    (h : e ∈ (ofList list).entries) : e ∈ list := by
  have hget : (ofList list).get? e.1 = some e.2 := (get?_eq_some_iff _ _ _).2 h
  rw [get?_ofList] at hget
  exact List.mem_reverse.1 (mem_of_lookup_eq_some hget)

/-- Without repeated keys it does not matter from which side a list is searched. -/
theorem lookup_reverse {list : List (String × α)} (h : list.Pairwise fun a b => a.1 < b.1)
    (k : String) : list.reverse.lookup k = list.lookup k := by
  induction list with
  | nil => rfl
  | cons head rest ih =>
    obtain ⟨hhead, hrest⟩ := List.pairwise_cons.1 h
    rw [List.reverse_cons, List.lookup_append, ih hrest, lookup_cons head [], lookup_cons head rest]
    by_cases hk : k = head.1
    · have hnone : rest.lookup k = none := lookup_eq_none fun e he hek => by
        have hlt := hhead e he
        rw [hek, hk] at hlt
        exact String.lt_irrefl _ hlt
      rw [hnone, if_pos hk, if_pos hk]
      rfl
    · simp [hk]

/-- A map is the map of its entries. -/
theorem ofList_entries (m : KeyMap α) : ofList m.entries = m := by
  ext k : 1
  rw [get?_ofList, lookup_reverse m.sorted]
  rfl

end KeyMap

end TableOptions
