/-!
# Key maps

Finite maps whose keys are texts. The entries are held in ascending order of their keys (code point
by code point, which is also the order of their UTF-8 bytes), each key once. Two maps with the same
lookups are therefore the same map, and whatever walks a map does so in one order.
-/

namespace TableOptions

/-- A finite map from texts to `α`, its entries in ascending order of their keys. -/
structure KeyMap (α : Type) where
  entries : List (String × α)
  sorted : entries.Pairwise fun a b => a.1 < b.1

namespace KeyMap

variable {α β : Type}

/-! ### Entry lists -/

/-- Puts an entry at its place, where it replaces one of the same key. -/
def place (key : String) (value : α) : List (String × α) → List (String × α)
  | [] => [(key, value)]
  | entry :: rest =>
    if key < entry.1 then (key, value) :: entry :: rest
    else if entry.1 < key then entry :: place key value rest
    else (key, value) :: rest

/-- Of two keys that are not the same, one comes before the other. -/
theorem eq_of_not_lt {a b : String} (hab : ¬ a < b) (hba : ¬ b < a) : a = b :=
  String.le_antisymm (String.not_lt.1 hba) (String.not_lt.1 hab)

/-- Placing an entry adds no other entry. -/
theorem mem_place {key : String} {value : α} {entry : String × α} {list : List (String × α)}
    (h : entry ∈ place key value list) : entry = (key, value) ∨ entry ∈ list := by
  induction list with
  | nil => simpa [place] using h
  | cons head rest ih =>
    unfold place at h
    split at h
    · simpa using h
    · split at h
      · rcases List.mem_cons.1 h with h | h
        · simp [h]
        · rcases ih h with h | h <;> simp [h]
      · rcases List.mem_cons.1 h with h | h <;> simp [h]

/-- The keys stay strictly ascending when an entry is placed. -/
theorem sorted_place (key : String) (value : α) {list : List (String × α)}
    (h : list.Pairwise fun a b => a.1 < b.1) :
    (place key value list).Pairwise fun a b => a.1 < b.1 := by
  induction list with
  | nil => simp [place]
  | cons head rest ih =>
    obtain ⟨hhead, hrest⟩ := List.pairwise_cons.1 h
    unfold place
    split
    · rename_i hlt
      refine List.pairwise_cons.2 ⟨fun e he => ?_, h⟩
      rcases List.mem_cons.1 he with rfl | he
      · exact hlt
      · exact String.lt_trans hlt (hhead e he)
    · split
      · rename_i hlt
        refine List.pairwise_cons.2 ⟨fun e he => ?_, ih hrest⟩
        rcases mem_place he with rfl | he
        · exact hlt
        · exact hhead e he
      · rename_i hnl hnr
        have heq := eq_of_not_lt hnl hnr
        exact List.pairwise_cons.2 ⟨fun e he => by simpa [heq] using hhead e he, hrest⟩

/-! ### Operations -/

/-- The map without entries. -/
def empty : KeyMap α := ⟨[], List.Pairwise.nil⟩

instance : EmptyCollection (KeyMap α) := ⟨empty⟩
instance : Inhabited (KeyMap α) := ⟨empty⟩

/-- The value at a key. -/
def get? (m : KeyMap α) (key : String) : Option α :=
  m.entries.lookup key

/-- Whether a key has a value. -/
def contains (m : KeyMap α) (key : String) : Bool :=
  (m.get? key).isSome

/-- The map with a value at a key, which replaces an earlier one. -/
def insert (m : KeyMap α) (key : String) (value : α) : KeyMap α :=
  ⟨place key value m.entries, sorted_place key value m.sorted⟩

/-- The map with only the entries that a test accepts. -/
def filter (m : KeyMap α) (keep : String → α → Bool) : KeyMap α :=
  ⟨m.entries.filter fun e => keep e.1 e.2, m.sorted.filter _⟩

/-- The map without a key. -/
def erase (m : KeyMap α) (key : String) : KeyMap α :=
  m.filter fun k _ => k != key

/-- The map with each value replaced by its image. -/
def mapValues (m : KeyMap α) (f : α → β) : KeyMap β :=
  ⟨m.entries.map fun e => (e.1, f e.2), by
    simpa [List.pairwise_map] using m.sorted⟩

/-- The entries in ascending order of their keys. -/
def toList (m : KeyMap α) : List (String × α) := m.entries

/-- The keys in ascending order. -/
def keys (m : KeyMap α) : List String := m.entries.map (·.1)

/-- The number of keys. -/
def size (m : KeyMap α) : Nat := m.entries.length

/-- Whether there are no entries. -/
def isEmpty (m : KeyMap α) : Bool := m.entries.isEmpty

/-- The map with the entries of a list put in one after another, so that later ones win. -/
def insertAll (m : KeyMap α) (list : List (String × α)) : KeyMap α :=
  list.foldl (fun m e => m.insert e.1 e.2) m

/-- The map of a list of entries, of which later ones win. -/
def ofList (list : List (String × α)) : KeyMap α :=
  insertAll empty list

/-- The entries of `m` with those of `n` on top. -/
def overlay (m n : KeyMap α) : KeyMap α :=
  m.insertAll n.entries

instance [DecidableEq α] : DecidableEq (KeyMap α) := fun m n =>
  decidable_of_iff (m.entries = n.entries) ⟨fun h => by cases m; cases n; simpa using h, fun h => h ▸ rfl⟩

end KeyMap

end TableOptions
