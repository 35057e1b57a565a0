import TableOptions.KeyMap.Enumeration
import TableOptions.Proofs.Registry.Lookup

/-!
# Registries with an index of positions

A registry can be kept as a list of definitions and, beside it, an index of the position of each key.
The two are written one after the other, and nothing but the way they are written keeps them in step.

`IndexedRegistry.Mirrors` says what being in step means: the index holds exactly the positions of the
keys. A call of `register` keeps it, accepted or refused (`Mirrors.offer`), and where it holds the
index never points behind the end of the list and every request is answered as the registry answers
it (`Mirrors.get`, `Mirrors.contains`, `Mirrors.require`).
-/

namespace TableOptions

/-- What stands at a position of a list with one more element. -/
theorem getElem?_concat_eq_some_iff {α : Type} {list : List α} {last a : α} {i : Nat} :
    (list ++ [last])[i]? = some a ↔ list[i]? = some a ∨ i = list.length ∧ a = last := by
  rcases Nat.lt_trichotomy i list.length with hlt | rfl | hgt
  · have hne : i ≠ list.length := Nat.ne_of_lt hlt
    rw [List.getElem?_append_left hlt, or_iff_left fun h => hne h.1]
  · rw [List.getElem?_concat_length, List.getElem?_eq_none (Nat.le_refl _)]
    simp [eq_comm]
  · have hne : i ≠ list.length := Nat.ne_of_gt hgt
    have hlength : (list ++ [last]).length ≤ i := by
      rw [List.length_append, List.length_singleton]
      exact hgt
    rw [List.getElem?_eq_none hlength, List.getElem?_eq_none (Nat.le_of_lt hgt)]
    simp [hne]

/-- A list of definitions, and the position of each key in it. -/
structure IndexedRegistry where
  definitions : List Definition
  positions : KeyMap Nat

/-- A position behind the end of the list. -/
structure OutOfRange where
  position : Nat
deriving DecidableEq

namespace IndexedRegistry

/-- The indexed registry without definitions. -/
def empty : IndexedRegistry := ⟨[], KeyMap.empty⟩

/-- Whether the index has a key. -/
def contains (t : IndexedRegistry) (key : String) : Bool :=
  t.positions.contains key

/-- The definition at the position of a key, which has to be a position of the list. -/
def get (t : IndexedRegistry) (key : String) : Except OutOfRange (Option Definition) :=
  match t.positions.get? key with
  | none => .ok none
  | some i =>
    match t.definitions[i]? with
    | some d => .ok (some d)
    | none => .error ⟨i⟩

/-- The definition of a key that has to be registered. -/
def require (t : IndexedRegistry) (key : String) :
    Except OutOfRange (Except RegistryError Definition) :=
  match t.get key with
  | .ok (some d) => .ok (.ok d)
  | .ok none => .ok (.error (.notRegistered key))
  | .error e => .error e

/-- The number of definitions. -/
def size (t : IndexedRegistry) : Nat := t.definitions.length

/-- One call of `register`: its answer, and the registry after it. -/
def offer (t : IndexedRegistry) (d : Definition) : Except RegistryError Unit × IndexedRegistry :=
  if t.contains d.key then (.error (.alreadyRegistered d.key), t)
  else (.ok (), ⟨t.definitions ++ [d], t.positions.insert d.key t.definitions.length⟩)

/-- The indexed registry has the definitions of a registry and exactly the positions of their keys. -/
structure Mirrors (t : IndexedRegistry) (r : Registry) : Prop where
  definitions : t.definitions = r.definitions
  positions : ∀ key i,
    t.positions.get? key = some i ↔ (t.definitions.map Definition.key)[i]? = some key
  size_positions : t.positions.size = t.definitions.length

variable {t : IndexedRegistry} {r : Registry}

/-- At the start there are no definitions and no positions. -/
theorem mirrors_empty : empty.Mirrors Registry.empty where
  definitions := rfl
  positions := by
    intro key i
    simp [empty]
  size_positions := rfl

namespace Mirrors

/-! ### Requests -/

/-- A key has no position exactly when no definition has it. -/
theorem get?_positions_eq_none_iff (h : t.Mirrors r) (key : String) :
    t.positions.get? key = none ↔ key ∉ t.definitions.map Definition.key := by
  rw [List.mem_iff_getElem?, Option.eq_none_iff_forall_ne_some, not_exists]
  exact forall_congr' fun i => not_congr (h.positions key i)

/-- The index knows the keys of the registry. -/
theorem contains (h : t.Mirrors r) (key : String) : t.contains key = r.contains key := by
  rw [Bool.eq_iff_iff, IndexedRegistry.contains, KeyMap.contains, Registry.contains_eq_true_iff,
    ← h.definitions, ← Option.ne_none_iff_isSome, ne_eq, h.get?_positions_eq_none_iff,
    Decidable.not_not]

/-- **No position is behind the end**: a key finds what it finds in the registry. -/
theorem get (h : t.Mirrors r) (key : String) : t.get key = .ok (r.get? key) := by
  unfold IndexedRegistry.get
  cases hposition : t.positions.get? key with
  | none =>
    rw [h.get?_positions_eq_none_iff, h.definitions, ← Registry.get?_eq_none_iff] at hposition
    rw [hposition]
  | some i =>
    have hkey := (h.positions key i).1 hposition
    rw [List.getElem?_map] at hkey
    obtain ⟨d, hd, hdkey⟩ := Option.map_eq_some_iff.1 hkey
    have hmem : d ∈ r.definitions := h.definitions ▸ List.mem_of_getElem? hd
    simp only [hd, Registry.get?_eq_some_iff.2 ⟨hmem, hdkey⟩]

/-- The index finds or refuses as the registry does. -/
theorem require (h : t.Mirrors r) (key : String) : t.require key = .ok (r.require key) := by
  rw [IndexedRegistry.require, h.get, Registry.require]
  cases r.get? key with
  | none => rfl
  | some d => rfl

/-- The index has as many definitions as the registry. -/
theorem size (h : t.Mirrors r) : t.size = r.size :=
  congrArg List.length h.definitions

/-! ### Calls of `register` -/

/-- An index entry for a definition at the end of the list. -/
theorem append (h : t.Mirrors r) {d : Definition} (hnew : r.get? d.key = none) :
    Mirrors ⟨t.definitions ++ [d], t.positions.insert d.key t.definitions.length⟩
      (r.append d hnew) where
  definitions := congrArg (· ++ [d]) h.definitions
  positions := by
    intro key i
    have hkey : d.key ∉ t.definitions.map Definition.key := by
      rw [h.definitions]
      exact Registry.get?_eq_none_iff.1 hnew
    rw [KeyMap.get?_insert, List.map_append, List.map_singleton, getElem?_concat_eq_some_iff,
      List.length_map]
    by_cases heq : key = d.key
    · -- the new key stands at no earlier position
      subst heq
      have hearlier : (t.definitions.map Definition.key)[i]? ≠ some d.key :=
        fun hi => hkey (List.mem_of_getElem? hi)
      rw [if_pos rfl, or_iff_right hearlier, Option.some.injEq, eq_comm]
      exact (and_iff_left rfl).symm
    · rw [if_neg heq, h.positions, or_iff_left fun hi => heq hi.2]
  size_positions := by
    have hcontains : t.positions.contains d.key = false := by
      rw [← Registry.contains_eq_false_iff.2 hnew, ← h.contains, IndexedRegistry.contains]
    rw [KeyMap.size_insert, hcontains, if_neg Bool.false_ne_true, h.size_positions,
      List.length_append, List.length_singleton]

/-- **A call of `register` keeps the index in step**, and gets the same answer. -/
theorem offer (h : t.Mirrors r) (d : Definition) :
    (t.offer d).1 = (r.offer d).1 ∧ Mirrors (t.offer d).2 (r.offer d).2 := by
  unfold IndexedRegistry.offer
  rw [h.contains]
  cases hcontains : r.contains d.key with
  | true =>
    rw [if_pos rfl, Registry.offer_of_known hcontains]
    exact ⟨rfl, h⟩
  | false =>
    have hnew := Registry.contains_eq_false_iff.1 hcontains
    rw [if_neg Bool.false_ne_true, Registry.offer_of_new hnew]
    exact ⟨rfl, h.append hnew⟩

end Mirrors

end IndexedRegistry

end TableOptions
