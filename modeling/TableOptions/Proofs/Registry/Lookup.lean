import TableOptions.Registry

/-!
# Lookups in registries

A key finds the one definition that has it (`Registry.get?_eq_some_iff`), and nothing when none does
(`Registry.get?_eq_none_iff`). A call of `register` is refused when the key of the definition finds
something, and accepted otherwise (`Registry.offer_of_known`, `Registry.offer_of_new`).
-/

namespace TableOptions.Registry

variable {registry : Registry} {key : String} {option : Definition}

/-- A definition is found at its own key. -/
theorem key_of_get? (h : registry.get? key = some option) : option.key = key := by
  have := List.find?_some h
  simpa using this

/-- A registered definition is what its key finds, since no other has that key. -/
theorem get?_of_mem (h : option ∈ registry.definitions) :
    registry.get? option.key = some option := by
  obtain ⟨definitions, hnodup⟩ := registry
  rw [Registry.get?]
  induction definitions with
  | nil => exact absurd h List.not_mem_nil
  | cons head rest ih =>
    obtain ⟨hhead, hrest⟩ := List.nodup_cons.1 hnodup
    rcases List.mem_cons.1 h with rfl | hmem
    · rw [List.find?_cons_of_pos (by simp)]
    · have hne : head.key ≠ option.key := fun heq =>
        hhead (by rw [heq]; exact List.mem_map_of_mem hmem)
      rw [List.find?_cons_of_neg (by simpa using hne)]
      exact ih hrest hmem

/-- No two registered definitions have one key. -/
theorem eq_of_key_eq {other : Definition} (h : option ∈ registry.definitions)
    (hother : other ∈ registry.definitions) (hkey : other.key = option.key) : other = option := by
  have hfound := get?_of_mem hother
  rw [hkey, get?_of_mem h] at hfound
  exact (Option.some.inj hfound).symm

/-- **A key finds the definition that has it.** -/
theorem get?_eq_some_iff :
    registry.get? key = some option ↔ option ∈ registry.definitions ∧ option.key = key := by
  constructor
  · intro h
    exact ⟨List.mem_of_find?_eq_some h, key_of_get? h⟩
  · rintro ⟨hmem, rfl⟩
    exact get?_of_mem hmem

/-- Nothing is found exactly where no definition has the key. -/
theorem get?_eq_none_iff :
    registry.get? key = none ↔ key ∉ registry.definitions.map Definition.key := by
  constructor
  · exact key_notMem_of_get?_eq_none
  · intro h
    cases hget : registry.get? key with
    | none => rfl
    | some option =>
      obtain ⟨hmem, hkey⟩ := get?_eq_some_iff.1 hget
      exact absurd (List.mem_map.2 ⟨option, hmem, hkey⟩) h

/-- A key is contained exactly when a definition has it. -/
theorem contains_eq_true_iff :
    registry.contains key = true ↔ key ∈ registry.definitions.map Definition.key := by
  rw [contains, ← Option.ne_none_iff_isSome, ne_eq, get?_eq_none_iff, Decidable.not_not]

/-- A key is not contained exactly when nothing is found at it. -/
theorem contains_eq_false_iff : registry.contains key = false ↔ registry.get? key = none := by
  rw [contains, Option.isSome_eq_false_iff, Option.isNone_iff_eq_none]

/-- A key is required with success exactly when its definition is found. -/
theorem require_eq_ok_iff : registry.require key = .ok option ↔ registry.get? key = some option := by
  unfold require
  cases registry.get? key with
  | none => simp
  | some found => simp

/-- A key is required in vain exactly when nothing is found at it, and the error names it. -/
theorem require_eq_error_iff {e : RegistryError} :
    registry.require key = .error e ↔ registry.get? key = none ∧ e = .notRegistered key := by
  unfold require
  cases registry.get? key with
  | none => simp [eq_comm]
  | some found => simp

/-! ### One more definition -/

/-- A definition with a new key goes behind the others. -/
theorem register_of_new (h : registry.get? option.key = none) :
    registry.register option = .ok (registry.append option h) :=
  dif_pos h

/-- A definition with a known key is refused, and the error names the key. -/
theorem register_of_known (h : registry.contains option.key = true) :
    registry.register option = .error (.alreadyRegistered option.key) := by
  refine dif_neg fun hnone => ?_
  rw [contains_eq_false_iff.2 hnone] at h
  cases h

/-- One call of `register`: its answer, and the registry after it. A refused call leaves the registry
as it was. -/
def offer (r : Registry) (d : Definition) : Except RegistryError Unit × Registry :=
  match r.register d with
  | .ok extended => (.ok (), extended)
  | .error e => (.error e, r)

/-- An offer with a new key is taken. -/
theorem offer_of_new (h : registry.get? option.key = none) :
    registry.offer option = (.ok (), registry.append option h) := by
  rw [offer, register_of_new h]

/-- **An offer with a known key is refused and leaves the registry as it is.** -/
theorem offer_of_known (h : registry.contains option.key = true) :
    registry.offer option = (.error (.alreadyRegistered option.key), registry) := by
  rw [offer, register_of_known h]

end TableOptions.Registry
