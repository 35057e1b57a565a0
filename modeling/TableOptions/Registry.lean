import TableOptions.Definition

/-!
# Registries

A registry holds definitions in the order of their registration, each key once. `register` is the
only way in; it refuses a key that is already there and then changes nothing.
-/

namespace TableOptions

/-- Definitions in order of registration, no two of one key. -/
structure Registry where
  definitions : List Definition
  keys_nodup : (definitions.map Definition.key).Nodup

/-- Why a registry refuses a request. -/
inductive RegistryError where
  | alreadyRegistered (key : String)
  | notRegistered (key : String)
deriving DecidableEq

/-- The wording of a refusal. -/
def RegistryError.message : RegistryError → String
  | alreadyRegistered key => "Option '" ++ key ++ "' is already registered"
  | notRegistered key => "Option '" ++ key ++ "' is not registered"

namespace Registry

/-- The registry without definitions. -/
def empty : Registry := ⟨[], List.nodup_nil⟩

/-- The definition of a key. -/
def get? (r : Registry) (key : String) : Option Definition :=
  r.definitions.find? (·.key == key)

/-- Whether a key is registered. -/
def contains (r : Registry) (key : String) : Bool :=
  (r.get? key).isSome

/-- The definition of a key that has to be registered. -/
def require (r : Registry) (key : String) : Except RegistryError Definition :=
  match r.get? key with
  | some d => .ok d
  | none => .error (.notRegistered key)

/-- What `get?` does not find is nowhere in the registry. -/
theorem key_notMem_of_get?_eq_none {r : Registry} {key : String} (h : r.get? key = none) :
    key ∉ r.definitions.map Definition.key := by
  intro hmem
  obtain ⟨d, hd, rfl⟩ := List.mem_map.1 hmem
  have := List.find?_eq_none.1 h d hd
  simp at this

/-- The registry with a definition at its end. -/
def append (r : Registry) (d : Definition) (h : r.get? d.key = none) : Registry :=
  ⟨r.definitions ++ [d], by
    rw [List.map_append, List.nodup_append]
    refine ⟨r.keys_nodup, List.nodup_cons.2 ⟨by simp, List.nodup_nil⟩, ?_⟩
    intro a ha b hb hab
    rw [List.map_singleton, List.mem_singleton] at hb
    exact key_notMem_of_get?_eq_none h (by rw [← hb, ← hab]; exact ha)⟩

/-- The registry with a further definition, whose key has to be new. -/
def register (r : Registry) (d : Definition) : Except RegistryError Registry :=
  if h : r.get? d.key = none then .ok (r.append d h)
  else .error (.alreadyRegistered d.key)

/-- Registers one definition after another, up to the first that is refused. -/
def registerAll (r : Registry) : List Definition → Except RegistryError Registry
  | [] => .ok r
  | d :: rest =>
    match r.register d with
    | .ok extended => extended.registerAll rest
    | .error e => .error e

/-- The number of definitions. -/
def size (r : Registry) : Nat := r.definitions.length

/-- Whether nothing is registered. -/
def isEmpty (r : Registry) : Bool := r.definitions.isEmpty

/-- The definitions that a user need not supply. -/
def optional (r : Registry) : List Definition :=
  r.definitions.filter fun d => !d.isRequired

/-- The definitions of a group. -/
def inGroup (r : Registry) (group : String) : List Definition :=
  r.definitions.filter fun d => d.group == group

/-- Adds a name to the end of a list that does not have it. -/
def addNew (names : List String) (name : String) : List String :=
  if names.contains name then names else names ++ [name]

/-- The groups in the order of their first definitions. -/
def groups (r : Registry) : List String :=
  r.definitions.foldl (fun names d => addNew names d.group) []

end Registry

end TableOptions
