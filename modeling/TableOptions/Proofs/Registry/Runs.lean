import Mathlib.Data.List.Infix
import TableOptions.Proofs.Registry.Index

/-!
# Registries under any sequence of calls

Calls of `register` come in any order and number, and some of them are refused. Whether a call is
refused depends on the keys submitted before it, the refused ones included: they brought no key that
was not there. So a registry that began empty holds, in order, the definitions whose key no earlier
one had (`Registry.definitions_offerAll`), and the calls are answered accordingly
(`Registry.answers_offerAll`).

An index of positions beside the definitions stays in step through every such run
(`IndexedRegistry.mirrors_offerAll`). `Registry.offerAll_keeps_first_of_each_key` is all of this.
-/

namespace TableOptions

/-- The answers to calls one after another, and the state after the last of them. -/
def callAll {σ α ω : Type} (call : σ → α → ω × σ) (s : σ) : List α → List ω × σ
  | [] => ([], s)
  | a :: rest =>
    let next := call s a
    let later := callAll call next.2 rest
    (next.1 :: later.1, later.2)

/-- Calls can be made in two parts, where the second goes on from the state that the first leaves.
-/
theorem callAll_append {σ α ω : Type} (call : σ → α → ω × σ) (s : σ) (before after : List α) :
    callAll call s (before ++ after) =
      ((callAll call s before).1 ++ (callAll call (callAll call s before).2 after).1,
        (callAll call (callAll call s before).2 after).2) := by
  induction before generalizing s with
  | nil => rfl
  | cons a before ih =>
    rw [List.cons_append, callAll, ih]
    rfl

/-- Each of the submitted definitions with those submitted before it. -/
def withEarlier (submitted : List Definition) : List (Definition × List Definition) :=
  submitted.zip submitted.inits

/-- Whether an earlier definition has the key. -/
def isRepeated (p : Definition × List Definition) : Bool :=
  (p.2.map Definition.key).contains p.1.key

/-- The submitted definitions whose key no earlier one has. -/
def firstOfEachKey (submitted : List Definition) : List Definition :=
  ((withEarlier submitted).filter fun p => !isRepeated p).map Prod.fst

/-- What is submitted last has everything else before it. -/
theorem withEarlier_concat (submitted : List Definition) (d : Definition) :
    withEarlier (submitted ++ [d]) = withEarlier submitted ++ [(d, submitted)] := by
  -- the induction puts something in front of every initial part
  have hparts : ∀ f : List Definition → List Definition,
      (submitted ++ [d]).zip ((submitted ++ [d]).inits.map f) =
        submitted.zip (submitted.inits.map f) ++ [(d, f submitted)] := by
    induction submitted with
    | nil => intro f; rfl
    | cons a rest ih =>
      intro f
      have hrest := ih fun part => f (a :: part)
      simp only [List.cons_append, List.inits_cons, List.map_cons, List.map_map,
        List.zip_cons_cons, Function.comp_def, hrest]
  simpa [withEarlier] using hparts id

namespace Registry

/-- Calls of `register` one after another. -/
def offerAll (r : Registry) (submitted : List Definition) :
    List (Except RegistryError Unit) × Registry :=
  callAll offer r submitted

/-- How a submitted definition is answered, by what was submitted before it. -/
def answer (p : Definition × List Definition) : Except RegistryError Unit :=
  if isRepeated p then .error (.alreadyRegistered p.1.key) else .ok ()

/-- The last of the offers meets the registry that the others leave. -/
theorem offerAll_concat (r : Registry) (submitted : List Definition) (d : Definition) :
    r.offerAll (submitted ++ [d]) =
      ((r.offerAll submitted).1 ++ [((r.offerAll submitted).2.offer d).1],
        ((r.offerAll submitted).2.offer d).2) :=
  callAll_append offer r submitted [d]

/-- A refused call changes no later answer. -/
theorem offerAll_cons_of_known {r : Registry} {refused : Definition}
    (h : r.contains refused.key = true) (later : List Definition) :
    r.offerAll (refused :: later) =
      (.error (.alreadyRegistered refused.key) :: (r.offerAll later).1, (r.offerAll later).2) := by
  rw [offerAll, callAll, offer_of_known h]
  rfl

/-- The keys of a registry that began empty are those that were submitted. -/
theorem contains_offerAll (submitted : List Definition) (key : String) :
    (empty.offerAll submitted).2.contains key = true ↔ key ∈ submitted.map Definition.key := by
  induction submitted using List.reverseRecOn with
  | nil => simp [offerAll, callAll, empty, contains, get?]
  | append_singleton submitted d ih =>
    rw [offerAll_concat, List.map_append, List.map_singleton, List.mem_append, ← ih,
      List.mem_singleton]
    cases hcontains : (empty.offerAll submitted).2.contains d.key with
    | true =>
      rw [offer_of_known hcontains]
      constructor
      · exact Or.inl
      · rintro (h | rfl)
        · exact h
        · exact hcontains
    | false =>
      rw [offer_of_new (contains_eq_false_iff.1 hcontains), contains_eq_true_iff,
        contains_eq_true_iff, append, List.map_append, List.map_singleton, List.mem_append,
        List.mem_singleton]

/-- A definition is repeated exactly when the registry of those before it contains its key. -/
theorem contains_offerAll_eq (submitted : List Definition) (d : Definition) :
    (empty.offerAll submitted).2.contains d.key = isRepeated (d, submitted) := by
  rw [Bool.eq_iff_iff, contains_offerAll, isRepeated, List.contains_iff_mem]

/-- **The definitions whose key no earlier one had** are what is registered. -/
theorem definitions_offerAll (submitted : List Definition) :
    (empty.offerAll submitted).2.definitions = firstOfEachKey submitted := by
  induction submitted using List.reverseRecOn with
  | nil => rfl
  | append_singleton submitted d ih =>
    have hcontains := contains_offerAll_eq submitted d
    rw [offerAll_concat, firstOfEachKey, withEarlier_concat, List.filter_append, List.map_append,
      ← firstOfEachKey, ← ih]
    cases hrepeated : isRepeated (d, submitted) with
    | true =>
      rw [offer_of_known (hcontains.trans hrepeated)]
      simp [hrepeated]
    | false =>
      rw [offer_of_new (contains_eq_false_iff.1 (hcontains.trans hrepeated))]
      simp [hrepeated, append]

/-- **A call is refused when an earlier one had the key**, and accepted otherwise. -/
theorem answers_offerAll (submitted : List Definition) :
    (empty.offerAll submitted).1 = (withEarlier submitted).map answer := by
  induction submitted using List.reverseRecOn with
  | nil => rfl
  | append_singleton submitted d ih =>
    have hcontains := contains_offerAll_eq submitted d
    rw [offerAll_concat, withEarlier_concat, List.map_append, List.map_singleton, ih, answer]
    cases hrepeated : isRepeated (d, submitted) with
    | true => rw [offer_of_known (hcontains.trans hrepeated), if_pos rfl]
    | false =>
      rw [offer_of_new (contains_eq_false_iff.1 (hcontains.trans hrepeated)),
        if_neg Bool.false_ne_true]

end Registry

/-! ### The index through a run -/

namespace IndexedRegistry

/-- Calls of `register` one after another. -/
def offerAll (t : IndexedRegistry) (submitted : List Definition) :
    List (Except RegistryError Unit) × IndexedRegistry :=
  callAll offer t submitted

/-- **The index stays in step through every run**, and the calls get the same answers. -/
theorem mirrors_offerAll {t : IndexedRegistry} {r : Registry} (h : t.Mirrors r)
    (submitted : List Definition) :
    (t.offerAll submitted).1 = (r.offerAll submitted).1 ∧
      Mirrors (t.offerAll submitted).2 (r.offerAll submitted).2 := by
  induction submitted generalizing t r with
  | nil => exact ⟨rfl, h⟩
  | cons d rest ih =>
    obtain ⟨hanswer, hnext⟩ := h.offer d
    obtain ⟨hanswers, hlast⟩ := ih hnext
    exact ⟨congrArg₂ List.cons hanswer hanswers, hlast⟩

/-- A refused call changes no later answer of the indexed registry either. -/
theorem offerAll_cons_of_known {t : IndexedRegistry} {refused : Definition}
    (h : t.contains refused.key = true) (later : List Definition) :
    t.offerAll (refused :: later) =
      (.error (.alreadyRegistered refused.key) :: (t.offerAll later).1, (t.offerAll later).2) := by
  rw [offerAll, callAll, offer, if_pos h]
  rfl

end IndexedRegistry

/-- **A registry holds the first definition of each key, through every run of calls.** Its
definitions are those whose key no earlier one had, in the order in which they were submitted; no key
occurs twice, and a key finds the one definition that has it. A call is refused when an earlier one
had the key, and what comes later is answered as if it had not been made. A list with an index of
positions beside it, each updated on its own, gives the same answers: the index holds the positions of
the keys and nothing else, so that none is out of range. -/
theorem Registry.offerAll_keeps_first_of_each_key (submitted : List Definition) :
    let answers := (Registry.empty.offerAll submitted).1
    let r := (Registry.empty.offerAll submitted).2
    let t := (IndexedRegistry.empty.offerAll submitted).2
    (r.definitions = firstOfEachKey submitted ∧ r.size = (firstOfEachKey submitted).length ∧
      (r.definitions.map Definition.key).Nodup ∧
      answers = (withEarlier submitted).map answer) ∧
    (∀ key,
      (∀ d, r.get? key = some d ↔ d ∈ r.definitions ∧ d.key = key) ∧
      (r.get? key = none ↔ ∀ d ∈ r.definitions, d.key ≠ key) ∧
      (r.contains key = true ↔ ∃ d ∈ r.definitions, d.key = key) ∧
      (∀ d, r.require key = .ok d ↔ d ∈ r.definitions ∧ d.key = key) ∧
      (∀ e, r.require key = .error e ↔
        (∀ d ∈ r.definitions, d.key ≠ key) ∧ e = .notRegistered key)) ∧
    (∀ refused, refused.key ∈ submitted.map Definition.key → ∀ later,
      r.offerAll (refused :: later) =
        (.error (.alreadyRegistered refused.key) :: (r.offerAll later).1, (r.offerAll later).2) ∧
      t.offerAll (refused :: later) =
        (.error (.alreadyRegistered refused.key) :: (t.offerAll later).1, (t.offerAll later).2)) ∧
    ((IndexedRegistry.empty.offerAll submitted).1 = answers ∧ t.definitions = r.definitions ∧
      t.size = r.size ∧ t.positions.size = r.size ∧
      ∀ key, (∀ i, t.positions.get? key = some i ↔ ∃ d, t.definitions[i]? = some d ∧ d.key = key) ∧
        t.get key = .ok (r.get? key) ∧ t.contains key = r.contains key ∧
        t.require key = .ok (r.require key)) := by
  intro answers r t
  obtain ⟨hanswers, hmirrors⟩ :=
    IndexedRegistry.mirrors_offerAll IndexedRegistry.mirrors_empty submitted
  have hdefinitions : r.definitions = firstOfEachKey submitted := definitions_offerAll submitted
  have hsize : r.size = (firstOfEachKey submitted).length := congrArg List.length hdefinitions
  have hnone : ∀ key, r.get? key = none ↔ ∀ d ∈ r.definitions, d.key ≠ key := by
    intro key
    rw [get?_eq_none_iff, List.mem_map]
    simp only [not_exists, not_and, ne_eq]
  have hpositions : ∀ key i, t.positions.get? key = some i ↔
      ∃ d, t.definitions[i]? = some d ∧ d.key = key := by
    intro key i
    rw [hmirrors.positions, List.getElem?_map, Option.map_eq_some_iff]
  refine ⟨⟨hdefinitions, hsize, r.keys_nodup, answers_offerAll submitted⟩, ?_, ?_,
    hanswers, hmirrors.definitions, hmirrors.size, hmirrors.size_positions.trans hmirrors.size, ?_⟩
  · intro key
    refine ⟨fun d => get?_eq_some_iff, hnone key, ?_, ?_, ?_⟩
    · exact contains_eq_true_iff.trans List.mem_map
    · exact fun d => require_eq_ok_iff.trans get?_eq_some_iff
    · exact fun e => require_eq_error_iff.trans (and_congr_left' (hnone key))
  · intro refused hrefused later
    -- both registries know the key by now, so neither changes
    have hknown : r.contains refused.key = true :=
      (contains_offerAll submitted refused.key).2 hrefused
    have hindexed : t.contains refused.key = true := (hmirrors.contains _).trans hknown
    exact ⟨offerAll_cons_of_known hknown later,
      IndexedRegistry.offerAll_cons_of_known hindexed later⟩
  · intro key
    exact ⟨hpositions key, hmirrors.get key, hmirrors.contains key, hmirrors.require key⟩

end TableOptions
