import Mathlib.Data.List.Induction
import TableOptions.Draft

/-!
# What a sequence of steps leads to

The fields of a draft keep different parts of its history: the type and the default those of the last
step about the type, the documented values those of the last enumeration, even if the type was changed
after it, and the mark that no default is needed stays once it is set. `Draft.Records` says so of a
draft and the steps that led to it; one more step keeps it (`Records.step`), and so it holds after any
sequence of steps (`Draft.records`).

From it follows which sequences lead to a definition and what the definition is
(`Definition.ofSteps_by_last_steps`). A draft with a type but neither a default nor the mark is never
reached, so the refusal for it is never given.
-/

namespace TableOptions

namespace DraftStep

/-- The type that a step gives, if it is about the type. -/
def type? : DraftStep → Option ValueType
  | description _ => none
  | boolean _ => some .boolean
  | integer _ => some .integer
  | long _ => some .long
  | double _ => some .double
  | string _ => some .string
  | stringWithoutDefault => some .string
  | enumeration _ _ => some .string

/-- The default that a step gives. -/
def default? : DraftStep → Option Value
  | description _ => none
  | boolean default => some (.bool default)
  | integer default => some (.int default)
  | long default => some (.long default)
  | double default => some (.double default)
  | string default => some (.string default)
  | stringWithoutDefault => none
  | enumeration _ default => some (.string default)

/-- The documented values that a step gives, if it is an enumeration. -/
def values? : DraftStep → Option (List String)
  | enumeration values _ => some values
  | _ => none

/-- The description that a step gives, if it is one. -/
def description? : DraftStep → Option String
  | description text => some text
  | _ => none

/-- A default is of the type that is given with it. -/
theorem type?_of_default? {s : DraftStep} {default : Value} (h : s.default? = some default) :
    s.type? = some default.type := by
  cases s <;> cases h <;> rfl

/-- One step alone gives a type and no default. -/
theorem default?_eq_none_iff {s : DraftStep} (h : s.type?.isSome = true) :
    s.default? = none ↔ s = stringWithoutDefault := by
  cases s <;> simp_all [type?, default?]

end DraftStep

/-- The last step about the type. -/
def lastTyping (steps : List DraftStep) : Option DraftStep :=
  (steps.filter fun s => s.type?.isSome).getLast?

/-- The documented values of the last enumeration. -/
def lastValues (steps : List DraftStep) : Option (List String) :=
  (steps.filterMap DraftStep.values?).getLast?

/-- The last description. -/
def lastDescription (steps : List DraftStep) : Option String :=
  (steps.filterMap DraftStep.description?).getLast?

/-- A step that gives a type is the last one that does; any other leaves the last one as it was. -/
theorem lastTyping_concat (steps : List DraftStep) (s : DraftStep) :
    lastTyping (steps ++ [s]) = if s.type?.isSome then some s else lastTyping steps := by
  rw [lastTyping, List.filter_append, List.filter_cons]
  split
  · exact List.getLast?_concat
  · rw [List.filter_nil, List.append_nil, lastTyping]

/-- The last of what steps give is what the last step gives, if it gives anything. -/
theorem getLast?_filterMap_concat {α β : Type} (f : α → Option β) (list : List α) (a : α) :
    ((list ++ [a]).filterMap f).getLast? = (f a).or (list.filterMap f).getLast? := by
  rw [List.filterMap_append]
  cases hf : f a with
  | none => simp [hf]
  | some b => simp [hf]

/-- The last step that gives a type gives one. -/
theorem isSome_type?_of_lastTyping {steps : List DraftStep} {s : DraftStep}
    (h : lastTyping steps = some s) : s.type?.isSome = true :=
  (List.mem_filter.1 (List.mem_of_getLast? h)).2

namespace Draft

/-! ### One step -/

/-- A step sets the type that it gives. -/
theorem type_step (d : Draft) (s : DraftStep) : (d.step s).type = s.type?.or d.type := by
  cases s <;> rfl

/-- A step that gives a type sets the default too, perhaps to none. -/
theorem default_step (d : Draft) (s : DraftStep) :
    (d.step s).default = if s.type?.isSome then s.default? else d.default := by
  cases s <;> rfl

/-- Once a text without a default was asked for, the draft remembers it. -/
theorem noDefault_step (d : Draft) (s : DraftStep) :
    (d.step s).noDefault = (d.noDefault || s == .stringWithoutDefault) := by
  cases s <;> simp [step, withType]

/-- A step sets the values that it allows. -/
theorem allowedValues_step (d : Draft) (s : DraftStep) :
    (d.step s).allowedValues = s.values?.getD d.allowedValues := by
  cases s <;> rfl

/-- A step sets the description that it gives. -/
theorem description_step (d : Draft) (s : DraftStep) :
    (d.step s).description = s.description?.or d.description := by
  cases s <;> rfl

/-- No step changes the group. -/
theorem group_step (d : Draft) (s : DraftStep) : (d.step s).group = d.group := by
  cases s <;> rfl

/-- No step changes the key. -/
theorem key_step (d : Draft) (s : DraftStep) : (d.step s).key = d.key := by
  cases s <;> rfl

/-! ### Any sequence of steps -/

/-- The draft has of each kind of step what the last of them gave. -/
structure Records (group key : String) (steps : List DraftStep) (d : Draft) : Prop where
  group_eq : d.group = group
  key_eq : d.key = key
  description_eq : d.description = lastDescription steps
  type_eq : d.type = (lastTyping steps).bind DraftStep.type?
  default_eq : d.default = (lastTyping steps).bind DraftStep.default?
  noDefault_eq : d.noDefault = steps.contains .stringWithoutDefault
  allowedValues_eq : d.allowedValues = (lastValues steps).getD []

variable {group key : String} {steps : List DraftStep} {d : Draft}

/-- At the start there is nothing to record. -/
theorem records_start (group key : String) : Records group key [] (start group key) :=
  ⟨rfl, rfl, rfl, rfl, rfl, rfl, rfl⟩

/-- **A further step is recorded.** -/
theorem Records.step (h : Records group key steps d) (s : DraftStep) :
    Records group key (steps ++ [s]) (d.step s) where
  group_eq := (group_step d s).trans h.group_eq
  key_eq := (key_step d s).trans h.key_eq
  description_eq := by
    rw [description_step, h.description_eq, lastDescription, lastDescription,
      getLast?_filterMap_concat]
  type_eq := by
    rw [type_step, h.type_eq, lastTyping_concat]
    cases htype : s.type? with
    | none => simp
    | some type => simp [htype]
  default_eq := by
    rw [default_step, h.default_eq, lastTyping_concat]
    split <;> rfl
  noDefault_eq := by
    rw [noDefault_step, h.noDefault_eq, List.contains_append, List.contains_cons, List.contains_nil,
      Bool.or_false, BEq.comm]
  allowedValues_eq := by
    rw [allowedValues_step, h.allowedValues_eq, lastValues, lastValues, getLast?_filterMap_concat]
    cases s.values? <;> rfl

/-- **Every draft records the steps that led to it.** -/
theorem records (group key : String) (steps : List DraftStep) :
    Records group key steps (steps.foldl Draft.step (start group key)) := by
  induction steps using List.reverseRecOn with
  | nil => exact records_start group key
  | append_singleton steps s ih =>
    rw [List.foldl_append, List.foldl_cons, List.foldl_nil]
    exact ih.step s

end Draft

/-! ### The outcome -/

/-- What comes of a sequence of steps. The key is looked at first, then the type, then the default. -/
inductive Outcome (group key : String) (steps : List DraftStep) :
    Except DraftError Definition → Prop
  | missingKey (hkey : key = "") : Outcome group key steps (.error .missingKey)
  | missingType (hkey : key ≠ "") (htyping : lastTyping steps = none) :
      Outcome group key steps (.error (.missingType key))
  | defaultNotAllowed {s : DraftStep} {default : Value} (hkey : key ≠ "")
      (htyping : lastTyping steps = some s) (hdefault : s.default? = some default)
      (hvalues : (lastValues steps).getD [] ≠ [])
      (hnot : default.text ∉ (lastValues steps).getD []) :
      Outcome group key steps (.error (.defaultNotAllowed key default ((lastValues steps).getD [])))
  | defined {s : DraftStep} {type : ValueType} (hkey : key ≠ "")
      (htyping : lastTyping steps = some s) (htype : s.type? = some type)
      (hdefault : s = .stringWithoutDefault ∨ (lastValues steps).getD [] = [] ∨
        ∃ default, s.default? = some default ∧ default.text ∈ (lastValues steps).getD []) :
      Outcome group key steps (.ok ⟨key, group, type, s.default?,
        (lastDescription steps).getD "", (lastValues steps).getD []⟩)

namespace Draft

variable {group key : String} {steps : List DraftStep} {d : Draft}

/-- The default is that of the last step that gives a type. -/
theorem Records.default_of_last (h : Records group key steps d) {s : DraftStep}
    (htyping : lastTyping steps = some s) : d.default = s.default? := by
  rw [h.default_eq, htyping, Option.bind_some]

/-- A last type without a default has left the mark. -/
theorem Records.noDefault_of_last (h : Records group key steps d)
    (htyping : lastTyping steps = some .stringWithoutDefault) : d.noDefault = true := by
  have hmem : .stringWithoutDefault ∈ steps :=
    (List.mem_filter.1 (List.mem_of_getLast? htyping)).1
  rw [h.noDefault_eq, List.contains_iff_mem]
  exact hmem

/-- The default may stand when there are no documented values or it is one of them. -/
theorem Records.defaultAllowed_iff (h : Records group key steps d) {default : Value}
    (hdefault : d.default = some default) :
    d.defaultAllowed = true ↔
      (lastValues steps).getD [] = [] ∨ default.text ∈ (lastValues steps).getD [] := by
  rw [← h.allowedValues_eq]
  simp only [defaultAllowed, hdefault, Bool.or_eq_true, List.isEmpty_iff, List.contains_iff_mem]

/-- **A draft that records its steps is finished as they say.** -/
theorem Records.outcome (h : Records group key steps d) : Outcome group key steps d.finish := by
  unfold finish
  rw [h.key_eq, h.group_eq, h.description_eq, h.type_eq]
  by_cases hkey : key = ""
  · rw [if_pos hkey]
    exact .missingKey hkey
  rw [if_neg hkey]
  cases htyping : lastTyping steps with
  | none => exact .missingType hkey htyping
  | some s =>
    have hlast := h.default_of_last htyping
    have hsome := isSome_type?_of_lastTyping htyping
    obtain ⟨type, htype⟩ := Option.isSome_iff_exists.1 hsome
    -- a definition has the default of the last type as it is, whether there is one or not
    have hdefined : _ → Outcome group key steps (.ok ⟨key, group, type, s.default?, _, _⟩) :=
      .defined hkey htyping htype
    rw [Option.bind_some, htype]
    cases hdefault : s.default? with
    | none =>
      have hs : s = .stringWithoutDefault := (DraftStep.default?_eq_none_iff hsome).1 hdefault
      have hmark : d.noDefault = true := h.noDefault_of_last (hs ▸ htyping)
      rw [hdefault] at hlast hdefined
      simp only [hlast, hmark, if_true, h.allowedValues_eq]
      exact hdefined (Or.inl hs)
    | some default =>
      rw [hdefault] at hlast hdefined
      have hiff := h.defaultAllowed_iff hlast
      by_cases hallowed : d.defaultAllowed = true
      · simp only [hlast, if_pos hallowed, h.allowedValues_eq]
        refine hdefined (Or.inr ?_)
        rcases hiff.1 hallowed with hempty | hmem
        · exact Or.inl hempty
        · exact Or.inr ⟨default, rfl, hmem⟩
      · have hnot := not_or.1 fun hor => hallowed (hiff.2 hor)
        simp only [hlast, if_neg hallowed, h.allowedValues_eq]
        exact .defaultNotAllowed hkey htyping hdefault hnot.1 hnot.2

end Draft

namespace Outcome

variable {group key : String} {steps : List DraftStep} {result : Except DraftError Definition}

/-- **A definition is built exactly when** the key is not empty, a type was given, and the default
of its last step is among the values that are allowed, if any are, unless that step asks for no
default. -/
theorem ok_iff (h : Outcome group key steps result) :
    (∃ d, result = .ok d) ↔ key ≠ "" ∧ ∃ s, lastTyping steps = some s ∧
      (s = .stringWithoutDefault ∨ (lastValues steps).getD [] = [] ∨
        ∃ default, s.default? = some default ∧ default.text ∈ (lastValues steps).getD []) := by
  cases h with
  | missingKey hkey => simp [hkey]
  | missingType hkey htyping => simp [htyping]
  | @defaultNotAllowed s default hkey htyping hdefault hvalues hnot =>
    have hs : s ≠ .stringWithoutDefault := by
      rintro rfl
      cases hdefault
    simp [htyping, hs, hdefault, hvalues, hnot]
  | defined hkey htyping htype hdefault =>
    exact ⟨fun _ => ⟨hkey, _, htyping, hdefault⟩, fun _ => ⟨_, rfl⟩⟩

/-- The default of a finished definition is of its type and accepted by it. -/
theorem default_of_ok {d : Definition} (h : Outcome group key steps (.ok d)) {default : Value}
    (hd : d.default = some default) : default.type = d.type ∧ d.accepts default.text = true := by
  cases h with
  | @defined s type hkey htyping htype hdefault =>
    have hs : s.default? = some default := hd
    constructor
    · rw [DraftStep.type?_of_default? hs] at htype
      exact Option.some.inj htype
    · rw [Definition.accepts, Bool.or_eq_true, List.isEmpty_iff, List.contains_iff_mem]
      rcases hdefault with rfl | hempty | ⟨default', hdefault', hmem⟩
      · cases hs
      · exact Or.inl hempty
      · rw [hs] at hdefault'
        obtain rfl := Option.some.inj hdefault'
        exact Or.inr hmem

/-- Every field of a definition is what the last step of its kind gave. -/
theorem fields_of_ok {d : Definition} (h : Outcome group key steps (.ok d)) :
    d.key = key ∧ d.group = group ∧ d.description = (lastDescription steps).getD "" ∧
      d.allowedValues = (lastValues steps).getD [] ∧
      ∃ s, lastTyping steps = some s ∧ s.type? = some d.type ∧ s.default? = d.default := by
  cases h with
  | defined hkey htyping htype hdefault => exact ⟨rfl, rfl, rfl, rfl, _, htyping, htype, rfl⟩

/-- The refusals exclude each other, and a definition excludes them all. -/
theorem error_iff (h : Outcome group key steps result) (e : DraftError) :
    result = .error e ↔
      key = "" ∧ e = .missingKey ∨
      key ≠ "" ∧ lastTyping steps = none ∧ e = .missingType key ∨
      key ≠ "" ∧ ∃ s default, lastTyping steps = some s ∧ s.default? = some default ∧
        (lastValues steps).getD [] ≠ [] ∧ default.text ∉ (lastValues steps).getD [] ∧
        e = .defaultNotAllowed key default ((lastValues steps).getD []) := by
  constructor
  · rintro rfl
    cases h with
    | missingKey hkey => exact Or.inl ⟨hkey, rfl⟩
    | missingType hkey htyping => exact Or.inr (Or.inl ⟨hkey, htyping, rfl⟩)
    | defaultNotAllowed hkey htyping hdefault hvalues hnot =>
      exact Or.inr (Or.inr ⟨hkey, _, _, htyping, hdefault, hvalues, hnot, rfl⟩)
  · rintro (⟨hkey, rfl⟩ | ⟨hkey, htyping, rfl⟩ |
      ⟨hkey, s, default, htyping, hdefault, hvalues, hnot, rfl⟩)
    · cases h with
      | missingKey => rfl
      | missingType hne | defaultNotAllowed hne | defined hne => exact absurd hkey hne
    · cases h with
      | missingKey hempty => exact absurd hempty hkey
      | missingType => rfl
      | defaultNotAllowed _ hsome | defined _ hsome => exact absurd (htyping.symm.trans hsome) nofun
    · cases h with
      | missingKey hempty => exact absurd hempty hkey
      | missingType _ hnone => exact absurd (htyping.symm.trans hnone) nofun
      | defaultNotAllowed _ htyping' hdefault' =>
        obtain rfl := Option.some.inj (htyping.symm.trans htyping')
        obtain rfl := Option.some.inj (hdefault.symm.trans hdefault')
        rfl
      | defined _ htyping' _ hstands =>
        obtain rfl := Option.some.inj (htyping.symm.trans htyping')
        rcases hstands with rfl | hempty | ⟨default', hdefault', hmem⟩
        · cases hdefault
        · exact absurd hempty hvalues
        · obtain rfl := Option.some.inj (hdefault.symm.trans hdefault')
          exact absurd hmem hnot

end Outcome

/-- **Which sequences of steps lead to a definition, and to which.** The key has to be there, a type has
to be given, and the default that came with the last type has to be one of the values that the last
enumeration documented, if it documented any. The definition has the type and the default of the last
step about the type, the values of the last enumeration and the last description. A refusal names the
first of key, type and default that is wrong, and none is for want of a default. -/
theorem Definition.ofSteps_by_last_steps (group key : String) (steps : List DraftStep) :
    ((∃ d, Definition.ofSteps group key steps = .ok d) ↔
      key ≠ "" ∧ ∃ s, lastTyping steps = some s ∧
        (s = .stringWithoutDefault ∨ (lastValues steps).getD [] = [] ∨
          ∃ default, s.default? = some default ∧ default.text ∈ (lastValues steps).getD [])) ∧
    (∀ d, Definition.ofSteps group key steps = .ok d →
      (d.key = key ∧ d.group = group ∧ d.description = (lastDescription steps).getD "" ∧
        d.allowedValues = (lastValues steps).getD [] ∧
        ∃ s, lastTyping steps = some s ∧ s.type? = some d.type ∧ s.default? = d.default) ∧
      ∀ default, d.default = some default →
        default.type = d.type ∧ d.accepts default.text = true) ∧
    (∀ e, Definition.ofSteps group key steps = .error e ↔
      key = "" ∧ e = .missingKey ∨
      key ≠ "" ∧ lastTyping steps = none ∧ e = .missingType key ∨
      key ≠ "" ∧ ∃ s default, lastTyping steps = some s ∧ s.default? = some default ∧
        (lastValues steps).getD [] ≠ [] ∧ default.text ∉ (lastValues steps).getD [] ∧
        e = .defaultNotAllowed key default ((lastValues steps).getD [])) ∧
    ∀ k, Definition.ofSteps group key steps ≠ .error (.missingDefault k) := by
  have h : Outcome group key steps (Definition.ofSteps group key steps) :=
    (Draft.records group key steps).outcome
  refine ⟨h.ok_iff, fun d hd => ?_, h.error_iff, fun k hk => ?_⟩
  · rw [hd] at h
    exact ⟨h.fields_of_ok, fun default hdefault => h.default_of_ok hdefault⟩
  · rw [hk] at h
    cases h

end TableOptions
