import Mathlib.Data.List.Forall2
import TableOptions.KeyMap.Enumeration
import TableOptions.Proofs.Changes.Entries
import TableOptions.Proofs.Changes.Reading

/-!
# The views of what a user changed

Four functions look at a configuration through a registry. `changedOptions` and `problems` walk the
registry, `explicitEntries` walks what is stored, and `isDefault` is asked by both sides. All of them
see an option in one of three states: nothing is stored for it, or a value that converts
(`ConvertsTo`), or one that does not (`FailsWith`). `getExplicit` tells the three apart, and each view
is described by them.

The two ways to walk meet because a key finds the one definition that has it. Whatever does not convert
is met once on either way, so both sides report the same errors (`warnings_along_perm`).
-/

namespace TableOptions

/-- The failed read that a problem is about, if it is about one. -/
def Problem.unreadable? : Problem → Option ReadError
  | unreadable cause => some cause
  | notAllowed _ _ _ => none

namespace Configuration

/-! ### The three states of an option -/

/-- What is stored for the option converts to a value. -/
def ConvertsTo (conf : Configuration) (option : Definition) (value : Value) : Prop :=
  ∃ stored, conf.get? option.key = some stored ∧ stored.coerce option.type = .ok value

/-- What is stored for the option does not convert, for which there is this error. -/
def FailsWith (conf : Configuration) (option : Definition) (e : ReadError) : Prop :=
  ∃ stored cause, conf.get? option.key = some stored ∧ stored.coerce option.type = .error cause ∧
    e = .invalidValue option.key cause

/-- What is stored for the option converts to something equal to its default. -/
def HoldsDefault (conf : Configuration) (option : Definition) : Prop :=
  ∃ value default, conf.ConvertsTo option value ∧ option.default = some default ∧
    default.equal value = true

/-- What a consumer would trip over: a value that does not convert, or one that converts to a text
that the option does not accept. -/
inductive TripsOver (conf : Configuration) (option : Definition) : Problem → Prop
  | unreadable {e : ReadError} (h : conf.FailsWith option e) : TripsOver conf option (.unreadable e)
  | notAllowed {value : Value} (h : conf.ConvertsTo option value)
      (hnot : option.accepts value.text = false) :
      TripsOver conf option (.notAllowed option.key value option.allowedValues)

variable {conf : Configuration} {option : Definition}

/-- Nothing is explicit exactly where nothing is stored. -/
theorem getExplicit_eq_ok_none_iff :
    conf.getExplicit option = .ok none ↔ conf.get? option.key = none := by
  unfold getExplicit
  cases conf.get? option.key with
  | none => simp
  | some stored => cases hcoerce : stored.coerce option.type <;> simp [hcoerce]

/-- A value is explicit exactly when what is stored converts to it. -/
theorem getExplicit_eq_ok_some_iff {value : Value} :
    conf.getExplicit option = .ok (some value) ↔ conf.ConvertsTo option value := by
  unfold getExplicit ConvertsTo
  cases conf.get? option.key with
  | none => simp
  | some stored => cases hcoerce : stored.coerce option.type <;> simp [hcoerce]

/-- An explicit reading fails exactly when what is stored does not convert. -/
theorem getExplicit_eq_error_iff {e : ReadError} :
    conf.getExplicit option = .error e ↔ conf.FailsWith option e := by
  unfold getExplicit FailsWith
  cases conf.get? option.key with
  | none => simp
  | some stored => cases hcoerce : stored.coerce option.type <;> simp [hcoerce, eq_comm]

/-- **An option is in one of three states.** -/
theorem states (conf : Configuration) (option : Definition) :
    conf.get? option.key = none ∨ (∃ value, conf.ConvertsTo option value) ∨
      ∃ e, conf.FailsWith option e := by
  cases h : conf.getExplicit option with
  | error e => exact Or.inr (Or.inr ⟨e, getExplicit_eq_error_iff.1 h⟩)
  | ok found =>
    cases found with
    | none => exact Or.inl (getExplicit_eq_ok_none_iff.1 h)
    | some value => exact Or.inr (Or.inl ⟨value, getExplicit_eq_ok_some_iff.1 h⟩)

/-! ### Each view by the states -/

/-- An option is at its default where nothing is stored and where the default is. -/
theorem value_isDefault_iff :
    (conf.isDefault option).value = true ↔
      conf.get? option.key = none ∨ conf.HoldsDefault option := by
  unfold isDefault HoldsDefault
  simp only [← getExplicit_eq_ok_none_iff, ← getExplicit_eq_ok_some_iff]
  cases conf.getExplicit option with
  | error e => simp
  | ok found =>
    cases found with
    | none => simp
    | some value => cases option.default <;> simp

/-- The error of a stored value that does not convert. -/
def readError? (conf : Configuration) (option : Definition) : Option ReadError :=
  match conf.getExplicit option with
  | .ok _ => none
  | .error e => some e

/-- The read error of an option is the one its stored value fails with. -/
theorem readError?_eq_some_iff {e : ReadError} :
    conf.readError? option = some e ↔ conf.FailsWith option e := by
  rw [← getExplicit_eq_error_iff, readError?]
  cases conf.getExplicit option <;> simp

/-- The one warning there can be is that of a value that does not convert. -/
theorem warnings_isDefault (conf : Configuration) (option : Definition) :
    (conf.isDefault option).warnings = (conf.readError? option).toList := by
  unfold isDefault readError?
  cases conf.getExplicit option with
  | error e => rfl
  | ok found =>
    cases found with
    | none => rfl
    | some value => cases option.default <;> rfl

/-- A problem is what a consumer would trip over. -/
theorem problem?_eq_some_iff {p : Problem} :
    conf.problem? option = some p ↔ conf.TripsOver option p := by
  unfold problem?
  constructor
  · intro h
    split at h
    · rename_i value hvalue
      by_cases haccepts : option.accepts value.text = true
      · rw [if_pos haccepts] at h
        cases h
      · rw [if_neg haccepts] at h
        obtain rfl := Option.some.inj h
        exact .notAllowed (getExplicit_eq_ok_some_iff.1 hvalue) (by simpa using haccepts)
    · cases h
    · rename_i e he
      obtain rfl := Option.some.inj h
      exact .unreadable (getExplicit_eq_error_iff.1 he)
  · rintro (h | ⟨h, hnot⟩)
    · rw [getExplicit_eq_error_iff.2 h]
    · simp only [getExplicit_eq_ok_some_iff.2 h, hnot, Bool.false_eq_true, if_false]

/-- The problem of an option is about an unreadable value exactly when the option has a read error,
and then names that error. -/
theorem unreadable?_problem? (conf : Configuration) (option : Definition) :
    (conf.problem? option).bind Problem.unreadable? = conf.readError? option := by
  unfold problem? readError?
  cases conf.getExplicit option with
  | error e => rfl
  | ok found =>
    cases found with
    | none => rfl
    | some value =>
      by_cases haccepts : option.accepts value.text = true
      · simp only [if_pos haccepts, Option.bind_none]
      · simp only [if_neg haccepts, Option.bind_some, Problem.unreadable?]

/-- An error names the key whose value does not convert. -/
theorem FailsWith.eq_invalidValue {e : ReadError} (h : conf.FailsWith option e) :
    ∃ cause, e = .invalidValue option.key cause := by
  obtain ⟨_, cause, _, _, he⟩ := h
  exact ⟨cause, he⟩

/-- Where a reading fails, something is stored. -/
theorem FailsWith.contains {e : ReadError} (h : conf.FailsWith option e) :
    conf.contains option.key = true := by
  obtain ⟨stored, _, hstored, _, _⟩ := h
  rw [KeyMap.contains, hstored]
  rfl

/-- No two options have the same error. -/
theorem FailsWith.key_eq {other : Definition} {e : ReadError} (h : conf.FailsWith option e)
    (h' : conf.FailsWith other e) : option.key = other.key := by
  obtain ⟨cause, rfl⟩ := h.eq_invalidValue
  obtain ⟨cause', heq⟩ := h'.eq_invalidValue
  injection heq

/-! ### Changed options and kept entries -/

variable (registry : Registry)

/-- At the key of a registered option, the question about the key is the one about the option. -/
theorem isDefaultKey_of_mem {registry : Registry} (h : option ∈ registry.definitions) :
    isDefaultKey registry conf option.key = conf.isDefault option := by
  rw [isDefaultKey, Registry.get?_of_mem h]

/-- A registered option has an entry without the defaults exactly when it is changed. -/
theorem contains_changedOnly {registry : Registry} (h : option ∈ registry.definitions) :
    (explicitEntries registry conf true).value.contains option.key =
      !(conf.isDefault option).value := by
  rw [KeyMap.contains, get?_explicitEntries, isDefaultKey_of_mem h, Bool.true_and]
  cases hdefault : (conf.isDefault option).value with
  | true => rfl
  | false =>
    cases hget : conf.get? option.key with
    | none =>
      rw [isDefault_of_unset hget] at hdefault
      cases hdefault
    | some stored => rfl

/-- **The changed options are the registered keys with an entry**, in order of registration. -/
theorem keys_changedOptions (conf : Configuration) :
    (conf.changedOptions registry.definitions).value.map (fun change => change.1.key) =
      (registry.definitions.map Definition.key).filter
        (explicitEntries registry conf true).value.contains := by
  rw [changedOptions, List.map_map, List.filter_map]
  refine congrArg (List.map Definition.key) (List.filter_congr fun option hmem => ?_)
  exact (contains_changedOnly hmem).symm

/-- A key is at its default exactly when it is unset or holds the default of its option. -/
theorem value_isDefaultKey_iff {registry : Registry} {key : String} {stored : Value}
    (h : conf.get? key = some stored) :
    (isDefaultKey registry conf key).value = true ↔
      ∃ option ∈ registry.definitions, option.key = key ∧ conf.HoldsDefault option := by
  unfold isDefaultKey
  cases hget : registry.get? key with
  | none =>
    have hnone := Registry.get?_eq_none_iff.1 hget
    constructor
    · intro hfalse
      cases hfalse
    · rintro ⟨option, hmem, hkey, _⟩
      exact absurd (List.mem_map.2 ⟨option, hmem, hkey⟩) hnone
  | some option =>
    obtain ⟨hmem, rfl⟩ := Registry.get?_eq_some_iff.1 hget
    have hset : conf.get? option.key ≠ none := by simp [h]
    rw [value_isDefault_iff, or_iff_right hset]
    constructor
    · intro hholds
      exact ⟨option, hmem, rfl, hholds⟩
    · rintro ⟨other, hother, hkey, hholds⟩
      exact Registry.eq_of_key_eq hmem hother hkey ▸ hholds

/-- **Without the defaults exactly those entries are missing** that hold the default of their
option. -/
theorem get?_changedOnly_iff (conf : Configuration) (key text : String) :
    (explicitEntries registry conf true).value.get? key = some text ↔
      (explicitEntries registry conf false).value.get? key = some text ∧
        ¬ ∃ option ∈ registry.definitions, option.key = key ∧ conf.HoldsDefault option := by
  rw [get?_explicitEntries, get?_explicitEntries, Bool.true_and, Bool.false_and,
    if_neg Bool.false_ne_true]
  cases hget : conf.get? key with
  | none => simp
  | some stored =>
    rw [← value_isDefaultKey_iff hget]
    by_cases hdefault : (isDefaultKey registry conf key).value = true
    · simp [hdefault]
    · simp [hdefault]

/-! ### Problems -/

/-- Whether a consumer would trip over what is stored for the option. -/
def Trips (conf : Configuration) (option : Definition) : Prop :=
  ∃ p, conf.TripsOver option p

instance (conf : Configuration) (option : Definition) : Decidable (conf.Trips option) :=
  decidable_of_iff ((conf.problem? option).isSome = true) (by
    rw [Option.isSome_iff_exists]
    exact exists_congr fun p => problem?_eq_some_iff)

/-- **There is one problem for each option that a consumer would trip over**, in order of
registration. -/
theorem forall₂_problems (conf : Configuration) :
    List.Forall₂ conf.TripsOver (registry.definitions.filter fun option => conf.Trips option)
      (conf.problems registry) := by
  unfold problems
  induction registry.definitions with
  | nil => exact .nil
  | cons option rest ih =>
    rw [List.filter_cons, List.filterMap_cons]
    cases hproblem : conf.problem? option with
    | none =>
      have hnot : ¬ conf.Trips option := by
        rintro ⟨p, hp⟩
        rw [problem?_eq_some_iff.2 hp] at hproblem
        cases hproblem
      rw [if_neg (by simpa using hnot)]
      exact ih
    | some p =>
      have hp := problem?_eq_some_iff.1 hproblem
      have htrips : conf.Trips option := ⟨p, hp⟩
      rw [if_pos (decide_eq_true htrips)]
      exact .cons hp ih

/-- An error is among the problems when the value of a registered option fails with it. -/
theorem unreadable_mem_problems_iff (conf : Configuration) (e : ReadError) :
    .unreadable e ∈ conf.problems registry ↔
      ∃ option ∈ registry.definitions, conf.FailsWith option e := by
  rw [problems, List.mem_filterMap]
  refine exists_congr fun option => and_congr_right fun _ => ?_
  rw [problem?_eq_some_iff]
  constructor
  · rintro (h | _)
    exact h
  · exact .unreadable

/-- An error for the key of a registered option is one of that option. -/
theorem exists_unreadable_iff {registry : Registry} (h : option ∈ registry.definitions) :
    (∃ cause, .unreadable (.invalidValue option.key cause) ∈ conf.problems registry) ↔
      ∃ e, conf.FailsWith option e := by
  simp only [unreadable_mem_problems_iff]
  constructor
  · rintro ⟨cause, other, hother, hfails⟩
    obtain ⟨_, heq⟩ := hfails.eq_invalidValue
    obtain ⟨hkey, _⟩ := ReadError.invalidValue.inj heq
    obtain rfl := Registry.eq_of_key_eq h hother hkey.symm
    exact ⟨_, hfails⟩
  · rintro ⟨e, hfails⟩
    obtain ⟨cause, rfl⟩ := hfails.eq_invalidValue
    exact ⟨cause, option, h, hfails⟩

/-- An option is changed without a value exactly when its value does not convert. -/
theorem mem_changedOptions_none_iff {registry : Registry} (h : option ∈ registry.definitions) :
    (option, none) ∈ (conf.changedOptions registry.definitions).value ↔
      ∃ e, conf.FailsWith option e := by
  simp only [changedOptions, List.mem_map, List.mem_filter, Prod.mk.injEq]
  constructor
  · rintro ⟨changed, ⟨_, hchanged⟩, rfl, hvalue⟩
    rcases conf.states changed with hunset | ⟨value, hconverts⟩ | hfails
    · rw [isDefault_of_unset hunset] at hchanged
      cases hchanged
    · rw [getExplicit_eq_ok_some_iff.2 hconverts] at hvalue
      cases hvalue
    · exact hfails
  · rintro ⟨e, hfails⟩
    have hexplicit := getExplicit_eq_error_iff.2 hfails
    refine ⟨option, ⟨h, ?_⟩, rfl, ?_⟩
    · rw [isDefault, hexplicit]
      rfl
    · rw [hexplicit]
      rfl

/-! ### Warnings -/

/-- The errors met on a walk over the stored keys. -/
theorem warnings_along (conf : Configuration) (walk : List String) :
    (walk.flatMap fun key => (isDefaultKey registry conf key).warnings) =
      walk.filterMap fun key => (registry.get? key).bind conf.readError? := by
  rw [List.filterMap_eq_flatMap_toList]
  refine List.flatMap_congr fun key _ => ?_
  unfold isDefaultKey
  cases registry.get? key with
  | none => rfl
  | some option => exact warnings_isDefault conf option

/-- The errors among the problems are those met on a walk over the registry. -/
theorem unreadable_problems (conf : Configuration) :
    (conf.problems registry).filterMap Problem.unreadable? =
      registry.definitions.filterMap conf.readError? := by
  rw [problems, List.filterMap_filterMap]
  exact List.filterMap_congr fun option _ => unreadable?_problem? conf option

/-- **A walk over the stored keys and one over the registry meet the same errors**, each of them
once. -/
theorem warnings_along_perm (conf : Configuration) {walk : List String} (h : walk.Perm conf.keys) :
    (walk.flatMap fun key => (isDefaultKey registry conf key).warnings).Perm
      ((conf.problems registry).filterMap Problem.unreadable?) := by
  rw [warnings_along, unreadable_problems]
  have hsome : ∀ {key e}, (registry.get? key).bind conf.readError? = some e ↔
      ∃ option ∈ registry.definitions, option.key = key ∧ conf.FailsWith option e := by
    intro key e
    simp only [Option.bind_eq_some_iff, Registry.get?_eq_some_iff, readError?_eq_some_iff,
      and_assoc]
  -- both walks meet each error once, since it names a key and no key is met twice
  have hwalk : (walk.filterMap fun key => (registry.get? key).bind conf.readError?).Nodup := by
    refine List.Pairwise.filterMap _ ?_ (h.nodup_iff.2 conf.nodup_keys)
    intro key key' hne e he e' he' heq
    obtain ⟨option, _, rfl, hfails⟩ := hsome.1 he
    obtain ⟨other, _, rfl, hfails'⟩ := hsome.1 he'
    exact hne (hfails.key_eq (heq ▸ hfails'))
  have hregistry : (registry.definitions.filterMap conf.readError?).Nodup := by
    refine List.Pairwise.filterMap _ ?_ (List.pairwise_map.1 registry.keys_nodup)
    intro option other hne e he e' he' heq
    rw [readError?_eq_some_iff] at he he'
    exact hne (he.key_eq (heq ▸ he'))
  rw [List.perm_ext_iff_of_nodup hwalk hregistry]
  intro e
  simp only [List.mem_filterMap, hsome, readError?_eq_some_iff]
  constructor
  · rintro ⟨_, _, option, hmem, _, hfails⟩
    exact ⟨option, hmem, hfails⟩
  · rintro ⟨option, hmem, hfails⟩
    have hkey := (conf.contains_iff_mem_keys option.key).1 hfails.contains
    exact ⟨option.key, h.mem_iff.2 hkey, option, hmem, rfl, hfails⟩

/-- The kept entries are the same in whatever order the stored ones are walked. -/
theorem ofList_along (conf : Configuration) {walk : List (String × String)}
    (h : walk.Perm conf.toMap.entries) :
    KeyMap.ofList (walk.filter fun e => !(isDefaultKey registry conf e.1).value) =
      (explicitEntries registry conf true).value := by
  rw [explicitEntries, if_pos rfl]
  exact KeyMap.ofList_of_perm (h.filter _)

/-- **The views of what a user changed agree.** The changed options are the registered keys among the
entries without the defaults. Those are all entries but the ones that hold the default of their
option. An option is changed without a value when there is a conversion error for it among the
problems; there is one problem for each option that a consumer would trip over. The warnings on the
way to the entries are the conversion errors among the problems, in the same words, and neither they
nor the entries depend on the order in which the stored entries are walked. -/
theorem changed_views_agree (registry : Registry) (conf : Configuration) :
    (conf.changedOptions registry.definitions).value.map (fun change => change.1.key) =
      (registry.definitions.map Definition.key).filter
        (explicitEntries registry conf true).value.contains ∧
    (∀ key text, (explicitEntries registry conf true).value.get? key = some text ↔
      (explicitEntries registry conf false).value.get? key = some text ∧
        ¬ ∃ option ∈ registry.definitions, option.key = key ∧ conf.HoldsDefault option) ∧
    (∀ option ∈ registry.definitions,
      ((option, none) ∈ (conf.changedOptions registry.definitions).value ↔
        ∃ cause, .unreadable (.invalidValue option.key cause) ∈ conf.problems registry)) ∧
    List.Forall₂ conf.TripsOver (registry.definitions.filter fun option => conf.Trips option)
      (conf.problems registry) ∧
    (explicitEntries registry conf true).warnings.Perm
      ((conf.problems registry).filterMap Problem.unreadable?) ∧
    (∀ p e, Problem.unreadable? p = some e → p.message = e.message) ∧
    ∀ walk : List (String × String), walk.Perm conf.toMap.entries →
      KeyMap.ofList (walk.filter fun e => !(isDefaultKey registry conf e.1).value) =
        (explicitEntries registry conf true).value ∧
      (walk.flatMap fun e => (isDefaultKey registry conf e.1).warnings).Perm
        ((conf.problems registry).filterMap Problem.unreadable?) := by
  refine ⟨keys_changedOptions registry conf, get?_changedOnly_iff registry conf, ?_,
    forall₂_problems registry conf, ?_, ?_, ?_⟩
  · intro option hmem
    rw [mem_changedOptions_none_iff hmem, exists_unreadable_iff hmem]
  · rw [explicitEntries, if_pos rfl]
    exact warnings_along_perm registry conf (.refl _)
  · intro p e hp
    cases p with
    | unreadable cause => exact congrArg ReadError.message (Option.some.inj hp)
    | notAllowed key value allowed => cases hp
  · intro walk hwalk
    have hkeys : (walk.map Prod.fst).Perm conf.keys := by
      have hmap := hwalk.map Prod.fst
      rwa [toMap, KeyMap.mapValues, List.map_map] at hmap
    refine ⟨ofList_along registry conf hwalk, ?_⟩
    have hwarnings := warnings_along_perm registry conf hkeys
    rwa [List.flatMap_map] at hwarnings

end Configuration

end TableOptions
