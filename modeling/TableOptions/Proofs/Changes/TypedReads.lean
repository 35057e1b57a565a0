import TableOptions.Proofs.Changes.Views
import TableOptions.Proofs.Draft.History
import TableOptions.Proofs.Value.Conversion

/-!
# Typed reads

What is read of an option is of its declared type: a stored value because it is converted, a default
because no sequence of steps leads to a definition with a default of another type
(`Definition.default_of_ofSteps`). So the accessor of the declared type gives whatever is read, and an
accessor of any other type fails on it (`Configuration.typed_reads_sound`).

`Configuration.getTyped` is the five typed readings as one. It is a reading from which values of one
type are demanded (`getTyped_eq_demand`).
-/

namespace TableOptions

/-- The default of a definition that steps lead to is of its type, and it accepts the text of it. -/
theorem Definition.default_of_ofSteps {group key : String} {steps : List DraftStep}
    {option : Definition} (h : Definition.ofSteps group key steps = .ok option) {default : Value}
    (hdefault : option.default = some default) :
    default.type = option.type ∧ option.accepts default.text = true := by
  have houtcome : Outcome group key steps (.ok option) :=
    h ▸ (Draft.records group key steps).outcome
  exact houtcome.default_of_ok hdefault

namespace Value

/-- An access gives the content of the values of a type, and fails on all others. -/
def Accesses {α : Type} (type : ValueType) (wrap : α → Value)
    (access : Value → Except TypeMismatch α) : Prop :=
  ∀ v, (access v).map wrap = if v.type = type then .ok v else .error ⟨type, v⟩

/-- Booleans are taken out of boolean values. -/
theorem accesses_bool : Accesses .boolean bool asBool := by
  intro v
  cases v <;> rfl

/-- Integers of 32 bits are taken out of values of their type. -/
theorem accesses_int : Accesses .integer int asInt := by
  intro v
  cases v <;> rfl

/-- Integers of 64 bits are taken out of values of their type. -/
theorem accesses_long : Accesses .long long asLong := by
  intro v
  cases v <;> rfl

/-- Doubles are taken out of double values. -/
theorem accesses_double : Accesses .double double asDouble := by
  intro v
  cases v <;> rfl

/-- Texts are taken out of string values. -/
theorem accesses_string : Accesses .string string asString := by
  intro v
  cases v <;> rfl

end Value

namespace Configuration

variable {conf : Configuration} {option : Definition} {value : Value}

/-! ### Readings by the three states -/

/-- An option whose stored value converts reads the result. -/
theorem get_of_convertsTo (h : conf.ConvertsTo option value) :
    conf.get option = .ok (some value) := by
  rw [get, getExplicit_eq_ok_some_iff.2 h]

/-- An option whose stored value does not convert reads an error. -/
theorem get_of_failsWith {e : ReadError} (h : conf.FailsWith option e) :
    conf.get option = .error e := by
  rw [get, getExplicit_eq_error_iff.2 h]

/-- What a stored value converts to has the option's type. -/
theorem ConvertsTo.type_eq (h : conf.ConvertsTo option value) : value.type = option.type := by
  obtain ⟨stored, _, hcoerce⟩ := h
  exact Value.type_of_coerce? (Value.coerce_eq_ok_iff.1 hcoerce)

/-- Nothing is read where nothing is stored and there is no default. -/
theorem get_eq_ok_none_iff :
    conf.get option = .ok none ↔ conf.get? option.key = none ∧ option.default = none := by
  rcases conf.states option with hunset | ⟨value, hconverts⟩ | ⟨e, hfails⟩
  · rw [get_of_unset hunset]
    simp [hunset]
  · have hset : conf.get? option.key ≠ none := by
      obtain ⟨stored, hstored, _⟩ := hconverts
      simp [hstored]
    rw [get_of_convertsTo hconverts]
    simp [hset]
  · have hset : conf.get? option.key ≠ none := by
      obtain ⟨stored, _, hstored, _⟩ := hfails
      simp [hstored]
    rw [get_of_failsWith hfails]
    simp [hset]

/-- Reading fails where what is stored does not convert. -/
theorem get_eq_error_iff {e : ReadError} :
    conf.get option = .error e ↔ conf.FailsWith option e := by
  constructor
  · intro h
    rcases conf.states option with hunset | ⟨value, hconverts⟩ | ⟨e', hfails⟩
    · rw [get_of_unset hunset] at h
      cases h
    · rw [get_of_convertsTo hconverts] at h
      cases h
    · rw [get_of_failsWith hfails] at h
      exact Except.error.inj h ▸ hfails
  · exact get_of_failsWith

/-- **What is read is of the declared type**, if the default is. -/
theorem type_of_get
    (hdefault : ∀ default, option.default = some default → default.type = option.type)
    (h : conf.get option = .ok (some value)) : value.type = option.type := by
  rcases conf.states option with hunset | ⟨value', hconverts⟩ | ⟨e, hfails⟩
  · rw [get_of_unset hunset] at h
    exact hdefault value (Except.ok.inj h)
  · rw [get_of_convertsTo hconverts] at h
    obtain rfl := Option.some.inj (Except.ok.inj h)
    exact hconverts.type_eq
  · rw [get_of_failsWith hfails] at h
    cases h

/-! ### Typed readings -/

/-- The value of an option through the accessor of a type. -/
def getTyped (conf : Configuration) (type : ValueType) (option : Definition) :
    Except ReadError (Option Value) :=
  match type with
  | .string => (conf.getString option).map (Option.map .string)
  | .boolean => (conf.getBool option).map (Option.map .bool)
  | .integer => (conf.getInt option).map (Option.map .int)
  | .long => (conf.getLong option).map (Option.map .long)
  | .double => (conf.getDouble option).map (Option.map .double)

/-- A reading from which a value of a type is demanded. -/
def demand (type : ValueType) : Except ReadError (Option Value) → Except ReadError (Option Value)
  | .ok (some v) => if v.type = type then .ok (some v) else .error (.wrongType ⟨type, v⟩)
  | .ok none => .ok none
  | .error e => .error e

/-- **Every typed reading is the plain reading with its type demanded**, whatever type it is for. -/
theorem map_getAs {α : Type} {type : ValueType} {wrap : α → Value}
    {access : Value → Except TypeMismatch α} (h : Value.Accesses type wrap access)
    (conf : Configuration) (option : Definition) :
    (getAs access conf option).map (Option.map wrap) = demand type (conf.get option) := by
  unfold getAs
  cases conf.get option with
  | error e => rfl
  | ok found =>
    cases found with
    | none => rfl
    | some v =>
      have hv := h v
      simp only [demand]
      cases haccess : access v with
      | error e =>
        rw [haccess] at hv
        split at hv
        · cases hv
        · rename_i hne
          rw [if_neg hne, Except.error.inj hv]
          rfl
      | ok a =>
        rw [haccess] at hv
        split at hv
        · rename_i heq
          rw [if_pos heq, ← Except.ok.inj hv]
          rfl
        · cases hv

/-- **A typed reading demands its type.** -/
theorem getTyped_eq_demand (conf : Configuration) (type : ValueType) (option : Definition) :
    conf.getTyped type option = demand type (conf.get option) := by
  cases type with
  | string => exact map_getAs Value.accesses_string conf option
  | boolean => exact map_getAs Value.accesses_bool conf option
  | integer => exact map_getAs Value.accesses_int conf option
  | long => exact map_getAs Value.accesses_long conf option
  | double => exact map_getAs Value.accesses_double conf option

/-- To demand the type that a value has anyway changes nothing. -/
theorem demand_of_type {type : ValueType} {r : Except ReadError (Option Value)}
    (h : ∀ v, r = .ok (some v) → v.type = type) : demand type r = r := by
  cases r with
  | error e => rfl
  | ok found =>
    cases found with
    | none => rfl
    | some v => exact if_pos (h v rfl)

/-- To demand a type that the value does not have fails, unless there is no value. -/
theorem demand_of_ne {type : ValueType} {r : Except ReadError (Option Value)}
    (h : ∀ v, r = .ok (some v) → v.type ≠ type) (hfound : r ≠ .ok none) :
    ∃ e, demand type r = .error e := by
  cases r with
  | error e => exact ⟨e, rfl⟩
  | ok found =>
    cases found with
    | none => exact absurd rfl hfound
    | some v => exact ⟨_, if_neg (h v rfl)⟩

/-- **Typed reads are sound**, for every definition that a sequence of steps leads to. What is read is of
the declared type. Nothing is read if and only if nothing is stored and there is no default. The
accessor of the declared type gives what is read, so it fails if and only if a value is stored that
does not convert. An accessor of any other type fails, unless there is nothing to read. -/
theorem typed_reads_sound {group key : String} {steps : List DraftStep} {option : Definition}
    (h : Definition.ofSteps group key steps = .ok option) (conf : Configuration) :
    (∀ v, conf.get option = .ok (some v) → v.type = option.type) ∧
    (conf.get option = .ok none ↔ conf.get? option.key = none ∧ option.default = none) ∧
    conf.getTyped option.type option = conf.get option ∧
    ((∃ e, conf.getTyped option.type option = .error e) ↔
      ∃ stored cause, conf.get? option.key = some stored ∧
        stored.coerce option.type = .error cause) ∧
    ∀ type, type ≠ option.type → conf.get option ≠ .ok none →
      ∃ e, conf.getTyped type option = .error e := by
  have htype : ∀ v, conf.get option = .ok (some v) → v.type = option.type := fun v =>
    type_of_get fun default hdefault => (Definition.default_of_ofSteps h hdefault).1
  have hown : conf.getTyped option.type option = conf.get option := by
    rw [getTyped_eq_demand, demand_of_type htype]
  refine ⟨htype, get_eq_ok_none_iff, hown, ?_, fun type hne hfound => ?_⟩
  · rw [hown]
    simp only [get_eq_error_iff]
    constructor
    · rintro ⟨_, stored, cause, hstored, hcause, rfl⟩
      exact ⟨stored, cause, hstored, hcause⟩
    · rintro ⟨stored, cause, hstored, hcause⟩
      exact ⟨_, stored, cause, hstored, hcause, rfl⟩
  · rw [getTyped_eq_demand]
    exact demand_of_ne (fun v hv => htype v hv ▸ hne.symm) hfound

/-- A type that was given after an enumeration, and a stored value of yet another type. -/
theorem typed_reads_sound_sample :
    let option : Definition := ⟨"write.tasks", "write", .integer, some (.int 4), "", ["4", "8"]⟩
    let conf : Configuration := KeyMap.ofList [("write.tasks", .long 9)]
    Definition.ofSteps "write" "write.tasks" [.enumeration ["4", "8"] "4", .integer 4] = .ok option ∧
      conf.get option = .ok (some (.int 9)) ∧ conf.getTyped .integer option = .ok (some (.int 9)) ∧
      ∃ e, conf.getTyped .long option = .error e := by
  intro option conf
  have hoption :
      Definition.ofSteps "write" "write.tasks" [.enumeration ["4", "8"] "4", .integer 4] =
        .ok option := by
    decide +kernel
  have hget : conf.get option = .ok (some (.int 9)) := by decide +kernel
  obtain ⟨-, -, hown, -, hother⟩ := typed_reads_sound hoption conf
  refine ⟨hoption, hget, hown.trans hget, hother .long (by decide) ?_⟩
  rw [hget]
  simp

end Configuration

end TableOptions
