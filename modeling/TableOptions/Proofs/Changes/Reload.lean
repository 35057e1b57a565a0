import TableOptions.Proofs.Changes.ChangedOnly

/-!
# Reloading a configuration from its texts

A conversion of a value and one of its text give the same value, or fail with the same words
(`Value.coerce_string_text`). Nothing else of what is stored enters a reading, so a configuration
that is loaded from the texts of another reads as that one does, warnings included
(`Configuration.reload_reads_alike`).

The values are identical and not only equal, so nothing has to be said about what is not a number.
Failures are compared by their words: an error holds the value that did not convert, and after a
reload that value is a text.
-/

namespace TableOptions

namespace Value

/-- **A value and its text convert alike, in words too**, except for a double in a type of
integers. -/
theorem coerce_string_text (v : Value) (type : ValueType) (h : v.type = .double → ¬ type.IsWhole) :
    ((string v.text).coerce type).mapError ConversionError.message =
      (v.coerce type).mapError ConversionError.message := by
  unfold coerce
  rw [coerce?_string_text v type h]
  cases v.coerce? type with
  | none => rfl
  | some w => rfl

/-- The exception: no double converts to an integer, whole number or not. -/
theorem coerce_double_of_isWhole (x : Double) {type : ValueType} (h : type.IsWhole) :
    (double x).coerce type = .error ⟨double x, type⟩ := by
  rcases h with rfl | rfl
  · rfl
  · rfl

end Value

namespace Configuration

variable {conf again : Configuration} {option : Definition}

/-! ### Readings that agree in words -/

/-- Results that agree up to the words of a failure are the same success or two failures. -/
theorem cases_of_mapError_eq {ε ζ α : Type} {f : ε → ζ} {x y : Except ε α}
    (h : x.mapError f = y.mapError f) :
    (∃ v, x = .ok v ∧ y = .ok v) ∨ ∃ e e', x = .error e ∧ y = .error e' ∧ f e = f e' := by
  cases x with
  | error e =>
    cases y with
    | error e' => exact Or.inr ⟨e, e', rfl, rfl, Except.error.inj h⟩
    | ok w => cases h
  | ok v =>
    cases y with
    | error e' => cases h
    | ok w =>
      obtain rfl : v = w := Except.ok.inj h
      exact Or.inl ⟨v, rfl, rfl⟩

/-- The explicit value decides what an option reads as with its default. -/
theorem get_mapError_congr
    (h : (again.getExplicit option).mapError ReadError.chain =
      (conf.getExplicit option).mapError ReadError.chain) :
    (again.get option).mapError ReadError.chain = (conf.get option).mapError ReadError.chain := by
  rw [get, get]
  rcases cases_of_mapError_eq h with ⟨value, hagain, hconf⟩ | ⟨e, e', hagain, hconf, hwords⟩
  · rw [hagain, hconf]
  · rw [hagain, hconf]
    exact congrArg Except.error hwords

/-- The explicit value decides whether an option is at its default, and the warning. -/
theorem isDefault_mapWarnings_congr
    (h : (again.getExplicit option).mapError ReadError.chain =
      (conf.getExplicit option).mapError ReadError.chain) :
    (again.isDefault option).mapWarnings ReadError.message =
      (conf.isDefault option).mapWarnings ReadError.message := by
  rw [isDefault, isDefault]
  rcases cases_of_mapError_eq h with ⟨value, hagain, hconf⟩ | ⟨e, e', hagain, hconf, hwords⟩
  · rw [hagain, hconf]
  · rw [hagain, hconf]
    simp only [Warned.mapWarnings, List.map_cons, List.map_nil, ReadError.message, hwords]

/-! ### Reloading -/

/-- After a reload every key holds the text of what it held before. -/
theorem get?_reload (conf : Configuration) (key : String) :
    (ofMap conf.toMap).get? key = (conf.get? key).map fun stored => .string stored.text := by
  rw [get?_ofMap, toMap, KeyMap.get?_mapValues, Option.map_map]
  rfl

/-- **A reload changes no explicit reading**, neither the value nor the wording of an error, unless a
double stands where a whole number is expected. -/
theorem getExplicit_reload (hwhole : conf.NoDoubleForWhole option) :
    ((ofMap conf.toMap).getExplicit option).mapError ReadError.chain =
      (conf.getExplicit option).mapError ReadError.chain := by
  have hagain := get?_reload conf option.key
  cases hstored : conf.get? option.key with
  | none =>
    rw [hstored] at hagain
    rw [getExplicit_of_unset hagain, getExplicit_of_unset hstored]
  | some stored =>
    rw [hstored, Option.map_some] at hagain
    have htext := coerce?_text_of_stored hwhole hstored
    cases hvalue : stored.coerce? option.type with
    | none =>
      rw [hvalue] at htext
      rw [getExplicit_of_coerce?_none hagain htext, getExplicit_of_coerce?_none hstored hvalue]
      rfl
    | some value =>
      rw [hvalue] at htext
      rw [getExplicit_of_coerce? hagain htext, getExplicit_of_coerce? hstored hvalue]

/-- **Values and their texts are read alike.** A value converts as its text does, with the same words
when it fails. A double never converts to a type of integers, so it is the exception: its text may.
Where no such double is stored, a configuration that is loaded from the texts of another reads every
option as that one, says alike whether it is at its default, and warns with the same words. -/
theorem reload_reads_alike :
    (∀ (v : Value) (type : ValueType), ¬ (v.type = .double ∧ type.IsWhole) →
      ((Value.string v.text).coerce type).mapError ConversionError.message =
        (v.coerce type).mapError ConversionError.message) ∧
    (∀ (v : Value) (type : ValueType), v.type = .double ∧ type.IsWhole →
      v.coerce type = .error ⟨v, type⟩) ∧
    ∀ (conf : Configuration) (option : Definition), conf.NoDoubleForWhole option →
      ((ofMap conf.toMap).get option).mapError ReadError.chain =
          (conf.get option).mapError ReadError.chain ∧
        ((ofMap conf.toMap).getExplicit option).mapError ReadError.chain =
          (conf.getExplicit option).mapError ReadError.chain ∧
        ((ofMap conf.toMap).isDefault option).mapWarnings ReadError.message =
          (conf.isDefault option).mapWarnings ReadError.message := by
  refine ⟨?_, ?_, ?_⟩
  · intro v type h
    exact Value.coerce_string_text v type fun hdouble hwhole => h ⟨hdouble, hwhole⟩
  · rintro v type ⟨hdouble, hwhole⟩
    cases v with
    | double x => exact Value.coerce_double_of_isWhole x hwhole
    | bool b => cases hdouble
    | int n => cases hdouble
    | long n => cases hdouble
    | string s => cases hdouble
  · intro conf option hwhole
    have hexplicit := getExplicit_reload hwhole
    exact ⟨get_mapError_congr hexplicit, hexplicit, isDefault_mapWarnings_congr hexplicit⟩

/-- The exception is real: 64 as a double is no integer, but its text is one. -/
example :
    (Value.double (Double.ofInt 64)).coerce? .integer = none ∧
      (Value.string (Value.double (Double.ofInt 64)).text).coerce? .integer = some (.int 64) := by
  decide +kernel

end Configuration

end TableOptions
