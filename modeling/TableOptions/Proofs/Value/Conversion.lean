import TableOptions.Value

/-!
# Conversions between the types

A conversion gives a value of the type it is asked for (`Value.type_of_coerce?`), and leaves a value
that already is of that type as it is (`Value.coerce?_type`). `Value.coerce` succeeds with exactly what
`Value.coerce?` gives (`Value.coerce_eq_ok_iff`).
-/

namespace TableOptions.Value

/-- A conversion with its error succeeds as the one without does. -/
theorem toOption_coerce (v : Value) (type : ValueType) :
    (v.coerce type).toOption = v.coerce? type := by
  unfold coerce
  cases v.coerce? type <;> rfl

/-- **A conversion succeeds with a value exactly when there is that value.** -/
theorem coerce_eq_ok_iff {v w : Value} {type : ValueType} :
    v.coerce type = .ok w ↔ v.coerce? type = some w := by
  unfold coerce
  cases v.coerce? type <;> simp

/-- A conversion fails with some error exactly when there is no value. -/
theorem coerce_eq_error_iff {v : Value} {type : ValueType} :
    (∃ e, v.coerce type = .error e) ↔ v.coerce? type = none := by
  unfold coerce
  cases v.coerce? type <;> simp

/-- A conversion by reading succeeds with what is read. -/
theorem coerce_of_ok {ε α : Type} {v : Value} {type : ValueType} {x : Except ε α} {f : α → Value}
    (hread : v.coerce? type = x.toOption.map f) {a : α} (h : x = .ok a) :
    v.coerce type = .ok (f a) := by
  rw [coerce_eq_ok_iff, hread, h]
  rfl

/-- Where the text of a value cannot be read, its conversion fails. -/
theorem coerce_of_error {ε α : Type} {v : Value} {type : ValueType} {x : Except ε α}
    {f : α → Value} (hread : v.coerce? type = x.toOption.map f) {cause : ε} (h : x = .error cause) :
    ∃ e, v.coerce type = .error e := by
  rw [coerce_eq_error_iff, hread, h]
  rfl

/-- A value converts to its own type as it is. -/
theorem coerce?_type (v : Value) : v.coerce? v.type = some v := by
  cases v <;> rfl

/-- A value that is made from what was read has the type that it is made for. -/
theorem type_of_map {α : Type} {x : Option α} {wrap : α → Value} {w : Value} {type : ValueType}
    (hwrap : ∀ a, (wrap a).type = type) (h : x.map wrap = some w) : w.type = type := by
  obtain ⟨a, -, rfl⟩ := Option.map_eq_some_iff.1 h
  exact hwrap a

/-- **What converts to a type is of that type.** -/
theorem type_of_coerce? {v w : Value} {type : ValueType} (h : v.coerce? type = some w) :
    w.type = type := by
  cases type with
  | string =>
    obtain rfl := Option.some.inj h
    rfl
  | boolean =>
    cases v with
    | bool b => exact Option.some.inj h ▸ rfl
    | string s => exact type_of_map (fun _ => rfl) h
    | int | long | double => cases h
  | integer =>
    cases v with
    | int n => exact Option.some.inj h ▸ rfl
    | long n => exact type_of_map (fun _ => rfl) h
    | string s => exact type_of_map (fun _ => rfl) h
    | bool | double => cases h
  | long =>
    cases v with
    | int n => exact Option.some.inj h ▸ rfl
    | long n => exact Option.some.inj h ▸ rfl
    | string s => exact type_of_map (fun _ => rfl) h
    | bool | double => cases h
  | double =>
    cases v with
    | int n => exact Option.some.inj h ▸ rfl
    | long n => exact Option.some.inj h ▸ rfl
    | double x => exact Option.some.inj h ▸ rfl
    | string s => exact type_of_map (fun _ => rfl) h
    | bool => cases h

end TableOptions.Value
