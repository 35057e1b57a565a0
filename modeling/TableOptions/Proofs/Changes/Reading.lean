import TableOptions.Changes

/-!
# How an option reads

What is stored for an option decides how it reads: nothing is stored, or a value that converts to the
declared type, or one that does not. For each of the three there is one equation for the explicit
value, for the value with the default, and for whether the option is at its default.

Two readings are compared by `SameReading`. "The same" cannot mean identical there. A default `0` may
stand for a stored `-0`, for they are equal; and what is not a number is equal to nothing, though it
reads back as itself.
-/

namespace TableOptions

namespace Configuration

variable {conf : Configuration} {option : Definition} {stored value : Value}

/-! ### Nothing is stored -/

/-- Where nothing is stored, nothing is explicit. -/
theorem getExplicit_of_unset (h : conf.get? option.key = none) :
    conf.getExplicit option = .ok none := by
  rw [getExplicit, h]

/-- Where nothing is stored, the default is read. -/
theorem get_of_unset (h : conf.get? option.key = none) :
    conf.get option = .ok option.default := by
  rw [get, getExplicit_of_unset h]

/-- Where nothing is stored, the option holds its default, without a warning. -/
theorem isDefault_of_unset (h : conf.get? option.key = none) :
    conf.isDefault option = ⟨true, []⟩ := by
  rw [isDefault, getExplicit_of_unset h]

/-! ### A value that converts -/

/-- A stored value that converts is explicit as what it converts to. -/
theorem getExplicit_of_coerce? (h : conf.get? option.key = some stored)
    (hvalue : stored.coerce? option.type = some value) :
    conf.getExplicit option = .ok (some value) := by
  rw [getExplicit, h]
  simp only [Value.coerce, hvalue]

/-- A stored value that converts is read as what it converts to. -/
theorem get_of_coerce? (h : conf.get? option.key = some stored)
    (hvalue : stored.coerce? option.type = some value) :
    conf.get option = .ok (some value) := by
  rw [get, getExplicit_of_coerce? h hvalue]

/-- Without a default there is nothing that the value could be equal to. -/
theorem isDefault_of_coerce? (h : conf.get? option.key = some stored)
    (hvalue : stored.coerce? option.type = some value) :
    conf.isDefault option = ⟨option.default.any fun default => default.equal value, []⟩ := by
  rw [isDefault, getExplicit_of_coerce? h hvalue]
  cases option.default with
  | none => rfl
  | some default => rfl

/-! ### A value that does not convert -/

/-- A stored value that does not convert is an error, which names the key, the value and the type.
-/
theorem getExplicit_of_coerce?_none (h : conf.get? option.key = some stored)
    (hvalue : stored.coerce? option.type = none) :
    conf.getExplicit option = .error (.invalidValue option.key ⟨stored, option.type⟩) := by
  rw [getExplicit, h]
  simp only [Value.coerce, hvalue]

/-- The default does not stand in for a stored value that does not convert. -/
theorem get_of_coerce?_none (h : conf.get? option.key = some stored)
    (hvalue : stored.coerce? option.type = none) :
    conf.get option = .error (.invalidValue option.key ⟨stored, option.type⟩) := by
  rw [get, getExplicit_of_coerce?_none h hvalue]

/-- A stored value that does not convert is no default, and there is a warning about it. -/
theorem isDefault_of_coerce?_none (h : conf.get? option.key = some stored)
    (hvalue : stored.coerce? option.type = none) :
    conf.isDefault option = ⟨false, [.invalidValue option.key ⟨stored, option.type⟩]⟩ := by
  rw [isDefault, getExplicit_of_coerce?_none h hvalue]

end Configuration

/-! ### Readings that nobody can tell apart -/

/-- Whatever is a number is equal to itself. -/
theorem Double.equal_self {x : Double} (h : x ≠ .nan) : x.equal x = true := by
  cases x with
  | nan => exact absurd rfl h
  | infinite negative => simp [Double.equal]
  | finite negative units hunits => simp [Double.equal]

/-- Values that are equal, or both not a number. -/
def Value.Alike (v w : Value) : Prop :=
  v.equal w = true ∨ v = .double .nan ∧ w = .double .nan

instance (v w : Value) : Decidable (v.Alike w) := inferInstanceAs (Decidable (_ ∨ _))

/-- Every value is like itself, the one that is not a number included. -/
theorem Value.Alike.refl (v : Value) : v.Alike v := by
  cases v with
  | double x =>
    by_cases h : x = .nan
    · subst h
      exact Or.inr ⟨rfl, rfl⟩
    · exact Or.inl (Double.equal_self h)
  | bool b => exact Or.inl (beq_self_eq_true _)
  | int n => exact Or.inl (beq_self_eq_true _)
  | long n => exact Or.inl (beq_self_eq_true _)
  | string s => exact Or.inl (beq_self_eq_true _)

/-- Two readings of an option that both fail, or both give nothing, or give values alike. -/
inductive SameReading : Except ReadError (Option Value) → Except ReadError (Option Value) → Prop
  | failed (e f : ReadError) : SameReading (.error e) (.error f)
  | unset : SameReading (.ok none) (.ok none)
  | found {v w : Value} (h : v.Alike w) : SameReading (.ok (some v)) (.ok (some w))

theorem SameReading.refl (r : Except ReadError (Option Value)) : SameReading r r := by
  cases r with
  | error e => exact .failed e e
  | ok value =>
    cases value with
    | none => exact .unset
    | some v => exact .found (.refl v)

end TableOptions
