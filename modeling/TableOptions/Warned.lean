/-!
# Results with warnings

Some operations succeed and still have something to say: a malformed escape was kept, one value hid
another. Such an operation gives its value together with its warnings, in the order in which they
arose.
-/

namespace TableOptions

/-- A value and the warnings that arose on the way to it. -/
structure Warned (ω α : Type) where
  value : α
  warnings : List ω
deriving DecidableEq

namespace Warned

variable {ω ψ α β : Type}

/-- A value without warnings. -/
protected def pure (value : α) : Warned ω α := ⟨value, []⟩

/-- Goes on with the value; the later warnings follow the earlier ones. -/
protected def bind (x : Warned ω α) (f : α → Warned ω β) : Warned ω β :=
  let y := f x.value
  ⟨y.value, x.warnings ++ y.warnings⟩

instance : Monad (Warned ω) where
  pure := Warned.pure
  bind := Warned.bind

/-- The same value with its warnings reworded. -/
def mapWarnings (x : Warned ω α) (f : ω → ψ) : Warned ψ α :=
  ⟨x.value, x.warnings.map f⟩

end Warned

end TableOptions
