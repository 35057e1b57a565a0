/-!
# Double-precision numbers

A double is not a number, or infinite, or a sign with a magnitude. Every finite magnitude is a whole
count of units of `2 ^ -1074`, the smallest positive one; the counts that occur are those with at
most 53 significant bits below `2 ^ 2098` units (which is `2 ^ 1024`). All rounding is to the nearest
such count, ties to the even one, in exact arithmetic on natural numbers.
-/

namespace TableOptions

/-- A power of two. -/
def powerOfTwo (n : Nat) : Nat := Nat.pow 2 n

/-- The units in one: `2 ^ 1074`. -/
def unitsPerOne : Nat := powerOfTwo 1074

/-- The count of units at which magnitudes end: `2 ^ 1024` is `2 ^ 2098` units. -/
def magnitudeLimit : Nat := powerOfTwo 2098

/-- The distance between neighbouring magnitudes that begin with the same bit as `units`. -/
def spacing (units : Nat) : Nat := powerOfTwo (units.log2 - 52)

/-- Whether a count of units has at most 53 significant bits and is below the limit. -/
def Representable (units : Nat) : Prop :=
  units < magnitudeLimit ∧ spacing units ∣ units

instance (units : Nat) : Decidable (Representable units) :=
  inferInstanceAs (Decidable (_ ∧ _))

/-- A double-precision number. Zero has a sign, and all that are not a number are one. -/
inductive Double where
  | nan
  | infinite (negative : Bool)
  | finite (negative : Bool) (units : Nat) (representable : Representable units)
deriving DecidableEq

/-- A quotient rounded to the nearest natural number, a tie to the even one. -/
def roundQuotient (num den : Nat) : Nat :=
  let floor := num / den
  let twice := 2 * (num % den)
  if twice < den then floor
  else if den < twice then floor + 1
  else if floor % 2 = 0 then floor else floor + 1

/-- The count of units nearest to the quotient, at the spacing that holds there. -/
def nearestUnits (num den : Nat) : Nat :=
  let step := spacing (num / den)
  step * roundQuotient num (den * step)

theorem powerOfTwo_pos (n : Nat) : 0 < powerOfTwo n := Nat.two_pow_pos n

theorem magnitudeLimit_pos : 0 < magnitudeLimit := powerOfTwo_pos _

/-- Rounding to the nearest number goes at most one up from the whole part of a quotient. -/
theorem roundQuotient_le (num den : Nat) : roundQuotient num den ≤ num / den + 1 := by
  unfold roundQuotient
  dsimp only
  split
  · omega
  · split
    · omega
    · split <;> omega

/-- **A power of two times a number of at most 53 bits is a multiple of its spacing**, and so is one
times `2 ^ 53` itself. -/
theorem spacing_dvd_of_le {k r : Nat} (hr : r ≤ powerOfTwo 53) :
    spacing (powerOfTwo k * r) ∣ powerOfTwo k * r := by
  simp only [spacing, powerOfTwo, Nat.pow_eq] at hr ⊢
  rcases Nat.lt_or_eq_of_le hr with hlt | rfl
  · have hk : (2 ^ k * r).log2 - 52 ≤ k := by
      by_cases h0 : 2 ^ k * r = 0
      · simp [h0]
      · have : (2 ^ k * r).log2 < k + 53 := by
          rw [Nat.log2_lt h0, Nat.pow_add]
          exact Nat.mul_lt_mul_of_pos_left hlt (Nat.two_pow_pos k)
        omega
    exact Nat.dvd_trans (Nat.pow_dvd_pow 2 hk) (Nat.dvd_mul_right _ _)
  · rw [← Nat.pow_add, Nat.log2_two_pow]
    exact Nat.pow_dvd_pow 2 (by omega)

/-- In steps of its spacing, a count has at most 53 bits. -/
theorem div_spacing_lt (q : Nat) : q / spacing q < powerOfTwo 53 := by
  simp only [spacing, powerOfTwo, Nat.pow_eq]
  rw [Nat.div_lt_iff_lt_mul (Nat.two_pow_pos _), ← Nat.pow_add]
  exact Nat.lt_of_lt_of_le Nat.lt_log2_self (Nat.pow_le_pow_right (by omega) (by omega))

/-- **A rounded count is a multiple of its own spacing**, even where rounding up carries it to the
next power of two, with a wider spacing. -/
theorem spacing_dvd_nearestUnits (num den : Nat) :
    spacing (nearestUnits num den) ∣ nearestUnits num den := by
  refine spacing_dvd_of_le (Nat.le_trans (roundQuotient_le _ _) ?_)
  rw [← Nat.div_div_eq_div_mul]
  exact div_spacing_lt (num / den)

namespace Double

/-- The zero of a sign. -/
def zero (negative : Bool) : Double :=
  .finite negative 0 ⟨magnitudeLimit_pos, by decide⟩

/-- The double of a sign nearest to the magnitude `num / den`; infinite from the limit on. -/
def ofRatio (negative : Bool) (num den : Nat) : Double :=
  let units := nearestUnits (num * unitsPerOne) den
  if h : units < magnitudeLimit then
    .finite negative units ⟨h, spacing_dvd_nearestUnits _ _⟩
  else .infinite negative

/-- The double nearest to an integer. -/
def ofInt (n : Int) : Double :=
  ofRatio (decide (n < 0)) n.natAbs 1

/-- Numerical equality: the two zeros are equal, and what is not a number equals nothing. -/
def equal : Double → Double → Bool
  | .infinite s, .infinite t => s == t
  | .finite s m _, .finite t n _ => m == n && (m == 0 || s == t)
  | _, _ => false

end Double

end TableOptions
