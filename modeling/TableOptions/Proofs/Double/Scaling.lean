import TableOptions.Double.Decimal

/-!
# Rounding depends on the number alone

A ratio and a decimal can be written in many ways. `Double.ofRatio_eq_of_mul_eq` and
`Double.ofDecimal_mul_powerOfTen` say that rounding sees only the number: equal ratios round alike, and so
do decimals whose zeros stand among the digits or in the exponent. The sign takes no part in it
(`Double.ofDecimal_withSign`), and a number that is a double is rounded to itself
(`Double.ofDecimal_exactDecimal`).
-/

namespace TableOptions

/-! ### Ratios -/

/-- A common factor changes nothing about a rounded quotient. -/
theorem roundQuotient_mul_left {c : Nat} (hc : 0 < c) (num den : Nat) :
    roundQuotient (c * num) (c * den) = roundQuotient num den := by
  have hless : 2 * (c * (num % den)) < c * den ↔ 2 * (num % den) < den := by
    rw [Nat.mul_left_comm]
    exact Nat.mul_lt_mul_left hc
  have hmore : c * den < 2 * (c * (num % den)) ↔ den < 2 * (num % den) := by
    rw [Nat.mul_left_comm]
    exact Nat.mul_lt_mul_left hc
  unfold roundQuotient
  simp only [Nat.mul_div_mul_left num den hc, Nat.mul_mod_mul_left, hless, hmore]

/-- A common factor changes nothing about the nearest count of units. -/
theorem nearestUnits_mul_left {c : Nat} (hc : 0 < c) (num den : Nat) :
    nearestUnits (c * num) (c * den) = nearestUnits num den := by
  unfold nearestUnits
  simp only [Nat.mul_div_mul_left num den hc, Nat.mul_assoc, roundQuotient_mul_left hc]

/-- A quotient without a remainder is not rounded. -/
theorem roundQuotient_mul_self {den : Nat} (hden : 0 < den) (n : Nat) :
    roundQuotient (den * n) den = n := by
  unfold roundQuotient
  simp only [Nat.mul_mod_right, Nat.mul_div_cancel_left n hden]
  rw [if_pos (by omega)]

/-- A count of units that occurs is nearest to itself. -/
theorem nearestUnits_of_dvd {units : Nat} (h : spacing units ∣ units) :
    nearestUnits units 1 = units := by
  obtain ⟨count, hcount⟩ := h
  have hround : roundQuotient units (spacing units) = count := by
    have hself := roundQuotient_mul_self (powerOfTwo_pos (units.log2 - 52)) count
    rw [← spacing, ← hcount] at hself
    exact hself
  unfold nearestUnits
  simp only [Nat.div_one, Nat.one_mul, hround]
  exact hcount.symm

namespace Double

/-- The same double with another sign. -/
def withSign (negative : Bool) : Double → Double
  | nan => nan
  | infinite _ => infinite negative
  | finite _ units h => finite negative units h

/-- Ratios with the same nearest count of units become the same double. -/
theorem ofRatio_congr (negative : Bool) {num den num' den' : Nat}
    (h : nearestUnits (num * unitsPerOne) den = nearestUnits (num' * unitsPerOne) den') :
    ofRatio negative num den = ofRatio negative num' den' := by
  unfold ofRatio
  dsimp only
  by_cases hlimit : nearestUnits (num * unitsPerOne) den < magnitudeLimit
  · rw [dif_pos hlimit, dif_pos (h ▸ hlimit)]
    exact finite.congr_simp _ _ rfl _ _ h _
  · rw [dif_neg hlimit, dif_neg (h ▸ hlimit)]

/-- Equal ratios round alike. -/
theorem ofRatio_eq_of_mul_eq (negative : Bool) {num den num' den' : Nat} (hden : 0 < den)
    (hden' : 0 < den') (h : num * den' = num' * den) :
    ofRatio negative num den = ofRatio negative num' den' := by
  refine ofRatio_congr negative ?_
  have hscaled : den' * (num * unitsPerOne) = den * (num' * unitsPerOne) := by
    rw [← Nat.mul_assoc, ← Nat.mul_assoc, Nat.mul_comm den', Nat.mul_comm den, h]
  calc nearestUnits (num * unitsPerOne) den
      = nearestUnits (den' * (num * unitsPerOne)) (den' * den) :=
        (nearestUnits_mul_left hden' _ _).symm
    _ = nearestUnits (den * (num' * unitsPerOne)) (den * den') := by
        rw [hscaled, Nat.mul_comm den' den]
    _ = nearestUnits (num' * unitsPerOne) den' := nearestUnits_mul_left hden _ _

/-- The sign takes no part in rounding a ratio. -/
theorem ofRatio_withSign (negative : Bool) (num den : Nat) :
    ofRatio negative num den = (ofRatio false num den).withSign negative := by
  unfold ofRatio
  dsimp only
  split
  · rfl
  · rfl

/-- Nothing over anything is zero. -/
theorem ofRatio_zero (negative : Bool) (den : Nat) : ofRatio negative 0 den = zero negative := by
  have hnearest : nearestUnits (0 * unitsPerOne) den = 0 := by
    unfold nearestUnits roundQuotient
    simp
  unfold ofRatio zero
  dsimp only
  rw [dif_pos (by rw [hnearest]; exact magnitudeLimit_pos)]
  exact finite.congr_simp _ _ rfl _ _ hnearest _

end Double

/-! ### Decimals -/

theorem powerOfTen_pos (n : Nat) : 0 < powerOfTen n :=
  Nat.pow_pos (by decide)

theorem powerOfFive_pos (n : Nat) : 0 < powerOfFive n :=
  Nat.pow_pos (by decide)

/-- The exponents of powers of ten add up. -/
theorem powerOfTen_add (m n : Nat) : powerOfTen (m + n) = powerOfTen m * powerOfTen n :=
  Nat.pow_add 10 m n

/-- Powers of ten are in the order of their exponents. -/
theorem powerOfTen_lt_iff {m n : Nat} : powerOfTen m < powerOfTen n ↔ m < n :=
  Nat.pow_lt_pow_iff_right (by decide)

/-- A power of ten is one of five times one of two. -/
theorem powerOfFive_mul_powerOfTwo (n : Nat) : powerOfFive n * powerOfTwo n = powerOfTen n :=
  (Nat.mul_pow 5 2 n).symm

namespace Decimal

/-- **A number has at most `k` decimal digits exactly when it is below ten to the `k`.** -/
theorem width_le_iff {digits k : Nat} (hk : 0 < k) : width digits ≤ k ↔ digits < powerOfTen k :=
  Nat.length_toDigits_le_iff (by decide) hk

theorem width_pos (digits : Nat) : 0 < width digits :=
  Nat.length_toDigits_pos

/-- A number is below ten to its width. -/
theorem lt_powerOfTen_width (digits : Nat) : digits < powerOfTen (width digits) :=
  (width_le_iff (width_pos digits)).1 (Nat.le_refl _)

/-- A factor of ten is one more digit. -/
theorem width_mul_powerOfTen {digits : Nat} (hdigits : digits ≠ 0) (k : Nat) :
    width (digits * powerOfTen k) = width digits + k := by
  refine Nat.le_antisymm ?_ ?_
  · rw [width_le_iff (Nat.add_pos_left (width_pos digits) k), powerOfTen_add]
    exact Nat.mul_lt_mul_of_pos_right (lt_powerOfTen_width digits) (powerOfTen_pos k)
  · have hbound := lt_powerOfTen_width (digits * powerOfTen k)
    generalize width (digits * powerOfTen k) = w at hbound ⊢
    have hle : powerOfTen k ≤ digits * powerOfTen k :=
      Nat.le_mul_of_pos_left _ (Nat.pos_of_ne_zero hdigits)
    have hk : k < w := powerOfTen_lt_iff.1 (Nat.lt_of_le_of_lt hle hbound)
    obtain ⟨j, rfl⟩ : ∃ j, w = j + k := ⟨w - k, by omega⟩
    rw [powerOfTen_add] at hbound
    have hlt : digits < powerOfTen j := Nat.lt_of_mul_lt_mul_right hbound
    have := (width_le_iff (by omega)).2 hlt
    omega

/-- The zeros that are dropped from the digits are those of a power of ten. -/
theorem stripZeros_spec (fuel digits : Nat) :
    (stripZeros fuel digits).1 * powerOfTen (stripZeros fuel digits).2 = digits := by
  induction fuel generalizing digits with
  | zero => exact Nat.mul_one digits
  | succ fuel ih =>
    unfold stripZeros
    split
    · rename_i hzero
      have := ih (digits / 10)
      dsimp only
      have hten : powerOfTen 1 = 10 := rfl
      rw [powerOfTen_add, ← Nat.mul_assoc, this, hten]
      omega
    · exact Nat.mul_one digits

end Decimal

namespace Double

/-- A decimal within the places that are computed is rounded as the ratio of two whole numbers. -/
theorem ofDecimal_eq_ofRatio (negative : Bool) {d : Decimal} (hdigits : d.digits ≠ 0)
    (hupper : d.place ≤ 310) (hlower : -330 ≤ d.place) :
    ofDecimal negative d =
      ofRatio negative (d.digits * powerOfTen d.exponent.toNat)
        (powerOfTen (-d.exponent).toNat) := by
  unfold ofDecimal
  rw [if_neg hdigits, if_neg (by omega), if_neg (by omega)]
  cases d.exponent with
  | ofNat e =>
    have h : (-Int.ofNat e).toNat = 0 := by
      rw [Int.ofNat_eq_natCast]
      omega
    rw [h]
    rfl
  | negSucc e =>
    have h : (-Int.negSucc e).toNat = e + 1 := rfl
    rw [h]
    exact congrArg (ofRatio negative · _) (Nat.mul_one _).symm

/-- **Trailing zeros count like the exponent.** -/
theorem ofDecimal_mul_powerOfTen (negative : Bool) (digits k : Nat) (exponent : Int) :
    ofDecimal negative ⟨digits * powerOfTen k, exponent⟩ =
      ofDecimal negative ⟨digits, exponent + k⟩ := by
  by_cases hzero : digits = 0
  · subst hzero
    rw [Nat.zero_mul]
    rfl
  have hzero' : digits * powerOfTen k ≠ 0 :=
    Nat.mul_ne_zero hzero (Nat.ne_of_gt (powerOfTen_pos k))
  -- what is out of reach is decided by the place of the first digit, which is the same for both
  have hplace : Decimal.place ⟨digits * powerOfTen k, exponent⟩ =
      Decimal.place ⟨digits, exponent + k⟩ := by
    unfold Decimal.place
    dsimp only
    rw [Decimal.width_mul_powerOfTen hzero]
    omega
  by_cases hupper : 310 < Decimal.place ⟨digits, exponent + k⟩
  · unfold ofDecimal
    rw [if_neg hzero', if_neg hzero, hplace, if_pos hupper, if_pos hupper]
  by_cases hlower : Decimal.place ⟨digits, exponent + k⟩ < -330
  · unfold ofDecimal
    rw [if_neg hzero', if_neg hzero, hplace, if_neg hupper, if_neg hupper, if_pos hlower,
      if_pos hlower]
  rw [ofDecimal_eq_ofRatio negative hzero' (by omega) (by omega),
    ofDecimal_eq_ofRatio negative hzero (by omega) (by omega)]
  refine ofRatio_eq_of_mul_eq negative (powerOfTen_pos _) (powerOfTen_pos _) ?_
  dsimp only
  have hexponents : k + exponent.toNat + (-(exponent + k)).toNat =
      (exponent + k).toNat + (-exponent).toNat := by omega
  calc digits * powerOfTen k * powerOfTen exponent.toNat * powerOfTen (-(exponent + k)).toNat
      = digits * powerOfTen (k + exponent.toNat + (-(exponent + k)).toNat) := by
        rw [powerOfTen_add, powerOfTen_add, Nat.mul_assoc, Nat.mul_assoc, Nat.mul_assoc]
    _ = digits * powerOfTen (exponent + k).toNat * powerOfTen (-exponent).toNat := by
        rw [hexponents, powerOfTen_add, Nat.mul_assoc]

/-- Zeros at the end of the digits take no part in rounding a decimal. -/
theorem ofDecimal_normalize (negative : Bool) (d : Decimal) :
    ofDecimal negative d.normalize = ofDecimal negative d := by
  have hstrip := Decimal.stripZeros_spec (Decimal.width d.digits - 1) d.digits
  unfold Decimal.normalize
  dsimp only
  rw [← ofDecimal_mul_powerOfTen, hstrip]

/-- The sign takes no part in rounding a decimal. -/
theorem ofDecimal_withSign (negative : Bool) (d : Decimal) :
    ofDecimal negative d = (ofDecimal false d).withSign negative := by
  unfold ofDecimal
  split
  · rfl
  · split
    · rfl
    · split
      · rfl
      · split
        · exact ofRatio_withSign negative _ _
        · exact ofRatio_withSign negative _ _

end Double

/-! ### The exact decimal of a double -/

/-- The exact decimal of a magnitude below the limit has at most 1384 digits. -/
theorem magnitudeLimit_mul_le : magnitudeLimit * powerOfFive 1074 ≤ powerOfTen 1384 := by
  decide +kernel

/-- The exact decimal of a single unit has more than 744 digits. -/
theorem powerOfTen_le : powerOfTen 744 ≤ powerOfFive 1074 := by
  decide +kernel

/-- The exact decimal of a double lies within the places that are computed. -/
theorem place_exactDecimal {units : Nat} (hpos : units ≠ 0) (hlimit : units < magnitudeLimit) :
    -330 ≤ (exactDecimal units).place ∧ (exactDecimal units).place ≤ 310 := by
  have hupper : Decimal.width (units * powerOfFive 1074) ≤ 1384 := by
    rw [Decimal.width_le_iff (by omega)]
    calc units * powerOfFive 1074 < magnitudeLimit * powerOfFive 1074 :=
          Nat.mul_lt_mul_of_pos_right hlimit (powerOfFive_pos _)
      _ ≤ powerOfTen 1384 := magnitudeLimit_mul_le
  have hlower : 744 < Decimal.width (units * powerOfFive 1074) := by
    rw [← powerOfTen_lt_iff]
    calc powerOfTen 744 ≤ powerOfFive 1074 := powerOfTen_le
      _ ≤ units * powerOfFive 1074 := Nat.le_mul_of_pos_left _ (Nat.pos_of_ne_zero hpos)
      _ < powerOfTen (Decimal.width (units * powerOfFive 1074)) := Decimal.lt_powerOfTen_width _
  rw [exactDecimal, Decimal.place]
  dsimp only
  omega

/-- The exact decimal of a double is rounded to that double. -/
theorem Double.ofDecimal_exactDecimal (negative : Bool) {units : Nat} (h : Representable units)
    (hpos : units ≠ 0) :
    Double.ofDecimal negative (exactDecimal units) = .finite negative units h := by
  obtain ⟨hlower, hupper⟩ := place_exactDecimal hpos h.1
  have hdigits : (exactDecimal units).digits ≠ 0 :=
    Nat.mul_ne_zero hpos (Nat.ne_of_gt (powerOfFive_pos 1074))
  rw [Double.ofDecimal_eq_ofRatio negative hdigits hupper hlower]
  have hone : powerOfTen (exactDecimal units).exponent.toNat = 1 := rfl
  have hdown : (-(exactDecimal units).exponent).toNat = 1074 := rfl
  have hnearest : nearestUnits ((exactDecimal units).digits * unitsPerOne) (powerOfTen 1074) =
      units := by
    have hscaled : (exactDecimal units).digits * unitsPerOne = powerOfTen 1074 * units := by
      rw [exactDecimal, unitsPerOne]
      dsimp only
      rw [Nat.mul_assoc, powerOfFive_mul_powerOfTwo, Nat.mul_comm]
    have hself := nearestUnits_mul_left (powerOfTen_pos 1074) units 1
    rw [Nat.mul_one, nearestUnits_of_dvd h.2] at hself
    rw [hscaled]
    exact hself
  rw [hone, hdown, Nat.mul_one]
  unfold Double.ofRatio
  dsimp only
  rw [dif_pos (by rw [hnearest]; exact h.1)]
  exact finite.congr_simp _ _ rfl _ _ hnearest _

end TableOptions
