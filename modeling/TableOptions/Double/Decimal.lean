import TableOptions.Text.Integer
import TableOptions.Double.Basic

/-!
# Decimal forms of doubles

A decimal is a natural number of digits with a power of ten. `Double.ofDecimal` rounds a decimal to
the nearest double; `shortestDecimal` gives, for a positive magnitude, the decimal with the fewest
digits that rounds to it, and of those the nearest, a tie going up.
-/

namespace TableOptions

/-- A power of five. -/
def powerOfFive (n : Nat) : Nat := Nat.pow 5 n

/-- A power of ten. -/
def powerOfTen (n : Nat) : Nat := Nat.pow 10 n

/-- The number `digits * 10 ^ exponent`. -/
structure Decimal where
  digits : Nat
  exponent : Int
deriving DecidableEq

namespace Decimal

/-- How many digits a number is written with. -/
def width (digits : Nat) : Nat := (Text.decimalDigits digits).length

/-- The place of the first digit: the number is below `10 ^ place` and, unless zero, not below
`10 ^ (place - 1)`. -/
def place (d : Decimal) : Int := d.exponent + width d.digits

/-- Drops trailing zeros from the digits and counts them, at most `fuel` of them. -/
def stripZeros : Nat → Nat → Nat × Nat
  | 0, digits => (digits, 0)
  | fuel + 1, digits =>
    if digits % 10 = 0 then
      let (stripped, count) := stripZeros fuel (digits / 10)
      (stripped, count + 1)
    else (digits, 0)

/-- The same number without trailing zeros among its digits. -/
def normalize (d : Decimal) : Decimal :=
  let (stripped, count) := stripZeros (width d.digits - 1) d.digits
  ⟨stripped, d.exponent + count⟩

end Decimal

namespace Double

/-- The double of a sign nearest to a decimal magnitude. What has its first digit above place 310 is
infinite and what has it below place -330 is zero, so that no huge power of ten is ever computed. -/
def ofDecimal (negative : Bool) (d : Decimal) : Double :=
  if d.digits = 0 then zero negative
  else if 310 < d.place then infinite negative
  else if d.place < -330 then zero negative
  else
    match d.exponent with
    | .ofNat e => ofRatio negative (d.digits * powerOfTen e) 1
    | .negSucc e => ofRatio negative d.digits (powerOfTen (e + 1))

end Double

/-- A count of units as a decimal, without rounding: a unit is `5 ^ 1074 / 10 ^ 1074`. -/
def exactDecimal (units : Nat) : Decimal :=
  ⟨units * powerOfFive 1074, -1074⟩

/-- Whether a decimal magnitude rounds to a count of units. -/
def Decimal.roundsTo (d : Decimal) (units : Nat) : Bool :=
  match Double.ofDecimal false d with
  | .finite _ found _ => found == units
  | _ => false

/-- Of two decimals the one that rounds to a count of units; if both do, the lower one when it is
said to be the nearer. -/
def Decimal.rounding? (units : Nat) (below above : Decimal) (belowIsNearer : Bool) :
    Option Decimal :=
  match below.roundsTo units, above.roundsTo units with
  | true, true => if belowIsNearer then some below else some above
  | true, false => some below
  | false, true => some above
  | false, false => none

/-- The decimal that rounds to `units` and has `count` digits, of the `width` that the exact decimal
has, if there is one: the exact decimal cut after `count` digits or the next one above, whichever is
nearer. -/
def decimalOfWidth? (units width count : Nat) : Option Decimal :=
  let exact := (exactDecimal units).digits
  let cut := width - count
  let scale := powerOfTen cut
  let exponent : Int := cut - 1074
  Decimal.rounding? units ⟨exact / scale, exponent⟩ ⟨exact / scale + 1, exponent⟩
    (decide (2 * (exact % scale) < scale))

/-- The decimal with the fewest digits, from one to seventeen, that rounds to `units`. -/
def shortestDecimal (units : Nat) : Decimal :=
  let width := Decimal.width (exactDecimal units).digits
  let found := (List.range 17).findSome? fun n => decimalOfWidth? units width (n + 1)
  (found.getD (exactDecimal units)).normalize

end TableOptions
