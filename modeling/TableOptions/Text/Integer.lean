/-!
# Integers as text

An integer is written in decimal, a negative one with a minus sign. Reading is for a range of
integers and never wraps: the text is an optional sign and at least one ASCII digit, digits are
taken from left to right, and the first of them that is no digit or leaves the range is the fault.
-/

namespace TableOptions.Text

/-- Why a text is no integer of the wanted range. -/
inductive IntegerFault where
  | empty
  | invalidDigit
  | tooLarge
  | tooSmall
deriving DecidableEq, Repr

/-- The wording of a fault. -/
def IntegerFault.message : IntegerFault → String
  | .empty => "cannot parse integer from empty string"
  | .invalidDigit => "invalid digit found in string"
  | .tooLarge => "number too large to fit in target type"
  | .tooSmall => "number too small to fit in target type"

/-- The decimal digits of a natural number, without leading zeros. -/
def decimalDigits (n : Nat) : List Char :=
  Nat.toDigits 10 n

/-- The number that a row of decimal digits stands for. -/
def ofDecimalDigits (digits : List Char) : Nat :=
  Nat.ofDigitChars 10 digits 0

/-- An integer in decimal. -/
def integerText (n : Int) : List Char :=
  if n < 0 then '-' :: decimalDigits n.natAbs else decimalDigits n.natAbs

/-- The integers from `least` to `greatest`. -/
structure IntegerRange where
  least : Int
  greatest : Int
deriving DecidableEq

namespace IntegerRange

/-- The range of 32-bit integers. -/
def bits32 : IntegerRange := ⟨-2147483648, 2147483647⟩

/-- The range of 64-bit integers. -/
def bits64 : IntegerRange := ⟨-9223372036854775808, 9223372036854775807⟩

/-- Takes in further digits after the number `sofar`, away from zero. -/
def readDigits (range : IntegerRange) (negative : Bool) (sofar : Int) :
    List Char → Except IntegerFault Int
  | [] => .ok sofar
  | c :: rest =>
    if c.isDigit then
      let digit : Int := (c.toNat - '0'.toNat : Nat)
      let next := if negative then sofar * 10 - digit else sofar * 10 + digit
      if next < range.least then .error .tooSmall
      else if range.greatest < next then .error .tooLarge
      else readDigits range negative next rest
    else .error .invalidDigit

/-- Reads an optional sign and digits. -/
def read (range : IntegerRange) : List Char → Except IntegerFault Int
  | [] => .error .empty
  | ['+'] => .error .invalidDigit
  | ['-'] => .error .invalidDigit
  | '+' :: digits => readDigits range false 0 digits
  | '-' :: digits => readDigits range true 0 digits
  | digits => readDigits range false 0 digits

end IntegerRange

end TableOptions.Text
