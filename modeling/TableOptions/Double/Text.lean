import TableOptions.Text.Blank
import TableOptions.Double.Decimal

/-!
# Doubles as text

A double is written with the fewest digits that read back to it. `Double.text` never uses an exponent
and writes no fraction for a whole number; `Double.literal` always shows that it is not an integer,
and uses an exponent from `10 ^ 16` on and below `10 ^ -4`.
-/

namespace TableOptions

namespace Decimal

/-- The number in positional notation. -/
def positional (d : Decimal) : List Char :=
  let digits := Text.decimalDigits d.digits
  match d.exponent with
  | .ofNat zeros => digits ++ List.replicate zeros '0'
  | .negSucc e =>
    let places := e + 1
    if places < digits.length then
      digits.take (digits.length - places) ++ '.' :: digits.drop (digits.length - places)
    else '0' :: '.' :: (List.replicate (places - digits.length) '0' ++ digits)

/-- The number with one digit before the point and an exponent. -/
def scientific (d : Decimal) : List Char :=
  let exponent := 'e' :: Text.integerText (d.place - 1)
  match Text.decimalDigits d.digits with
  | [] => exponent
  | [digit] => digit :: exponent
  | digit :: others => digit :: '.' :: (others ++ exponent)

end Decimal

namespace Double

/-- A magnitude written by `write`, with a minus sign if the number is negative. -/
def signed (negative : Bool) (magnitude : List Char) : List Char :=
  if negative then '-' :: magnitude else magnitude

/-- The canonical text: positional, as short as reads back. -/
def text : Double → List Char
  | nan => ['N', 'a', 'N']
  | infinite negative => signed negative ['i', 'n', 'f']
  | finite negative units _ =>
    signed negative (if units = 0 then ['0'] else (shortestDecimal units).positional)

/-- The notation of a literal: a point or an exponent is always there. -/
def literal : Double → List Char
  | finite negative units _ =>
    signed negative <|
      if units = 0 then ['0', '.', '0']
      else
        let d := shortestDecimal units
        if d.place ≤ -4 ∨ 17 ≤ d.place then d.scientific
        else if 0 ≤ d.exponent then d.positional ++ ['.', '0'] else d.positional
  | other => other.text

/-- The canonical text, with `.0` after a whole number. -/
def textWithPoint (x : Double) : List Char :=
  match x with
  | finite .. => if x.text.contains '.' then x.text else x.text ++ ['.', '0']
  | _ => x.text

/-- Reads the exponent after a mantissa: nothing, or a mark, a sign and digits. -/
def readExponent? : List Char → Option Int
  | [] => some 0
  | mark :: rest =>
    if mark == 'e' || mark == 'E' then
      let (negative, digits) := match rest with
        | '-' :: digits => (true, digits)
        | '+' :: digits => (false, digits)
        | digits => (false, digits)
      if digits.isEmpty || !digits.all Char.isDigit then none
      else
        let magnitude : Int := Text.ofDecimalDigits digits
        some (if negative then -magnitude else magnitude)
    else none

/-- Reads a number without a sign: digits around an optional point, at least one of them, and an
optional exponent; or the name of infinity or of what is not a number. -/
def readUnsigned? (negative : Bool) (s : List Char) : Option Double :=
  let whole := s.takeWhile Char.isDigit
  let (fraction, rest) := match s.dropWhile Char.isDigit with
    | '.' :: rest => (rest.takeWhile Char.isDigit, rest.dropWhile Char.isDigit)
    | rest => ([], rest)
  if whole.isEmpty && fraction.isEmpty then
    if Text.sameIgnoringCase s "inf".toList || Text.sameIgnoringCase s "infinity".toList then
      some (infinite negative)
    else if Text.sameIgnoringCase s "nan".toList then some nan
    else none
  else
    (readExponent? rest).map fun exponent =>
      ofDecimal negative ⟨Text.ofDecimalDigits (whole ++ fraction), exponent - fraction.length⟩

/-- Reads an optional sign and a number. -/
def read? : List Char → Option Double
  | '-' :: rest => readUnsigned? true rest
  | '+' :: rest => readUnsigned? false rest
  | s => readUnsigned? false s

end Double

end TableOptions
