/-!
# Hexadecimal digits

The sixteen digits of both cases, the number a row of them stands for, and fixed-width numbers.
-/

namespace TableOptions.Text

/-- The value of a hexadecimal digit of either case. -/
def hexValue? (c : Char) : Option Nat :=
  let n := c.toNat
  if 48 ≤ n ∧ n ≤ 57 then some (n - 48)
  else if 65 ≤ n ∧ n ≤ 70 then some (n - 55)
  else if 97 ≤ n ∧ n ≤ 102 then some (n - 87)
  else none

/-- The number that a row of hexadecimal digits stands for; nothing if one is no digit. -/
def ofHex? (digits : List Char) : Option Nat :=
  digits.foldl (fun sofar c => match sofar, hexValue? c with
    | some n, some d => some (n * 16 + d)
    | _, _ => none) (some 0)

/-- A number in lower-case hexadecimal. -/
def hexDigits (n : Nat) : List Char :=
  Nat.toDigits 16 n

/-- A number in hexadecimal, filled with zeros to a width. -/
def paddedHex (width n : Nat) : List Char :=
  let digits := hexDigits n
  List.replicate (width - digits.length) '0' ++ digits

/-- A number in upper-case hexadecimal, filled with zeros to a width. -/
def paddedUpperHex (width n : Nat) : List Char :=
  (paddedHex width n).map Char.toUpper

end TableOptions.Text
