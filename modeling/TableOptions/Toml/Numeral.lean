import TableOptions.Double.Text
import TableOptions.Text.Hex
import TableOptions.Toml.Value

/-!
# Numerals

Digits may have single underscores between them. An integer is decimal with an optional sign and no
leading zeros, or hexadecimal, octal or binary without a sign; it has to fit 64 bits. A float is a
decimal integer with a fraction, an exponent or both, or one of two names.
-/

namespace TableOptions.Toml

/-- At least one digit, single underscores between digits apart. -/
def scanDigits (isDigit : Char → Bool) : Scan (List Char)
  | [] => none
  | c :: rest =>
    if isDigit c then
      match rest with
      | [] => some ([c], [])
      | d :: more =>
        if d = '_' then (scanDigits isDigit more).map fun (digits, s) => (c :: digits, s)
        else if isDigit d then (scanDigits isDigit (d :: more)).map fun (digits, s) => (c :: digits, s)
        else some ([c], d :: more)
    else none

/-- A sign, which may be left out. -/
def splitSign : List Char → List Char × List Char
  | '+' :: rest => (['+'], rest)
  | '-' :: rest => (['-'], rest)
  | s => ([], s)

/-- The digits of a whole number, which has no leading zeros. -/
def scanWhole : Scan (List Char) := fun s => do
  let (digits, s) ← scanDigits Char.isDigit s
  if 1 < digits.length ∧ digits.head? = some '0' then none else some (digits, s)

/-- A fraction with its point, which may be left out. -/
def scanFractionPart : Scan (List Char)
  | '.' :: s => (scanDigits Char.isDigit s).map fun (digits, s) => ('.' :: digits, s)
  | s => some ([], s)

/-- An exponent with its mark, which may be left out. -/
def scanExponentPart : Scan (List Char)
  | [] => some ([], [])
  | c :: s =>
    if c == 'e' || c == 'E' then
      let (sign, s) := splitSign s
      (scanDigits Char.isDigit s).map fun (digits, s) => ('e' :: (sign ++ digits), s)
    else some ([], c :: s)

/-- A finite or negative infinite double. -/
def notPositiveInfinity? (x : Double) : Option Double :=
  if x = .infinite false then none else some x

/-- A decimal numeral: a float if it has a fraction or an exponent, else an integer. -/
def scanDecimal : Scan Value := fun s => do
  let (sign, s) := splitSign s
  let (whole, s) ← scanWhole s
  let (fraction, s) ← scanFractionPart s
  let (exponent, s) ← scanExponentPart s
  if fraction.isEmpty && exponent.isEmpty then
    let n ← (Text.IntegerRange.bits64.read (sign ++ whole)).toOption
    some (.integer (Int64.ofInt n), s)
  else
    let x ← (Double.read? (sign ++ whole ++ fraction ++ exponent)).bind notPositiveInfinity?
    some (.float x, s)

/-- The integer of a number, if it fits. -/
def integer? (n : Nat) : Option Value :=
  if n ≤ 9223372036854775807 then some (.integer (Int64.ofNat n)) else none

/-- Digits of a base that is named before them. -/
def scanBase (isDigit : Char → Bool) (read? : List Char → Option Nat) : Scan Value := fun s => do
  let (digits, s) ← scanDigits isDigit s
  let v ← (read? digits).bind integer?
  some (v, s)

/-- Whether a character is a digit below a base of at most ten. -/
def isDigitBelow (base : Nat) (c : Char) : Bool :=
  c.isDigit && c.toNat - '0'.toNat < base

/-- A numeral of any kind, the names of floats apart. -/
def scanNumeral : Scan Value
  | '0' :: 'x' :: s => scanBase (fun c => (Text.hexValue? c).isSome) Text.ofHex? s
  | '0' :: 'o' :: s => scanBase (isDigitBelow 8) (fun ds => some (Nat.ofDigitChars 8 ds 0)) s
  | '0' :: 'b' :: s => scanBase (isDigitBelow 2) (fun ds => some (Nat.ofDigitChars 2 ds 0)) s
  | s => scanDecimal s

/-- The name of a float with an optional sign. -/
def scanNamedFloat : Scan Value := fun s =>
  match splitSign s with
  | (sign, 'i' :: 'n' :: 'f' :: rest) => some (.float (.infinite (sign == ['-'])), rest)
  | (_, 'n' :: 'a' :: 'n' :: rest) => some (.float .nan, rest)
  | _ => none

/-- A number. -/
def scanNumber : Scan Value := fun s =>
  (scanNamedFloat s).or (scanNumeral s)

end TableOptions.Toml
