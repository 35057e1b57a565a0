import TableOptions.Text.Integer
import TableOptions.Toml.Scan

/-!
# Dates and times

A moment is a date of the Gregorian calendar, a time of day, or a date and a time with or without an
offset. Every field has a fixed number of digits and is checked, the day by its month. The fraction
of a second counts to the nanosecond.
-/

namespace TableOptions.Toml

/-- A day of the calendar. -/
structure Date where
  year : Nat
  month : Nat
  day : Nat
deriving DecidableEq, Repr

/-- A time of day; the sixty-first second is a leap second. -/
structure TimeOfDay where
  hour : Nat
  minute : Nat
  second : Nat
  nanosecond : Nat
deriving DecidableEq, Repr

/-- A date, a time of day or both; the offset is in minutes east. -/
structure Moment where
  date : Option Date
  time : Option TimeOfDay
  offset : Option Int
deriving DecidableEq, Repr

/-- Whether a year has a leap day. -/
def isLeapYear (year : Nat) : Bool :=
  year % 4 == 0 && (year % 100 != 0 || year % 400 == 0)

/-- The number of days of a month. -/
def daysIn (year month : Nat) : Nat :=
  if month = 2 then if isLeapYear year then 29 else 28
  else if month = 4 ∨ month = 6 ∨ month = 9 ∨ month = 11 then 30
  else 31

/-- A number of a fixed count of digits. -/
def scanFixed (count : Nat) : Scan Nat := fun s =>
  let digits := s.take count
  if digits.length = count ∧ digits.all Char.isDigit then
    some (Text.ofDecimalDigits digits, s.drop count)
  else none

/-- A number of two digits between two limits. -/
def scanTwo (least greatest : Nat) : Scan Nat := fun s => do
  let (n, s) ← scanFixed 2 s
  if least ≤ n ∧ n ≤ greatest then some (n, s) else none

/-- A date. -/
def scanDate : Scan Date := fun s => do
  let (year, s) ← scanFixed 4 s
  let s ← after? '-' s
  let (month, s) ← scanTwo 1 12 s
  let s ← after? '-' s
  let (day, s) ← scanTwo 1 (daysIn year month) s
  some (⟨year, month, day⟩, s)

/-- The nanoseconds of a fraction of a second: nothing, or a point and digits. -/
def scanFraction : Scan Nat
  | '.' :: s =>
    let digits := s.takeWhile Char.isDigit
    let kept := digits.take 9
    if digits.isEmpty then none
    else some (Text.ofDecimalDigits kept * Nat.pow 10 (9 - kept.length), s.dropWhile Char.isDigit)
  | s => some (0, s)

/-- A time of day. -/
def scanTime : Scan TimeOfDay := fun s => do
  let (hour, s) ← scanTwo 0 23 s
  let s ← after? ':' s
  let (minute, s) ← scanTwo 0 59 s
  let s ← after? ':' s
  let (second, s) ← scanTwo 0 60 s
  let (nanosecond, s) ← scanFraction s
  some (⟨hour, minute, second, nanosecond⟩, s)

/-- The size of an offset in minutes. -/
def scanOffsetSize : Scan Int := fun s => do
  let (hours, s) ← scanTwo 0 23 s
  let s ← after? ':' s
  let (minutes, s) ← scanTwo 0 59 s
  some (hours * 60 + minutes, s)

/-- An offset, which may be left out. -/
def scanOffset : Scan (Option Int)
  | 'Z' :: s => some (some 0, s)
  | 'z' :: s => some (some 0, s)
  | '+' :: s => (scanOffsetSize s).map fun (n, s) => (some n, s)
  | '-' :: s => (scanOffsetSize s).map fun (n, s) => (some (-n), s)
  | s => some (none, s)

/-- The text of the time after a date: the time follows one of three delimiters. -/
def timeAfterDate? : List Char → Option (List Char)
  | c :: d :: rest =>
    if (c == 'T' || c == 't' || c == ' ') && d.isDigit then some (d :: rest) else none
  | _ => none

/-- A moment that begins with its date. -/
def scanDated : Scan Moment := fun s => do
  let (date, s) ← scanDate s
  match timeAfterDate? s with
  | none => some (⟨some date, none, none⟩, s)
  | some s =>
    let (time, s) ← scanTime s
    let (offset, s) ← scanOffset s
    some (⟨some date, some time, offset⟩, s)

/-- Whether a text begins with a number of digits and a mark. -/
def startsWithDigits (count : Nat) (mark : Char) (s : List Char) : Bool :=
  (scanFixed count s).any fun (_, rest) => rest.head? == some mark

/-- A moment, or nothing where the text has not the beginnings of one. -/
def scanMoment? (s : List Char) : Option (Option (Moment × List Char)) :=
  if startsWithDigits 4 '-' s then some (scanDated s)
  else if startsWithDigits 2 ':' s then
    some ((scanTime s).map fun (time, s) => (⟨none, some time, none⟩, s))
  else none

end TableOptions.Toml
