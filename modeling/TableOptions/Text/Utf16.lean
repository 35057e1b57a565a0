/-!
# UTF-16 code units

A sequence of 16-bit units read as text: a high surrogate followed by a low one is one character, a
surrogate without its partner stands for none, and any other unit is a character by itself.
-/

namespace TableOptions.Text

/-- A 16-bit code unit. -/
abbrev CodeUnit := UInt16

namespace CodeUnit

/-- The units D800 to DBFF open a surrogate pair. -/
def isHighSurrogate (u : CodeUnit) : Bool :=
  0xD800 ≤ u.toNat && u.toNat < 0xDC00

/-- The units DC00 to DFFF close a surrogate pair. -/
def isLowSurrogate (u : CodeUnit) : Bool :=
  0xDC00 ≤ u.toNat && u.toNat < 0xE000

/-- The character a surrogate pair stands for. -/
def joinPair (high low : CodeUnit) : Char :=
  Char.ofNat (0x10000 + (high.toNat - 0xD800) * 0x400 + (low.toNat - 0xDC00))

end CodeUnit

/-- What stands at one place of a unit sequence: a character, or a surrogate without its partner. -/
inductive Decoded where
  | char (c : Char)
  | unpaired (u : CodeUnit)
deriving DecidableEq, Repr

/-- The characters and unpaired surrogates of a unit sequence, from left to right. -/
def decodeUnits : List CodeUnit → List Decoded
  | [] => []
  | [u] =>
    if u.isHighSurrogate || u.isLowSurrogate then [.unpaired u] else [.char (Char.ofNat u.toNat)]
  | u :: v :: rest =>
    if u.isHighSurrogate then
      if v.isLowSurrogate then .char (CodeUnit.joinPair u v) :: decodeUnits rest
      else .unpaired u :: decodeUnits (v :: rest)
    else if u.isLowSurrogate then .unpaired u :: decodeUnits (v :: rest)
    else .char (Char.ofNat u.toNat) :: decodeUnits (v :: rest)

/-- The character shown for a place: U+FFFD for an unpaired surrogate. -/
def Decoded.shown : Decoded → Char
  | .char c => c
  | .unpaired _ => '\uFFFD'

/-- A character is shown as it is. -/
@[simp] theorem Decoded.shown_char (c : Char) : (Decoded.char c).shown = c := rfl

/-- An unpaired surrogate is shown as the replacement character. -/
@[simp] theorem Decoded.shown_unpaired (u : CodeUnit) :
    (Decoded.unpaired u).shown = '\uFFFD' := rfl

/-- The unpaired surrogate at a place, if there is one. -/
def Decoded.unpaired? : Decoded → Option CodeUnit
  | .char _ => none
  | .unpaired u => some u

/-- A character leaves no surrogate. -/
@[simp] theorem Decoded.unpaired?_char (c : Char) : (Decoded.char c).unpaired? = none := rfl

/-- An unpaired surrogate is the one left at its place. -/
@[simp] theorem Decoded.unpaired?_unpaired (u : CodeUnit) :
    (Decoded.unpaired u).unpaired? = some u := rfl

/-- The text of a unit sequence, with U+FFFD for each unpaired surrogate. -/
def ofUnitsLossy (us : List CodeUnit) : List Char :=
  (decodeUnits us).map Decoded.shown

end TableOptions.Text
