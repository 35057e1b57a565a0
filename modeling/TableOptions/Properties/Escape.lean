import TableOptions.Text.Hex
import TableOptions.Text.Utf16

/-!
# Escapes in properties text

A backslash starts an escape. The letters t, n, r and f stand for control characters, `u` with four
hexadecimal digits for a UTF-16 code unit, and any other character for itself. Two units that form
a surrogate pair are one escape; a surrogate without its partner is replaced, and a `u` without four
digits stands for itself, both with a warning.

`Escape.rest_length_le` says that an escape never gives back more than it was given.
-/

namespace TableOptions.Properties

/-- What the reader of properties text has to say about text that it accepts. -/
inductive Warning where
  | malformedEscape
  | unpairedSurrogate (unit : Text.CodeUnit)
deriving DecidableEq

/-- The wording of a warning. -/
def Warning.message : Warning → String
  | malformedEscape => "Malformed \\uXXXX escape in properties, keeping it literally"
  | unpairedSurrogate unit =>
    "Unpaired surrogate \\u" ++ String.ofList (Text.paddedUpperHex 4 unit.toNat) ++
      " in properties, replaced"

/-- What an escape stands for, and the text after it. -/
structure Escape where
  text : List Char
  warnings : List Warning
  rest : List Char
deriving DecidableEq

/-- Reads a code unit of four hexadecimal digits. It takes all four or nothing. -/
def readUnit? : List Char → Option (Text.CodeUnit × List Char)
  | a :: b :: c :: d :: rest => (Text.ofHex? [a, b, c, d]).map fun n => (UInt16.ofNat n, rest)
  | _ => none

/-- Reads a further escape that closes the surrogate pair which a unit opens. -/
def readPartner? (unit : Text.CodeUnit) : List Char → Option (Text.CodeUnit × List Char)
  | '\\' :: 'u' :: rest =>
    if unit.isHighSurrogate then (readUnit? rest).filter fun found => found.1.isLowSurrogate
    else none
  | _ => none

namespace Escape

/-- The escape of a sequence of code units. -/
def ofUnits (units : List Text.CodeUnit) (rest : List Char) : Escape :=
  let places := Text.decodeUnits units
  ⟨places.map Text.Decoded.shown,
    (places.filterMap Text.Decoded.unpaired?).map Warning.unpairedSurrogate, rest⟩

/-- Reads the escape after a backslash and a `u`. -/
def readUnicode (s : List Char) : Escape :=
  match readUnit? s with
  | none => ⟨['u'], [.malformedEscape], s⟩
  | some (unit, rest) =>
    match readPartner? unit rest with
    | some (partner, rest) => ofUnits [unit, partner] rest
    | none => ofUnits [unit] rest

/-- Reads the escape after a backslash. -/
def read : List Char → Escape
  | 't' :: rest => ⟨['\t'], [], rest⟩
  | 'n' :: rest => ⟨['\n'], [], rest⟩
  | 'r' :: rest => ⟨['\r'], [], rest⟩
  | 'f' :: rest => ⟨['\x0c'], [], rest⟩
  | 'u' :: rest => readUnicode rest
  | c :: rest => ⟨[c], [], rest⟩
  | [] => ⟨[], [], []⟩

end Escape

/-- A code unit takes exactly four characters. -/
theorem length_of_readUnit? {s rest : List Char} {unit : Text.CodeUnit}
    (h : readUnit? s = some (unit, rest)) : s.length = rest.length + 4 := by
  unfold readUnit? at h
  split at h
  · obtain ⟨n, _, hn⟩ := Option.map_eq_some_iff.1 h
    cases hn
    rfl
  · cases h

/-- A partner takes exactly six characters: a backslash, a `u` and four digits. -/
theorem length_of_readPartner? {s rest : List Char} {unit partner : Text.CodeUnit}
    (h : readPartner? unit s = some (partner, rest)) : s.length = rest.length + 6 := by
  unfold readPartner? at h
  split at h
  · split at h
    · obtain ⟨h, _⟩ := Option.filter_eq_some_iff.1 h
      simp [length_of_readUnit? h]
    · cases h
  · cases h

/-- The text behind a code unit is no longer than the text behind its `u`. -/
theorem Escape.readUnicode_rest_length_le (s : List Char) :
    (Escape.readUnicode s).rest.length ≤ s.length := by
  unfold Escape.readUnicode
  split
  · exact Nat.le_refl _
  · rename_i unit rest hunit
    have := length_of_readUnit? hunit
    split
    · rename_i partner rest' hpartner
      have := length_of_readPartner? hpartner
      simp only [Escape.ofUnits]
      omega
    · simp only [Escape.ofUnits]
      omega

/-- The text after an escape is no longer than the text after its backslash. -/
theorem Escape.rest_length_le (s : List Char) : (Escape.read s).rest.length ≤ s.length := by
  unfold Escape.read
  split
  all_goals first
    | exact Nat.le_succ _
    | exact Nat.le_trans (Escape.readUnicode_rest_length_le _) (Nat.le_succ _)
    | exact Nat.le_refl _

end TableOptions.Properties
