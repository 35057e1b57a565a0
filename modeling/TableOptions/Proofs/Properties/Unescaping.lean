import Mathlib.Data.List.Induction
import TableOptions.Properties.Entry
import TableOptions.Proofs.Properties.Continuation
import TableOptions.Proofs.Text.Hexadecimal
import TableOptions.Proofs.Text.Utf16

/-!
# What escaped text stands for

The reader decodes escapes one by one and looks one escape ahead for the second half of a surrogate
pair. `Decodes` says the same without any looking ahead: a row of code units that stand directly behind
each other is one piece of UTF-16, as long as it can be, and everything else stands for one character
by itself. Every text that leaves no escape open decodes in exactly one way, and the reader finds it
(`decodes_iff_unescape`).

Both directions go along rows of code units. That the reader decodes a row as a whole
(`unescape_run`) is the law of decoding UTF-16 from the left, and that there always is a longest row
(`exists_run`) makes the grammar total.
-/

namespace TableOptions.Properties

open Text (CodeUnit Decoded)
open Text.CodeUnit (IsPair)

/-- A code unit behind a backslash and a `u`: its four hexadecimal digits, in any case. -/
structure UnitEscape where
  unit : CodeUnit
  digits : List Char
  spelled : Text.sameIgnoringCase digits (Text.paddedHex 4 unit.toNat) = true

/-- The escape as it stands in a text. -/
def UnitEscape.text (e : UnitEscape) : List Char := '\\' :: 'u' :: e.digits

/-- What a character other than `u` stands for behind a backslash. -/
def letterMeaning : Char → Char
  | 't' => '\t'
  | 'n' => '\n'
  | 'r' => '\r'
  | 'f' => '\x0c'
  | c => c

/-- The places of decoded code units before further decoded text: each is shown, and an unpaired
surrogate is warned about. -/
def placesBefore (places : List Decoded) (later : Unescaped) : Unescaped :=
  ⟨places.map Decoded.shown ++ later.value,
    (places.filterMap Decoded.unpaired?).map Warning.unpairedSurrogate ++ later.warnings⟩

/-- A text with escapes and what it stands for. A row of code units is decoded as UTF-16 and is as long
as it can be; a `u` without four digits stands for itself, with a warning; any other character behind a
backslash has its meaning; and a character without one stands for itself. -/
inductive Decodes : List Char → Unescaped → Prop
  | nil : Decodes [] ⟨[], []⟩
  | bare {c : Char} {s : List Char} {out : Unescaped} (ne : c ≠ '\\') (later : Decodes s out) :
      Decodes (c :: s) (out.cons c)
  | letter {c : Char} {s : List Char} {out : Unescaped} (ne : c ≠ 'u') (later : Decodes s out) :
      Decodes ('\\' :: c :: s) (out.cons (letterMeaning c))
  | malformed {s : List Char} {out : Unescaped} (noDigits : ∀ e : UnitEscape, ¬ e.digits <+: s)
      (later : Decodes s out) :
      Decodes ('\\' :: 'u' :: s) ⟨'u' :: out.value, .malformedEscape :: out.warnings⟩
  | units {run : List UnitEscape} {s : List Char} {out : Unescaped} (ne_nil : run ≠ [])
      (longest : ∀ e : UnitEscape, ¬ e.text <+: s) (later : Decodes s out) :
      Decodes (run.flatMap UnitEscape.text ++ s)
        (placesBefore (Text.decodeUnits (run.map UnitEscape.unit)) out)

/-! ### Single code units -/

namespace UnitEscape

/-- A code unit is written in four digits. -/
theorem length_digits (e : UnitEscape) : e.digits.length = 4 := by
  have hlength := (Text.length_paddedHex 4 e.unit.toNat).2
    (Text.length_hexDigits_le_four.2 e.unit.toNat_lt)
  rw [Text.length_eq_of_sameIgnoringCase e.spelled, hlength]

/-- The digits are the number of the code unit. -/
theorem ofHex?_digits (e : UnitEscape) : Text.ofHex? e.digits = some e.unit.toNat := by
  have hne : e.digits ≠ [] := by
    intro hnil
    have hlength := e.length_digits
    rw [hnil] at hlength
    cases hlength
  rw [Text.ofHex?_eq_some_iff hne, e.length_digits]
  exact e.spelled

end UnitEscape

/-- **A code unit is read exactly where four digits of one stand.** -/
theorem readUnit?_eq_some_iff {s rest : List Char} {u : CodeUnit} :
    readUnit? s = some (u, rest) ↔ ∃ e : UnitEscape, e.unit = u ∧ s = e.digits ++ rest := by
  constructor
  · intro h
    unfold readUnit? at h
    split at h
    · rename_i a b c d rest'
      obtain ⟨n, hn, heq⟩ := Option.map_eq_some_iff.1 h
      obtain ⟨rfl, rfl⟩ := Prod.mk.inj heq
      have hunit := Text.toNat_unit (Text.lt_of_ofHex?_eq_some rfl hn)
      refine ⟨⟨UInt16.ofNat n, [a, b, c, d], ?_⟩, rfl, rfl⟩
      rw [hunit]
      exact (Text.ofHex?_eq_some_iff (List.cons_ne_nil _ _)).1 hn
    · cases h
  · rintro ⟨e, rfl, rfl⟩
    have hlength := e.length_digits
    have hread := e.ofHex?_digits
    match hdigits : e.digits, hlength with
    | [a, b, c, d], _ =>
      rw [hdigits] at hread
      simp [readUnit?, hread]

/-- The digits of a code unit are read as the unit, whatever comes after them. -/
theorem readUnit?_digits (e : UnitEscape) (rest : List Char) :
    readUnit? (e.digits ++ rest) = some (e.unit, rest) :=
  readUnit?_eq_some_iff.2 ⟨e, rfl, rfl⟩

/-- No code unit is read where no digits of one stand. -/
theorem readUnit?_eq_none_iff {s : List Char} :
    readUnit? s = none ↔ ∀ e : UnitEscape, ¬ e.digits <+: s := by
  constructor
  · rintro h e ⟨rest, rfl⟩
    rw [readUnit?_digits] at h
    cases h
  · intro h
    rw [Option.eq_none_iff_forall_ne_some]
    rintro ⟨u, rest⟩ hread
    obtain ⟨e, _, rfl⟩ := readUnit?_eq_some_iff.1 hread
    exact h e (List.prefix_append ..)

/-- **A partner is read exactly where an escape closes the pair.** -/
theorem readPartner?_eq_some_iff {u v : CodeUnit} {s rest : List Char} :
    readPartner? u s = some (v, rest) ↔
      ∃ e : UnitEscape, e.unit = v ∧ s = e.text ++ rest ∧ IsPair u v := by
  constructor
  · intro h
    unfold readPartner? at h
    split at h
    · rename_i digits
      split at h
      · rename_i hhigh
        obtain ⟨hread, hlow⟩ := Option.filter_eq_some_iff.1 h
        obtain ⟨e, hunit, rfl⟩ := readUnit?_eq_some_iff.1 hread
        exact ⟨e, hunit, rfl, hhigh, hlow⟩
      · cases h
    · cases h
  · rintro ⟨e, rfl, rfl, hhigh, hlow⟩
    simp only [UnitEscape.text, List.cons_append, readPartner?, if_pos hhigh, readUnit?_digits,
      Option.filter_some, hlow, if_true]

/-! ### Single escapes -/

/-- Behind a backslash, a character other than `u` is read by its meaning. -/
theorem read_of_ne {c : Char} (h : c ≠ 'u') (rest : List Char) :
    Escape.read (c :: rest) = ⟨[letterMeaning c], [], rest⟩ := by
  unfold letterMeaning
  split
  · rfl
  · rfl
  · rfl
  · rfl
  · rename_i ht hn hr hf
    rw [Escape.read]
    · exact ht
    · exact hn
    · exact hr
    · exact hf
    · exact h

/-- A `u` without four digits behind it stands for itself, with a warning. -/
theorem readUnicode_malformed {s : List Char} (h : ∀ e : UnitEscape, ¬ e.digits <+: s) :
    Escape.readUnicode s = ⟨['u'], [.malformedEscape], s⟩ := by
  rw [Escape.readUnicode, readUnit?_eq_none_iff.2 h]

/-- Two escapes that form a pair are read at once. -/
theorem readUnicode_pair {e f : UnitEscape} (h : IsPair e.unit f.unit) (s : List Char) :
    Escape.readUnicode (e.digits ++ (f.text ++ s)) = Escape.ofUnits [e.unit, f.unit] s := by
  have hpartner : readPartner? e.unit (f.text ++ s) = some (f.unit, s) :=
    readPartner?_eq_some_iff.2 ⟨f, rfl, rfl, h⟩
  simp only [Escape.readUnicode, readUnit?_digits, hpartner]

/-- An escape that no other closes is read by itself. -/
theorem readUnicode_alone {e : UnitEscape} {s : List Char}
    (h : ∀ f : UnitEscape, f.text <+: s → ¬ IsPair e.unit f.unit) :
    Escape.readUnicode (e.digits ++ s) = Escape.ofUnits [e.unit] s := by
  have hpartner : readPartner? e.unit s = none := by
    rw [Option.eq_none_iff_forall_ne_some]
    rintro ⟨v, rest⟩ hread
    obtain ⟨f, rfl, rfl, hpair⟩ := readPartner?_eq_some_iff.1 hread
    exact h f (List.prefix_append ..) hpair
  simp only [Escape.readUnicode, readUnit?_digits, hpartner]

/-! ### Rows of code units -/

/-- Places can be put before a text one group after another. -/
theorem placesBefore_append (places more : List Decoded) (later : Unescaped) :
    placesBefore (places ++ more) later = placesBefore places (placesBefore more later) := by
  simp only [placesBefore, List.map_append, List.filterMap_append, List.append_assoc]

/-- A text that begins with a code unit is read from behind its `u`. -/
theorem unescape_unit (e : UnitEscape) (s : List Char) :
    unescape (e.text ++ s) = (Escape.readUnicode (e.digits ++ s)).before
      (unescape (Escape.readUnicode (e.digits ++ s)).rest) :=
  unescape_backslash ('u' :: (e.digits ++ s))

/-- Two escapes that form a pair are one character before the rest of the text. -/
theorem unescape_pair {e f : UnitEscape} (h : IsPair e.unit f.unit) (s : List Char) :
    unescape (e.text ++ (f.text ++ s)) =
      placesBefore [.char (Text.CodeUnit.joinPair e.unit f.unit)] (unescape s) := by
  rw [unescape_unit, readUnicode_pair h]
  exact congrArg (placesBefore · _) (Text.decodeUnits_pair h [])

/-- An escape that no other closes is the place of its unit before the rest of the text. -/
theorem unescape_alone {e : UnitEscape} {s : List Char}
    (h : ∀ f : UnitEscape, f.text <+: s → ¬ IsPair e.unit f.unit) :
    unescape (e.text ++ s) = placesBefore [e.unit.alone] (unescape s) := by
  rw [unescape_unit, readUnicode_alone h]
  exact congrArg (placesBefore · _) (Text.decodeUnits_singleton e.unit)

/-- What stands there is one code unit only. -/
theorem unit_eq_of_begins {e f : UnitEscape} {s : List Char} (h : e.text <+: f.text ++ s) :
    e.unit = f.unit := by
  obtain ⟨rest, hrest⟩ := h
  have hdigits : e.digits ++ rest = f.digits ++ s := (List.cons.inj (List.cons.inj hrest).2).2
  have hread := readUnit?_digits e rest
  rw [hdigits, readUnit?_digits] at hread
  exact (Prod.mk.inj (Option.some.inj hread)).1.symm

/-- **The reader decodes a row of code units as a whole.** It takes the row apart as decoding from the
left does: a pair, or a unit that opens none with the next. -/
theorem unescape_run (run : List UnitEscape) {s : List Char}
    (h : ∀ e : UnitEscape, ¬ e.text <+: s) :
    unescape (run.flatMap UnitEscape.text ++ s) =
      placesBefore (Text.decodeUnits (run.map UnitEscape.unit)) (unescape s) := by
  induction run using List.twoStepInduction with
  | nil => rfl
  | singleton e =>
    rw [List.flatMap_singleton, unescape_alone fun f hf => absurd hf (h f), List.map_singleton,
      Text.decodeUnits_singleton]
  | cons_cons e f run ih ihf =>
    rw [List.flatMap_cons, List.append_assoc, List.map_cons]
    by_cases hpair : IsPair e.unit f.unit
    · rw [List.flatMap_cons, List.append_assoc, unescape_pair hpair, ih, List.map_cons,
        Text.decodeUnits_pair hpair, ← placesBefore_append, List.singleton_append]
    · -- only the next escape of the row could close a pair, and it does not
      have hnext : ∀ g : UnitEscape,
          g.text <+: (f :: run).flatMap UnitEscape.text ++ s → ¬ IsPair e.unit g.unit := by
        intro g hg
        rw [List.flatMap_cons, List.append_assoc] at hg
        rw [unit_eq_of_begins hg]
        exact hpair
      have hhead : ∀ v ∈ ((f :: run).map UnitEscape.unit).head?, ¬ IsPair e.unit v := by
        rintro v ⟨⟩
        exact hpair
      rw [unescape_alone hnext, ihf f, Text.decodeUnits_cons hhead, ← placesBefore_append,
        List.singleton_append]

/-- Nothing else is a decoding of a text than what the reader makes of it. -/
theorem Decodes.unescape {s : List Char} {out : Unescaped} (h : Decodes s out) :
    Properties.unescape s = out := by
  induction h with
  | nil => exact unescape_nil
  | bare ne _ ih => rw [unescape_of_ne ne, ih]
  | letter ne _ ih =>
    rw [unescape_backslash, read_of_ne ne, ih]
    rfl
  | malformed noDigits _ ih =>
    rw [unescape_backslash, Escape.read, readUnicode_malformed noDigits, ih]
    rfl
  | units _ longest _ ih => rw [unescape_run _ longest, ih]

/-! ### There always is a decoding -/

/-- **What a text begins with is a longest row of code units**, perhaps of none. -/
theorem exists_run (s : List Char) : ∃ (run : List UnitEscape) (rest : List Char),
    s = run.flatMap UnitEscape.text ++ rest ∧ ∀ e : UnitEscape, ¬ e.text <+: rest := by
  by_cases h : ∃ e : UnitEscape, e.text <+: s
  · obtain ⟨e, rest, hs⟩ := h
    obtain ⟨run, rest', hrest, hlongest⟩ := exists_run rest
    exact ⟨e :: run, rest', by rw [List.flatMap_cons, List.append_assoc, ← hrest, hs], hlongest⟩
  · exact ⟨[], s, rfl, fun e he => h ⟨e, he⟩⟩
termination_by s.length
decreasing_by
  simp only [← hs, UnitEscape.text, List.length_append, List.length_cons]
  omega

/-- An escaped code unit opens nothing and closes nothing. -/
theorem continues_unit (e : UnitEscape) (s : List Char) :
    continues (e.text ++ s) = continues s := by
  have hdigits : ∀ c ∈ e.digits, c ≠ '\\' := by
    rintro c hc rfl
    have hdigit := Text.isSome_hexValue?_of_ofHex?_eq_some e.ofHex?_digits _ hc
    exact absurd hdigit (by decide)
  rw [UnitEscape.text, List.cons_append, List.cons_append, continues_escape,
    continues_append_of_not_continues (continues_of_no_backslash hdigits)]

/-- A row of escaped code units opens nothing and closes nothing. -/
theorem continues_run (run : List UnitEscape) (s : List Char) :
    continues (run.flatMap UnitEscape.text ++ s) = continues s := by
  induction run with
  | nil => rfl
  | cons e run ih => rw [List.flatMap_cons, List.append_assoc, continues_unit, ih]

/-- A backslash and a `u` begin a piece of the grammar: a longest row of code units if digits follow,
and by themselves otherwise. -/
theorem exists_piece_unicode {s : List Char} (h : continues s = false) :
    ∃ rest, rest.length ≤ s.length ∧ continues rest = false ∧
      ∀ out, Decodes rest out → ∃ whole, Decodes ('\\' :: 'u' :: s) whole := by
  by_cases hdigits : ∃ e : UnitEscape, e.digits <+: s
  · obtain ⟨e, tail, rfl⟩ := hdigits
    obtain ⟨run, rest, rfl, hlongest⟩ := exists_run tail
    have htext : '\\' :: 'u' :: (e.digits ++ (run.flatMap UnitEscape.text ++ rest)) =
        (e :: run).flatMap UnitEscape.text ++ rest := by
      rw [List.flatMap_cons, List.append_assoc]
      rfl
    have hrest : continues rest = false := by
      rw [← continues_run (e :: run), ← htext, continues_escape, h]
    rw [htext]
    refine ⟨rest, ?_, hrest, fun _ hout => ⟨_, .units (List.cons_ne_nil e run) hlongest hout⟩⟩
    simp only [List.length_append]
    omega
  · exact ⟨s, Nat.le_refl _, h,
      fun _ hout => ⟨_, .malformed (fun e he => hdigits ⟨e, he⟩) hout⟩⟩

/-- Text that leaves no escape open begins with a piece, and neither does the text behind the piece.
Behind a backslash there is always a character, as the text would continue otherwise. -/
theorem exists_piece {c : Char} {s : List Char} (h : continues (c :: s) = false) :
    ∃ rest, rest.length ≤ s.length ∧ continues rest = false ∧
      ∀ out, Decodes rest out → ∃ whole, Decodes (c :: s) whole := by
  by_cases hc : c = '\\'
  · subst hc
    cases s with
    | nil => cases h
    | cons d s =>
      rw [continues_escape] at h
      by_cases hd : d = 'u'
      · subst hd
        obtain ⟨rest, hlength, hrest⟩ := exists_piece_unicode h
        exact ⟨rest, Nat.le_succ_of_le hlength, hrest⟩
      · exact ⟨s, Nat.le_succ _, h, fun _ hout => ⟨_, .letter hd hout⟩⟩
  · rw [continues_cons_of_ne hc] at h
    exact ⟨s, Nat.le_refl _, h, fun _ hout => ⟨_, .bare hc hout⟩⟩

/-- **Text that leaves no escape open has a decoding**, piece by piece. -/
theorem exists_decodes {s : List Char} (h : continues s = false) : ∃ out, Decodes s out := by
  match s, h with
  | [], _ => exact ⟨_, .nil⟩
  | c :: s, h =>
    obtain ⟨rest, hlength, hrest, hpiece⟩ := exists_piece h
    obtain ⟨out, hout⟩ := exists_decodes hrest
    exact hpiece out hout
termination_by s.length
decreasing_by exact Nat.lt_succ_of_le hlength

/-- **Text that leaves no escape open decodes in one way, and the reader finds it.** -/
theorem decodes_iff_unescape {s : List Char} (h : continues s = false) {out : Unescaped} :
    Decodes s out ↔ unescape s = out := by
  refine ⟨Decodes.unescape, ?_⟩
  rintro rfl
  obtain ⟨out, hout⟩ := exists_decodes h
  rw [hout.unescape]
  exact hout

end TableOptions.Properties
