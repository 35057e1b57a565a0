import TableOptions.Properties.Reader
import TableOptions.Proofs.Properties.EntryGrammar

/-!
# Escapes are complete

An entry is read by moving along its logical line. `Scan` is a reader on its way: the part that it
decodes, what it has decoded so far, and the characters that are left. Where a backslash comes next, it
reads the escape behind it.

What the scan comes to does not change from one step to the next, and each step takes characters off the
line, so the scan ends with the entry of the line (`exists_reaches_end`). Another thing that no step
changes is that the rest of the line leaves no escape open (`Step.closed`). This is so at the start,
because a logical line does not continue, and therefore there is a character behind every backslash at
which an escape is read (`escapes_are_complete`).

A code unit is taken only after a look at its four characters (`takeUnit`), so a failed attempt leaves
the reader where it was.
-/

namespace TableOptions.Properties

open Text (CodeUnit)

/-! ### Readers on their way -/

/-- The parts of an entry. -/
inductive Part where
  | key
  | value

/-- A reader on its way along a line. -/
structure Scan where
  part : Part
  key : List Char
  value : List Char
  warnings : List Warning
  left : List Char

namespace Scan

/-- The reader at the start of a line. -/
def start (line : List Char) : Scan := ⟨.key, [], [], [], line⟩

/-- The entry decoded so far, with its warnings. -/
def entry (s : Scan) : Warned Warning Entry :=
  ⟨⟨String.ofList s.key, String.ofList s.value⟩, s.warnings⟩

/-- The reader behind an escape, the text of which goes to the part that is being decoded. -/
def put (s : Scan) (e : Escape) : Scan :=
  match s.part with
  | .key => ⟨.key, s.key ++ e.text, s.value, s.warnings ++ e.warnings, e.rest⟩
  | .value => ⟨.value, s.key, s.value ++ e.text, s.warnings ++ e.warnings, e.rest⟩

/-- The reader behind a character that stands for itself. -/
def keep (s : Scan) (c : Char) (rest : List Char) : Scan := s.put ⟨[c], [], rest⟩

/-- The reader at the value, behind the blanks that come first. -/
def enterValue (s : Scan) (rest : List Char) : Scan :=
  { s with part := .value, left := Text.trimStart rest }

/-- One step along the line: over an escape, over the separator, or over a character that stands for
itself. At the end of the line there is no further step. -/
def next? (s : Scan) : Option Scan :=
  match s.left with
  | [] => none
  | c :: rest =>
    if c = '\\' then some (s.put (Escape.read rest))
    else
      match s.part with
      | .key =>
        if isSeparator c then some (s.enterValue rest)
        else if Text.isBlank c then some (s.enterValue (skipSeparator (Text.trimStart rest)))
        else some (s.keep c rest)
      | .value => some (s.keep c rest)

/-- The readers that come about on the way along a line. -/
inductive Reaches (line : List Char) : Scan → Prop
  | start : Reaches line (start line)
  | next {s t : Scan} (before : Reaches line s) (h : s.next? = some t) : Reaches line t

/-- What a step can be. -/
inductive Step (s : Scan) : Scan → Prop
  | escape {behind : List Char} (left : s.left = '\\' :: behind) :
      Step s (s.put (Escape.read behind))
  | separator {c : Char} {rest : List Char} (part : s.part = .key) (left : s.left = c :: rest)
      (sep : isSeparator c = true) : Step s (s.enterValue rest)
  | blank {c : Char} {rest : List Char} (part : s.part = .key) (left : s.left = c :: rest)
      (blank : Text.isBlank c = true) :
      Step s (s.enterValue (skipSeparator (Text.trimStart rest)))
  | kept {c : Char} {rest : List Char} (left : s.left = c :: rest) (ne : c ≠ '\\')
      (plain : s.part = .key → endsKey c = false) : Step s (s.keep c rest)

/-- Behind an escape, the text after it is left. -/
@[simp] theorem left_put (s : Scan) (e : Escape) : (s.put e).left = e.rest := by
  unfold put
  split <;> rfl

/-- Behind a character that stands for itself, the text after it is left. -/
@[simp] theorem left_keep (s : Scan) (c : Char) (rest : List Char) : (s.keep c rest).left = rest :=
  left_put s _

/-- At the start of the value, its leading blanks are not left any more. -/
@[simp] theorem left_enterValue (s : Scan) (rest : List Char) :
    (s.enterValue rest).left = Text.trimStart rest := rfl

variable {s t : Scan}

/-- **Every step of the reader is one of these four.** -/
theorem step_of_next? (h : s.next? = some t) : Step s t := by
  unfold next? at h
  split at h
  · cases h
  · rename_i c rest hleft
    split at h
    · rename_i hc
      obtain rfl := Option.some.inj h
      exact .escape (hc ▸ hleft)
    · rename_i hne
      split at h
      · rename_i hpart
        split at h
        · rename_i hsep
          obtain rfl := Option.some.inj h
          exact .separator hpart hleft hsep
        · rename_i hsep
          split at h
          · rename_i hblank
            obtain rfl := Option.some.inj h
            exact .blank hpart hleft hblank
          · rename_i hblank
            obtain rfl := Option.some.inj h
            exact .kept hleft hne fun _ => by
              rw [endsKey, Bool.or_eq_false_iff]
              exact ⟨by simpa using hsep, by simpa using hblank⟩
      · rename_i hpart
        obtain rfl := Option.some.inj h
        exact .kept hleft hne fun hkey => by rw [hpart] at hkey; cases hkey

/-- There is a next step as long as characters are left. -/
theorem exists_next? (h : s.left ≠ []) : ∃ t, s.next? = some t := by
  unfold next?
  split
  · rename_i hleft
    exact absurd hleft h
  · split
    · exact ⟨_, rfl⟩
    · split
      · split
        · exact ⟨_, rfl⟩
        · split
          · exact ⟨_, rfl⟩
          · exact ⟨_, rfl⟩
      · exact ⟨_, rfl⟩

/-! ### What the scan comes to -/

/-- What is still to come of the key and of the value. -/
def toCome (s : Scan) : Unescaped × Unescaped :=
  match s.part with
  | .key => ((scanKey s.left).1, unescape (Text.trimStart (scanKey s.left).2))
  | .value => (⟨[], []⟩, unescape s.left)

/-- The entry that the scan comes to. -/
def outcome (s : Scan) : Warned Warning Entry :=
  ⟨⟨String.ofList (s.key ++ s.toCome.1.value), String.ofList (s.value ++ s.toCome.2.value)⟩,
    s.warnings ++ (s.toCome.1.warnings ++ s.toCome.2.warnings)⟩

/-- At the start of a line, what the scan comes to is the entry of the line. -/
theorem outcome_start (line : List Char) : (start line).outcome = readEntry line := rfl

/-- At the end of a line, what the scan comes to is what it has decoded. -/
theorem outcome_of_left_eq_nil (h : s.left = []) : s.outcome = s.entry := by
  obtain ⟨part, key, value, warnings, left⟩ := s
  obtain rfl : left = [] := h
  cases part <;> simp [outcome, toCome, entry, Text.trimStart]

/-- **No step changes what the scan comes to.** -/
theorem Step.outcome_eq (h : Step s t) : t.outcome = s.outcome := by
  obtain ⟨part, key, value, warnings, left⟩ := s
  cases h with
  | escape hleft =>
    obtain rfl := hleft
    cases part <;>
      simp [outcome, toCome, put, scanKey_backslash, unescape_backslash, Escape.before]
  | separator hpart hleft hsep =>
    obtain rfl := hpart
    obtain rfl := hleft
    simp [outcome, toCome, enterValue, scanKey_separator hsep]
  | blank hpart hleft hblank =>
    obtain rfl := hpart
    obtain rfl := hleft
    simp [outcome, toCome, enterValue, scanKey_blank hblank]
  | kept hleft hne hplain =>
    obtain rfl := hleft
    cases part with
    | key =>
      obtain ⟨hsep, hblank⟩ := Bool.or_eq_false_iff.1 (hplain rfl)
      simp [outcome, toCome, keep, put, scanKey_of_ne hne hsep hblank, Unescaped.cons]
    | value => simp [outcome, toCome, keep, put, unescape_of_ne hne, Unescaped.cons]

/-- **On its whole way, the reader comes to the entry of its line.** -/
theorem outcome_of_reaches {line : List Char} (h : Reaches line s) :
    s.outcome = readEntry line := by
  induction h with
  | start => exact outcome_start line
  | next _ hnext ih => rw [(step_of_next? hnext).outcome_eq, ih]

/-! ### The way to the end -/

/-- A text is no longer without its leading blanks. -/
theorem length_trimStart_le (s : List Char) : (Text.trimStart s).length ≤ s.length :=
  (List.dropWhile_sublist _).length_le

/-- A text is no longer behind a separator. -/
theorem length_skipSeparator_le (s : List Char) : (skipSeparator s).length ≤ s.length := by
  cases s with
  | nil => exact Nat.le_refl _
  | cons c rest =>
    rw [skipSeparator]
    split
    · exact Nat.le_succ _
    · exact Nat.le_refl _

/-- Each step takes characters off the line. -/
theorem Step.length_left_lt (h : Step s t) : t.left.length < s.left.length := by
  cases h with
  | @escape behind hleft =>
    rw [left_put, hleft]
    exact Nat.lt_succ_of_le (Escape.rest_length_le behind)
  | @separator c rest hpart hleft hsep =>
    rw [left_enterValue, hleft]
    exact Nat.lt_succ_of_le (length_trimStart_le rest)
  | @blank c rest hpart hleft hblank =>
    rw [left_enterValue, hleft]
    have houter := length_trimStart_le (skipSeparator (Text.trimStart rest))
    have hskip := length_skipSeparator_le (Text.trimStart rest)
    have hinner := length_trimStart_le rest
    exact Nat.lt_succ_of_le (Nat.le_trans houter (Nat.le_trans hskip hinner))
  | @kept c rest hleft hne hplain =>
    rw [left_keep, hleft]
    exact Nat.lt_succ_self _

/-- From every place on its way, the reader gets to the end of the line. -/
theorem Reaches.exists_end {line : List Char} {s : Scan} (h : Reaches line s) :
    ∃ last, Reaches line last ∧ last.left = [] := by
  by_cases hleft : s.left = []
  · exact ⟨s, h, hleft⟩
  · obtain ⟨t, ht⟩ := exists_next? hleft
    have hlt := (step_of_next? ht).length_left_lt
    exact (h.next ht).exists_end
termination_by s.left.length

/-- **The scan ends with the entry of the line.** -/
theorem exists_reaches_end (line : List Char) :
    ∃ last, Reaches line last ∧ last.left = [] ∧ last.entry = readEntry line := by
  have hstart : Reaches line (start line) := .start
  obtain ⟨last, hlast, hleft⟩ := hstart.exists_end
  refine ⟨last, hlast, hleft, ?_⟩
  rw [← outcome_of_left_eq_nil hleft, outcome_of_reaches hlast]

/-! ### No escape is left open -/

/-- **No step leaves an escape open** in the rest of a line that had none open. -/
theorem Step.closed (h : Step s t) (hs : continues s.left = false) : continues t.left = false := by
  cases h with
  | @escape behind hleft =>
    rw [hleft] at hs
    rw [left_put]
    cases behind with
    | nil => cases hs
    | cons c rest =>
      -- an escape takes its own backslashes along, so what is left begins outside of any
      obtain ⟨taken, htaken, hclosed⟩ := exists_taken c rest
      rw [htaken, continues_append_of_not_continues hclosed] at hs
      exact hs
  | @separator c rest hpart hleft hsep =>
    have hne := ne_backslash_of_endsKey (endsKey_eq_true_iff.2 (Or.inl hsep))
    rw [hleft, continues_cons_of_ne hne] at hs
    rw [left_enterValue, continues_trimStart, hs]
  | @blank c rest hpart hleft hblank =>
    have hne := ne_backslash_of_endsKey (endsKey_eq_true_iff.2 (Or.inr hblank))
    rw [hleft, continues_cons_of_ne hne] at hs
    rw [left_enterValue, continues_trimStart, continues_skipSeparator, continues_trimStart, hs]
  | @kept c rest hleft hne hplain =>
    rw [hleft, continues_cons_of_ne hne] at hs
    rw [left_keep, hs]

/-- **On a line that does not continue, no escape is ever left open** in what is still to be read.
-/
theorem closed_of_reaches {line : List Char} (hline : continues line = false)
    (h : Reaches line s) : continues s.left = false := by
  induction h with
  | start => exact hline
  | next _ hnext ih => exact (step_of_next? hnext).closed ih

end Scan

/-! ### Code units -/

/-- Takes a code unit off the front of a text: the unit, if one stands there, and what is left. The first
four characters are looked at, and they are taken only if they fill four bytes, all of them are digits,
and their number has sixteen bits. -/
def takeUnit (s : List Char) : Option CodeUnit × List Char :=
  let digits := s.take 4
  if (String.ofList digits).utf8ByteSize = 4 ∧ digits.all fun c => (Text.hexValue? c).isSome then
    match (Text.ofHex? digits).filter (· < 0x10000) with
    | some n => (some (UInt16.ofNat n), s.drop 4)
    | none => (none, s)
  else (none, s)

/-- A hexadecimal digit fills one byte. -/
theorem utf8ByteSize_ofList_digits {digits : List Char}
    (h : ∀ c ∈ digits, (Text.hexValue? c).isSome = true) :
    (String.ofList digits).utf8ByteSize = digits.length := by
  induction digits with
  | nil => rfl
  | cons c digits ih =>
    obtain ⟨hc, hdigits⟩ := List.forall_mem_cons.1 h
    obtain ⟨d, hd⟩ := Option.isSome_iff_exists.1 hc
    have hsmall : c.toNat ≤ 127 := Nat.le_of_lt_succ (Text.lt_of_hexValue?_eq_some hd).1
    have hsize : c.utf8Size = 1 := Char.utf8Size_eq_one_iff.2 hsmall
    rw [String.ofList_cons, String.utf8ByteSize_append, String.utf8ByteSize_singleton, hsize,
      ih hdigits, List.length_cons, Nat.add_comm]

/-- Four digits of a code unit are taken as the unit. -/
theorem takeUnit_digits (e : UnitEscape) (rest : List Char) :
    takeUnit (e.digits ++ rest) = (some e.unit, rest) := by
  have hdigits := Text.isSome_hexValue?_of_ofHex?_eq_some e.ofHex?_digits
  have hsize := (utf8ByteSize_ofList_digits hdigits).trans e.length_digits
  have hlt : e.unit.toNat < 0x10000 := e.unit.toNat_lt
  rw [takeUnit, List.take_left' e.length_digits, List.drop_left' e.length_digits,
    if_pos ⟨hsize, List.all_eq_true.2 hdigits⟩, e.ofHex?_digits, Option.filter_some,
    if_pos (decide_eq_true hlt)]
  dsimp only
  rw [UInt16.ofNat_toNat]

/-- Where no code unit stands nothing is taken. -/
theorem takeUnit_of_none {s : List Char} (h : ∀ e : UnitEscape, ¬ e.digits <+: s) :
    takeUnit s = (none, s) := by
  unfold takeUnit
  dsimp only
  split
  · rename_i hlook
    obtain ⟨hsize, hall⟩ := hlook
    have hdigits := List.all_eq_true.1 hall
    split
    · rename_i n hn
      obtain ⟨hread, hlt⟩ := Option.filter_eq_some_iff.1 hn
      have hlength : (s.take 4).length = 4 := by rw [← utf8ByteSize_ofList_digits hdigits, hsize]
      have hne : s.take 4 ≠ [] := by intro hnil; rw [hnil] at hlength; cases hlength
      have hspelled := (Text.ofHex?_eq_some_iff hne).1 hread
      rw [hlength, ← Text.toNat_unit (of_decide_eq_true hlt)] at hspelled
      exact absurd (List.take_prefix 4 s) (h ⟨UInt16.ofNat n, s.take 4, hspelled⟩)
    · rfl
  · rfl

/-- **A code unit takes four characters or none**, and is one where the reader of escapes finds one. -/
theorem takeUnit_cases (s : List Char) :
    (∃ e : UnitEscape, ∃ rest, s = e.digits ++ rest ∧ takeUnit s = (some e.unit, rest) ∧
      readUnit? s = some (e.unit, rest)) ∨
    takeUnit s = (none, s) ∧ readUnit? s = none := by
  by_cases h : ∃ e : UnitEscape, e.digits <+: s
  · obtain ⟨e, rest, rfl⟩ := h
    exact .inl ⟨e, rest, rfl, takeUnit_digits e rest, readUnit?_digits e rest⟩
  · have hnone : ∀ e : UnitEscape, ¬ e.digits <+: s := fun e he => h ⟨e, he⟩
    exact .inr ⟨takeUnit_of_none hnone, readUnit?_eq_none_iff.2 hnone⟩

/-! ### The way through a text -/

/-- **No backslash is lost.** The scan of a logical line ends with its entry, and wherever on its way an
escape is read, in the key or in the value, there is a character behind the backslash, so that the
escape stands for one character; the end of the text is never met there. A code unit takes exactly the
four digits that stand for it, and where there is none nothing is taken. -/
theorem escapes_are_complete (text : String) :
    (∀ line ∈ logicalLines (Text.lines text.toList),
      (∃ last, Scan.Reaches line last ∧ last.left = [] ∧ last.entry = readEntry line) ∧
      ∀ scan, Scan.Reaches line scan → ∀ behind, scan.left = '\\' :: behind →
        behind ≠ [] ∧ (Escape.read behind).text.length = 1 ∧
          scan.next? = some (scan.put (Escape.read behind))) ∧
    ∀ s : List Char,
      readUnit? s = (takeUnit s).1.map (fun unit => (unit, (takeUnit s).2)) ∧
      match takeUnit s with
      | (some unit, left) => ∃ digits, digits.length = 4 ∧ s = digits ++ left ∧
          Text.ofHex? digits = some unit.toNat
      | (none, left) => left = s := by
  constructor
  · intro line hline
    refine ⟨Scan.exists_reaches_end line, ?_⟩
    intro scan hscan behind hleft
    have hclosed := Scan.closed_of_reaches (continues_of_mem_logicalLines hline) hscan
    have hnext : scan.next? = some (scan.put (Escape.read behind)) := by
      unfold Scan.next?
      rw [hleft]
      rfl
    rw [hleft] at hclosed
    cases behind with
    -- a backslash at the very end would leave the line open
    | nil => cases hclosed
    | cons c rest => exact ⟨List.cons_ne_nil c rest, length_text_read c rest, hnext⟩
  · intro s
    rcases takeUnit_cases s with ⟨e, rest, hs, htake, hread⟩ | ⟨htake, hread⟩
    · rw [htake, hread]
      exact ⟨rfl, e.digits, e.length_digits, hs, e.ofHex?_digits⟩
    · rw [htake, hread]
      exact ⟨rfl, rfl⟩

end TableOptions.Properties
