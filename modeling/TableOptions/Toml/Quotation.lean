import TableOptions.Text.Hex
import TableOptions.Toml.Scan

/-!
# Quotations

A quotation is basic, with escapes, or literal, without any; and it stands on one line between single
delimiters or on several between triple ones. A line feed right after an opening triple delimiter
is dropped. Up to two delimiters may stand before the closing triple one and belong to the text.
-/

namespace TableOptions.Toml

/-- The character of a code point in a number of hexadecimal digits. -/
def scanCode (count : Nat) : Scan Char := fun s =>
  if (s.take count).length = count then
    match Text.ofHex? (s.take count) with
    | some n => if n.isValidChar then some (Char.ofNat n, s.drop count) else none
    | none => none
  else none

/-- The character of an escape of one letter. -/
def letterEscape? (c : Char) : Option Char :=
  match c with
  | 'b' => some '\x08'
  | 't' => some '\t'
  | 'n' => some '\n'
  | 'f' => some '\x0c'
  | 'r' => some '\r'
  | '"' => some '"'
  | '\\' => some '\\'
  | _ => none

/-- The character of an escape, whose backslash has been read. -/
def scanEscape : Scan Char
  | [] => none
  | c :: rest =>
    if c = 'u' then scanCode 4 rest
    else if c = 'U' then scanCode 8 rest
    else (letterEscape? c).map fun d => (d, rest)

/-- The text behind the digits of a code point is no longer than the text with them. -/
theorem scanCode_rest_length_le {count : Nat} {s rest : List Char} {c : Char}
    (h : scanCode count s = some (c, rest)) : rest.length ≤ s.length := by
  unfold scanCode at h
  split at h
  · split at h
    · split at h
      · simp only [Option.some.injEq, Prod.mk.injEq] at h
        rw [← h.2, List.length_drop]
        exact Nat.sub_le _ _
      · cases h
    · cases h
  · cases h

/-- An escape takes at least one character behind its backslash. -/
theorem scanEscape_rest_length_lt {s rest : List Char} {c : Char}
    (h : scanEscape s = some (c, rest)) : rest.length < s.length := by
  cases s with
  | nil => cases h
  | cons d s =>
    rw [scanEscape] at h
    split at h
    · exact Nat.lt_succ_of_le (scanCode_rest_length_le h)
    · split at h
      · exact Nat.lt_succ_of_le (scanCode_rest_length_le h)
      · obtain ⟨_, _, he⟩ := Option.map_eq_some_iff.1 h
        rw [← (Prod.mk.inj he).2]
        exact Nat.lt_succ_self _

/-- A character before text that is read further on. -/
def before (c : Char) : Option (List Char × List Char) → Option (List Char × List Char)
  | some (text, rest) => some (c :: text, rest)
  | none => none

/-- The rest of a basic quotation on one line. -/
def scanBasic (s : List Char) : Option (List Char × List Char) :=
  match s with
  | [] => none
  | c :: rest =>
    if c = '"' then some ([], rest)
    else if c = '\\' then
      match _ : scanEscape rest with
      | some (d, rest') => before d (scanBasic rest')
      | none => none
    else if isPlain c then before c (scanBasic rest)
    else none
termination_by s.length
decreasing_by
  · exact Nat.lt_succ_of_lt (scanEscape_rest_length_lt ‹_›)
  · exact Nat.lt_succ_self _

/-- The rest of a literal quotation on one line. -/
def scanLiteral : Scan (List Char)
  | [] => none
  | c :: rest =>
    if c = '\'' then some ([], rest)
    else if isPlain c then before c (scanLiteral rest)
    else none

/-- The end of a quotation between triple delimiters: the delimiters that still belong to the text,
and what comes after the closing ones. -/
def closing? (delimiter : Char) (s : List Char) : Option (List Char × List Char) :=
  let run := min (s.takeWhile (· == delimiter)).length 5
  if run < 3 then none else some (List.replicate (run - 3) delimiter, s.drop run)

/-- The text after the end of a line that a backslash ends, the following blanks and line feeds
apart. -/
def afterBreak? (s : List Char) : Option (List Char) :=
  (after? '\n' (skipGap s)).map fun rest => rest.dropWhile fun c => isGap c || c == '\n'

/-- The end of a line is left behind with its line feed. -/
theorem afterBreak?_length_lt {s rest : List Char} (h : afterBreak? s = some rest) :
    rest.length < s.length := by
  unfold afterBreak? at h
  obtain ⟨t, ht, rfl⟩ := Option.map_eq_some_iff.1 h
  refine Nat.lt_of_le_of_lt (List.dropWhile_suffix _).length_le ?_
  refine Nat.lt_of_lt_of_le ?_ (List.dropWhile_suffix isGap).length_le
  unfold after? at ht
  split at ht
  · rename_i heq
    split at ht
    · cases ht
      rw [skipGap] at heq
      rw [heq]
      exact Nat.lt_succ_self _
    · cases ht
  · cases ht

/-- The rest of a basic quotation on several lines. -/
def scanMultilineBasic (s : List Char) : Option (List Char × List Char) :=
  match closing? '"' s with
  | some closed => some closed
  | none =>
    match s with
    | [] => none
    | c :: rest =>
      if c = '\\' then
        match _ : afterBreak? rest with
        | some rest' => scanMultilineBasic rest'
        | none =>
          match _ : scanEscape rest with
          | some (d, rest') => before d (scanMultilineBasic rest')
          | none => none
      else if isPlain c || c == '\n' then before c (scanMultilineBasic rest)
      else none
termination_by s.length
decreasing_by
  · exact Nat.lt_succ_of_lt (afterBreak?_length_lt ‹_›)
  · exact Nat.lt_succ_of_lt (scanEscape_rest_length_lt ‹_›)
  · exact Nat.lt_succ_self _

/-- The rest of a literal quotation on several lines. -/
def scanMultilineLiteral : Scan (List Char)
  | [] => none
  | c :: rest =>
    match closing? '\'' (c :: rest) with
    | some closed => some closed
    | none =>
      if isPlain c || c == '\n' then before c (scanMultilineLiteral rest)
      else none

/-- A text without the line feed that it may begin with. -/
def dropLineFeed : List Char → List Char
  | '\n' :: rest => rest
  | s => s

/-- A quotation on one line. -/
def scanLine : Scan (List Char)
  | '"' :: rest => scanBasic rest
  | '\'' :: rest => scanLiteral rest
  | _ => none

/-- A quotation of any kind. -/
def scanQuotation : Scan (List Char)
  | '"' :: '"' :: '"' :: rest => scanMultilineBasic (dropLineFeed rest)
  | '\'' :: '\'' :: '\'' :: rest => scanMultilineLiteral (dropLineFeed rest)
  | s => scanLine s

end TableOptions.Toml
