import TableOptions.Properties.Entry
import TableOptions.Properties.Writer
import TableOptions.Proofs.Properties.Continuation

/-!
# Spellings of a text

What the writer puts out for a text spells it: every character stands as it is or behind a backslash
as a letter of the writer's escapes (`Spells`). A spelling holds no line end (`Spells.no_lineEnd`),
never continues (`Spells.continues`), and decodes to the text it spells (`Spells.unescape`).

No escape of the writer stands for a bare blank, a blank that the writer leaves as it is. So however
a spelling is cut into a key and a value, the key holds no bare blank (`Spells.scanKey_plain`) and
the value begins with none (`Spells.value_plain`).
-/

namespace TableOptions.Properties

/-- A blank that is written as it is: any but space, tab, line feed and carriage return. -/
def isBareBlank (c : Char) : Bool :=
  Text.isBlank c && !(c == ' ' || c == '\t' || c == '\n' || c == '\r')

/-- The escapes of the writer: the letter after the backslash, and the character it stands for. -/
def writerEscapes : List (Char × Char) :=
  [('\\', '\\'), ('n', '\n'), ('r', '\r'), ('t', '\t'), ('=', '='), (':', ':'), (' ', ' '),
    ('#', '#'), ('!', '!')]

/-- Whether a character may stand as it is, wherever it stands. -/
def staysBare (c : Char) : Bool := (escapeAlways? c).isNone

/-- Whether a character may stand as it is within a key. -/
def staysBareInKey (c : Char) : Bool := staysBare c && !isSeparator c && !Text.isBlank c

/-- A text in which characters that meet `bare` stand as they are and all others behind a backslash,
with the text that it spells. -/
inductive Spells (bare : Char → Bool) : List Char → List Char → Prop
  | nil : Spells bare [] []
  | bare {c : Char} {s t : List Char} : bare c = true → Spells bare s t →
      Spells bare (c :: s) (c :: t)
  | escaped {letter c : Char} {s t : List Char} : (letter, c) ∈ writerEscapes → Spells bare s t →
      Spells bare ('\\' :: letter :: s) (c :: t)

/-! ### The escapes of the writer -/

/-- The escapes of the writer are read as what they were written for. -/
theorem read_writerEscape {letter c : Char} (h : (letter, c) ∈ writerEscapes) (rest : List Char) :
    Escape.read (letter :: rest) = ⟨[c], [], rest⟩ := by
  simp only [writerEscapes, List.mem_cons, Prod.mk.injEq, List.not_mem_nil, or_false] at h
  rcases h with ⟨rfl, rfl⟩ | ⟨rfl, rfl⟩ | ⟨rfl, rfl⟩ | ⟨rfl, rfl⟩ | ⟨rfl, rfl⟩ | ⟨rfl, rfl⟩ |
    ⟨rfl, rfl⟩ | ⟨rfl, rfl⟩ | ⟨rfl, rfl⟩ <;> rfl

/-- No escape of the writer stands for a bare blank. -/
theorem writerEscape_not_bareBlank {letter c : Char} (h : (letter, c) ∈ writerEscapes) :
    isBareBlank c = false :=
  (by decide : ∀ e ∈ writerEscapes, isBareBlank e.2 = false) (letter, c) h

/-- No escape of the writer breaks its line. -/
theorem writerEscape_no_lineEnd {letter c : Char} (h : (letter, c) ∈ writerEscapes) :
    letter ≠ '\n' ∧ letter ≠ '\r' :=
  (by decide : ∀ e ∈ writerEscapes, e.1 ≠ '\n' ∧ e.1 ≠ '\r') (letter, c) h

/-- What is escaped everywhere is written as a backslash and a letter of the writer. -/
theorem escapeAlways?_eq_some {c : Char} {e : List Char} (h : escapeAlways? c = some e) :
    ∃ letter, (letter, c) ∈ writerEscapes ∧ e = ['\\', letter] := by
  unfold escapeAlways? at h
  split at h
  · exact ⟨'\\', by decide, (Option.some.inj h).symm⟩
  · exact ⟨'n', by decide, (Option.some.inj h).symm⟩
  · exact ⟨'r', by decide, (Option.some.inj h).symm⟩
  · exact ⟨'t', by decide, (Option.some.inj h).symm⟩
  · cases h

/-- What stays bare is neither a backslash nor a line end. -/
theorem ne_of_staysBare {c : Char} (h : staysBare c = true) : c ≠ '\\' ∧ c ≠ '\n' ∧ c ≠ '\r' := by
  refine ⟨?_, ?_, ?_⟩ <;> (rintro rfl; exact absurd h (by decide))

/-- A blank that the writer leaves as it is, other than a space, is a bare blank. -/
theorem isBareBlank_of_staysBare {c : Char} (h : staysBare c = true) (hs : c ≠ ' ')
    (hb : Text.isBlank c = true) : isBareBlank c = true := by
  obtain ⟨_, hn, hr⟩ := ne_of_staysBare h
  have ht : c ≠ '\t' := by rintro rfl; exact absurd h (by decide)
  simp [isBareBlank, hb, hs, ht, hn, hr]

/-! ### What is written spells what it is written for -/

namespace Spells

variable {bare : Char → Bool} {s t u v : List Char}

/-- Spellings one after the other spell the texts one after the other. -/
theorem append (h : Spells bare s t) (h' : Spells bare u v) : Spells bare (s ++ u) (t ++ v) := by
  induction h with
  | nil => exact h'
  | bare hc _ ih => exact .bare hc ih
  | escaped hc _ ih => exact .escaped hc ih

/-- One character behind a backslash. -/
theorem mark {c : Char} (h : (c, c) ∈ writerEscapes) : Spells bare ['\\', c] [c] :=
  .escaped h .nil

/-- One character of a key after its first. -/
theorem escapeInKey {c : Char} (h : staysBare c = true → isSeparator c = false → c ≠ ' ' →
    bare c = true) : Spells bare (escapeInKey c) [c] := by
  unfold Properties.escapeInKey
  split
  · rename_i e he
    obtain ⟨letter, hmem, rfl⟩ := escapeAlways?_eq_some he
    exact .escaped hmem .nil
  · rename_i he
    split
    · rename_i hc
      simp only [Bool.or_eq_true, beq_iff_eq] at hc
      rcases hc with (rfl | rfl) | rfl <;> exact mark (by decide)
    · rename_i hc
      simp only [Bool.or_eq_true, not_or, Bool.not_eq_true] at hc
      refine .bare (h (by simp [staysBare, he]) ?_ (by simpa using hc.2)) .nil
      rw [isSeparator, hc.1.1, hc.1.2]
      rfl

/-- One character of a value after its first. -/
theorem escapeInValue {c : Char} (h : staysBare c = true → bare c = true) :
    Spells bare (escapeInValue c) [c] := by
  unfold Properties.escapeInValue
  cases he : escapeAlways? c with
  | none => exact .bare (h (by simp [staysBare, he])) .nil
  | some e =>
    obtain ⟨letter, hmem, rfl⟩ := escapeAlways?_eq_some he
    exact .escaped hmem .nil

/-- A text is spelled character by character. -/
theorem flatMap {write : Char → List Char} {k : List Char}
    (h : ∀ c ∈ k, Spells bare (write c) [c]) : Spells bare (k.flatMap write) k := by
  induction k with
  | nil => exact .nil
  | cons c k ih =>
    rw [List.flatMap_cons]
    exact append (h c (List.mem_cons_self ..)) (ih fun d hd => h d (List.mem_cons_of_mem _ hd))

/-- **A written key spells the key.** -/
theorem escapeKey {k : List Char} (h : ∀ c ∈ k, staysBare c = true → isSeparator c = false →
    c ≠ ' ' → bare c = true) : Spells bare (escapeKey k) k := by
  cases k with
  | nil => exact .nil
  | cons c k =>
    have hrest : Spells bare (k.flatMap Properties.escapeInKey) k :=
      flatMap fun d hd => escapeInKey (h d (List.mem_cons_of_mem _ hd))
    rw [Properties.escapeKey]
    by_cases hc : (c == '#' || c == '!') = true
    · rw [if_pos hc]
      simp only [Bool.or_eq_true, beq_iff_eq] at hc
      rcases hc with rfl | rfl <;> exact append (mark (by decide)) hrest
    · rw [if_neg hc]
      exact append (escapeInKey (h c (List.mem_cons_self ..))) hrest

/-- **A written value spells the value.** -/
theorem escapeValue {w : List Char} (h : ∀ c ∈ w, staysBare c = true → bare c = true) :
    Spells bare (escapeValue w) w := by
  cases w with
  | nil => exact .nil
  | cons c w =>
    have hrest : Spells bare (w.flatMap Properties.escapeInValue) w :=
      flatMap fun d hd => escapeInValue (h d (List.mem_cons_of_mem _ hd))
    rw [Properties.escapeValue]
    by_cases hc : (c == ' ') = true
    · rw [if_pos hc]
      obtain rfl := beq_iff_eq.1 hc
      exact append (mark (by decide)) hrest
    · rw [if_neg hc]
      exact append (escapeInValue (h c (List.mem_cons_self ..))) hrest

/-! ### What the reader makes of a spelling -/

/-- A spelling has no line ends. -/
theorem no_lineEnd (h : Spells staysBare s t) : ∀ c ∈ s, c ≠ '\n' ∧ c ≠ '\r' := by
  induction h with
  | nil => simp
  | bare hc _ ih => exact List.forall_mem_cons.2 ⟨(ne_of_staysBare hc).2, ih⟩
  | escaped hc _ ih =>
    exact List.forall_mem_cons.2 ⟨by decide,
      List.forall_mem_cons.2 ⟨writerEscape_no_lineEnd hc, ih⟩⟩

/-- A spelling closes every escape that it opens, so it never continues. -/
theorem continues (h : Spells staysBare s t) : Properties.continues s = false := by
  induction h with
  | nil => rfl
  | bare hc _ ih => rw [continues_cons_of_ne (ne_of_staysBare hc).1, ih]
  | escaped _ _ ih => rw [continues_escape, ih]

/-- **A spelling decodes to what it spells**, without a warning. -/
theorem unescape (h : Spells staysBare s t) : Properties.unescape s = ⟨t, []⟩ := by
  induction h with
  | nil => exact unescape_nil
  | bare hc _ ih =>
    rw [unescape_of_ne (ne_of_staysBare hc).1, ih]
    rfl
  | escaped hc _ ih =>
    rw [unescape_backslash, read_writerEscape hc, ih]
    rfl

/-- **A spelled key is read up to the `=` after it.** -/
theorem scanKey (h : Spells staysBareInKey s t) (rest : List Char) :
    Properties.scanKey (s ++ '=' :: rest) = (⟨t, []⟩, rest) := by
  induction h with
  | nil => exact scanKey_separator (by decide) rest
  | bare hc _ ih =>
    simp only [staysBareInKey, Bool.and_eq_true, Bool.not_eq_true'] at hc
    obtain ⟨⟨hbare, hsep⟩, hblank⟩ := hc
    rw [List.cons_append, scanKey_of_ne (ne_of_staysBare hbare).1 hsep hblank, ih]
    rfl
  | escaped hc _ ih =>
    rw [List.cons_append, List.cons_append, scanKey_backslash, read_writerEscape hc, ih]
    rfl

/-- Without its leading blanks, a spelling spells something still. -/
theorem trimStart (h : Spells bare s t) : ∃ u, Spells bare (Text.trimStart s) u := by
  induction h with
  | nil => exact ⟨_, .nil⟩
  | @bare c s t hc hs ih =>
    by_cases hb : Text.isBlank c
    · rw [Text.trimStart, List.dropWhile_cons_of_pos hb]
      exact ih
    · rw [Text.trimStart, List.dropWhile_cons_of_neg hb]
      exact ⟨_, .bare hc hs⟩
  | escaped hc hs ih => exact ⟨_, .escaped hc hs⟩

/-- Behind a separator, a spelling spells something still. -/
theorem skipSeparator (h : Spells bare s t) : ∃ u, Spells bare (skipSeparator s) u := by
  cases h with
  | nil => exact ⟨_, .nil⟩
  | @bare c s t hc hs =>
    rw [Properties.skipSeparator]
    split
    · exact ⟨_, hs⟩
    · exact ⟨_, .bare hc hs⟩
  | escaped hc hs => exact ⟨_, .escaped hc hs⟩

/-- **A key cut from a spelling holds no bare blank**, and what is left is again a spelling. -/
theorem scanKey_plain (h : Spells staysBare s t) :
    (∀ c ∈ (Properties.scanKey s).1.value, isBareBlank c = false) ∧
      ∃ u, Spells staysBare (Properties.scanKey s).2 u := by
  induction h with
  | nil =>
    rw [scanKey_nil]
    exact ⟨by simp, _, .nil⟩
  | @bare c s t hc hs ih =>
    by_cases hsep : isSeparator c
    · rw [scanKey_separator hsep]
      exact ⟨by simp, _, hs⟩
    by_cases hb : Text.isBlank c
    · rw [scanKey_blank hb]
      obtain ⟨u, hu⟩ := hs.trimStart
      exact ⟨by simp, hu.skipSeparator⟩
    · rw [scanKey_of_ne (ne_of_staysBare hc).1 (by simpa using hsep) (by simpa using hb),
        Unescaped.value_cons]
      have hplain : isBareBlank c = false := by simp [isBareBlank, hb]
      exact ⟨List.forall_mem_cons.2 ⟨hplain, ih.1⟩, ih.2⟩
  | @escaped letter c s t hc hs ih =>
    rw [scanKey_backslash, read_writerEscape hc, Escape.value_before]
    exact ⟨List.forall_mem_cons.2 ⟨writerEscape_not_bareBlank hc, ih.1⟩, ih.2⟩

/-- **A value cut from a spelling does not begin with a bare blank.** -/
theorem value_plain (h : Spells staysBare s t) :
    ∀ c ∈ (Properties.unescape (Text.trimStart s)).value.head?, isBareBlank c = false := by
  induction h with
  | nil =>
    rw [Text.trimStart, List.dropWhile_nil, unescape_nil]
    simp
  | @bare c s t hc hs ih =>
    by_cases hb : Text.isBlank c
    · rw [Text.trimStart, List.dropWhile_cons_of_pos hb]
      exact ih
    · rw [Text.trimStart, List.dropWhile_cons_of_neg hb, unescape_of_ne (ne_of_staysBare hc).1,
        Unescaped.value_cons, List.head?_cons]
      rintro d ⟨⟩
      simp [isBareBlank, hb]
  | @escaped letter c s t hc hs ih =>
    rw [Text.trimStart, List.dropWhile_cons_of_neg (by decide), unescape_backslash,
      read_writerEscape hc, Escape.value_before]
    rintro d ⟨⟩
    exact writerEscape_not_bareBlank hc

end Spells

end TableOptions.Properties
