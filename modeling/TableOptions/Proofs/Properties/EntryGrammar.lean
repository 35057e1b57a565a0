import Mathlib.Data.List.Forall2
import TableOptions.Properties.Reader
import TableOptions.Proofs.Properties.Grouping
import TableOptions.Proofs.Properties.Unescaping

/-!
# Entries by their grammar

The reader finds the end of a key while it decodes the key. The grammar finds the end first and decodes
afterwards: the key ends at the first `=`, `:` or blank that an even number of backslashes precedes
(`keyEnd`), and what stands before that place and what stands behind the separator are decoded each by
itself (`EntryOf`). Both give the same entries (`readEntries_eq_iff_entryOf`).

The places where the reader stands when it looks for the end of the key are those before which no escape
is open, so that what it sees there does not depend on what it has read (`isKeyEnd_append`). No escape
reaches over the end of a key, as none of its characters can stand there (`read_append_behind`).
-/

namespace TableOptions.Properties

/-- Whether a character ends a key if it is not escaped. -/
def endsKey (c : Char) : Bool := isSeparator c || Text.isBlank c

/-- Whether the key of a line may end at a position: a character that ends keys stands there, directly
behind an even number of backslashes. -/
def isKeyEnd (s : List Char) (position : Nat) : Bool :=
  s[position]?.any endsKey && !continues (s.take position)

/-- The first position at which the key of a line may end, or the end of the line. -/
def keyEnd (line : List Char) : Nat :=
  ((List.range line.length).find? (isKeyEnd line)).getD line.length

/-- What is left of a line for the value: from the end of the key on, without blanks, at most one `=` or
`:`, and blanks again. -/
def valueText (line : List Char) : List Char :=
  Text.trimStart (skipSeparator (Text.trimStart (line.drop (keyEnd line))))

/-- The entry of a logical line by the grammar: the key and the value are decoded each by itself. -/
def EntryOf (line : List Char) (entry : Warned Warning Entry) : Prop :=
  ∃ key value, Decodes (line.take (keyEnd line)) key ∧ Decodes (valueText line) value ∧
    entry = ⟨⟨String.ofList key.value, String.ofList value.value⟩, key.warnings ++ value.warnings⟩

/-! ### Where a key ends -/

/-- A key does not end before its end. -/
theorem isKeyEnd_of_lt_keyEnd {line : List Char} {position : Nat} (h : position < keyEnd line) :
    isKeyEnd line position = false := by
  unfold keyEnd at h
  cases hfind : (List.range line.length).find? (isKeyEnd line) with
  | none =>
    rw [hfind, Option.getD_none] at h
    simpa using List.find?_eq_none.1 hfind position (List.mem_range.2 h)
  | some first =>
    rw [hfind, Option.getD_some] at h
    simpa using (List.find?_range_eq_some.1 hfind).2.2 position h

/-- A key ends with its line, unless something ends it before. -/
theorem keyEnd_eq_length_or (line : List Char) :
    keyEnd line = line.length ∨ isKeyEnd line (keyEnd line) = true := by
  unfold keyEnd
  cases hfind : (List.range line.length).find? (isKeyEnd line) with
  | none => exact .inl rfl
  | some first => exact .inr (List.find?_some hfind)

/-- **Behind a part that leaves no escape open the search for the end of the key begins anew.** -/
theorem isKeyEnd_append {a : List Char} (h : continues a = false) (b : List Char) (position : Nat) :
    isKeyEnd (a ++ b) (a.length + position) = isKeyEnd b position := by
  unfold isKeyEnd
  rw [List.getElem?_append_right (Nat.le_add_right ..), Nat.add_sub_cancel_left,
    List.take_length_add_append, continues_append_of_not_continues h]

/-- Nothing is open at the start of a line, so its first character may end the key. -/
theorem isKeyEnd_cons_zero (c : Char) (s : List Char) : isKeyEnd (c :: s) 0 = endsKey c := by
  simp [isKeyEnd, continues]

/-- A line cut into a key and what is behind it: no escape is open at the cut, the key may not end
earlier, and it ends there or the line does. -/
structure KeyCut (key behind : List Char) : Prop where
  closed : continues key = false
  unbroken : ∀ position < key.length, isKeyEnd key position = false
  ends : ∀ c ∈ behind.head?, endsKey c = true

/-- **A line is cut at the end of its key.** -/
theorem keyCut {line : List Char} (h : continues line = false) :
    KeyCut (line.take (keyEnd line)) (line.drop (keyEnd line)) where
  closed := by
    rcases keyEnd_eq_length_or line with hend | hend
    · rw [hend, List.take_length, h]
    · simpa using (Bool.and_eq_true_iff.1 hend).2
  unbroken := by
    intro position hposition
    rw [List.length_take] at hposition
    have hlt : position < keyEnd line := by omega
    have hline := isKeyEnd_of_lt_keyEnd hlt
    unfold isKeyEnd at hline ⊢
    rw [List.getElem?_take_of_lt hlt, List.take_take, Nat.min_eq_left (Nat.le_of_lt hlt), hline]
  ends := by
    intro c hc
    rw [List.head?_drop] at hc
    rcases keyEnd_eq_length_or line with hend | hend
    · rw [hend, List.getElem?_length] at hc
      cases hc
    · have hany := (Bool.and_eq_true_iff.1 hend).1
      rw [Option.mem_def.1 hc] at hany
      exact hany

/-- What is closed at the front of a key can be left out. -/
theorem KeyCut.tail {a b behind : List Char} (h : KeyCut (a ++ b) behind)
    (ha : continues a = false) : KeyCut b behind where
  closed := by rw [← continues_append_of_not_continues ha, h.closed]
  unbroken := by
    intro position hposition
    rw [← isKeyEnd_append ha]
    exact h.unbroken _ (by rw [List.length_append]; omega)
  ends := h.ends

/-! ### No escape reaches over the end of a key -/

/-- What does not end a key and begins a text with the end of a key in it stands before that end. -/
theorem prefix_of_prefix_append {a s behind : List Char} (ha : ∀ c ∈ a, endsKey c = false)
    (hends : ∀ c ∈ behind.head?, endsKey c = true) (h : a <+: s ++ behind) : a <+: s := by
  rcases Nat.le_total a.length s.length with hle | hle
  · exact List.prefix_of_prefix_length_le h (List.prefix_append s behind) hle
  · obtain ⟨rest, rfl⟩ := List.prefix_of_prefix_length_le (List.prefix_append s behind) h hle
    have hrest : rest <+: behind := (List.prefix_append_right_inj s).1 h
    cases rest with
    | nil => exact ⟨[], by rw [List.append_nil, List.append_nil]⟩
    | cons c rest =>
      obtain ⟨later, rfl⟩ := hrest
      have hc := ha c (List.mem_append_right s (List.mem_cons_self ..))
      rw [hends c rfl] at hc
      cases hc

/-- No hexadecimal digit ends a key. -/
theorem endsKey_of_isSome_hexValue? {c : Char} (h : (Text.hexValue? c).isSome = true) :
    endsKey c = false := by
  have htable : ∀ n < 128, (Text.hexValue? (Char.ofNat n)).isSome = true →
      endsKey (Char.ofNat n) = false := by decide +kernel
  obtain ⟨d, hd⟩ := Option.isSome_iff_exists.1 h
  have hdigit := htable c.toNat (Text.lt_of_hexValue?_eq_some hd).1
  rw [Char.ofNat_toNat] at hdigit
  exact hdigit h

/-- No digit of a code unit ends a key. -/
theorem UnitEscape.endsKey_of_mem_digits (e : UnitEscape) : ∀ c ∈ e.digits, endsKey c = false :=
  fun c hc =>
    endsKey_of_isSome_hexValue? (Text.isSome_hexValue?_of_ofHex?_eq_some e.ofHex?_digits c hc)

/-- No character of an escaped code unit ends a key. -/
theorem UnitEscape.endsKey_of_mem_text (e : UnitEscape) : ∀ c ∈ e.text, endsKey c = false :=
  List.forall_mem_cons.2 ⟨by decide, List.forall_mem_cons.2 ⟨by decide, e.endsKey_of_mem_digits⟩⟩

/-- What stands behind a backslash and a `u`: no code unit, two of a pair, or one by itself. -/
theorem unicode_cases (s : List Char) :
    (∀ e : UnitEscape, ¬ e.digits <+: s) ∨
      (∃ (e f : UnitEscape) (tail : List Char), e.unit.IsPair f.unit ∧
        s = e.digits ++ (f.text ++ tail)) ∨
      ∃ (e : UnitEscape) (tail : List Char),
        (∀ f : UnitEscape, f.text <+: tail → ¬ e.unit.IsPair f.unit) ∧ s = e.digits ++ tail := by
  by_cases hunit : ∃ e : UnitEscape, e.digits <+: s
  · obtain ⟨e, tail, rfl⟩ := hunit
    by_cases hpair : ∃ f : UnitEscape, f.text <+: tail ∧ e.unit.IsPair f.unit
    · obtain ⟨f, ⟨later, rfl⟩, hpair⟩ := hpair
      exact .inr (.inl ⟨e, f, later, hpair, rfl⟩)
    · exact .inr (.inr ⟨e, tail, fun f hf hp => hpair ⟨f, hf, hp⟩, rfl⟩)
  · exact .inl fun e he => hunit ⟨e, he⟩

/-- With a character behind its backslash an escape stands for one character. -/
theorem length_text_read (c : Char) (s : List Char) : (Escape.read (c :: s)).text.length = 1 := by
  by_cases hc : c = 'u'
  · subst hc
    rw [Escape.read]
    rcases unicode_cases s with hnone | ⟨e, f, tail, hpair, rfl⟩ | ⟨e, tail, halone, rfl⟩
    · rw [readUnicode_malformed hnone]
      rfl
    · rw [readUnicode_pair hpair, Escape.ofUnits, Text.decodeUnits_pair hpair]
      rfl
    · rw [readUnicode_alone halone, Escape.ofUnits, Text.decodeUnits_singleton]
      rfl
  · rw [read_of_ne hc]
    rfl

/-- The same escape with more text behind it. -/
def Escape.extend (e : Escape) (behind : List Char) : Escape := { e with rest := e.rest ++ behind }

/-- **A code unit is read alike whatever is behind the end of the key.** -/
theorem readUnicode_append {s behind : List Char} (hends : ∀ c ∈ behind.head?, endsKey c = true) :
    Escape.readUnicode (s ++ behind) = (Escape.readUnicode s).extend behind := by
  rcases unicode_cases s with hnone | ⟨e, f, tail, hpair, rfl⟩ | ⟨e, tail, halone, rfl⟩
  · have hnone' : ∀ e : UnitEscape, ¬ e.digits <+: s ++ behind := fun e he =>
      hnone e (prefix_of_prefix_append e.endsKey_of_mem_digits hends he)
    rw [readUnicode_malformed hnone, readUnicode_malformed hnone']
    rfl
  · rw [List.append_assoc, List.append_assoc, readUnicode_pair hpair, readUnicode_pair hpair]
    rfl
  · have halone' : ∀ f : UnitEscape, f.text <+: tail ++ behind → ¬ e.unit.IsPair f.unit :=
      fun f hf => halone f (prefix_of_prefix_append f.endsKey_of_mem_text hends hf)
    rw [List.append_assoc, readUnicode_alone halone, readUnicode_alone halone']
    rfl

/-- **An escape before the end of a key is read as if nothing followed.** -/
theorem read_append_behind {c : Char} {s behind : List Char}
    (hends : ∀ c ∈ behind.head?, endsKey c = true) :
    Escape.read (c :: s ++ behind) = (Escape.read (c :: s)).extend behind := by
  by_cases hc : c = 'u'
  · subst hc
    exact readUnicode_append hends
  · rw [List.cons_append, read_of_ne hc, read_of_ne hc]
    rfl

/-- **An escape takes a part that leaves no escape open.** -/
theorem exists_taken (c : Char) (s : List Char) : ∃ taken,
    '\\' :: c :: s = taken ++ (Escape.read (c :: s)).rest ∧ continues taken = false := by
  by_cases hc : c = 'u'
  · subst hc
    rcases unicode_cases s with hnone | ⟨e, f, tail, hpair, rfl⟩ | ⟨e, tail, halone, rfl⟩
    · exact ⟨['\\', 'u'], by rw [Escape.read, readUnicode_malformed hnone]; rfl, by decide⟩
    · refine ⟨e.text ++ f.text, ?_, ?_⟩
      · rw [Escape.read, readUnicode_pair hpair, List.append_assoc]
        rfl
      · rw [continues_unit, ← List.append_nil f.text, continues_unit]
        rfl
    · refine ⟨e.text, ?_, ?_⟩
      · rw [Escape.read, readUnicode_alone halone]
        rfl
      · rw [← List.append_nil e.text, continues_unit]
        rfl
  · exact ⟨['\\', c], by rw [read_of_ne hc]; rfl, continues_escape c []⟩

/-! ### The scanner -/

/-- A key ends at a separator or a blank. -/
theorem endsKey_eq_true_iff {c : Char} :
    endsKey c = true ↔ isSeparator c = true ∨ Text.isBlank c = true :=
  Bool.or_eq_true_iff

/-- A backslash does not end a key. -/
theorem ne_backslash_of_endsKey {c : Char} (h : endsKey c = true) : c ≠ '\\' := by
  rintro rfl
  exact absurd h (by decide)

/-- Where the key ends the reader takes what the grammar takes. -/
theorem scanKey_of_ends {behind : List Char} (h : ∀ c ∈ behind.head?, endsKey c = true) :
    (scanKey behind).1 = ⟨[], []⟩ ∧ Text.trimStart (scanKey behind).2 =
      Text.trimStart (skipSeparator (Text.trimStart behind)) := by
  cases behind with
  | nil =>
    rw [scanKey_nil]
    exact ⟨rfl, rfl⟩
  | cons c rest =>
    rcases endsKey_eq_true_iff.1 (h c rfl) with hsep | hblank
    · have htrim : Text.trimStart (c :: rest) = c :: rest :=
        List.dropWhile_cons_of_neg (by simp [isBlank_of_isSeparator hsep])
      rw [scanKey_separator hsep, htrim, skipSeparator, if_pos hsep]
      exact ⟨rfl, rfl⟩
    · have htrim : Text.trimStart (c :: rest) = Text.trimStart rest :=
        List.dropWhile_cons_of_pos hblank
      rw [scanKey_blank hblank, htrim]
      exact ⟨rfl, rfl⟩

/-- **The reader cuts a line at the end of its key**, and decodes the key as if it stood alone. -/
theorem scanKey_append {key behind : List Char} (h : KeyCut key behind) :
    (scanKey (key ++ behind)).1 = unescape key ∧
      Text.trimStart (scanKey (key ++ behind)).2 =
        Text.trimStart (skipSeparator (Text.trimStart behind)) := by
  fun_induction unescape key with
  | case1 => exact scanKey_of_ends h.ends
  | case2 rest ih =>
    cases rest with
    | nil => cases h.closed
    | cons c rest =>
      -- the escape ends within the key, so the cut is one of the text behind it
      obtain ⟨taken, htaken, hclosed⟩ := exists_taken c rest
      obtain ⟨hkey, hbehind⟩ := ih (by rw [htaken] at h; exact h.tail hclosed)
      have hread := read_append_behind (c := c) (s := rest) h.ends
      rw [List.cons_append, scanKey_backslash, hread]
      exact ⟨congrArg (Escape.before _) hkey, hbehind⟩
  | case3 c rest hne ih =>
    have hplain : endsKey c = false := by
      rw [← isKeyEnd_cons_zero c rest]
      exact h.unbroken 0 (Nat.succ_pos _)
    obtain ⟨hsep, hblank⟩ := Bool.or_eq_false_iff.1 hplain
    have htail : KeyCut rest behind := by
      refine KeyCut.tail (a := [c]) h ?_
      rw [continues_cons_of_ne hne]
      rfl
    obtain ⟨hkey, hbehind⟩ := ih htail
    rw [List.cons_append, scanKey_of_ne hne hsep hblank]
    exact ⟨congrArg (Unescaped.cons c) hkey, hbehind⟩

/-! ### Entries -/

/-- To skip a separator opens no escape and closes none. -/
theorem continues_skipSeparator (s : List Char) : continues (skipSeparator s) = continues s := by
  cases s with
  | nil => rfl
  | cons c rest =>
    rw [skipSeparator]
    split
    · rename_i hsep
      rw [continues_cons_of_ne (ne_backslash_of_endsKey (endsKey_eq_true_iff.2 (Or.inl hsep)))]
    · rfl

/-- No escape is open at the end of a value if none is at the end of its line. -/
theorem continues_valueText {line : List Char} (h : continues line = false) :
    continues (valueText line) = false := by
  have hbehind : continues (line.drop (keyEnd line)) = false := by
    rw [← continues_append_of_not_continues (keyCut h).closed, List.take_append_drop, h]
  rw [valueText, continues_trimStart, continues_skipSeparator, continues_trimStart, hbehind]

/-- **The reader and the grammar give a line the same entry**, if it leaves no escape open. -/
theorem readEntry_eq_iff_entryOf {line : List Char} (h : continues line = false)
    {entry : Warned Warning Entry} : readEntry line = entry ↔ EntryOf line entry := by
  have hscan := scanKey_append (keyCut h)
  rw [List.take_append_drop] at hscan
  obtain ⟨hkey, hvalue⟩ := hscan
  rw [← valueText] at hvalue
  simp only [EntryOf, decodes_iff_unescape (keyCut h).closed,
    decodes_iff_unescape (continues_valueText h), readEntry, hkey, hvalue]
  simp [eq_comm]

/-- **Reading lines one by one is the grammar of each of them**, if no escape is open at their ends.
-/
theorem map_readEntry_eq_iff {logical : List (List Char)}
    (h : ∀ line ∈ logical, continues line = false) {entries : List (Warned Warning Entry)} :
    logical.map readEntry = entries ↔ List.Forall₂ EntryOf logical entries := by
  induction logical generalizing entries with
  | nil => rw [List.map_nil, List.forall₂_nil_left_iff, eq_comm]
  | cons line logical ih =>
    obtain ⟨hline, hlogical⟩ := List.forall_mem_cons.1 h
    cases entries with
    | nil => simp
    | cons entry entries =>
      rw [List.map_cons, List.cons.injEq, readEntry_eq_iff_entryOf hline, ih hlogical,
        List.forall₂_cons]

/-- **The entries of a text are those of the grammar**, one for each logical line, in their order, and
with their warnings. -/
theorem readEntries_eq_iff_entryOf (text : String) (entries : List (Warned Warning Entry)) :
    readEntries text = entries ↔
      List.Forall₂ EntryOf (logicalLines (Text.lines text.toList)) entries :=
  map_readEntry_eq_iff fun _ hline => continues_of_mem_logicalLines hline

/-- Three backslashes leave an escape open and two do not: the key ends at the second `=`. -/
example : keyEnd "a\\\\\\=b\\\\=c".toList = 8 := by decide +kernel

end TableOptions.Properties
