import TableOptions.Proofs.Properties.EntryGrammar
import TableOptions.Proofs.Properties.RoundTrip

/-!
# Read, written and read again

A map that was read from a text need not come back from what is written for it. The reader decodes
more than the writer encodes: a form feed and any code unit can be spelled in a key or at the start of
a value, and so can every blank behind a backslash, while the writer protects space, tab, line feed
and carriage return only.

`read_write_read_eq_self_iff` says which texts are affected: those where a line that counts has, in
its key or at the start of its value, an escape that stands for a bare blank.
-/

namespace TableOptions.Properties

/-- The escapes in the key of a logical line, from left to right. -/
def keyEscapes (s : List Char) : List Escape :=
  match s with
  | [] => []
  | c :: rest =>
    if c = '\\' then Escape.read rest :: keyEscapes (Escape.read rest).rest
    else if isSeparator c then []
    else if Text.isBlank c then []
    else keyEscapes rest
termination_by s.length
decreasing_by
  · exact Nat.lt_succ_of_le (Escape.rest_length_le rest)
  · simp

/-- The escape that a text begins with. -/
def leadingEscape? : List Char → Option Escape
  | '\\' :: rest => some (Escape.read rest)
  | _ => none

/-- The value of a logical line as it stands there, without the blanks before it. -/
def rawValue (line : List Char) : List Char :=
  Text.trimStart (scanKey line).2

/-- A logical line that can be read, written and read again: no escape in its key stands for a bare
blank, and none at the start of its value does. -/
structure Rewritable (line : List Char) : Prop where
  key : ∀ e ∈ keyEscapes line, ∀ c ∈ e.text, isBareBlank c = false
  value : ∀ e ∈ leadingEscape? (rawValue line), ∀ c ∈ e.text.head?, isBareBlank c = false

/-! ### Where bare blanks come from -/

/-- A character that is no blank is no bare blank. -/
theorem isBareBlank_of_not_isBlank {c : Char} (h : Text.isBlank c = false) :
    isBareBlank c = false := by
  simp [isBareBlank, h]

/-- **A bare blank gets into a key only through an escape**: one that stands as it is ends the key. -/
theorem key_plain_iff (s : List Char) :
    (∀ c ∈ (scanKey s).1.value, isBareBlank c = false) ↔
      ∀ e ∈ keyEscapes s, ∀ c ∈ e.text, isBareBlank c = false := by
  fun_induction keyEscapes s with
  | case1 => simp
  | case2 rest ih =>
    rw [scanKey_backslash, Escape.value_before, List.forall_mem_append, ih, List.forall_mem_cons]
  | case3 c rest hne hsep =>
    rw [scanKey_separator hsep]
    simp
  | case4 c rest hne hsep hblank =>
    rw [scanKey_blank hblank]
    simp
  | case5 c rest hne hsep hblank ih =>
    have hsep' : isSeparator c = false := by simpa using hsep
    have hblank' : Text.isBlank c = false := by simpa using hblank
    rw [scanKey_of_ne hne hsep' hblank', Unescaped.value_cons, List.forall_mem_cons, ih]
    exact and_iff_right (isBareBlank_of_not_isBlank hblank')

/-- What begins with an escape decodes to what begins as the escape does. -/
theorem head?_unescape_backslash (rest : List Char) :
    (unescape ('\\' :: rest)).value.head? = (Escape.read rest).text.head? := by
  rw [unescape_backslash, Escape.value_before]
  cases rest with
  | nil =>
    have hread : Escape.read [] = ⟨[], [], []⟩ := rfl
    rw [hread, unescape_nil]
    rfl
  | cons c rest =>
    obtain ⟨d, hd⟩ := List.length_eq_one_iff.1 (length_text_read c rest)
    rw [hd]
    rfl

/-- What is left behind the leading blanks begins with no blank. -/
theorem isBlank_of_trimStart_eq_cons {s rest : List Char} {c : Char}
    (h : Text.trimStart s = c :: rest) : Text.isBlank c = false := by
  have hhead := List.head?_dropWhile_not Text.isBlank s
  rw [Text.trimStart] at h
  rw [h] at hhead
  exact hhead

/-- **A bare blank gets to the start of a value only through an escape**: one that stands there as it
is gets skipped. -/
theorem value_plain_iff (s : List Char) :
    (∀ c ∈ (unescape (Text.trimStart s)).value.head?, isBareBlank c = false) ↔
      ∀ e ∈ leadingEscape? (Text.trimStart s), ∀ c ∈ e.text.head?, isBareBlank c = false := by
  cases htrim : Text.trimStart s with
  | nil =>
    rw [unescape_nil]
    simp [leadingEscape?]
  | cons c rest =>
    by_cases hc : c = '\\'
    · subst hc
      rw [head?_unescape_backslash, leadingEscape?]
      simp
    · have hnone : leadingEscape? (c :: rest) = none := by
        unfold leadingEscape?
        split
        · rename_i heq
          exact absurd (List.cons.inj heq).1 hc
        · rfl
      rw [unescape_of_ne hc, Unescaped.value_cons, List.head?_cons, hnone]
      have hplain := isBareBlank_of_not_isBlank (isBlank_of_trimStart_eq_cons htrim)
      simp [hplain]

/-- A logical line gives a plain entry exactly when it can be rewritten. -/
theorem plainEntry_readEntry_iff (line : List Char) :
    PlainEntry (readEntry line).value.key (readEntry line).value.value ↔ Rewritable line := by
  have hkey := key_plain_iff line
  have hvalue := value_plain_iff (scanKey line).2
  constructor
  · rintro ⟨hk, hv⟩
    rw [toList_key_readEntry] at hk
    rw [toList_value_readEntry] at hv
    exact ⟨hkey.1 hk, hvalue.1 hv⟩
  · rintro ⟨hk, hv⟩
    constructor
    · rw [toList_key_readEntry]
      exact hkey.2 hk
    · rw [toList_value_readEntry]
      exact hvalue.2 hv

/-! ### Which texts are affected -/

/-- An entry of a read map was read from a line. -/
theorem exists_line_of_mem_read {text : String} {e : String × String}
    (h : e ∈ (read text).value.entries) :
    ∃ line ∈ logicalLines (Text.lines text.toList),
      ((readEntry line).value.key, (readEntry line).value.value) = e := by
  obtain ⟨found, hfound, rfl⟩ := List.mem_map.1 (KeyMap.mem_of_mem_entries_ofList h)
  obtain ⟨line, hline, rfl⟩ := List.mem_map.1 hfound
  exact ⟨line, hline, rfl⟩

/-- **Reading, writing and reading again** gives the map of the first reading exactly when every line
that counts can be rewritten. A line counts when the map has its value at its key, that is, when no
later line gives the key another value. -/
theorem read_write_read_eq_self_iff (text : String) :
    (read (render (read text).value .properties)).value = (read text).value ↔
      ∀ line ∈ logicalLines (Text.lines text.toList),
        (read text).value.get? (readEntry line).value.key = some (readEntry line).value.value →
          Rewritable line := by
  rw [render, read_write_eq_iff_plain]
  constructor
  · intro hplain line _ hget
    rw [KeyMap.get?_eq_some_iff] at hget
    exact (plainEntry_readEntry_iff line).1 (hplain _ hget)
  · intro hlines e he
    obtain ⟨line, hline, rfl⟩ := exists_line_of_mem_read he
    have hget := (KeyMap.get?_eq_some_iff _ _ _).2 he
    exact (plainEntry_readEntry_iff line).2 (hlines line hline hget)

/-- A form feed in a key is read from its escape and not written as one. -/
theorem read_write_read_formFeed_ne :
    (read (render (read "a\\fb=1").value .properties)).value ≠ (read "a\\fb=1").value := by
  decide +kernel

end TableOptions.Properties
