import Mathlib.Data.List.Forall2
import Mathlib.Data.List.Nodup
import Mathlib.Tactic.Tauto
import TableOptions.CommandLine.Grammar

/-!
# Well-arranged command lines

`Flag.Gives` lists the ways of giving an item by a flag: by itself, with a value attached to its name
or its letter, or with a value that follows as a word of its own. `Arranged` is a line of such words
and perhaps an operand, in any order, in which no flag is repeated that must not be.

Reading finds the items of a well-arranged line in its order (`Grammar.read_of_arranged`). A value
that stands apart, like an operand, is judged when the next word begins or at the end; what is kept
from word to word is therefore what reading would have come to if the line ended there
(`Progress.Stands`).
-/

namespace TableOptions.CommandLine

variable {ι : Type}

/-! ### What words look like -/

/-- The value of a flag is read as an item. -/
inductive Flag.Reads (flag : Flag ι) (text : String) (item : ι) : Prop
  | once {read : String → Except UsageError ι} (kind : flag.kind = .single read)
      (ok : read text = .ok item)
  | again {read : String → Except UsageError ι} (kind : flag.kind = .repeated read)
      (ok : read text = .ok item)

/-- The words by which a flag gives an item. A value that is attached to a letter without `=` must
not be empty or begin with one, and a value that stands apart must not look like a flag. -/
inductive Flag.Gives (flag : Flag ι) : ι → List String → Prop
  | switch {item : ι} (kind : flag.kind = .switch item) : Gives flag item ["--" ++ flag.long]
  | attached {text : String} {item : ι} (reads : flag.Reads text item) :
      Gives flag item ["--" ++ flag.long ++ "=" ++ text]
  | apart {text : String} {item : ι} (reads : flag.Reads text item)
      (plain : Word.ofText text = .plain) : Gives flag item ["--" ++ flag.long, text]
  | letter {letter : Char} {rest : List Char} {text : String} {item : ι}
      (short : flag.short = some letter) (reads : flag.Reads text item)
      (value : Progress.attachedToLetter rest = some text) :
      Gives flag item [String.ofList ('-' :: letter :: rest)]
  | letterApart {letter : Char} {text : String} {item : ι} (short : flag.short = some letter)
      (reads : flag.Reads text item) (plain : Word.ofText text = .plain) :
      Gives flag item [String.ofList ['-', letter], text]

/-- The name of a flag that must not come twice. -/
def Flag.onceNames (flag : Flag ι) : List String :=
  match flag.kind with
  | .repeated _ => []
  | .single _ => [flag.long]
  | .switch _ => [flag.long]
  | .help => [flag.long]

/-- Only a flag that takes a value reads one. -/
theorem Flag.Reads.takesValue {flag : Flag ι} {text : String} {item : ι}
    (h : flag.Reads text item) : flag.takesValue = true := by
  rw [Flag.takesValue]
  cases h with
  | once kind ok => rw [kind]
  | again kind ok => rw [kind]

/-- The same value is read as the item under another name. -/
theorem Flag.Reads.map {κ : Type} {flag : Flag ι} {text : String} {item : ι}
    (h : flag.Reads text item) (f : ι → κ) : (flag.map f).Reads text (f item) := by
  cases h with
  | once kind ok =>
    refine .once (congrArg (FlagKind.map f) kind) ?_
    rw [ok]
    rfl
  | again kind ok =>
    refine .again (congrArg (FlagKind.map f) kind) ?_
    rw [ok]
    rfl

/-- The same words give the item under another name. -/
theorem Flag.Gives.map {κ : Type} {flag : Flag ι} {item : ι} {words : List String}
    (h : flag.Gives item words) (f : ι → κ) : (flag.map f).Gives (f item) words := by
  cases h with
  | switch kind => exact .switch (congrArg (FlagKind.map f) kind)
  | attached reads => exact .attached (reads.map f)
  | apart reads plain => exact .apart (reads.map f) plain
  | letter short reads value => exact .letter short (reads.map f) value
  | letterApart short reads plain => exact .letterApart short (reads.map f) plain

variable {g : Grammar ι}

namespace Progress

variable {p : Progress ι} {items : List ι} {used : List String} {hasOperand : Bool}
  {flag : Flag ι} {item : ι} {text : String}

end Progress

/-! ### Whole lines -/

/-- The items that words give, where flags whose names are used and an operand that was there must
not come again. -/
inductive Arranged (g : Grammar ι) : List String → Bool → List ι → List String → Prop
  | nil {used : List String} {hasOperand : Bool} : Arranged g used hasOperand [] []
  | flag {used : List String} {hasOperand : Bool} {flag : Flag ι} {item : ι} {words : List String}
      {items : List ι} {line : List String} (mem : flag ∈ g.flags) (gives : flag.Gives item words)
      (once : ∀ name ∈ flag.onceNames, name ∉ used)
      (rest : Arranged g (flag.onceNames ++ used) hasOperand items line) :
      Arranged g used hasOperand (item :: items) (words ++ line)
  | operand {used : List String} {read : String → Except UsageError ι} {text : String} {item : ι}
      {items : List ι} {line : List String} (accepts : g.operand = some read)
      (ok : read text = .ok item) (plain : Word.ofText text = .plain)
      (rest : Arranged g used true items line) :
      Arranged g used false (item :: items) (text :: line)

/-- Fewer names that must not come again leave a line well arranged. -/
theorem Arranged.of_subset {used used' : List String} {hasOperand : Bool} {items : List ι}
    {line : List String} (h : Arranged g used hasOperand items line) (hsub : used' ⊆ used) :
    Arranged g used' hasOperand items line := by
  induction h generalizing used' with
  | nil => exact .nil
  | flag mem gives once rest ih =>
    refine .flag mem gives (fun name hname hused => once name hname (hsub hused)) (ih ?_)
    intro name hname
    rcases List.mem_append.1 hname with hflag | hused
    · exact List.mem_append_left _ hflag
    · exact List.mem_append_right _ (hsub hused)
  | operand accepts ok plain rest ih => exact .operand accepts ok plain (ih hsub)

/-- Words by which a flag of the grammar gives an item; it must come once for the given names. -/
def Grammar.Gives (g : Grammar ι) (once : ι → List String) (item : ι) (words : List String) : Prop :=
  ∃ flag ∈ g.flags, flag.Gives item words ∧ flag.onceNames = once item

/-- The words of flags that do not come twice may stand before the rest of a line. -/
theorem Arranged.append {once : ι → List String} {items items' : List ι}
    {groups : List (List String)} {used : List String} {hasOperand : Bool} {line : List String}
    (h : List.Forall₂ (g.Gives once) items groups) (hnodup : (items.flatMap once).Nodup)
    (hnew : ∀ name ∈ items.flatMap once, name ∉ used)
    (rest : Arranged g (items.flatMap once ++ used) hasOperand items' line) :
    Arranged g used hasOperand (items ++ items') (groups.flatten ++ line) := by
  induction h generalizing used with
  | nil => exact rest
  | @cons item words items groups hgives _ ih =>
    obtain ⟨flag, hmem, hflag, honce⟩ := hgives
    rw [List.flatMap_cons] at hnodup hnew rest
    obtain ⟨-, hnodup', hdisjoint⟩ := List.nodup_append.1 hnodup
    rw [List.flatten_cons, List.append_assoc]
    refine .flag hmem hflag (fun name hname => ?_) (ih hnodup' (fun name hname => ?_) ?_)
    · exact hnew name (List.mem_append_left _ (honce ▸ hname))
    · rw [honce, List.mem_append]
      rintro (hold | hused)
      · exact hdisjoint name hold name hname rfl
      · exact hnew name (List.mem_append_right _ hname) hused
    · refine rest.of_subset fun name hname => ?_
      rw [honce] at hname
      simp only [List.mem_append] at hname ⊢
      tauto

end TableOptions.CommandLine
