import TableOptions.CommandLine.Usage
import TableOptions.CommandLine.Word

/-!
# Grammars of command lines

A grammar says which flags and which operand a command has and what item each of them contributes to
it. Reading takes one word after another. A value that follows its flag as a word of its own, and an
operand, are judged only when the next flag or operand begins or the words end, so that an unknown
argument in between is reported first. A value attached to its flag is judged at once.
-/

namespace TableOptions.CommandLine

/-- What a flag does: it asks for help, gives an item by itself, or reads an item from a value, once
or any number of times. -/
inductive FlagKind (ι : Type) where
  | help
  | switch (item : ι)
  | single (read : String → Except UsageError ι)
  | repeated (read : String → Except UsageError ι)

/-- A flag with its names. -/
structure Flag (ι : Type) where
  long : String
  short : Option Char
  kind : FlagKind ι

/-- The words of a command: its flags, and how its operand is read if it takes one. -/
structure Grammar (ι : Type) where
  flags : List (Flag ι)
  operand : Option (String → Except UsageError ι)

variable {ι κ : Type}

/-- The kind with another item. -/
def FlagKind.map (f : ι → κ) : FlagKind ι → FlagKind κ
  | .help => .help
  | .switch item => .switch (f item)
  | .single read => .single fun s => (read s).map f
  | .repeated read => .repeated fun s => (read s).map f

/-- The flag with another item. -/
def Flag.map (f : ι → κ) (flag : Flag ι) : Flag κ :=
  ⟨flag.long, flag.short, flag.kind.map f⟩

/-- Whether a flag takes a value. -/
def Flag.takesValue (flag : Flag ι) : Bool :=
  match flag.kind with
  | .single _ => true
  | .repeated _ => true
  | .switch _ => false
  | .help => false

/-- The flag that asks for help. -/
def Flag.help : Flag ι := ⟨"help", some 'h', .help⟩

/-- The flag of a long name. -/
def Grammar.long? (g : Grammar ι) (name : String) : Option (Flag ι) :=
  (g.flags ++ [Flag.help]).find? fun flag => flag.long == name

/-- The flag of a letter. -/
def Grammar.short? (g : Grammar ι) (letter : Char) : Option (Flag ι) :=
  (g.flags ++ [Flag.help]).find? fun flag => flag.short == some letter

/-- What has begun and is not judged. -/
inductive Pending (ι : Type) where
  | nothing
  | awaiting (flag : Flag ι)
  | value (flag : Flag ι) (text : String)
  | operand (read : String → Except UsageError ι) (text : String)

/-- How far reading has come: the items so far, the flags that may not come again, what is pending,
whether there was an operand and whether only operands may follow. -/
structure Progress (ι : Type) where
  items : List ι
  used : List String
  pending : Pending ι
  hasOperand : Bool
  endOfFlags : Bool

namespace Progress

/-- Before the first word. -/
def start : Progress ι := ⟨[], [], .nothing, false, false⟩

/-- Adds an item of a flag that may be used once. -/
def addOnce (p : Progress ι) (flag : Flag ι) (item : Except UsageError ι) :
    Except UsageError (Progress ι) :=
  if p.used.contains flag.long then .error (.conflict flag.long)
  else item.map fun item => { p with items := p.items ++ [item], used := flag.long :: p.used }

/-- Judges a flag with its value, if it has one. -/
def accept (p : Progress ι) (flag : Flag ι) (value : Option String) :
    Except UsageError (Progress ι) :=
  match flag.kind, value with
  | .help, _ => .error .helpRequested
  | .switch item, _ => p.addOnce flag (.ok item)
  | .single read, some text => p.addOnce flag (read text)
  | .repeated read, some text => (read text).map fun item => { p with items := p.items ++ [item] }
  | .single _, none => .error (.missingValue flag.long)
  | .repeated _, none => .error (.missingValue flag.long)

/-- Judges what is pending. -/
def settle (p : Progress ι) : Except UsageError (Progress ι) :=
  let rest := { p with pending := .nothing }
  match p.pending with
  | .nothing => .ok rest
  | .awaiting flag => rest.accept flag none
  | .value flag text => rest.accept flag (some text)
  | .operand read text => (read text).map fun item => { rest with items := p.items ++ [item] }

/-- Begins a flag, perhaps with a value attached. -/
def begin (p : Progress ι) (flag : Flag ι) (attached : Option String) :
    Except UsageError (Progress ι) :=
  if flag.takesValue then
    p.settle.bind fun p =>
      if attached.isSome then p.accept flag attached
      else .ok { p with pending := .awaiting flag }
  else if attached.isSome then .error (.unneededValue flag.long)
  else p.settle.bind fun p => p.accept flag none

/-- The value that follows the letter of a flag, with or without `=`. -/
def attachedToLetter : List Char → Option String
  | [] => none
  | '=' :: value => some (String.ofList value)
  | value => some (String.ofList value)

/-- Begins the flags of several letters; the first that takes a value takes the rest. -/
def beginShort (g : Grammar ι) : Progress ι → List Char → Except UsageError (Progress ι)
  | p, [] => .ok p
  | p, letter :: rest =>
    match g.short? letter with
    | none => .error (.unknownArgument (String.ofList ['-', letter]))
    | some flag =>
      if flag.takesValue then p.begin flag (attachedToLetter rest)
      else (p.begin flag none).bind fun p => beginShort g p rest

/-- Takes a word as the operand. -/
def takeOperand (g : Grammar ι) (p : Progress ι) (text : String) :
    Except UsageError (Progress ι) :=
  match g.operand with
  | some read =>
    if p.hasOperand then .error (.unknownArgument text)
    else p.settle.map fun p => { p with pending := .operand read text, hasOperand := true }
  | none => .error (.unknownArgument text)

/-- Takes a word. -/
def take (g : Grammar ι) (p : Progress ι) (text : String) : Except UsageError (Progress ι) :=
  if p.endOfFlags then p.takeOperand g text
  else
    match Word.ofText text with
    | .endOfFlags => .ok { p with endOfFlags := true }
    | .long name attached =>
      match g.long? name with
      | some flag => p.begin flag attached
      | none => .error (.unknownArgument ("--" ++ name))
    | .short letters => p.beginShort g letters
    | .plain =>
      match p.pending with
      | .awaiting flag => .ok { p with pending := .value flag text }
      | _ => p.takeOperand g text

end Progress

/-- The items of the words of a command, in their order. -/
def Grammar.read (g : Grammar ι) (words : List String) : Except UsageError (List ι) := do
  let p ← words.foldlM (Progress.take g) Progress.start
  let p ← p.settle
  return p.items

end TableOptions.CommandLine
