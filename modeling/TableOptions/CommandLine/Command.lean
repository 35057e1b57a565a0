import TableOptions.CommandLine.FlagValue
import TableOptions.CommandLine.Grammar
import TableOptions.Listing
import TableOptions.Passthrough
import TableOptions.Rendering
import TableOptions.Streamer.Arguments

/-!
# Commands

The five commands and the words that stand for them. Every command has a grammar; the items that the
grammar finds are put together to the command.
-/

namespace TableOptions.CommandLine

open Streamer (Given Settings)

/-- How a configuration is printed: flattened or not, all of it or what was changed, and the format. -/
structure Output where
  flat : Bool
  changedOnly : Bool
  format : EntryFormat
deriving DecidableEq, Repr

/-- A command. -/
inductive Command where
  | list (filter : Filter) (format : ListFormat)
  | describe (key : String)
  | resolve (settings : Settings) (output : Output)
  | convert (path : String) (output : Output)
  | select (path mark : String) (format : EntryFormat)

/-- The name of a format for entries. -/
def readEntryFormat : String → Except UsageError EntryFormat :=
  readName [("properties", .properties), ("json", .json), ("toml", .toml)]

/-- The name of a format for listings. -/
def readListFormat : String → Except UsageError ListFormat :=
  readName [("text", .text), ("json", .json)]

/-! ### Listing -/

/-- What the words of a listing contribute to it. -/
inductive ListItem where
  | group (name : String)
  | required
  | optional
  | format (f : ListFormat)
deriving DecidableEq, Repr

/-- The words of a listing. -/
def listGrammar : Grammar ListItem where
  flags := [
    ⟨"group", some 'g', .single fun name => .ok (.group name)⟩,
    ⟨"required", none, .switch .required⟩,
    ⟨"optional", none, .switch .optional⟩,
    ⟨"format", some 'f', .single fun name => (readListFormat name).map .format⟩]
  operand := none

/-- A listing with one more item. -/
def addListItem : Filter × ListFormat → ListItem → Filter × ListFormat
  | (filter, format), .group name => ({ filter with group := some name }, format)
  | (filter, format), .required => ({ filter with required := true }, format)
  | (filter, format), .optional => ({ filter with optional := true }, format)
  | (filter, _), .format f => (filter, f)

/-- A listing; it cannot show only required options and only optional ones. -/
def readList (words : List String) : Except UsageError Command := do
  let items ← listGrammar.read words
  let (filter, format) := items.foldl addListItem (⟨none, false, false⟩, .text)
  if filter.required && filter.optional then .error (.conflict "optional")
  else .ok (.list filter format)

/-! ### Describing -/

/-- The words of a description: a key. -/
def describeGrammar : Grammar String := ⟨[], some .ok⟩

/-- A description. -/
def readDescribe (words : List String) : Except UsageError Command := do
  match ← describeGrammar.read words with
  | key :: _ => .ok (.describe key)
  | [] => .error (.missingArgument "KEY")

/-! ### Printing a configuration -/

/-- What the words about the output contribute to it. -/
inductive OutputItem where
  | flat
  | changedOnly
  | format (f : EntryFormat)
deriving DecidableEq, Repr

/-- The flags for the output. -/
def outputFlags : List (Flag OutputItem) := [
  ⟨"flat", none, .switch .flat⟩,
  ⟨"changed-only", none, .switch .changedOnly⟩,
  ⟨"format", some 'f', .single fun name => (readEntryFormat name).map .format⟩]

/-- The output without flags. -/
def Output.standard : Output := ⟨false, false, .properties⟩

/-- An output with one more item. -/
def Output.add (o : Output) : OutputItem → Output
  | .flat => { o with flat := true }
  | .changedOnly => { o with changedOnly := true }
  | .format f => { o with format := f }

/-- The output that items make. -/
def Output.ofItems (items : List OutputItem) : Output := items.foldl Output.add Output.standard

/-- The words of a job: a flag for each of its fields, and those for the output. -/
def resolveGrammar : Grammar (Given ⊕ OutputItem) where
  flags := Streamer.Field.all.map (fun f => f.flag.map .inl) ++ outputFlags.map (Flag.map .inr)
  operand := none

/-- A job to print the configuration of. -/
def readResolve (words : List String) : Except UsageError Command := do
  let items ← resolveGrammar.read words
  let settings ← Settings.ofGiven (items.filterMap Sum.getLeft?)
  return .resolve settings (Output.ofItems (items.filterMap Sum.getRight?))

/-- The words of a document to convert: its path, and those for the output. -/
def convertGrammar : Grammar (String ⊕ OutputItem) where
  flags := outputFlags.map (Flag.map .inr)
  operand := some fun text => (readPath text).map .inl

/-- A document to convert. -/
def readConvert (words : List String) : Except UsageError Command := do
  let items ← convertGrammar.read words
  match items.filterMap Sum.getLeft? with
  | path :: _ => .ok (.convert path (Output.ofItems (items.filterMap Sum.getRight?)))
  | [] => .error (.missingArgument "PATH")

/-! ### Selecting properties -/

/-- What the words of a selection contribute to it. -/
inductive SelectItem where
  | path (path : String)
  | mark (mark : String)
  | format (f : EntryFormat)
deriving DecidableEq, Repr

/-- The words of a selection. -/
def selectGrammar : Grammar SelectItem where
  flags := [
    ⟨"prefix", some 'p', .single fun mark => .ok (.mark mark)⟩,
    ⟨"format", some 'f', .single fun name => (readEntryFormat name).map .format⟩]
  operand := some fun text => (readPath text).map .path

/-- A selection with one more item. -/
def addSelectItem : Option String × String × EntryFormat → SelectItem →
    Option String × String × EntryFormat
  | (_, mark, format), .path path => (some path, mark, format)
  | (path, _, format), .mark mark => (path, mark, format)
  | (path, mark, _), .format f => (path, mark, f)

/-- A selection from a properties file. -/
def readSelect (words : List String) : Except UsageError Command := do
  let items ← selectGrammar.read words
  match items.foldl addSelectItem (none, passthroughMark, .properties) with
  | (some path, mark, format) => .ok (.select path mark format)
  | (none, _, _) => .error (.missingArgument "PATH")

/-! ### Choosing the command -/

/-- The commands by name, with how the words after the name are read. -/
def commands : List (String × (List String → Except UsageError Command)) := [
  ("list", readList),
  ("describe", readDescribe),
  ("resolve", readResolve),
  ("import", readConvert),
  ("props", readSelect)]

/-- Whether a word can stand for a command. -/
def isCommandName (name : String) : Bool :=
  name == "help" || (commands.lookup name).isSome

/-- The answer to a request for help: at most one command can be asked about. -/
def readHelp : List String → UsageError
  | [] => .helpRequested
  | [name] => if isCommandName name then .helpRequested else .unknownCommand name
  | name :: next :: _ => .unknownCommand (if isCommandName name then next else name)

/-- The answer to words that do not begin with a command. -/
def refuse (word : String) (rest : List String) : UsageError :=
  match Word.ofText word with
  | .endOfFlags =>
    match rest with
    | [] => .missingCommand
    | next :: _ => if isCommandName next then .unknownArgument next else .unknownCommand next
  | .long name attached =>
    if name != "help" then .unknownArgument word
    else if attached.isSome then .unneededValue name
    else .helpRequested
  | .short letters =>
    if letters.head? == some 'h' then .helpRequested else .unknownArgument word
  | .plain => .unknownCommand word

/-- The command that words stand for. -/
def Command.ofWords : List String → Except UsageError Command
  | [] => .error .missingCommand
  | word :: rest =>
    if word == "help" then .error (readHelp rest)
    else
      match commands.lookup word with
      | some read => read rest
      | none => .error (refuse word rest)

end TableOptions.CommandLine
