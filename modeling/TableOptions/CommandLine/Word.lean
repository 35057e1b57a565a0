/-!
# Words of a command line

A word is two hyphens, after which only operands follow; a long flag by name, with or without a value
after `=`; short flags by letter; or plain. A single hyphen is plain.
-/

namespace TableOptions.CommandLine

/-- What a word looks like. -/
inductive Word where
  | endOfFlags
  | long (name : String) (attached : Option String)
  | short (letters : List Char)
  | plain
deriving DecidableEq, Repr

/-- A long flag, whose hyphens have been taken off. -/
def Word.ofLong (s : List Char) : Word :=
  .long (String.ofList (s.takeWhile (· != '='))) <|
    match s.dropWhile (· != '=') with
    | [] => none
    | _ :: value => some (String.ofList value)

/-- What a text looks like. -/
def Word.ofText (text : String) : Word :=
  match text.toList with
  | ['-', '-'] => .endOfFlags
  | '-' :: '-' :: s => .ofLong s
  | '-' :: c :: s => .short (c :: s)
  | _ => .plain

end TableOptions.CommandLine
