import TableOptions.KeyMap.Basic

/-!
# Writing properties text

One line per entry, in ascending order of the keys. A backslash, a line feed, a carriage return and
a tab are always escaped. In a key so are `=`, `:` and every space, and a `#` or `!` at its start,
which would make the line a comment; in a value only a space at its start is.
-/

namespace TableOptions.Properties

/-- The escape of a character that is escaped everywhere. -/
def escapeAlways? : Char → Option (List Char)
  | '\\' => some ['\\', '\\']
  | '\n' => some ['\\', 'n']
  | '\r' => some ['\\', 'r']
  | '\t' => some ['\\', 't']
  | _ => none

/-- A character of a key after its first. -/
def escapeInKey (c : Char) : List Char :=
  match escapeAlways? c with
  | some escape => escape
  | none => if c == '=' || c == ':' || c == ' ' then ['\\', c] else [c]

/-- A character of a value after its first. -/
def escapeInValue (c : Char) : List Char :=
  (escapeAlways? c).getD [c]

/-- A key as it is written. -/
def escapeKey : List Char → List Char
  | [] => []
  | c :: rest =>
    (if c == '#' || c == '!' then ['\\', c] else escapeInKey c) ++ rest.flatMap escapeInKey

/-- A value as it is written. -/
def escapeValue : List Char → List Char
  | [] => []
  | c :: rest =>
    (if c == ' ' then ['\\', c] else escapeInValue c) ++ rest.flatMap escapeInValue

/-- The line of an entry. -/
def entryLine (key value : String) : List Char :=
  escapeKey key.toList ++ '=' :: (escapeValue value.toList ++ ['\n'])

/-- The text of a map. -/
def write (m : KeyMap String) : String :=
  String.ofList (m.entries.flatMap fun e => entryLine e.1 e.2)

end TableOptions.Properties
