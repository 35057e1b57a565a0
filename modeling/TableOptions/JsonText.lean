import TableOptions.Text.Hex

/-!
# JSON text

JSON over several lines, two spaces to a level. Members come already written for the level below
their brackets; `object` and `array` place them. Texts are escaped where JSON demands it and nowhere
else.
-/

namespace TableOptions.JsonText

/-- A character inside a JSON text. -/
def escapeChar (c : Char) : List Char :=
  if c = '"' then ['\\', '"']
  else if c = '\\' then ['\\', '\\']
  else if c = '\x08' then ['\\', 'b']
  else if c = '\x0c' then ['\\', 'f']
  else if c = '\n' then ['\\', 'n']
  else if c = '\r' then ['\\', 'r']
  else if c = '\t' then ['\\', 't']
  else if c.toNat < 0x20 then '\\' :: 'u' :: Text.paddedHex 4 c.toNat
  else [c]

/-- A text between quotes. -/
def string (s : String) : List Char :=
  '"' :: (s.toList.flatMap escapeChar ++ ['"'])

/-- A truth value. -/
def bool (b : Bool) : List Char :=
  if b then "true".toList else "false".toList

/-- The blanks before a line of a level. -/
def indent (level : Nat) : List Char :=
  List.replicate (2 * level) ' '

/-- Members between brackets, each on a line of its own one level down. -/
def bracketed (opening closing : Char) (level : Nat) (members : List (List Char)) : List Char :=
  if members.isEmpty then [opening, closing]
  else
    let lines := members.map (indent (level + 1) ++ ·)
    opening :: '\n' :: (List.intercalate [',', '\n'] lines ++ '\n' :: (indent level ++ [closing]))

/-- An array at a level. -/
def array (level : Nat) (members : List (List Char)) : List Char :=
  bracketed '[' ']' level members

/-- An object at a level. -/
def object (level : Nat) (fields : List (String × List Char)) : List Char :=
  bracketed '{' '}' level (fields.map fun f => string f.1 ++ ':' :: ' ' :: f.2)

end TableOptions.JsonText
