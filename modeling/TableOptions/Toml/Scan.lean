/-!
# Scanning TOML

A part of a document is read by a `Scan`: from the text that begins with the part it gives what the
part says and the text after it. Line ends are line feeds by then (`unifyLineEnds`). Here are the
characters that stand for themselves, the blanks and comments between the parts, and lists between
brackets.
-/

namespace TableOptions.Toml

/-- A reader of one part: what it says and the text after it, or nothing if the text does not begin
with such a part. -/
abbrev Scan (α : Type) := List Char → Option (α × List Char)

/-- Turns every carriage return with its line feed into the line feed alone. -/
def unifyLineEnds : List Char → List Char
  | [] => []
  | '\r' :: '\n' :: rest => '\n' :: unifyLineEnds rest
  | c :: rest => c :: unifyLineEnds rest

/-- Whether a character may stand for itself in comments and strings: no control but the tab. -/
def isPlain (c : Char) : Bool :=
  c == '\t' || (0x20 ≤ c.toNat && c.toNat != 0x7F)

/-- Whether a character can stand in a bare key. -/
def isBare (c : Char) : Bool :=
  c.isAlphanum || c == '-' || c == '_'

/-- Whether a character is blank within a line. -/
def isGap (c : Char) : Bool := c == ' ' || c == '\t'

/-- Skips blanks within a line. -/
def skipGap (s : List Char) : List Char := s.dropWhile isGap

/-- Skips blanks, line feeds and comments; `comment` tells whether the text begins within one. -/
def skipSpace (comment : Bool) : List Char → List Char
  | [] => []
  | c :: rest =>
    if c = '\n' then skipSpace false rest
    else if comment then if isPlain c then skipSpace true rest else c :: rest
    else if c = '#' then skipSpace true rest
    else if isGap c then skipSpace false rest
    else c :: rest

/-- The text after the end of a line on which nothing but blanks and a comment is left. -/
def endLine? (s : List Char) : Option (List Char) :=
  let rest := match skipGap s with
    | '#' :: rest => rest.dropWhile isPlain
    | rest => rest
  match rest with
  | [] => some []
  | '\n' :: rest => some rest
  | _ => none

/-- The text after a character that has to come first. -/
def after? (c : Char) : List Char → Option (List Char)
  | d :: rest => if d = c then some rest else none
  | [] => none

/-- How the items of a list stand between its brackets. -/
structure Brackets where
  closing : Char
  skip : List Char → List Char
  trailingComma : Bool

/-- Reads items with commas between them up to the closing bracket, which may come at once if
`mayClose` says so. -/
def scanItems {α : Type} (b : Brackets) (item : Scan α) (mayClose : Bool) (s : List Char) :
    Option (List α × List Char) :=
  match b.skip s with
  | [] => none
  | c :: rest =>
    if c = b.closing then if mayClose then some ([], rest) else none
    else
      match item (c :: rest) with
      | none => none
      | some (first, rest) =>
        match b.skip rest with
        | [] => none
        | d :: rest =>
          if d = b.closing then some ([first], rest)
          else if _ : d = ',' ∧ rest.length < s.length then
            match scanItems b item b.trailingComma rest with
            | some (others, rest) => some (first :: others, rest)
            | none => none
          else none
termination_by s.length
decreasing_by exact And.right ‹_›

end TableOptions.Toml
