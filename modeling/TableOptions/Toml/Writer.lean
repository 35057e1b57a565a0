import TableOptions.KeyMap.Basic
import TableOptions.Text.Hex
import TableOptions.Toml.Scan

/-!
# Writing TOML

One assignment per entry. TOML has five ways to write a text: bare (for keys alone), and basic or
literal on one line or several. The first way that shows the text without escapes is taken; where
none does, the text is written as a basic string with escapes, over several lines if it has a line
feed. A tab needs no escape for that choice, though a basic string then writes it as one.
-/

namespace TableOptions.Toml

/-- The length of the longest run of a character, after a run of `current` and a longest of
`longest`. -/
def longestRun (c : Char) : Nat → Nat → List Char → Nat
  | _, longest, [] => longest
  | current, longest, d :: rest =>
    if d = c then longestRun c (current + 1) (max longest (current + 1)) rest
    else longestRun c 0 longest rest

/-- The length of the longest run of a character in a text. -/
def maxRun (c : Char) (s : List Char) : Nat := longestRun c 0 0 s

/-- Whether a character can stand in no literal string of any kind. -/
def needsCode (c : Char) : Bool :=
  c != '\t' && c != '\n' && (c.toNat ≤ 0x1F || c.toNat == 0x7F)

/-- The escape of a character that a basic string cannot hold, quotes and line feeds apart. -/
def escape? (c : Char) : Option (List Char) :=
  if c = '\x08' then some ['\\', 'b']
  else if c = '\t' then some ['\\', 't']
  else if c = '\x0c' then some ['\\', 'f']
  else if c = '\r' then some ['\\', 'r']
  else if c = '\\' then some ['\\', '\\']
  else if c.toNat ≤ 0x1F || c.toNat == 0x7F then
    some ('\\' :: 'u' :: Text.paddedUpperHex 4 c.toNat)
  else none

/-- The inside of a basic string, of which `quotes` quotes have just been written. A run of quotes
gets a backslash before each one that would exceed `allowed`. -/
def escapeBasic (multiline : Bool) (allowed : Nat) : Nat → List Char → List Char
  | _, [] => []
  | quotes, c :: rest =>
    if c = '"' then
      if quotes < allowed then c :: escapeBasic multiline allowed (quotes + 1) rest
      else '\\' :: c :: escapeBasic multiline allowed 0 rest
    else if c = '\n' then
      (if multiline then [c] else ['\\', 'n']) ++ escapeBasic multiline allowed 0 rest
    else (escape? c).getD [c] ++ escapeBasic multiline allowed 0 rest

/-- A basic string on one line. -/
def basic (s : List Char) : List Char :=
  '"' :: (escapeBasic false 0 0 s ++ ['"'])

/-- A literal string on one line. -/
def literal (s : List Char) : List Char :=
  '\'' :: (s ++ ['\''])

/-- Three delimiters around the inside of a string, after a line feed if the text has one. -/
def multiline (delimiter : Char) (s inside : List Char) : List Char :=
  let delimiters := List.replicate 3 delimiter
  delimiters ++ (if s.contains '\n' then ['\n'] else []) ++ inside ++ delimiters

/-- A basic string over several lines. -/
def multilineBasic (s : List Char) : List Char :=
  multiline '"' s (escapeBasic true 2 0 s)

/-- A literal string over several lines. -/
def multilineLiteral (s : List Char) : List Char :=
  multiline '\'' s s

/-- A text as a value. -/
def writeValue (s : List Char) : List Char :=
  let codes := s.any needsCode
  let newline := s.contains '\n'
  let backslash := s.contains '\\'
  let doubles := maxRun '"' s
  let singles := maxRun '\'' s
  if !codes && !backslash && doubles == 0 && !newline then basic s
  else if !codes && singles == 0 && !newline then literal s
  else if !codes && !backslash && doubles ≤ 2 then multilineBasic s
  else if !codes && singles ≤ 2 then multilineLiteral s
  else if newline then multilineBasic s
  else basic s

/-- A text as a key. -/
def writeKey (s : List Char) : List Char :=
  let codes := s.any fun c => needsCode c || c == '\n'
  if !s.isEmpty && s.all isBare then s
  else if !codes && !s.contains '\\' && !s.contains '"' then basic s
  else if !codes && !s.contains '\'' then literal s
  else basic s

/-- The document of a map. -/
def write (m : KeyMap String) : String :=
  String.ofList (m.entries.flatMap fun e =>
    writeKey e.1.toList ++ [' ', '=', ' '] ++ writeValue e.2.toList ++ ['\n'])

end TableOptions.Toml
