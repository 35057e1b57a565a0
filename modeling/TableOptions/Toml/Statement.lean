import TableOptions.Toml.Numeral
import TableOptions.Toml.Quotation
import TableOptions.Toml.Table

/-!
# Statements of a document

A document is a sequence of statements, each of which ends its line: a value for a key, the header of
a table, or the header of one more table of an array. Keys may be dotted; arrays and inline tables
may be nested; both to a limit.
-/

namespace TableOptions.Toml

/-- How deep arrays and inline tables may be nested, and how many names a key may have. -/
def nestingLimit : Nat := 79

/-- A key: the tables on the way and the name in the last of them. -/
structure KeyPath where
  tables : List String
  name : String
deriving DecidableEq, Repr

/-- A name, bare or as a quotation on one line. -/
def scanName : Scan String := fun s =>
  let bare := s.takeWhile isBare
  if bare.isEmpty then (scanLine s).map fun (name, rest) => (String.ofList name, rest)
  else some (String.ofList bare, s.dropWhile isBare)

/-- Names with points between them, blanks around the names apart. -/
def scanNames (s : List Char) : Option (List String × List Char) :=
  match scanName (skipGap s) with
  | none => none
  | some (name, rest) =>
    match skipGap rest with
    | [] => some ([name], [])
    | c :: rest =>
      if _ : c = '.' ∧ rest.length < s.length then
        match scanNames rest with
        | some (names, rest) => some (name :: names, rest)
        | none => none
      else some ([name], c :: rest)
termination_by s.length
decreasing_by exact And.right ‹_›

/-- A key, blanks around it apart. -/
def scanKey : Scan KeyPath := fun s => do
  let (names, s) ← scanNames s
  if nestingLimit < names.length then none
  else
    let name ← names.getLast?
    some (⟨names.dropLast, name⟩, s)

/-- The items of an array may stand on several lines, with a comma after the last. -/
def Brackets.array : Brackets := ⟨']', skipSpace false, true⟩

/-- The members of an inline table stand on one line, without a comma after the last. -/
def Brackets.inlineTable : Brackets := ⟨'}', skipGap, false⟩

/-- A key with its value, which is read by `value`, blanks around both apart. -/
def scanMember (value : Scan Value) : Scan (KeyPath × Value) := fun s => do
  let (key, s) ← scanKey s
  let s ← after? '=' s
  let (v, s) ← value (skipGap s)
  some ((key, v), s)

/-- The table with the given members. -/
def inlineTable? (members : List (KeyPath × Value)) : Option Value := do
  let built ← members.foldlM (fun table m => Members.assign m.2 m.1.name m.1.tables table) []
  some (.table (finishMembers built))

/-- A value that begins with neither bracket. -/
def scanPlainValue : Scan Value := fun s =>
  match s with
  | '"' :: _ => (scanQuotation s).map fun (text, rest) => (.text (String.ofList text), rest)
  | '\'' :: _ => (scanQuotation s).map fun (text, rest) => (.text (String.ofList text), rest)
  | 't' :: 'r' :: 'u' :: 'e' :: rest => some (.boolean true, rest)
  | 'f' :: 'a' :: 'l' :: 's' :: 'e' :: rest => some (.boolean false, rest)
  | _ =>
    match scanMoment? s with
    | some moment => moment.map fun (m, rest) => (.moment m, rest)
    | none => scanNumber s

/-- A value in which brackets are nested to at most the given depth. -/
def scanValue : Nat → Scan Value
  | 0, s =>
    match s with
    | '[' :: _ => none
    | '{' :: _ => none
    | _ => scanPlainValue s
  | depth + 1, s =>
    match s with
    | '[' :: rest => do
      let (items, rest) ← scanItems .array (scanValue depth) true rest
      some (.array items, rest)
    | '{' :: rest => do
      let (members, rest) ← scanItems .inlineTable (scanMember (scanValue depth)) true rest
      let table ← inlineTable? members
      some (table, rest)
    | _ => scanPlainValue s

/-- A statement. -/
inductive Statement where
  | assign (key : KeyPath) (value : Value)
  | table (key : KeyPath)
  | element (key : KeyPath)

/-- A statement without the end of its line. -/
def scanStatement : Scan Statement
  | '[' :: '[' :: s => do
    let (key, s) ← scanKey s
    let s ← after? ']' s
    let s ← after? ']' s
    some (.element key, s)
  | '[' :: s => do
    let (key, s) ← scanKey s
    let s ← after? ']' s
    some (.table key, s)
  | s => do
    let ((key, value), s) ← scanMember (scanValue nestingLimit) s
    some (.assign key value, s)

/-- The statements of a text with unified line ends. -/
def statements (s : List Char) : Option (List Statement) :=
  match skipSpace false s with
  | [] => some []
  | c :: rest =>
    match scanStatement (c :: rest) with
    | none => none
    | some (first, rest) =>
      match endLine? rest with
      | none => none
      | some rest =>
        if _ : rest.length < s.length then (statements rest).map (first :: ·)
        else none
termination_by s.length
decreasing_by assumption

end TableOptions.Toml
