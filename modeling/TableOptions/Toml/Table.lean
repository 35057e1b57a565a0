import TableOptions.Toml.Value

/-!
# Tables under construction

A document says in many places what is in its tables, and says some of them only by the way. A node
remembers how its table came to be, because that decides what may still be added to it: what a
dotted key runs through must not have had a header, what a header names must not have been named
before, and what has a value is closed.
-/

namespace TableOptions.Toml

/-- How a table came to be: by its own header, on the way of another header, or on the way of a
dotted key. -/
inductive Origin where
  | header
  | implied
  | dotted
deriving DecidableEq, Repr

/-- What a key of a table under construction stands for. -/
inductive Node where
  | value (v : Value)
  | table (origin : Origin) (members : List (String × Node))
  | tables (elements : List (List (String × Node)))

/-- The members of a table under construction, in the order of their keys' first appearance. -/
abbrev Members := List (String × Node)

namespace Members

/-- The members with another node at a key that is there. -/
def replace (members : Members) (key : String) (node : Node) : Members :=
  members.map fun m => if m.1 = key then (key, node) else m

/-- The members without a key. -/
def erase (members : Members) (key : String) : Members :=
  members.filter fun m => m.1 != key

/-- Goes on with the last table of an array. -/
def inLast (f : Members → Option Members) (elements : List Members) :
    Option (List Members) := do
  let last ← elements.getLast?
  let changed ← f last
  some (elements.dropLast ++ [changed])

/-- Gives a value to a key at the end of a dotted path. -/
def assign (value : Value) (key : String) : List String → Members → Option Members
  | [], members =>
    match members.lookup key with
    | none => some (members ++ [(key, .value value)])
    | some _ => none
  | name :: path, members =>
    match members.lookup name with
    | none => do
      let inner ← assign value key path []
      some (members ++ [(name, .table .dotted inner)])
    | some (.value _) => none
    | some (.table origin inner) =>
      if origin = .header ∨ (path = [] ∧ origin = .implied) then none
      else do
        let inner ← assign value key path inner
        some (members.replace name (.table origin inner))
    | some (.tables elements) =>
      if path = [] then none
      else do
        let elements ← inLast (assign value key path) elements
        some (members.replace name (.tables elements))

/-- Changes the table at the end of a header's path. -/
def within (f : Members → Option Members) : List String → Members → Option Members
  | [], members => f members
  | name :: path, members =>
    match members.lookup name with
    | none => do
      let inner ← within f path []
      some (members ++ [(name, .table .implied inner)])
    | some (.value _) => none
    | some (.table origin inner) => do
      let inner ← within f path inner
      some (members.replace name (.table origin inner))
    | some (.tables elements) => do
      let elements ← inLast (within f path) elements
      some (members.replace name (.tables elements))

/-- Begins a table by its header. What was implied before stays in it and moves to the end. -/
def openTable (key : String) (members : Members) : Option Members :=
  match members.lookup key with
  | none => some (members ++ [(key, .table .header [])])
  | some (.table .implied inner) => some (members.erase key ++ [(key, .table .header inner)])
  | some _ => none

/-- Begins another table of an array. -/
def openElement (key : String) (members : Members) : Option Members :=
  match members.lookup key with
  | none => some (members ++ [(key, .tables [[]])])
  | some (.tables elements) => some (members.replace key (.tables (elements ++ [[]])))
  | some _ => none

end Members

mutual

/-- The value of a finished node. -/
def Node.finish : Node → Value
  | .value v => v
  | .table _ members => .table (finishMembers members)
  | .tables elements => .array (finishElements elements)

/-- The values of the members of a finished table. -/
def finishMembers : List (String × Node) → List (String × Value)
  | [] => []
  | (key, node) :: rest => (key, node.finish) :: finishMembers rest

/-- The values of a finished array of tables. -/
def finishElements : List (List (String × Node)) → List Value
  | [] => []
  | members :: rest => .table (finishMembers members) :: finishElements rest

end

end TableOptions.Toml
