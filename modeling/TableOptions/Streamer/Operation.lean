import TableOptions.Text.Blank

/-!
# Write operations

The operations that a streamer job can ask for. Each has one token; a token is recognised in any case
of its letters.
-/

namespace TableOptions.Streamer

/-- A write operation. -/
inductive Operation where
  | insert
  | upsert
  | bulkInsert
  | delete
  | insertOverwrite
  | insertOverwriteTable
deriving DecidableEq, Repr

namespace Operation

/-- The operation of a job that asks for none. -/
def standard : Operation := upsert

/-- The token of an operation. -/
def token : Operation → String
  | insert => "insert"
  | upsert => "upsert"
  | bulkInsert => "bulk_insert"
  | delete => "delete"
  | insertOverwrite => "insert_overwrite"
  | insertOverwriteTable => "insert_overwrite_table"

/-- All operations. -/
def all : List Operation :=
  [insert, upsert, bulkInsert, delete, insertOverwrite, insertOverwriteTable]

/-- The operation of a token in any case of its letters. -/
def ofToken? (s : List Char) : Option Operation :=
  all.find? fun op => Text.sameIgnoringCase op.token.toList s

/-- The operation that a text names, blanks around it apart. -/
def read? (text : String) : Option Operation :=
  ofToken? (Text.trim text.toList)

end Operation

/-- A text that names no operation. -/
structure UnknownOperation where
  text : String
deriving DecidableEq

/-- The wording of a refused operation. -/
def UnknownOperation.message (e : UnknownOperation) : String :=
  "Unknown write operation '" ++ e.text ++ "'"

/-- The operation that a text names. -/
def Operation.read (text : String) : Except UnknownOperation Operation :=
  match read? text with
  | some op => .ok op
  | none => .error ⟨text⟩

end TableOptions.Streamer
