import TableOptions.Double.Text
import TableOptions.Streamer.Settings
import TableOptions.Text.Quoted
import TableOptions.Toml.Reader

/-!
# Settings from a document

A TOML document describes a job by the fields that its root table gives under their names; keys that
name no field mean nothing. The first field in the order of the document that does not hold what it
should is reported, and only then a field that is missing.
-/

namespace TableOptions.Streamer

/-- The key of a field in a document. -/
def Field.documentKey : Field → String
  | basePath => "target_base_path"
  | readSchemaPath => "read_schema_file_path"
  | tableName => "target_table_name"
  | tableType => "table_type"
  | propertiesPath => "props"
  | properties => "hoodie_conf"
  | operation => "operation"
  | orderingField => "source_ordering_field"
  | payloadClass => "payload_class_name"
  | dropDuplicates => "filter_dupes"
  | retryTimes => "instant_retry_times"
  | retryInterval => "instant_retry_interval"
  | commitOnErrors => "commit_on_errors"
  | recordKeyField => "record_key_field"
  | partitionPathField => "partition_path_field"
  | keyGeneratorClass => "keygen_class"
  | writeTasks => "write_task_num"

/-- The field of a key. -/
def Field.ofDocumentKey? (key : String) : Option Field :=
  Field.all.find? fun f => f.documentKey == key

/-- Why a well-formed document describes no job. -/
inductive Misfit where
  | wrongType (found : Toml.Value) (expected : String)
  | outOfRange (found : Int64) (expected : String)
  | unknownOperation (cause : UnknownOperation)
  | missing (field : Field)

/-- What stands in the place of a value of another type. -/
def describeFound : Toml.Value → List Char
  | .text s => "string ".toList ++ Text.quoted s.toList
  | .integer n => "integer `".toList ++ Text.integerText n.toInt ++ ['`']
  | .float x => "floating point `".toList ++ x.textWithPoint ++ ['`']
  | .boolean b => (if b then "boolean `true`" else "boolean `false`").toList
  | .array _ => "sequence".toList
  | .moment _ => "map".toList
  | .table _ => "map".toList

/-- The wording of a misfit. -/
def Misfit.message : Misfit → String
  | wrongType found expected =>
    "invalid type: " ++ String.ofList (describeFound found) ++ ", expected " ++ expected
  | outOfRange found expected =>
    "invalid value: " ++ String.ofList (describeFound (.integer found)) ++ ", expected " ++ expected
  | unknownOperation cause => cause.message
  | missing field => "missing field `" ++ field.documentKey ++ "`"

/-- A text. -/
def readText (expected : String) : Toml.Value → Except Misfit String
  | .text s => .ok s
  | other => .error (.wrongType other expected)

/-- The content of a field of a kind. -/
def FieldKind.ofValue : (k : FieldKind) → Toml.Value → Except Misfit k.Content
  | .text, v => readText "a string" v
  | .path, v => readText "path string" v
  | .texts, .array items => items.mapM (readText "a string")
  | .texts, other => .error (.wrongType other "a sequence")
  | .operation, v => do
    match Operation.read (← readText "a string" v) with
    | .ok op => .ok op
    | .error cause => .error (.unknownOperation cause)
  | .switch, .boolean b => .ok b
  | .switch, other => .error (.wrongType other "a boolean")
  | .number, .integer n =>
    if -2147483648 ≤ n.toInt ∧ n.toInt ≤ 2147483647 then .ok (Int32.ofInt n.toInt)
    else .error (.outOfRange n "i32")
  | .number, other => .error (.wrongType other "i32")

/-- What a member of the root table gives, if its key names a field. -/
def Given.ofMember (key : String) (v : Toml.Value) : Except Misfit (Option Given) :=
  match Field.ofDocumentKey? key with
  | some f => (f.kind.ofValue v).map fun content => some ⟨f, content⟩
  | none => .ok none

/-- The settings that the members of a root table give. -/
def Settings.ofMembers (members : List (String × Toml.Value)) : Except Misfit Settings := do
  let given ← members.mapM fun (key, v) => Given.ofMember key v
  match (Fields.ofList (given.filterMap id)).complete with
  | .ok s => .ok s
  | .error f => .error (.missing f)

/-- Why a text describes no job. -/
inductive DocumentError where
  | notToml
  | misfit (cause : Misfit)

/-- What a refused document is reported under. -/
def DocumentError.context : String := "Failed to parse legacy streamer config"

/-- The settings that a document gives. -/
def Settings.ofDocument (text : String) : Except DocumentError Settings :=
  match Toml.read? text with
  | none => .error .notToml
  | some members =>
    match Settings.ofMembers members with
    | .ok s => .ok s
    | .error cause => .error (.misfit cause)

end TableOptions.Streamer
