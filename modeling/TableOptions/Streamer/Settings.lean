import TableOptions.Streamer.Operation

/-!
# Settings of a streamer job

A streamer job is described by seventeen fields, of which the base path and the table name have to be
given and the others have standard values. A description may leave fields out, wherever it comes from
(`Fields`); `Fields.complete` fills it up to the settings of the job.
-/

namespace TableOptions.Streamer

/-- The settings of a streamer job. The retry fields are text that is read only when the job's
configuration is built. -/
structure Settings where
  basePath : String
  readSchemaPath : Option String
  tableName : String
  tableType : String
  propertiesPath : Option String
  properties : List String
  operation : Operation
  orderingField : String
  payloadClass : String
  dropDuplicates : Bool
  retryTimes : String
  retryInterval : String
  commitOnErrors : Bool
  recordKeyField : String
  partitionPathField : String
  keyGeneratorClass : String
  writeTasks : Int32
deriving DecidableEq

/-- The settings of a job of which only the table is known. -/
def Settings.standard (basePath tableName : String) : Settings where
  basePath
  readSchemaPath := none
  tableName
  tableType := "COPY_ON_WRITE"
  propertiesPath := none
  properties := []
  operation := Operation.standard
  orderingField := "ts"
  payloadClass := "org.apache.hudi.common.model.OverwriteWithLatestAvroPayload"
  dropDuplicates := false
  retryTimes := "3"
  retryInterval := "2000"
  commitOnErrors := false
  recordKeyField := "uuid"
  partitionPathField := "partition-path"
  keyGeneratorClass := "org.apache.hudi.keygen.SimpleAvroKeyGenerator"
  writeTasks := 4

/-- The kinds of fields. -/
inductive FieldKind where
  | text
  | path
  | texts
  | operation
  | switch
  | number
deriving DecidableEq, Repr

/-- What a field of a kind holds. -/
@[reducible] def FieldKind.Content : FieldKind → Type
  | text => String
  | path => String
  | texts => List String
  | operation => Operation
  | switch => Bool
  | number => Int32

/-- What a field holds once it has been given again: texts add up, anything else is replaced. -/
def FieldKind.again : (k : FieldKind) → k.Content → k.Content → k.Content
  | .texts, earlier, later => earlier ++ later
  | .text, _, later => later
  | .path, _, later => later
  | .operation, _, later => later
  | .switch, _, later => later
  | .number, _, later => later

/-- The fields of the settings. -/
inductive Field where
  | basePath
  | readSchemaPath
  | tableName
  | tableType
  | propertiesPath
  | properties
  | operation
  | orderingField
  | payloadClass
  | dropDuplicates
  | retryTimes
  | retryInterval
  | commitOnErrors
  | recordKeyField
  | partitionPathField
  | keyGeneratorClass
  | writeTasks
deriving DecidableEq, Repr

namespace Field

/-- All fields. -/
def all : List Field :=
  [basePath, readSchemaPath, tableName, tableType, propertiesPath, properties, operation,
    orderingField, payloadClass, dropDuplicates, retryTimes, retryInterval, commitOnErrors,
    recordKeyField, partitionPathField, keyGeneratorClass, writeTasks]

/-- The kind of a field. -/
@[reducible] def kind : Field → FieldKind
  | propertiesPath => .path
  | properties => .texts
  | operation => .operation
  | dropDuplicates => .switch
  | commitOnErrors => .switch
  | writeTasks => .number
  | basePath => .text
  | readSchemaPath => .text
  | tableName => .text
  | tableType => .text
  | orderingField => .text
  | payloadClass => .text
  | retryTimes => .text
  | retryInterval => .text
  | recordKeyField => .text
  | partitionPathField => .text
  | keyGeneratorClass => .text

/-- What a field holds. -/
abbrev Content (f : Field) : Type := f.kind.Content

end Field

/-- A field with what is given for it. -/
structure Given where
  field : Field
  content : field.Content

/-- A description of a job that gives some of the fields. -/
abbrev Fields := (f : Field) → Option f.Content

namespace Fields

/-- The description that gives no field. -/
def nothing : Fields := fun _ => none

/-- The description with one more field given. -/
def add (fields : Fields) (given : Given) : Fields := fun f =>
  if h : given.field = f then
    let content : f.Content := h ▸ given.content
    some <| match fields f with
      | some earlier => f.kind.again earlier content
      | none => content
  else fields f

/-- The description that gives what a list gives. -/
def ofList (given : List Given) : Fields := given.foldl add nothing

/-- The description with what another one gives where it gives nothing. -/
protected def or (given other : Fields) : Fields := fun f => (given f).or (other f)

/-- The settings with the given fields in place of theirs. -/
def applyTo (given : Fields) (s : Settings) : Settings where
  basePath := (given .basePath).getD s.basePath
  readSchemaPath := (given .readSchemaPath).or s.readSchemaPath
  tableName := (given .tableName).getD s.tableName
  tableType := (given .tableType).getD s.tableType
  propertiesPath := (given .propertiesPath).or s.propertiesPath
  properties := (given .properties).getD s.properties
  operation := (given .operation).getD s.operation
  orderingField := (given .orderingField).getD s.orderingField
  payloadClass := (given .payloadClass).getD s.payloadClass
  dropDuplicates := (given .dropDuplicates).getD s.dropDuplicates
  retryTimes := (given .retryTimes).getD s.retryTimes
  retryInterval := (given .retryInterval).getD s.retryInterval
  commitOnErrors := (given .commitOnErrors).getD s.commitOnErrors
  recordKeyField := (given .recordKeyField).getD s.recordKeyField
  partitionPathField := (given .partitionPathField).getD s.partitionPathField
  keyGeneratorClass := (given .keyGeneratorClass).getD s.keyGeneratorClass
  writeTasks := (given .writeTasks).getD s.writeTasks

/-- The settings that a description gives, with standard values for what it leaves out; or the first
field that it has to give and does not. -/
def complete (given : Fields) : Except Field Settings :=
  match given .basePath, given .tableName with
  | none, _ => .error .basePath
  | some _, none => .error .tableName
  | some basePath, some tableName => .ok (given.applyTo (Settings.standard basePath tableName))

end Fields

end TableOptions.Streamer
