import TableOptions.CommandLine.FlagValue
import TableOptions.CommandLine.Grammar
import TableOptions.Streamer.Settings

/-!
# Settings from arguments

Every field of a job has a flag by which a command line gives it. A field of texts may be given again
and again and holds them in their order; any other field is given once. A flag that is not given has
something to say, too: most of them stand for a text that is read as if it had been given.
-/

namespace TableOptions.Streamer

open CommandLine

/-- The long name of the flag of a field. -/
def Field.flagName : Field → String
  | basePath => "target-base-path"
  | readSchemaPath => "read-schema-path"
  | tableName => "target-table"
  | tableType => "table-type"
  | propertiesPath => "props"
  | properties => "hoodie-conf"
  | operation => "op"
  | orderingField => "source-ordering-field"
  | payloadClass => "payload-class"
  | dropDuplicates => "filter-dupes"
  | retryTimes => "instant-retry-times"
  | retryInterval => "instant-retry-interval"
  | commitOnErrors => "commit-on-errors"
  | recordKeyField => "record-key-field"
  | partitionPathField => "partition-path-field"
  | keyGeneratorClass => "keygen-class"
  | writeTasks => "write-task-num"

/-- The operation of a token in any case of its letters; blanks around it are not allowed. -/
def readOperation (text : String) : Except UsageError Operation :=
  match Operation.ofToken? text.toList with
  | some op => .ok op
  | none => .error (.invalidValue text)

/-- What the flag of a field of a kind does. -/
def FieldKind.flagKind : (k : FieldKind) → FlagKind k.Content
  | .text => .single fun text => .ok text
  | .path => .single readPath
  | .texts => .repeated fun text => .ok [text]
  | .operation => .single readOperation
  | .switch => .switch true
  | .number => .single readNumber

/-- The flag of a field. -/
def Field.flag (f : Field) : Flag Given :=
  ⟨f.flagName, none, f.kind.flagKind.map (Given.mk f)⟩

/-- The text that stands in for the value of a flag that is not given. -/
def Field.standingText? : Field → Option String
  | tableType => some "COPY_ON_WRITE"
  | operation => some "upsert"
  | orderingField => some "ts"
  | payloadClass => some "org.apache.hudi.common.model.OverwriteWithLatestAvroPayload"
  | retryTimes => some "3"
  | retryInterval => some "2000"
  | recordKeyField => some "uuid"
  | partitionPathField => some "partition-path"
  | keyGeneratorClass => some "org.apache.hudi.keygen.SimpleAvroKeyGenerator"
  | writeTasks => some "4"
  | basePath => none
  | readSchemaPath => none
  | tableName => none
  | propertiesPath => none
  | properties => none
  | dropDuplicates => none
  | commitOnErrors => none

/-- What a flag of a kind says by not being given: a switch is off, there are no texts, and for any
other flag it is what its standing text is read as. -/
def FieldKind.standing? : (k : FieldKind) → Option String → Option k.Content
  | .text, standing => standing
  | .path, standing => standing.bind fun s => (readPath s).toOption
  | .texts, _ => some []
  | .operation, standing => standing.bind fun s => (readOperation s).toOption
  | .switch, _ => some false
  | .number, standing => standing.bind fun s => (readNumber s).toOption

/-- What the flags that are not given say. -/
def Fields.standing : Fields := fun f => f.kind.standing? f.standingText?

/-- The settings that given fields make, the flag of a missing one being reported. -/
def Settings.ofGiven (given : List Given) : Except UsageError Settings :=
  match ((Fields.ofList given).or Fields.standing).complete with
  | .ok s => .ok s
  | .error f => .error (.missingArgument ("--" ++ f.flagName))

end TableOptions.Streamer
