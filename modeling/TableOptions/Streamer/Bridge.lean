import TableOptions.Catalog.Key
import TableOptions.Configuration
import TableOptions.Properties.File
import TableOptions.Streamer.Settings
import TableOptions.Text.Upper

/-!
# From settings to a configuration

The free-form properties of a job are those of its properties file with its own entries on top. The
configuration of a job is its free-form properties as text with the fields of the settings on top,
each at its option's key.
-/

namespace TableOptions.Streamer

/-- Why settings lead to no configuration. -/
inductive SettingsError where
  | unreadableFile (cause : Properties.UnreadableFile)
  | malformedEntry (entry : String)
  | invalidRetryTimes (text : String) (cause : Text.IntegerFault)
  | invalidRetryInterval (text : String) (cause : Text.IntegerFault)
deriving DecidableEq

/-- The wording of a failure, outermost part first. -/
def SettingsError.chain : SettingsError → List String
  | unreadableFile cause => cause.chain
  | malformedEntry entry =>
    ["Invalid --hoodie-conf entry '" ++ entry ++ "', expected KEY=VALUE"]
  | invalidRetryTimes text cause =>
    ["Invalid instant retry times '" ++ text ++ "'", cause.message]
  | invalidRetryInterval text cause =>
    ["Invalid instant retry interval '" ++ text ++ "'", cause.message]

/-- A text before and after its first `=`, blanks around both parts apart. -/
def splitEntry? (entry : String) : Option (String × String) :=
  match entry.toList.dropWhile (· != '=') with
  | [] => none
  | _ :: value =>
    some (String.ofList (Text.trim (entry.toList.takeWhile (· != '='))),
      String.ofList (Text.trim value))

/-- Puts entries of the form `key=value` on top of a map, up to the first that has no `=`. -/
def addEntries (m : KeyMap String) : List String → Except SettingsError (KeyMap String)
  | [] => .ok m
  | entry :: rest =>
    match splitEntry? entry with
    | some (key, value) => addEntries (m.insert key value) rest
    | none => .error (.malformedEntry entry)

namespace Settings

/-- The properties of the job's file, if it has one. -/
def fileProperties (s : Settings) (source : TextSource) :
    Warned Properties.Warning (Except SettingsError (KeyMap String)) :=
  match s.propertiesPath with
  | none => ⟨.ok KeyMap.empty, []⟩
  | some path =>
    let loaded := Properties.load source path
    ⟨loaded.value.mapError .unreadableFile, loaded.warnings⟩

/-- The free-form properties of the job. -/
def freeProperties (s : Settings) (source : TextSource) :
    Warned Properties.Warning (Except SettingsError (KeyMap String)) :=
  let fromFile := s.fileProperties source
  ⟨match fromFile.value with
    | .ok m => addEntries m s.properties
    | .error e => .error e,
    fromFile.warnings⟩

/-- The fields before the retries, each with the key of its option. -/
def leadingFields (s : Settings) : List (String × Value) :=
  [(Key.path, .string s.basePath)] ++
  (match s.readSchemaPath with
    | some path => [(Key.readSchemaPath, .string path)]
    | none => []) ++
  [(Key.tableName, .string s.tableName),
   (Key.tableType, .string (String.ofList (Text.toUpper s.tableType.toList))),
   (Key.writeOperation, .string s.operation.token),
   (Key.precombineField, .string s.orderingField),
   (Key.payloadClass, .string s.payloadClass),
   (Key.dropDuplicates, .bool s.dropDuplicates)]

/-- The fields after the retries, each with the key of its option. -/
def trailingFields (s : Settings) : List (String × Value) :=
  [(Key.ignoreFailed, .bool s.commitOnErrors),
   (Key.recordKeyField, .string s.recordKeyField),
   (Key.partitionPathField, .string s.partitionPathField),
   (Key.keyGeneratorClass, .string s.keyGeneratorClass),
   (Key.writeTasks, .int s.writeTasks)]

/-- The free-form properties with the fields on top. The retry fields have to be integers. -/
def overlay (s : Settings) (free : KeyMap String) : Except SettingsError Configuration :=
  match Value.readInt (Text.trim s.retryTimes.toList) with
  | .error cause => .error (.invalidRetryTimes s.retryTimes cause)
  | .ok times =>
    match Value.readLong (Text.trim s.retryInterval.toList) with
    | .error cause => .error (.invalidRetryInterval s.retryInterval cause)
    | .ok interval =>
      .ok <| (Configuration.ofMap free).insertAll <|
        s.leadingFields ++
        [(Key.retryTimes, .int times), (Key.retryInterval, .long interval)] ++
        s.trailingFields

/-- The configuration of the job. -/
def configuration (s : Settings) (source : TextSource) :
    Warned Properties.Warning (Except SettingsError Configuration) :=
  let free := s.freeProperties source
  ⟨match free.value with
    | .ok m => s.overlay m
    | .error e => .error e,
    free.warnings⟩

end Settings

end TableOptions.Streamer
