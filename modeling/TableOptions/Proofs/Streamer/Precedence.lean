import TableOptions.KeyMap.Enumeration
import TableOptions.Proofs.Streamer.Bridge
import TableOptions.Proofs.Text.Numeral

/-!
# Fields over free-form properties

Every field of a job that becomes a value has a key of its own (`distinct_fieldEntries`). So it is
found there whatever is written before or after it, and a property is found at every other key:
`Precedence` says what stands where. `configuration_precedence` says for which jobs there is such a
configuration, and with which failure it is missing for the others.
-/

namespace TableOptions.Streamer.Settings

/-- The keys at which fields can stand. -/
def fieldKeys : List String :=
  [Key.path, Key.readSchemaPath, Key.tableName, Key.tableType, Key.writeOperation,
    Key.precombineField, Key.payloadClass, Key.dropDuplicates, Key.retryTimes, Key.retryInterval,
    Key.ignoreFailed, Key.recordKeyField, Key.partitionPathField, Key.keyGeneratorClass,
    Key.writeTasks]

theorem nodup_fieldKeys : fieldKeys.Nodup := by decide +kernel

/-- A configuration with the fields of a job at their keys, whatever the properties say there, and
the properties as text everywhere else. A schema path that is not given leaves its key to them. -/
structure Precedence (s : Settings) (free : KeyMap String) (times : Int32) (interval : Int64)
    (conf : Configuration) : Prop where
  path : conf.get? Key.path = some (.string s.basePath)
  tableName : conf.get? Key.tableName = some (.string s.tableName)
  tableType : conf.get? Key.tableType =
    some (.string (String.ofList (Text.toUpper s.tableType.toList)))
  writeOperation : conf.get? Key.writeOperation = some (.string s.operation.token)
  precombineField : conf.get? Key.precombineField = some (.string s.orderingField)
  payloadClass : conf.get? Key.payloadClass = some (.string s.payloadClass)
  dropDuplicates : conf.get? Key.dropDuplicates = some (.bool s.dropDuplicates)
  retryTimes : conf.get? Key.retryTimes = some (.int times)
  retryInterval : conf.get? Key.retryInterval = some (.long interval)
  ignoreFailed : conf.get? Key.ignoreFailed = some (.bool s.commitOnErrors)
  recordKeyField : conf.get? Key.recordKeyField = some (.string s.recordKeyField)
  partitionPathField : conf.get? Key.partitionPathField = some (.string s.partitionPathField)
  keyGeneratorClass : conf.get? Key.keyGeneratorClass = some (.string s.keyGeneratorClass)
  writeTasks : conf.get? Key.writeTasks = some (.int s.writeTasks)
  readSchemaPath : conf.get? Key.readSchemaPath =
    (s.readSchemaPath.or (free.get? Key.readSchemaPath)).map Value.string
  other : ∀ key, key ∉ fieldKeys → conf.get? key = (free.get? key).map Value.string

variable {s : Settings} {free : KeyMap String} {times : Int32} {interval : Int64}

/-! ### The keys of the fields -/

/-- Each field that becomes a value stands at its own key, in the order of the keys. -/
theorem sublist_fieldKeys (s : Settings) (times : Int32) (interval : Int64) :
    ((s.fieldEntries times interval).map Prod.fst).Sublist fieldKeys := by
  unfold fieldEntries leadingFields
  cases s.readSchemaPath with
  | none => exact (List.sublist_cons_self _ _).cons_cons _
  | some path => exact List.Sublist.refl _

/-- **No two fields share a key.** -/
theorem distinct_fieldEntries (s : Settings) (times : Int32) (interval : Int64) :
    KeyMap.Distinct (s.fieldEntries times interval) :=
  List.pairwise_map.1 (nodup_fieldKeys.sublist (sublist_fieldKeys s times interval))

/-! ### Lookups -/

/-- **At the key of a field its value is found**, whatever the properties say. -/
theorem get?_of_mem_fieldEntries {key : String} {value : Value}
    (h : (key, value) ∈ s.fieldEntries times interval) :
    ((Configuration.ofMap free).insertAll (s.fieldEntries times interval)).get? key =
      some value := by
  have hd := distinct_fieldEntries s times interval
  rw [KeyMap.get?_insertAll_of_distinct _ hd, (hd.lookup_eq_some_iff key value).2 h]
  rfl

/-- At every other key the property is found, as text. -/
theorem get?_of_notMem_fieldEntries {key : String}
    (h : key ∉ (s.fieldEntries times interval).map Prod.fst) :
    ((Configuration.ofMap free).insertAll (s.fieldEntries times interval)).get? key =
      (free.get? key).map Value.string := by
  have hd := distinct_fieldEntries s times interval
  have hnone : (s.fieldEntries times interval).lookup key = none :=
    KeyMap.lookup_eq_none fun e he heq => h (heq ▸ List.mem_map_of_mem he)
  rw [KeyMap.get?_insertAll_of_distinct _ hd, hnone, Option.none_or, Configuration.get?_ofMap]

/-- A schema path stands at its key if it is given, else the property does. -/
theorem get?_readSchemaPath (s : Settings) (free : KeyMap String) (times : Int32)
    (interval : Int64) :
    ((Configuration.ofMap free).insertAll (s.fieldEntries times interval)).get? Key.readSchemaPath =
      (s.readSchemaPath.or (free.get? Key.readSchemaPath)).map Value.string := by
  cases hpath : s.readSchemaPath with
  | some path =>
    refine get?_of_mem_fieldEntries ?_
    simp [fieldEntries, leadingFields, hpath]
  | none =>
    have hkeys : (s.fieldEntries times interval).map Prod.fst = fieldKeys.eraseIdx 1 := by
      unfold fieldEntries leadingFields
      rw [hpath]
      rfl
    refine get?_of_notMem_fieldEntries ?_
    rw [hkeys]
    decide +kernel

/-- **Fields win over properties**, and touch no other key. -/
theorem precedence_insertAll (s : Settings) (free : KeyMap String) (times : Int32)
    (interval : Int64) :
    s.Precedence free times interval
      ((Configuration.ofMap free).insertAll (s.fieldEntries times interval)) where
  path := get?_of_mem_fieldEntries (by simp [fieldEntries, leadingFields])
  tableName := get?_of_mem_fieldEntries (by simp [fieldEntries, leadingFields])
  tableType := get?_of_mem_fieldEntries (by simp [fieldEntries, leadingFields])
  writeOperation := get?_of_mem_fieldEntries (by simp [fieldEntries, leadingFields])
  precombineField := get?_of_mem_fieldEntries (by simp [fieldEntries, leadingFields])
  payloadClass := get?_of_mem_fieldEntries (by simp [fieldEntries, leadingFields])
  dropDuplicates := get?_of_mem_fieldEntries (by simp [fieldEntries, leadingFields])
  retryTimes := get?_of_mem_fieldEntries (by simp [fieldEntries])
  retryInterval := get?_of_mem_fieldEntries (by simp [fieldEntries])
  ignoreFailed := get?_of_mem_fieldEntries (by simp [fieldEntries, trailingFields])
  recordKeyField := get?_of_mem_fieldEntries (by simp [fieldEntries, trailingFields])
  partitionPathField := get?_of_mem_fieldEntries (by simp [fieldEntries, trailingFields])
  keyGeneratorClass := get?_of_mem_fieldEntries (by simp [fieldEntries, trailingFields])
  writeTasks := get?_of_mem_fieldEntries (by simp [fieldEntries, trailingFields])
  readSchemaPath := get?_readSchemaPath s free times interval
  other key hkey := get?_of_notMem_fieldEntries fun hmem =>
    hkey ((sublist_fieldKeys s times interval).subset hmem)

/-! ### Failures -/

/-- Retry times that are no 32-bit integer fail the job, whatever else is wrong. -/
theorem overlay_of_not_times (free : KeyMap String)
    (h : ¬ ∃ times : Int32, Text.Numeral (Text.trim s.retryTimes.toList) times.toInt) :
    ∃ cause, s.overlay free = .error (.invalidRetryTimes s.retryTimes cause) := by
  cases htimes : Value.readInt (Text.trim s.retryTimes.toList) with
  | error cause =>
    refine ⟨cause, ?_⟩
    rw [overlay, htimes]
  | ok times => exact absurd ⟨times, Value.readInt_eq_ok_iff.1 htimes⟩ h

/-- A retry interval that is no 64-bit integer fails the job when the retry times are one. -/
theorem overlay_of_not_interval (free : KeyMap String)
    (htimes : Text.Numeral (Text.trim s.retryTimes.toList) times.toInt)
    (h : ¬ ∃ interval : Int64, Text.Numeral (Text.trim s.retryInterval.toList) interval.toInt) :
    ∃ cause, s.overlay free = .error (.invalidRetryInterval s.retryInterval cause) := by
  cases hinterval : Value.readLong (Text.trim s.retryInterval.toList) with
  | error cause =>
    refine ⟨cause, ?_⟩
    rw [overlay, Value.readInt_eq_ok_iff.2 htimes]
    simp only [hinterval]
  | ok interval => exact absurd ⟨interval, Value.readLong_eq_ok_iff.1 hinterval⟩ h

/-- What is wrong with the properties is wrong with the configuration. -/
theorem value_configuration_of_error {source : TextSource} {e : SettingsError}
    (h : (s.freeProperties source).value = .error e) :
    (s.configuration source).value = .error e := by
  rw [configuration]
  simp only [h]

/-- With properties that can be read, the configuration is the fields over them. -/
theorem value_configuration_of_ok {source : TextSource}
    (h : (s.freeProperties source).value = .ok free) :
    (s.configuration source).value = s.overlay free := by
  rw [configuration]
  simp only [h]

/-- **The configuration of a job is its fields over its free-form properties.** It fails first with
what is wrong with the properties, then with the retry times if they are no 32-bit integer, then with
the retry interval if it is no 64-bit integer, blanks around them apart. Otherwise it succeeds, and
fields and properties have their precedence. -/
theorem configuration_precedence (s : Settings) (source : TextSource) :
    (∀ e, (s.freeProperties source).value = .error e →
      (s.configuration source).value = .error e) ∧
    ∀ free, (s.freeProperties source).value = .ok free →
      ((¬ ∃ times : Int32, Text.Numeral (Text.trim s.retryTimes.toList) times.toInt) →
        ∃ e cause, (s.configuration source).value = .error e ∧ e.chain =
          ["Invalid instant retry times '" ++ s.retryTimes ++ "'", Text.IntegerFault.message cause]) ∧
      ∀ times : Int32, Text.Numeral (Text.trim s.retryTimes.toList) times.toInt →
        ((¬ ∃ interval : Int64, Text.Numeral (Text.trim s.retryInterval.toList) interval.toInt) →
          ∃ e cause, (s.configuration source).value = .error e ∧ e.chain =
            ["Invalid instant retry interval '" ++ s.retryInterval ++ "'",
              Text.IntegerFault.message cause]) ∧
        ∀ interval : Int64, Text.Numeral (Text.trim s.retryInterval.toList) interval.toInt →
          ∃ conf, (s.configuration source).value = .ok conf ∧
            s.Precedence free times interval conf := by
  refine ⟨fun e => value_configuration_of_error, fun free hfree => ?_⟩
  rw [value_configuration_of_ok hfree]
  refine ⟨fun hnot => ?_, fun times htimes => ⟨fun hnot => ?_, fun interval hinterval => ?_⟩⟩
  · obtain ⟨cause, hcause⟩ := overlay_of_not_times free hnot
    exact ⟨_, cause, hcause, rfl⟩
  · obtain ⟨cause, hcause⟩ := overlay_of_not_interval free htimes hnot
    exact ⟨_, cause, hcause, rfl⟩
  · have hretries : s.Retries times interval :=
      ⟨Value.readInt_eq_ok_iff.2 htimes, Value.readLong_eq_ok_iff.2 hinterval⟩
    exact ⟨_, overlay_of_retries hretries free, precedence_insertAll s free times interval⟩

/-- The table type is stored in capitals. A letter without one capital of its own is written out, a
sharp s as two letters. -/
example :
    let stored (tableType : String) : Option Value :=
      let s : Settings := { Settings.standard "/b" "t" with tableType }
      (s.configuration fun _ => .ok "").value.toOption.bind fun conf => conf.get? Key.tableType
    stored "merge_on_read" = some (.string "MERGE_ON_READ") ∧
      stored "Merge_On_Straße" = some (.string "MERGE_ON_STRASSE") := by
  decide +kernel

end TableOptions.Streamer.Settings
