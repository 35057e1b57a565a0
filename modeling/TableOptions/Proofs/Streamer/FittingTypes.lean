import TableOptions.Catalog.Standard
import TableOptions.Proofs.Changes.Problems
import TableOptions.Proofs.Changes.TypedReads
import TableOptions.Proofs.Streamer.Precedence

/-!
# Fields of the declared types

A job writes each of its fields as a value of some type, and the standard registry declares a type for
each option. The two are tied together by a table of the keys of the fields (`fieldTypes`): what a job
writes is part of it (`sublist_fieldTypes`), and the standard options agree with it
(`standard_fieldTypes`). So every field reads back as it was written, and only the table type, whose
option documents its values, can be a problem (`field_types_fit`).
-/

namespace TableOptions.Streamer.Settings

variable {s : Settings} {free : KeyMap String} {times : Int32} {interval : Int64}

/-- The types in which the fields are written, by their keys. -/
def fieldTypes : List (String × ValueType) :=
  [(Key.path, .string), (Key.readSchemaPath, .string), (Key.tableName, .string),
    (Key.tableType, .string), (Key.writeOperation, .string), (Key.precombineField, .string),
    (Key.payloadClass, .string), (Key.dropDuplicates, .boolean), (Key.retryTimes, .integer),
    (Key.retryInterval, .long), (Key.ignoreFailed, .boolean), (Key.recordKeyField, .string),
    (Key.partitionPathField, .string), (Key.keyGeneratorClass, .string), (Key.writeTasks, .integer)]

/-- Every value of a field has the type that belongs to its key. -/
theorem sublist_fieldTypes (s : Settings) (times : Int32) (interval : Int64) :
    ((s.fieldEntries times interval).map fun e => (e.1, e.2.type)).Sublist fieldTypes := by
  unfold fieldEntries leadingFields
  cases s.readSchemaPath with
  | none => exact (List.sublist_cons_self _ _).cons_cons _
  | some path => exact List.Sublist.refl _

/-- The documented values of the option of a field. Only the table type has any. -/
def fieldValues (key : String) : List String :=
  if key = Key.tableType then ["COPY_ON_WRITE", "MERGE_ON_READ"] else []

/-- **The standard options are declared with the types in which fields are written.** -/
theorem standard_fieldTypes : ∀ e ∈ fieldTypes,
    (Registry.standard.get? e.1).map (fun option => (option.type, option.allowedValues)) =
      some (e.2, fieldValues e.1) := by
  decide +kernel

/-- The option that a field is written for. -/
theorem exists_option_of_mem_fieldEntries {e : String × Value}
    (h : e ∈ s.fieldEntries times interval) :
    ∃ option ∈ Registry.standard.definitions, option.key = e.1 ∧ option.type = e.2.type ∧
      option.allowedValues = fieldValues e.1 := by
  have hmem := (sublist_fieldTypes s times interval).subset (List.mem_map_of_mem h)
  obtain ⟨option, hoption, hfits⟩ := Option.map_eq_some_iff.1 (standard_fieldTypes _ hmem)
  obtain ⟨hregistered, hkey⟩ := Registry.get?_eq_some_iff.1 hoption
  obtain ⟨htype, hvalues⟩ := Prod.mk.inj hfits
  exact ⟨option, hregistered, hkey, htype, hvalues⟩

section Stored

variable {conf : Configuration} {e : String × Value} {option : Definition}

/-- A stored field converts to itself. -/
theorem convertsTo_of_stored (h : conf.get? e.1 = some e.2) (hkey : option.key = e.1)
    (htype : option.type = e.2.type) : conf.ConvertsTo option e.2 := by
  refine ⟨e.2, hkey ▸ h, Value.coerce_eq_ok_iff.2 ?_⟩
  rw [htype, Value.coerce?_type]

/-- **A stored field reads back** through the accessor of its option's type. -/
theorem getTyped_of_stored (h : conf.get? e.1 = some e.2) (hkey : option.key = e.1)
    (htype : option.type = e.2.type) : conf.getTyped option.type option = .ok (some e.2) := by
  have hconverts := convertsTo_of_stored h hkey htype
  rw [Configuration.getTyped_eq_demand, Configuration.get_of_convertsTo hconverts]
  exact if_pos htype.symm

/-- A stored field is a problem where its option documents values and it is none of them. -/
theorem exists_problem_of_stored_iff (h : conf.get? e.1 = some e.2)
    (hregistered : option ∈ Registry.standard.definitions) (hkey : option.key = e.1)
    (htype : option.type = e.2.type) :
    (∃ p ∈ conf.problems Registry.standard, p.key? = some e.1) ↔
      option.accepts e.2.text = false := by
  simp only [← hkey, Configuration.mem_problems_about_iff hregistered,
    Configuration.tripsOver_iff_of_convertsTo (convertsTo_of_stored h hkey htype)]
  simp

end Stored

/-- The text of the table type as a job stores it. -/
def tableTypeText (s : Settings) : String := String.ofList (Text.toUpper s.tableType.toList)

/-- What stands at the key of the table type is its text. -/
theorem eq_of_mem_fieldEntries_tableType {value : Value}
    (h : (Key.tableType, value) ∈ s.fieldEntries times interval) :
    value = .string s.tableTypeText := by
  have hplaces := precedence_insertAll s KeyMap.empty times interval
  have hvalue := hplaces.tableType.symm.trans (get?_of_mem_fieldEntries h)
  exact (Option.some.inj hvalue).symm

/-- Every field is accepted by its option, but for a table type that is none of the documented
ones. -/
theorem accepts_eq_false_iff {e : String × Value} {option : Definition}
    (h : e ∈ s.fieldEntries times interval) (hvalues : option.allowedValues = fieldValues e.1) :
    option.accepts e.2.text = false ↔
      e.1 = Key.tableType ∧ s.tableTypeText ∉ ["COPY_ON_WRITE", "MERGE_ON_READ"] := by
  obtain ⟨key, value⟩ := e
  by_cases hkey : key = Key.tableType
  · subst hkey
    obtain rfl := eq_of_mem_fieldEntries_tableType h
    simp [Definition.accepts, hvalues, fieldValues, Value.text]
  · simp [Definition.accepts, hvalues, fieldValues, hkey]

/-- **What a job writes fits the types that the standard options declare.** Every field that a job writes
into its configuration reads back as the value that was written, through the accessor of the type that
its option is declared with. A problem about such an option there is if and only if it is the table type
and its text in upper case is none of the documented ones. Any other problem is about a standard option
whose value is one of the job's free-form properties. -/
theorem field_types_fit {source : TextSource} {conf : Configuration}
    (h : (s.configuration source).value = .ok conf) :
    ∃ free times interval, (s.freeProperties source).value = .ok free ∧
      s.Retries times interval ∧
      conf = (Configuration.ofMap free).insertAll (s.fieldEntries times interval) ∧
      (∀ e ∈ s.fieldEntries times interval,
        (∃ option, Registry.standard.get? e.1 = some option ∧
          conf.getTyped option.type option = .ok (some e.2)) ∧
        ((∃ p ∈ conf.problems Registry.standard, p.key? = some e.1) ↔
          e.1 = Key.tableType ∧ s.tableTypeText ∉ ["COPY_ON_WRITE", "MERGE_ON_READ"])) ∧
      ∀ p ∈ conf.problems Registry.standard,
        (∃ e ∈ s.fieldEntries times interval, p.key? = some e.1) ∨
        ∃ option ∈ Registry.standard.definitions, ∃ text, p.key? = some option.key ∧
          free.get? option.key = some text ∧ conf.get? option.key = some (.string text) := by
  obtain ⟨free, times, interval, hfree, hretries, rfl⟩ := configuration_eq_ok_iff.1 h
  refine ⟨free, times, interval, hfree, hretries, rfl, fun e he => ?_, fun p hp => ?_⟩
  · obtain ⟨option, hregistered, hkey, htype, hvalues⟩ := exists_option_of_mem_fieldEntries he
    have hstored : ((Configuration.ofMap free).insertAll (s.fieldEntries times interval)).get? e.1 =
        some e.2 := get?_of_mem_fieldEntries he
    refine ⟨⟨option, hkey ▸ Registry.get?_of_mem hregistered,
      getTyped_of_stored hstored hkey htype⟩, ?_⟩
    rw [exists_problem_of_stored_iff hstored hregistered hkey htype]
    exact accepts_eq_false_iff he hvalues
  · obtain ⟨option, hregistered, hkey, stored, hstored⟩ := Configuration.about_of_mem_problems hp
    by_cases hfield : option.key ∈ (s.fieldEntries times interval).map Prod.fst
    · obtain ⟨e, he, heq⟩ := List.mem_map.1 hfield
      exact Or.inl ⟨e, he, heq ▸ hkey⟩
    · rw [get?_of_notMem_fieldEntries hfield] at hstored
      obtain ⟨text, htext, rfl⟩ := Option.map_eq_some_iff.1 hstored
      refine Or.inr ⟨option, hregistered, text, hkey, htext, ?_⟩
      rw [get?_of_notMem_fieldEntries hfield, htext]
      rfl

/-- A table type that there is not, and a property that is no number. -/
theorem field_types_fit_sample :
    let s := { Settings.standard "/data/t" "t" with
      tableType := "merged", properties := ["read.tasks=many"] }
    let free := KeyMap.ofList [("read.tasks", "many")]
    let conf : Configuration := (Configuration.ofMap free).insertAll (s.fieldEntries 3 2000)
    (s.configuration fun _ => .error .notFound).value = .ok conf ∧
      (∃ option, Registry.standard.get? Key.retryTimes = some option ∧
        conf.getTyped option.type option = .ok (some (.int 3))) ∧
      ∃ p ∈ conf.problems Registry.standard, p.key? = some Key.tableType := by
  intro s free conf
  have hretries : s.Retries 3 2000 := ⟨by decide +kernel, by decide +kernel⟩
  have hconf : (s.configuration fun _ => .error .notFound).value = .ok conf :=
    configuration_eq_ok_iff.2 ⟨free, 3, 2000, rfl, hretries, rfl⟩
  obtain ⟨_, times, interval, -, hretries', -, hfields, -⟩ := field_types_fit hconf
  have htimes : times = 3 := Except.ok.inj (hretries'.times.symm.trans hretries.times)
  have htype : (Key.tableType, .string s.tableTypeText) ∈ s.fieldEntries times interval := by
    simp [fieldEntries, leadingFields, tableTypeText]
  have hretry : (Key.retryTimes, .int 3) ∈ s.fieldEntries times interval := by
    simp [fieldEntries, htimes]
  exact ⟨hconf, (hfields _ hretry).1, (hfields _ htype).2.2 ⟨rfl, by decide +kernel⟩⟩

end TableOptions.Streamer.Settings
