import TableOptions.Catalog.Standard
import TableOptions.Proofs.Properties.RoundTrip
import TableOptions.Proofs.Streamer.Bridge
import TableOptions.Proofs.Value.TextForm

/-!
# Resolving what was printed

The set entries of a job, printed as properties text, can take the place of all its free-form
properties: the job that reads them from a file has the same set entries
(`explicitEntries_fromFile`), whether or not the options at their default are left out.

At every key the two configurations hold the same value, or the second holds none because the first
one's was left out of the print (`get?_rebuilt`).
-/

namespace TableOptions.Streamer

open TableOptions.Configuration (explicitEntries isDefaultKey)

namespace Settings

/-- The settings with the properties of a file as the only free-form ones. -/
def fromFile (s : Settings) (path : String) : Settings :=
  { s with properties := [], propertiesPath := some path }

/-- A job that has a file and nothing else has the properties of the file. -/
theorem freeProperties_fromFile (s : Settings) {source : TextSource} {path text : String}
    (h : source path = .ok text) :
    ((s.fromFile path).freeProperties source).value = .ok (Properties.read text).value := by
  simp only [freeProperties, fileProperties, fromFile, Properties.load, h]
  rfl

/-- **A configuration rebuilt from its own set entries** has the value of the original at every key
that was not left out, and no value at a key that was. -/
theorem get?_rebuilt (registry : Registry) (s : Settings) (free : KeyMap String) (times : Int32)
    (interval : Int64) (changedOnly : Bool) (key : String) :
    let fields := s.fieldEntries times interval
    let conf := (Configuration.ofMap free).insertAll fields
    let entries := (explicitEntries registry conf changedOnly).value
    let again := (Configuration.ofMap entries).insertAll fields
    again.get? key = conf.get? key ∨ again.get? key = none ∧ entries.get? key = none := by
  intro fields conf entries again
  have hconf : conf.get? key =
      (fields.reverse.lookup key).or ((free.get? key).map Value.string) :=
    get?_overlaid s free times interval key
  have hagain : again.get? key =
      (fields.reverse.lookup key).or ((entries.get? key).map Value.string) :=
    get?_overlaid s entries times interval key
  have hentries := Configuration.get?_explicitEntries registry conf changedOnly key
  cases hfield : fields.reverse.lookup key with
  | some value =>
    left
    rw [hconf, hagain, hfield]
    rfl
  | none =>
    rw [hfield, Option.none_or] at hconf hagain
    -- no field stands here, so only the entries speak for the key
    by_cases hdropped : (changedOnly && (isDefaultKey registry conf key).value) = true
    · right
      have hnone : entries.get? key = none := by rw [hentries, if_pos hdropped]
      rw [hagain, hnone]
      exact ⟨rfl, rfl⟩
    · left
      have hsome : entries.get? key = free.get? key := by
        rw [hentries, if_neg hdropped, hconf, Option.map_map]
        exact Option.map_id'
      rw [hagain, hconf, hsome]

/-- **Set entries survive being printed and resolved again.** -/
theorem explicitEntries_rebuilt (registry : Registry) (s : Settings) (free : KeyMap String)
    (times : Int32) (interval : Int64) (changedOnly : Bool) :
    let fields := s.fieldEntries times interval
    let conf := (Configuration.ofMap free).insertAll fields
    let entries := (explicitEntries registry conf changedOnly).value
    let again := (Configuration.ofMap entries).insertAll fields
    (explicitEntries registry again changedOnly).value = entries := by
  intro fields conf entries again
  ext key : 1
  have hentries := Configuration.get?_explicitEntries registry conf changedOnly key
  rw [Configuration.get?_explicitEntries]
  rcases get?_rebuilt registry s free times interval changedOnly key with hsame | ⟨hnone, hdropped⟩
  · rw [Configuration.isDefaultKey_congr registry hsame, hsame, ← hentries]
  · rw [hnone, hdropped, Option.map_none, ite_self]

/-- Plain properties and plain fields lead to plain set entries. -/
theorem plain_explicitEntries (registry : Registry) {s : Settings} {free : KeyMap String}
    {times : Int32} {interval : Int64} (changedOnly : Bool) (hfree : Properties.Plain free)
    (hfields : ∀ field ∈ s.fieldEntries times interval,
      Properties.PlainEntry field.1 field.2.text) :
    let conf := (Configuration.ofMap free).insertAll (s.fieldEntries times interval)
    Properties.Plain (explicitEntries registry conf changedOnly).value := by
  intro conf e he
  have hentry := (KeyMap.get?_eq_some_iff _ _ _).2 he
  rw [Configuration.get?_explicitEntries] at hentry
  split at hentry
  · cases hentry
  · obtain ⟨value, hvalue, htext⟩ := Option.map_eq_some_iff.1 hentry
    rw [get?_overlaid] at hvalue
    cases hfield : (s.fieldEntries times interval).reverse.lookup e.1 with
    | some field =>
      rw [hfield, Option.some_or] at hvalue
      obtain rfl := Option.some.inj hvalue
      have hmem := List.mem_reverse.1 (KeyMap.mem_of_lookup_eq_some hfield)
      rw [← htext]
      exact hfields _ hmem
    | none =>
      rw [hfield, Option.none_or] at hvalue
      obtain ⟨text, hget, rfl⟩ := Option.map_eq_some_iff.1 hvalue
      obtain rfl : text = e.2 := htext
      exact hfree _ ((KeyMap.get?_eq_some_iff _ _ _).1 hget)

/-- **What a job prints is a fixed point of resolving.** A job has a configuration, and the set
entries of that configuration are plain. The same job with an empty list of properties and a file
that holds the print of these entries has a configuration too, with the same set entries and hence
the same print. -/
theorem explicitEntries_fromFile (registry : Registry) (s : Settings) (source files : TextSource)
    (path : String) (conf : Configuration) (changedOnly : Bool)
    (hconf : (s.configuration source).value = .ok conf)
    (hplain : Properties.Plain (explicitEntries registry conf changedOnly).value)
    (hfile : files path =
      .ok (render (explicitEntries registry conf changedOnly).value .properties)) :
    ∃ again, ((s.fromFile path).configuration files).value = .ok again ∧
      (explicitEntries registry again changedOnly).value =
        (explicitEntries registry conf changedOnly).value ∧
      render (explicitEntries registry again changedOnly).value .properties =
        render (explicitEntries registry conf changedOnly).value .properties := by
  obtain ⟨free, times, interval, hfree, hretries, rfl⟩ := configuration_eq_ok_iff.1 hconf
  have hread := freeProperties_fromFile s hfile
  rw [render, Properties.read_write_of_plain hplain] at hread
  have hretries' : (s.fromFile path).Retries times interval := ⟨hretries.times, hretries.interval⟩
  have hentries := explicitEntries_rebuilt registry s free times interval changedOnly
  refine ⟨_, configuration_eq_ok_iff.2 ⟨_, times, interval, hread, hretries', rfl⟩, hentries, ?_⟩
  exact congrArg (render · .properties) hentries

/-- A job with a property at its default and one whose key and value need escapes. -/
theorem explicitEntries_fromFile_sample :
    let s := { Settings.standard "/data/t" "t" with properties := ["read.tasks=4", "odd key=\\"] }
    let free := KeyMap.ofList [("read.tasks", "4"), ("odd key", "\\")]
    let conf := (Configuration.ofMap free).insertAll (s.fieldEntries 3 2000)
    let entries := (explicitEntries Registry.standard conf true).value
    (s.configuration fun _ => .error .notFound).value = .ok conf ∧ Properties.Plain entries ∧
      ∃ again,
        ((s.fromFile "t.properties").configuration fun _ => .ok (render entries .properties)).value =
          .ok again ∧
        (explicitEntries Registry.standard again true).value = entries ∧
        render (explicitEntries Registry.standard again true).value .properties =
          render entries .properties := by
  intro s free conf entries
  have hretries : s.Retries 3 2000 := by
    have htimes : Text.trim s.retryTimes.toList = Text.integerText (3 : Int32).toInt := by
      decide +kernel
    have hinterval : Text.trim s.retryInterval.toList = Text.integerText 2000 := by decide +kernel
    constructor
    · rw [htimes, Value.readInt_integerText]
    · rw [hinterval, Value.readLong_integerText (by decide) (by decide)]
      rfl
  have hconf : (s.configuration fun _ => .error .notFound).value = .ok conf :=
    configuration_eq_ok_iff.2 ⟨free, 3, 2000, rfl, hretries, rfl⟩
  have hplain : Properties.Plain entries :=
    plain_explicitEntries Registry.standard true (by decide +kernel) (by decide +kernel)
  exact ⟨hconf, hplain,
    explicitEntries_fromFile Registry.standard s _ _ "t.properties" conf true hconf hplain rfl⟩

end Settings

end TableOptions.Streamer
