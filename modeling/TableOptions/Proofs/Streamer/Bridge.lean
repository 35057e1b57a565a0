import TableOptions.KeyMap.Lemmas
import TableOptions.Proofs.Changes.Entries
import TableOptions.Streamer.Bridge

/-!
# Lookups in the configuration of a job

Settings lead to a configuration when their free-form properties can be read and their retries are
integers (`configuration_eq_ok_iff`). What the configuration holds at a key is then the field that
belongs there, and where no field does, the free-form property as text (`get?_overlaid`).
-/

namespace TableOptions.Streamer.Settings

/-- All fields with their retries as integers, each with the key of its option. -/
def fieldEntries (s : Settings) (times : Int32) (interval : Int64) : List (String × Value) :=
  s.leadingFields ++ [(Key.retryTimes, .int times), (Key.retryInterval, .long interval)] ++
    s.trailingFields

/-- The retries of the settings are these integers. -/
structure Retries (s : Settings) (times : Int32) (interval : Int64) : Prop where
  times : Value.readInt (Text.trim s.retryTimes.toList) = .ok times
  interval : Value.readLong (Text.trim s.retryInterval.toList) = .ok interval

/-- With retries that are integers, the fields are laid over the properties. -/
theorem overlay_of_retries {s : Settings} {times : Int32} {interval : Int64}
    (h : s.Retries times interval) (free : KeyMap String) :
    s.overlay free = .ok ((Configuration.ofMap free).insertAll (s.fieldEntries times interval)) := by
  rw [overlay, h.times]
  simp only [h.interval]
  rfl

/-- **There is a configuration exactly when the retries are integers**, and it is the fields over
the properties. -/
theorem overlay_eq_ok_iff {s : Settings} {free : KeyMap String} {conf : Configuration} :
    s.overlay free = .ok conf ↔ ∃ times interval, s.Retries times interval ∧
      conf = (Configuration.ofMap free).insertAll (s.fieldEntries times interval) := by
  constructor
  · intro h
    cases htimes : Value.readInt (Text.trim s.retryTimes.toList) with
    | error cause =>
      rw [overlay, htimes] at h
      cases h
    | ok times =>
      cases hinterval : Value.readLong (Text.trim s.retryInterval.toList) with
      | error cause =>
        rw [overlay, htimes] at h
        simp only [hinterval] at h
        cases h
      | ok interval =>
        have hretries : s.Retries times interval := ⟨htimes, hinterval⟩
        rw [overlay_of_retries hretries] at h
        exact ⟨times, interval, hretries, (Except.ok.inj h).symm⟩
  · rintro ⟨times, interval, hretries, rfl⟩
    exact overlay_of_retries hretries free

/-- **When a job has a configuration, and which.** -/
theorem configuration_eq_ok_iff {s : Settings} {source : TextSource} {conf : Configuration} :
    (s.configuration source).value = .ok conf ↔
      ∃ free times interval, (s.freeProperties source).value = .ok free ∧
        s.Retries times interval ∧
        conf = (Configuration.ofMap free).insertAll (s.fieldEntries times interval) := by
  unfold configuration
  dsimp only
  cases hfree : (s.freeProperties source).value with
  | error e => simp
  | ok free =>
    constructor
    · intro h
      obtain ⟨times, interval, hretries, hconf⟩ := overlay_eq_ok_iff.1 h
      exact ⟨free, times, interval, rfl, hretries, hconf⟩
    · rintro ⟨_, times, interval, ⟨⟩, hretries, hconf⟩
      exact overlay_eq_ok_iff.2 ⟨times, interval, hretries, hconf⟩

/-- A field beats a free-form property of the same key, and nothing else touches the properties. -/
theorem get?_overlaid (s : Settings) (free : KeyMap String) (times : Int32) (interval : Int64)
    (key : String) :
    ((Configuration.ofMap free).insertAll (s.fieldEntries times interval)).get? key =
      ((s.fieldEntries times interval).reverse.lookup key).or
        ((free.get? key).map Value.string) := by
  rw [KeyMap.get?_insertAll, Configuration.get?_ofMap]

end TableOptions.Streamer.Settings
