import TableOptions.Proofs.Streamer.Precedence
import TableOptions.Proofs.Value.IntegerText

/-!
# The retries of a job

The two retry fields are texts until the configuration of a job is built, and are read there. They are
read as any text is that is converted to the type of their option: a job is refused for a retry field
exactly if that field does not convert, and otherwise stores what it converts to (`overlaid`).
`integer_texts_read_alike` says what converts at all, for these fields and for every other text.
-/

namespace TableOptions.Streamer.Settings

variable {s : Settings} {free : KeyMap String}

/-- What the retry times convert to. -/
def timesValue (s : Settings) : Except ConversionError Value :=
  (Value.string s.retryTimes).coerce .integer

/-- What the retry interval converts to. -/
def intervalValue (s : Settings) : Except ConversionError Value :=
  (Value.string s.retryInterval).coerce .long

/-- What comes of a job whose free-form properties are known. The retry times are looked at first. -/
inductive Overlaid (s : Settings) : Except SettingsError Configuration → Prop
  | invalidTimes {e : ConversionError} (cause : Text.IntegerFault) (htimes : s.timesValue = .error e) :
      Overlaid s (.error (.invalidRetryTimes s.retryTimes cause))
  | invalidInterval {v : Value} {e : ConversionError} (cause : Text.IntegerFault)
      (htimes : s.timesValue = .ok v) (hinterval : s.intervalValue = .error e) :
      Overlaid s (.error (.invalidRetryInterval s.retryInterval cause))
  | built {v w : Value} {conf : Configuration} (htimes : s.timesValue = .ok v)
      (hinterval : s.intervalValue = .ok w) (hstored : conf.get? Key.retryTimes = some v)
      (hstored' : conf.get? Key.retryInterval = some w) : Overlaid s (.ok conf)

/-- **The retry fields are read as texts of their options are.** -/
theorem overlaid (s : Settings) (free : KeyMap String) : s.Overlaid (s.overlay free) := by
  cases htimes : Value.readInt (Text.trim s.retryTimes.toList) with
  | error cause =>
    obtain ⟨e, he⟩ : ∃ e, s.timesValue = .error e := Value.coerce_of_error rfl htimes
    rw [overlay, htimes]
    exact .invalidTimes cause he
  | ok times =>
    have hv : s.timesValue = .ok (.int times) := Value.coerce_of_ok rfl htimes
    cases hinterval : Value.readLong (Text.trim s.retryInterval.toList) with
    | error cause =>
      obtain ⟨e, he⟩ : ∃ e, s.intervalValue = .error e := Value.coerce_of_error rfl hinterval
      rw [overlay, htimes]
      simp only [hinterval]
      exact .invalidInterval cause hv he
    | ok interval =>
      have hw : s.intervalValue = .ok (.long interval) := Value.coerce_of_ok rfl hinterval
      have hplaces := precedence_insertAll s free times interval
      rw [overlay_of_retries ⟨htimes, hinterval⟩]
      exact .built hv hw hplaces.retryTimes hplaces.retryInterval

namespace Overlaid

variable {result : Except SettingsError Configuration}

/-- The retry times are refused exactly when they do not convert. -/
theorem invalidTimes_iff (h : s.Overlaid result) :
    (∃ cause, result = .error (.invalidRetryTimes s.retryTimes cause)) ↔
      ∃ e, s.timesValue = .error e := by
  cases h with
  | invalidTimes cause htimes => exact ⟨fun _ => ⟨_, htimes⟩, fun _ => ⟨cause, rfl⟩⟩
  | invalidInterval _ htimes | built htimes => simp [htimes]

/-- The retry interval is refused exactly when it does not convert but the times do. -/
theorem invalidInterval_iff (h : s.Overlaid result) :
    (∃ cause, result = .error (.invalidRetryInterval s.retryInterval cause)) ↔
      (∃ v, s.timesValue = .ok v) ∧ ∃ e, s.intervalValue = .error e := by
  cases h with
  | invalidTimes _ htimes => simp [htimes]
  | invalidInterval cause htimes hinterval =>
    exact ⟨fun _ => ⟨⟨_, htimes⟩, _, hinterval⟩, fun _ => ⟨cause, rfl⟩⟩
  | built htimes hinterval => simp [htimes, hinterval]

/-- **There is a configuration exactly when both retry values convert.** -/
theorem built_iff (h : s.Overlaid result) :
    (∃ conf, result = .ok conf) ↔ (∃ v, s.timesValue = .ok v) ∧ ∃ w, s.intervalValue = .ok w := by
  cases h with
  | invalidTimes _ htimes => simp [htimes]
  | invalidInterval _ htimes hinterval => simp [htimes, hinterval]
  | built htimes hinterval => exact ⟨fun _ => ⟨⟨_, htimes⟩, _, hinterval⟩, fun _ => ⟨_, rfl⟩⟩

/-- **The configuration stores what the retry values convert to**, under the keys of the two
options. -/
theorem stored_of_ok {conf : Configuration} (h : s.Overlaid (.ok conf)) :
    ∃ v w, s.timesValue = .ok v ∧ s.intervalValue = .ok w ∧
      conf.get? Key.retryTimes = some v ∧ conf.get? Key.retryInterval = some w := by
  cases h with
  | built htimes hinterval hstored hstored' =>
    exact ⟨_, _, htimes, hinterval, hstored, hstored'⟩

end Overlaid

/-- **Integer texts are read alike, and none wraps.** A text converts to a 64-bit integer if and only if
it is, blanks around it apart, a numeral of an integer of that range, and the value is this integer. It
converts to a 32-bit integer if and only if it converts to a 64-bit one that fits, and to the same
number, so it converts as by way of the 64-bit integers. A job whose free-form properties can be read
is refused for its retry times, and else for its retry interval, if and only if that text does not
convert to the type of its option; otherwise the configuration stores what the two texts convert to. -/
theorem integer_texts_read_alike :
    (∀ (text : String) (v : Value), (Value.string text).coerce .long = .ok v ↔
      ∃ n : Int, Text.Denotes text n ∧ -9223372036854775808 ≤ n ∧ n < 9223372036854775808 ∧
        ∃ k : Int64, k.toInt = n ∧ v = .long k) ∧
    (∀ (text : String) (v : Value), (Value.string text).coerce .integer = .ok v ↔
      ∃ n : Int64, (Value.string text).coerce .long = .ok (.long n) ∧ -2147483648 ≤ n.toInt ∧
        n.toInt < 2147483648 ∧ ∃ m : Int32, m.toInt = n.toInt ∧ v = .int m) ∧
    (∀ text : String, ((Value.string text).coerce .integer).toOption =
      ((Value.string text).coerce .long).toOption.bind fun v => (v.coerce .integer).toOption) ∧
    ∀ (s : Settings) (source : TextSource) (free : KeyMap String),
      (s.freeProperties source).value = .ok free →
        let times := (Value.string s.retryTimes).coerce .integer
        let interval := (Value.string s.retryInterval).coerce .long
        ((∃ cause, (s.configuration source).value =
            .error (.invalidRetryTimes s.retryTimes cause)) ↔ ∃ e, times = .error e) ∧
        ((∃ cause, (s.configuration source).value =
            .error (.invalidRetryInterval s.retryInterval cause)) ↔
          (∃ v, times = .ok v) ∧ ∃ e, interval = .error e) ∧
        ((∃ conf, (s.configuration source).value = .ok conf) ↔
          (∃ v, times = .ok v) ∧ ∃ w, interval = .ok w) ∧
        ∀ conf, (s.configuration source).value = .ok conf →
          ∃ v w, times = .ok v ∧ interval = .ok w ∧
            conf.get? Key.retryTimes = some v ∧ conf.get? Key.retryInterval = some w := by
  refine ⟨fun _ _ => Value.coerce_long_eq_ok_iff, fun _ _ => Value.coerce_integer_eq_ok_iff,
    fun text => ?_, fun s source free hfree => ?_⟩
  · simp only [Value.toOption_coerce]
    exact Value.coerce?_integer_eq_bind text
  · have h := overlaid s free
    rw [value_configuration_of_ok hfree]
    refine ⟨h.invalidTimes_iff, h.invalidInterval_iff, h.built_iff, fun conf hconf => ?_⟩
    rw [hconf] at h
    exact h.stored_of_ok

/-- The range reaches one further below zero than above, and zeros may lead. -/
example :
    (Value.string "\t-00002147483648 ").coerce? .integer = some (.int (-2147483648)) ∧
      (Value.string "+2147483648").coerce? .integer = none ∧
      (Value.string "+2147483648").coerce? .long = some (.long 2147483648) := by
  decide +kernel

end TableOptions.Streamer.Settings
