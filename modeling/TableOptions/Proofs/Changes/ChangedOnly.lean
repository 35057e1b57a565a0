import TableOptions.Proofs.Changes.Entries
import TableOptions.Proofs.Changes.Reading
import TableOptions.Proofs.Value.TextForm

/-!
# What is left out can be read

The set entries without the options at their default are texts. Loaded again they lose nothing: an
entry that was left out is read through the default it was equal to, and one that was kept is read
from its text, which converts like the value itself. So every registered option reads the same
(`Configuration.get_changedOnly`), or fails as before.
-/

namespace TableOptions.Configuration

/-- What is stored for the option is no double that is asked for as an integer. Such a double does
not convert, while its text may. -/
def NoDoubleForWhole (conf : Configuration) (option : Definition) : Prop :=
  option.type.IsWhole → ∀ x, conf.get? option.key ≠ some (.double x)

variable {conf again : Configuration} {option : Definition} {stored value : Value}

/-- A stored value and its text are the same to the option. -/
theorem coerce?_text_of_stored (hwhole : conf.NoDoubleForWhole option)
    (hstored : conf.get? option.key = some stored) :
    (Value.string stored.text).coerce? option.type = stored.coerce? option.type := by
  refine Value.coerce?_string_text stored option.type ?_
  intro hdouble htype
  obtain ⟨x, rfl⟩ := Value.exists_eq_double hdouble
  exact hwhole htype x hstored

/-- A kept value is read from its text as it was read itself. -/
theorem get_of_text (hwhole : conf.NoDoubleForWhole option)
    (hstored : conf.get? option.key = some stored)
    (hagain : again.get? option.key = some (.string stored.text)) :
    SameReading (again.get option) (conf.get option) := by
  have htext := coerce?_text_of_stored hwhole hstored
  cases hvalue : stored.coerce? option.type with
  | none =>
    rw [hvalue] at htext
    rw [get_of_coerce?_none hstored hvalue, get_of_coerce?_none hagain htext]
    exact .failed _ _
  | some value =>
    rw [hvalue] at htext
    rw [get_of_coerce? hstored hvalue, get_of_coerce? hagain htext]
    exact .refl _

/-- A value that the default was equal to is read as that default. -/
theorem get_of_equal_default (hstored : conf.get? option.key = some stored)
    (hvalue : stored.coerce? option.type = some value)
    (hequal : option.default.any (fun default => default.equal value) = true)
    (hagain : again.get? option.key = none) :
    SameReading (again.get option) (conf.get option) := by
  rw [get_of_unset hagain, get_of_coerce? hstored hvalue]
  cases hdefault : option.default with
  | none =>
    rw [hdefault] at hequal
    cases hequal
  | some default =>
    rw [hdefault] at hequal
    exact .found (Or.inl hequal)

/-- The entries without the defaults, loaded again. -/
theorem get?_ofMap_changedOnly (registry : Registry) (conf : Configuration) (key : String) :
    (ofMap (explicitEntries registry conf true).value).get? key =
      if (isDefaultKey registry conf key).value then none
      else (conf.get? key).map fun stored => .string stored.text := by
  rw [get?_ofMap, get?_explicitEntries, Bool.true_and]
  cases (isDefaultKey registry conf key).value with
  | true => rfl
  | false =>
    rw [if_neg Bool.false_ne_true, if_neg Bool.false_ne_true, Option.map_map]
    rfl

/-- What they hold for a registered option. -/
theorem get?_changedOnly (registry : Registry) (conf : Configuration) {option : Definition}
    (hmem : option ∈ registry.definitions) :
    (ofMap (explicitEntries registry conf true).value).get? option.key =
      if (conf.isDefault option).value then none
      else (conf.get? option.key).map fun stored => .string stored.text := by
  have hkey : isDefaultKey registry conf option.key = conf.isDefault option := by
    rw [isDefaultKey, Registry.get?_of_mem hmem]
  rw [get?_ofMap_changedOnly, hkey]

/-- What is not registered is not left out. -/
theorem get?_changedOnly_of_unregistered (conf : Configuration) {registry : Registry} {key : String}
    (h : registry.get? key = none) :
    (ofMap (explicitEntries registry conf true).value).get? key =
      (conf.get? key).map fun stored => .string stored.text := by
  have hkey : isDefaultKey registry conf key = ⟨false, []⟩ := by rw [isDefaultKey, h]
  rw [get?_ofMap_changedOnly, hkey]
  exact if_neg Bool.false_ne_true

/-- **Leaving out the options at their default loses nothing.** The configuration that is loaded from
the remaining entries reads every registered option like the one they were taken from. -/
theorem get_changedOnly (registry : Registry) (conf : Configuration)
    (hwhole : ∀ option ∈ registry.definitions, conf.NoDoubleForWhole option) :
    ∀ option ∈ registry.definitions,
      SameReading ((ofMap (explicitEntries registry conf true).value).get option)
        (conf.get option) := by
  intro option hmem
  have hagain := get?_changedOnly registry conf hmem
  cases hstored : conf.get? option.key with
  | none =>
    rw [isDefault_of_unset hstored, if_pos rfl] at hagain
    rw [get_of_unset hagain, get_of_unset hstored]
    exact .refl _
  | some stored =>
    rw [hstored, Option.map_some] at hagain
    cases hvalue : stored.coerce? option.type with
    | none =>
      rw [isDefault_of_coerce?_none hstored hvalue, if_neg Bool.false_ne_true] at hagain
      exact get_of_text (hwhole option hmem) hstored hagain
    | some value =>
      rw [isDefault_of_coerce? hstored hvalue] at hagain
      by_cases hequal : option.default.any (fun default => default.equal value) = true
      · rw [if_pos hequal] at hagain
        exact get_of_equal_default hstored hvalue hequal hagain
      · rw [if_neg hequal] at hagain
        exact get_of_text (hwhole option hmem) hstored hagain

/-- A value of another type than the declared one is left out as the default. -/
theorem get_changedOnly_sample :
    let option : Definition := ⟨"write.tasks", "Write", .integer, some (.int 4), "", []⟩
    let registry : Registry := ⟨[option], by decide⟩
    let conf : Configuration := KeyMap.ofList [("write.tasks", .long 4)]
    (∀ option ∈ registry.definitions, conf.NoDoubleForWhole option) ∧
      (explicitEntries registry conf true).value.get? "write.tasks" = none ∧
      SameReading ((ofMap (explicitEntries registry conf true).value).get option)
        (conf.get option) := by
  intro option registry conf
  have hstored : conf.get? "write.tasks" = some (.long 4) := by decide +kernel
  have hwhole : ∀ option ∈ registry.definitions, conf.NoDoubleForWhole option := by
    intro option' hmem _ x
    obtain rfl := List.mem_singleton.1 hmem
    rw [hstored]
    simp
  refine ⟨hwhole, by decide +kernel, ?_⟩
  exact get_changedOnly registry conf hwhole option List.mem_cons_self

end TableOptions.Configuration
