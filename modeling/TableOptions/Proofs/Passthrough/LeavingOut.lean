import TableOptions.Proofs.Changes.ChangedOnly
import TableOptions.Proofs.Passthrough.Flattening

/-!
# Leaving out defaults before flattening

A plain key and its marked twin are two entries of which flattening keeps one. Leaving out the options
at their default looks at plain keys only, as long as no marked key is registered: the plain entry may
go while its twin stays, and then the twin is read as before. Where there is no twin the entry that was
left out is read through the default it was equal to (`get_of_left_out`).

So every registered option reads the same, whether or not the defaults are left out first
(`get_flatten_changedOnly`). Nothing has to be said about doubles that are asked for as integers here:
flattening stores texts, so both sides read texts.
-/

namespace TableOptions.Configuration

variable {registry : Registry} {conf again : Configuration} {option : Definition}

/-! ### What is left after leaving out -/

/-- If no option has a marked key, no marked key has an option. -/
theorem get?_marked_eq_none
    (hplain : ∀ option ∈ registry.definitions, ¬ Marked passthroughMark option.key) (key : String) :
    registry.get? (passthroughMark ++ key) = none := by
  rw [Registry.get?_eq_none_iff]
  intro hmem
  obtain ⟨option, hoption, hkey⟩ := List.mem_map.1 hmem
  have hmarked := marked_append passthroughMark key
  rw [← hkey] at hmarked
  exact hplain option hoption hmarked

/-- **Flattening what is left** gives a registered option its old value, unless the option was at its
default and has no marked twin. Then it gives none. -/
theorem get?_flatten_changedOnly (conf : Configuration)
    (hplain : ∀ option ∈ registry.definitions, ¬ Marked passthroughMark option.key)
    (hmem : option ∈ registry.definitions) :
    (ofMap (explicitEntries registry conf true).value).flatten.value.get? option.key =
      if conf.contains (passthroughMark ++ option.key) = false ∧
        (conf.isDefault option).value = true then none
      else conf.flatten.value.get? option.key := by
  have htwin := get?_changedOnly_of_unregistered conf (get?_marked_eq_none hplain option.key)
  rw [get?_flatten, get?_flatten, htwin, KeyMap.contains]
  cases conf.get? (passthroughMark ++ option.key) with
  | some twin =>
    have hkept : ¬ ((some twin).isSome = false ∧ (conf.isDefault option).value = true) :=
      fun h => Bool.false_ne_true h.1.symm
    rw [if_neg hkept]
    rfl
  | none =>
    dsimp only [Option.map_none]
    rw [if_neg (hplain option hmem), if_neg (hplain option hmem),
      get?_changedOnly registry conf hmem]
    cases (conf.isDefault option).value with
    | true => rfl
    | false => cases conf.get? option.key <;> rfl

/-! ### How it reads -/

/-- An option at its default, whose twin is not there, is read through its default as from its text. -/
theorem get_of_left_out (hplain : ¬ Marked passthroughMark option.key)
    (htwin : conf.contains (passthroughMark ++ option.key) = false)
    (hdefault : (conf.isDefault option).value = true) (hagain : again.get? option.key = none) :
    SameReading (again.get option) (conf.flatten.value.get option) := by
  have hflat : conf.flatten.value.get? option.key =
      (conf.get? option.key).map fun stored => .string stored.text := by
    rw [get?_flatten, Option.not_isSome_iff_eq_none.1 (Bool.eq_false_iff.1 htwin)]
    exact if_neg hplain
  cases hstored : conf.get? option.key with
  | none =>
    rw [hstored] at hflat
    rw [get_of_unset hagain, get_of_unset hflat]
    exact .refl _
  | some stored =>
    rw [hstored, Option.map_some] at hflat
    cases hvalue : stored.coerce? option.type with
    | none =>
      rw [isDefault_of_coerce?_none hstored hvalue] at hdefault
      cases hdefault
    | some value =>
      rw [isDefault_of_coerce? hstored hvalue] at hdefault
      exact get_of_equal_default hflat (Value.coerce?_string_text_of_coerce? hvalue) hdefault hagain

/-- **Leaving out the defaults first makes no difference to what flattening is read as**, for every
registered option, as long as no marked key is registered. -/
theorem get_flatten_changedOnly (registry : Registry) (conf : Configuration)
    (hplain : ∀ option ∈ registry.definitions, ¬ Marked passthroughMark option.key) :
    ∀ option ∈ registry.definitions,
      SameReading ((ofMap (explicitEntries registry conf true).value).flatten.value.get option)
        (conf.flatten.value.get option) := by
  intro option hmem
  have hagain := get?_flatten_changedOnly conf hplain hmem
  by_cases hleft : conf.contains (passthroughMark ++ option.key) = false ∧
      (conf.isDefault option).value = true
  · rw [if_pos hleft] at hagain
    exact get_of_left_out (hplain option hmem) hleft.1 hleft.2 hagain
  · rw [if_neg hleft] at hagain
    rw [get_congr hagain]
    exact .refl _

/-- Two options are left out, one of which has a twin with another value; a double is kept, although
its text converts to the default. -/
theorem get_flatten_changedOnly_sample :
    let tasks (key : String) : Definition := ⟨key, "Write", .integer, some (.int 4), "", []⟩
    let registry : Registry :=
      ⟨[tasks "write.tasks", tasks "read.tasks", tasks "clean.tasks"], by decide⟩
    let conf : Configuration := KeyMap.ofList
      [("write.tasks", .long 4), ("read.tasks", .int 4), ("properties.read.tasks", .string "8"),
        ("clean.tasks", .double (Double.ofInt 4))]
    (∀ option ∈ registry.definitions, ¬ Marked passthroughMark option.key) ∧
      (explicitEntries registry conf true).value.keys = ["clean.tasks", "properties.read.tasks"] ∧
      ∀ option ∈ registry.definitions,
        SameReading ((ofMap (explicitEntries registry conf true).value).flatten.value.get option)
          (conf.flatten.value.get option) := by
  intro tasks registry conf
  have hplain : ∀ option ∈ registry.definitions, ¬ Marked passthroughMark option.key := by
    decide +kernel
  exact ⟨hplain, by decide +kernel, get_flatten_changedOnly registry conf hplain⟩

end TableOptions.Configuration
