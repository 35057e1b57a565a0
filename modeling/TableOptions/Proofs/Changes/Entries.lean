import TableOptions.Changes
import TableOptions.KeyMap.Lemmas
import TableOptions.Proofs.Registry.Lookup

/-!
# Lookups in the set entries

`get?_explicitEntries` says what the set entries hold at a key, with and without the options at
their default. Whether a key is at its default depends on nothing but the value stored there
(`isDefaultKey_congr`), so configurations that agree at a key agree on its entry.
-/

namespace TableOptions

namespace Configuration

/-- What is read of an option depends on nothing but the value stored at its key. -/
theorem getExplicit_congr {conf again : Configuration} {option : Definition}
    (h : conf.get? option.key = again.get? option.key) :
    conf.getExplicit option = again.getExplicit option := by
  rw [getExplicit, getExplicit, h]

/-- What an option reads depends on nothing but the value stored at its key. -/
theorem get_congr {conf again : Configuration} {option : Definition}
    (h : conf.get? option.key = again.get? option.key) : conf.get option = again.get option := by
  rw [get, get, getExplicit_congr h]

/-- Whether an option holds its default depends on nothing but the value stored at its key. -/
theorem isDefault_congr {conf again : Configuration} {option : Definition}
    (h : conf.get? option.key = again.get? option.key) :
    conf.isDefault option = again.isDefault option := by
  rw [isDefault, isDefault, getExplicit_congr h]

/-- The same for a key, whether or not an option is registered for it. -/
theorem isDefaultKey_congr (registry : Registry) {conf again : Configuration} {key : String}
    (h : conf.get? key = again.get? key) :
    isDefaultKey registry conf key = isDefaultKey registry again key := by
  unfold isDefaultKey
  cases hget : registry.get? key with
  | none => rfl
  | some option =>
    have hkey := Registry.key_of_get? hget
    exact isDefault_congr (by rw [hkey, h])

/-- **The entry at a key** is the text of the value stored there, unless the options at their default
are left out and the key belongs to one of them. -/
theorem get?_explicitEntries (registry : Registry) (conf : Configuration) (changedOnly : Bool)
    (key : String) :
    (explicitEntries registry conf changedOnly).value.get? key =
      if changedOnly && (isDefaultKey registry conf key).value then none
      else (conf.get? key).map Value.text := by
  cases changedOnly with
  | false =>
    rw [explicitEntries, if_neg Bool.false_ne_true, Bool.false_and, if_neg Bool.false_ne_true]
    exact KeyMap.get?_mapValues conf Value.text key
  | true =>
    rw [explicitEntries, if_pos rfl, Bool.true_and, KeyMap.get?_filter, toMap,
      KeyMap.get?_mapValues]
    cases (isDefaultKey registry conf key).value with
    | true => cases conf.get? key <;> rfl
    | false => cases conf.get? key <;> rfl

/-- A configuration made from texts stores each text as a string. -/
theorem get?_ofMap (texts : KeyMap String) (key : String) :
    (ofMap texts).get? key = (texts.get? key).map Value.string :=
  KeyMap.get?_mapValues texts Value.string key

end Configuration

end TableOptions
