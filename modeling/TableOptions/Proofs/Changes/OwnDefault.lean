import TableOptions.Proofs.Changes.Problems
import TableOptions.Proofs.Changes.TypedReads
import TableOptions.Proofs.Text.LetterCase
import TableOptions.Proofs.Text.Padding
import TableOptions.Proofs.Value.TextForm

/-!
# Writing the default of an option

The default of an option can be written as it is, as its text, with blanks around the text where the
option is no text itself, and a truth value in any case of its letters (`Definition.WritesAs`). Each of
these converts to the very default (`coerce?_of_writesAs`), which is a number or no double, so it is
equal to itself, and which the option accepts. So none of the views of what a user changed shows the
option (`Configuration.own_default_is_no_change`).
-/

namespace TableOptions

/-- What may be written for an option to stand for a value: the value itself, its text, the text in
blanks if the option is no text, and a truth value in any case of its letters. -/
inductive Definition.WritesAs (option : Definition) (v : Value) : Value → Prop
  | itself : WritesAs option v v
  | text : WritesAs option v (.string v.text)
  | padded {s : String} (htype : option.type ≠ .string)
      (hs : Text.Padded v.text.toList s.toList) : WritesAs option v (.string s)
  | anyCase {word : List Char} {s : String} (htype : option.type = .boolean)
      (hcase : Text.sameIgnoringCase word v.text.toList = true)
      (hs : Text.Padded word s.toList) : WritesAs option v (.string s)

namespace Value

/-! ### What is written for a value -/

/-- The text of a value that is no string has no blanks. -/
theorem isBlank_of_mem_text {v : Value} (h : v.type ≠ .string) :
    ∀ c ∈ v.text.toList, Text.isBlank c = false := by
  cases v with
  | bool b =>
    intro c hc
    have hall : (boolText b).toList.all (fun c => !Text.isBlank c) = true := by cases b <;> rfl
    simpa using List.all_eq_true.1 hall c hc
  | int n | long n =>
    rw [text, String.toList_ofList]
    exact fun c => Text.isBlank_of_mem_integerText
  | double x =>
    rw [text, String.toList_ofList]
    exact fun c => Double.isBlank_of_mem_text
  | string s => exact absurd rfl h

/-- To any type but that of texts only the trimmed text counts. -/
theorem coerce?_string_congr {s t : String} {type : ValueType} (htype : type ≠ .string)
    (h : Text.trim s.toList = Text.trim t.toList) :
    (string s).coerce? type = (string t).coerce? type := by
  cases type with
  | string => exact absurd rfl htype
  | boolean | integer | long | double => simp [coerce?, h]

/-- A value is read back from its text in its own type. -/
theorem coerce?_text_type (v : Value) : (string v.text).coerce? v.type = some v := by
  rw [coerce?_string_text v v.type, coerce?_type]
  rintro hdouble (hwhole | hwhole) <;> exact absurd (hdouble.symm.trans hwhole) nofun

/-- A boolean is read from its word in any case of the letters. -/
theorem readBool?_of_sameIgnoringCase {word : List Char} {b : Bool}
    (h : Text.sameIgnoringCase word (boolText b).toList = true) : readBool? word = some b := by
  cases b with
  | true => exact if_pos h
  | false =>
    have hlower : word.map Char.toLower = "false".toList.map Char.toLower := beq_iff_eq.1 h
    have hother : Text.sameIgnoringCase word "true".toList = false := by
      rw [Text.sameIgnoringCase, hlower]
      decide
    rw [readBool?, hother]
    exact if_pos h

/-- **Whatever is written for a value converts to it**, in the type of the value. -/
theorem coerce?_of_writesAs {option : Definition} {v stored : Value}
    (h : option.WritesAs v stored) (htype : v.type = option.type) :
    stored.coerce? option.type = some v := by
  cases h with
  | itself => exact htype ▸ v.coerce?_type
  | text => exact htype ▸ v.coerce?_text_type
  | padded hne hs =>
    have hbare := isBlank_of_mem_text (htype ▸ hne)
    rw [coerce?_string_congr hne ((hs.trim_eq hbare).trans (Text.trim_eq_self hbare).symm)]
    exact htype ▸ v.coerce?_text_type
  | @anyCase word s hboolean hcase hs =>
    rw [hboolean] at htype ⊢
    cases v with
    | bool b =>
      have hbare := Text.isBlank_of_sameIgnoringCase hcase (isBlank_of_mem_text (v := bool b) nofun)
      show (readBool? (Text.trim s.toList)).map bool = some (bool b)
      rw [hs.trim_eq hbare, readBool?_of_sameIgnoringCase hcase]
      rfl
    | int | long | double | string => cases htype

end Value

namespace Configuration

variable {option : Definition} {default stored : Value}

/-- Storing a value that converts makes the option read what it converts to. -/
theorem convertsTo_insert (conf : Configuration) (h : stored.coerce? option.type = some default) :
    ConvertsTo (conf.insert option.key stored) option default := by
  refine ⟨stored, ?_, Value.coerce_eq_ok_iff.2 h⟩
  rw [KeyMap.get?_insert, if_pos rfl]

/-- An option whose stored value converts to its default holds it, unless the default is not a
number and so equals nothing. -/
theorem isDefault_of_convertsTo {conf : Configuration} (h : conf.ConvertsTo option default)
    (hdefault : option.default = some default) (hnumber : default ≠ .double .nan) :
    conf.isDefault option = ⟨true, []⟩ := by
  have hequal : default.equal default = true :=
    (Value.Alike.refl default).resolve_right fun hnan => hnumber hnan.1
  rw [isDefault, getExplicit_eq_ok_some_iff.2 h]
  simp only [hdefault, hequal]

/-- **Writing the own default of an option is no change**, for every definition that a sequence of steps
leads to, in every registry that holds it and on top of every configuration. With the default written
in any of its ways the option is at its default, is not among the changed options, has no entry where
the options at their default are left out, and is no problem. The default must not be what is not a
number, which is equal to nothing. -/
theorem own_default_is_no_change {group key : String} {steps : List DraftStep}
    (hoption : Definition.ofSteps group key steps = .ok option)
    (hdefault : option.default = some default) (hnumber : default ≠ .double .nan)
    {registry : Registry} (hmem : option ∈ registry.definitions) (conf : Configuration)
    (hstored : option.WritesAs default stored) :
    let written : Configuration := conf.insert option.key stored
    written.isDefault option = ⟨true, []⟩ ∧
    (∀ options, option ∉ (written.changedOptions options).value.map Prod.fst) ∧
    (explicitEntries registry written true).value.get? option.key = none ∧
    ∀ p ∈ written.problems registry, p.key? ≠ some option.key := by
  intro written
  obtain ⟨htype, haccepts⟩ := Definition.default_of_ofSteps hoption hdefault
  have hconverts : written.ConvertsTo option default :=
    convertsTo_insert conf (Value.coerce?_of_writesAs hstored htype)
  have hisDefault := isDefault_of_convertsTo hconverts hdefault hnumber
  refine ⟨hisDefault, fun options hchanged => ?_, ?_, fun p hp hkey => ?_⟩
  · simp [changedOptions, hisDefault] at hchanged
  · rw [get?_explicitEntries, isDefaultKey_of_mem hmem, hisDefault]
    rfl
  · -- what converts trips nobody over unless its text is refused, and no default is
    have htrips := (mem_problems_about_iff hmem).1 ⟨hp, hkey⟩
    rw [tripsOver_iff_of_convertsTo hconverts, haccepts] at htrips
    cases htrips.1

/-- A truth value that is written in blanks and in letters of both cases. -/
theorem own_default_is_no_change_sample :
    let option : Definition := ⟨"sync.use_jdbc", "sync", .boolean, some (.bool true), "", []⟩
    let registry : Registry := ⟨[option], by decide⟩
    let conf : Configuration := KeyMap.ofList [("sync.use_jdbc", .string "no")]
    let written : Configuration := conf.insert "sync.use_jdbc" (.string " TrUe\t")
    Definition.ofSteps "sync" "sync.use_jdbc" [.boolean true] = .ok option ∧
      option.WritesAs (.bool true) (.string " TrUe\t") ∧
      (explicitEntries registry conf true).value.get? "sync.use_jdbc" = some "no" ∧
      (explicitEntries registry written true).value.get? "sync.use_jdbc" = none ∧
      written.isDefault option = ⟨true, []⟩ := by
  intro option registry conf written
  have hoption : Definition.ofSteps "sync" "sync.use_jdbc" [.boolean true] = .ok option := by
    decide +kernel
  have hmem : option ∈ registry.definitions := List.mem_cons_self
  have hcase : Text.sameIgnoringCase "TrUe".toList (Value.bool true).text.toList = true := by
    decide +kernel
  have hblanks : Text.Padded "TrUe".toList " TrUe\t".toList :=
    ⟨[' '], ['\t'], rfl, List.forall_mem_singleton.2 rfl, List.forall_mem_singleton.2 rfl⟩
  have hwritten : option.WritesAs (.bool true) (.string " TrUe\t") := .anyCase rfl hcase hblanks
  obtain ⟨hown, -, hentry, -⟩ := own_default_is_no_change hoption rfl nofun hmem conf hwritten
  exact ⟨hoption, hwritten, by decide +kernel, hentry, hown⟩

end Configuration

end TableOptions
