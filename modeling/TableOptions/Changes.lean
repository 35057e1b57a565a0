import TableOptions.Configuration
import TableOptions.Registry
import TableOptions.Warned

/-!
# What a user changed

An option is at its default when nothing is set for it, or when what is set converts to a value
equal to the default. A value that does not convert counts as a change, with a warning.

`changedOptions` lists the changed options of a registry, `explicitEntries` the set entries with or
without those at their default, and `problems` the values that a consumer would trip over.
-/

namespace TableOptions

/-- A set value that a consumer would trip over. -/
inductive Problem where
  | unreadable (cause : ReadError)
  | notAllowed (key : String) (value : Value) (allowed : List String)
deriving DecidableEq

/-- The whole wording of a failed read. -/
def ReadError.message (e : ReadError) : String :=
  String.intercalate ": " e.chain

/-- The wording of a problem. -/
def Problem.message : Problem → String
  | unreadable cause => cause.message
  | notAllowed key value allowed =>
    "'" ++ key ++ "' = '" ++ value.text ++ "' is not one of: " ++ String.intercalate ", " allowed

namespace Configuration

/-- Whether an option is at its default. -/
def isDefault (conf : Configuration) (option : Definition) : Warned ReadError Bool :=
  match conf.getExplicit option with
  | .ok none => ⟨true, []⟩
  | .ok (some value) =>
    match option.default with
    | some default => ⟨default.equal value, []⟩
    | none => ⟨false, []⟩
  | .error e => ⟨false, [e]⟩

/-- The options of a list that are not at their default, with their values where they convert. -/
def changedOptions (conf : Configuration) (options : List Definition) :
    Warned ReadError (List (Definition × Option Value)) :=
  ⟨(options.filter fun option => !(conf.isDefault option).value).map fun option =>
      (option, (conf.getExplicit option).toOption.join),
    options.flatMap fun option => (conf.isDefault option).warnings⟩

/-- Whether a key belongs to a registered option that is at its default. -/
def isDefaultKey (registry : Registry) (conf : Configuration) (key : String) :
    Warned ReadError Bool :=
  match registry.get? key with
  | some option => conf.isDefault option
  | none => ⟨false, []⟩

/-- The set entries as texts, on request without the registered options at their default. -/
def explicitEntries (registry : Registry) (conf : Configuration) (changedOnly : Bool) :
    Warned ReadError (KeyMap String) :=
  if changedOnly then
    ⟨conf.toMap.filter fun key _ => !(isDefaultKey registry conf key).value,
      conf.keys.flatMap fun key => (isDefaultKey registry conf key).warnings⟩
  else ⟨conf.toMap, []⟩

/-- The problem with the set value of an option, if there is one. -/
def problem? (conf : Configuration) (option : Definition) : Option Problem :=
  match conf.getExplicit option with
  | .ok (some value) =>
    if option.accepts value.text then none
    else some (.notAllowed option.key value option.allowedValues)
  | .ok none => none
  | .error e => some (.unreadable e)

/-- The problems with the set values of registered options, in order of registration. -/
def problems (registry : Registry) (conf : Configuration) : List Problem :=
  registry.definitions.filterMap conf.problem?

end Configuration

end TableOptions
