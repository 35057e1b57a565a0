import TableOptions.Definition

/-!
# Drafts of definitions

A definition is put together by steps, in any order and number, and then finished. A step about the
type also settles the default; the documented values stay until another enumeration replaces them.
`Draft.finish` checks the key, then that a type was given, then the default.
-/

namespace TableOptions

/-- A definition that is being put together. -/
structure Draft where
  group : String
  key : String
  description : Option String
  type : Option ValueType
  default : Option Value
  noDefault : Bool
  allowedValues : List String
deriving DecidableEq

/-- One step on the way to a definition. -/
inductive DraftStep where
  | description (text : String)
  | boolean (default : Bool)
  | integer (default : Int32)
  | long (default : Int64)
  | double (default : Double)
  | string (default : String)
  | stringWithoutDefault
  | enumeration (values : List String) (default : String)
deriving DecidableEq

/-- Why a draft is no definition. -/
inductive DraftError where
  | missingKey
  | missingType (key : String)
  | missingDefault (key : String)
  | defaultNotAllowed (key : String) (default : Value) (allowed : List String)
deriving DecidableEq

/-- The wording of a refusal. -/
def DraftError.message : DraftError → String
  | missingKey => "key is required"
  | missingType key =>
    "type is required for '" ++ key ++ "' (use bool_type, int_type, string_type, etc.)"
  | missingDefault key => "default value is required for '" ++ key ++ "'"
  | defaultNotAllowed key default allowed =>
    "default '" ++ default.text ++ "' of '" ++ key ++ "' is not one of " ++
      String.ofList (Text.quotedList (allowed.map String.toList))

namespace Draft

/-- The draft of an option of which only group and key are known. -/
def start (group key : String) : Draft :=
  ⟨group, key, none, none, none, false, []⟩

/-- The draft with a type and its default. -/
def withType (d : Draft) (type : ValueType) (default : Value) : Draft :=
  { d with type := some type, default := some default }

/-- The draft after one more step. -/
def step (d : Draft) : DraftStep → Draft
  | .description text => { d with description := some text }
  | .boolean default => d.withType .boolean (.bool default)
  | .integer default => d.withType .integer (.int default)
  | .long default => d.withType .long (.long default)
  | .double default => d.withType .double (.double default)
  | .string default => d.withType .string (.string default)
  | .stringWithoutDefault =>
    { d with type := some .string, default := none, noDefault := true }
  | .enumeration values default =>
    { d.withType .string (.string default) with allowedValues := values }

/-- Whether the default, if there is one, is among the documented values, if there are any. -/
def defaultAllowed (d : Draft) : Bool :=
  match d.default with
  | some default => d.allowedValues.isEmpty || d.allowedValues.contains default.text
  | none => true

/-- The definition of a complete draft. -/
def finish (d : Draft) : Except DraftError Definition :=
  if d.key = "" then .error .missingKey
  else
    match d.type with
    | none => .error (.missingType d.key)
    | some type =>
      match d.default with
      | none =>
        if d.noDefault then
          .ok ⟨d.key, d.group, type, none, d.description.getD "", d.allowedValues⟩
        else .error (.missingDefault d.key)
      | some default =>
        if d.defaultAllowed then
          .ok ⟨d.key, d.group, type, some default, d.description.getD "", d.allowedValues⟩
        else .error (.defaultNotAllowed d.key default d.allowedValues)

end Draft

/-- The definition that a sequence of steps leads to. -/
def Definition.ofSteps (group key : String) (steps : List DraftStep) :
    Except DraftError Definition :=
  (steps.foldl Draft.step (Draft.start group key)).finish

end TableOptions
