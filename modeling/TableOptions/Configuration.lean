import TableOptions.KeyMap.Basic
import TableOptions.Definition

/-!
# Configurations

A configuration maps keys to values in the form in which they were written. A definition is what
reads it: the stored value is converted to the declared type, and without a stored value there is
the definition's default, as it is.
-/

namespace TableOptions

/-- The explicitly set values of one job. -/
abbrev Configuration := KeyMap Value

/-- Why an option cannot be read from a configuration. -/
inductive ReadError where
  | invalidValue (key : String) (cause : ConversionError)
  | wrongType (cause : TypeMismatch)
deriving DecidableEq

/-- The wording of a failed read, outermost part first. -/
def ReadError.chain : ReadError → List String
  | invalidValue key cause => ["Invalid value for option '" ++ key ++ "'", cause.message]
  | wrongType cause => [cause.message]

namespace Configuration

/-- The configuration that holds every entry of a list as text; later entries win. -/
def ofTexts (texts : List (String × String)) : Configuration :=
  KeyMap.ofList (texts.map fun e => (e.1, Value.string e.2))

/-- The configuration that holds every entry of a map as text. -/
def ofMap (texts : KeyMap String) : Configuration :=
  texts.mapValues Value.string

/-- The explicitly set values as texts. -/
def toMap (conf : Configuration) : KeyMap String :=
  conf.mapValues Value.text

/-- Equality of configurations by equality of their values. -/
def equal (a b : Configuration) : Bool :=
  a.entries.length == b.entries.length &&
    (a.entries.zip b.entries).all fun (x, y) => x.1 == y.1 && x.2.equal y.2

/-- The explicitly set value of an option in its declared type. -/
def getExplicit (conf : Configuration) (option : Definition) :
    Except ReadError (Option Value) :=
  match conf.get? option.key with
  | none => .ok none
  | some stored =>
    match stored.coerce option.type with
    | .ok value => .ok (some value)
    | .error cause => .error (.invalidValue option.key cause)

/-- The value of an option: the explicit one, else the default. -/
def get (conf : Configuration) (option : Definition) : Except ReadError (Option Value) :=
  match conf.getExplicit option with
  | .ok (some value) => .ok (some value)
  | .ok none => .ok option.default
  | .error e => .error e

/-- The value of an option through an accessor. -/
def getAs {α : Type} (access : Value → Except TypeMismatch α) (conf : Configuration)
    (option : Definition) : Except ReadError (Option α) :=
  match conf.get option with
  | .ok (some value) =>
    match access value with
    | .ok a => .ok (some a)
    | .error e => .error (.wrongType e)
  | .ok none => .ok none
  | .error e => .error e

/-- The value of a boolean option. -/
def getBool : Configuration → Definition → Except ReadError (Option Bool) := getAs Value.asBool

/-- The value of a 32-bit integer option. -/
def getInt : Configuration → Definition → Except ReadError (Option Int32) := getAs Value.asInt

/-- The value of a 64-bit integer option. -/
def getLong : Configuration → Definition → Except ReadError (Option Int64) := getAs Value.asLong

/-- The value of a double option. -/
def getDouble : Configuration → Definition → Except ReadError (Option Double) :=
  getAs Value.asDouble

/-- The value of a text option. -/
def getString : Configuration → Definition → Except ReadError (Option String) :=
  getAs Value.asString

end Configuration

end TableOptions
