import TableOptions.Double.Text
import TableOptions.Text.Quoted

/-!
# Values and their types

A value is a boolean, an integer of 32 or 64 bits, a double, or text. Options are declared with one
of the five types, and a stored value is converted to the declared type when it is read: text is
parsed, integers go where they fit, and everything has a text.

`Value.coerce` fails only with a `ConversionError`; the accessors, which convert nothing, fail only
with a `TypeMismatch`.
-/

namespace TableOptions

/-- The declared type of an option. -/
inductive ValueType where
  | string
  | boolean
  | integer
  | long
  | double
deriving DecidableEq, Repr

/-- The name of a type in listings and messages. -/
def ValueType.name : ValueType → String
  | string => "string"
  | boolean => "boolean"
  | integer => "integer"
  | long => "long"
  | double => "double"

/-- A value as a configuration stores it. -/
inductive Value where
  | bool (b : Bool)
  | int (n : Int32)
  | long (n : Int64)
  | double (x : Double)
  | string (s : String)
deriving DecidableEq

/-- The name of a kind of value in the messages of the accessors. -/
def ValueType.kindName : ValueType → String
  | string => "String"
  | boolean => "Bool"
  | integer => "Int"
  | long => "Long"
  | double => "Double"

/-- The text of a truth value. -/
def boolText (b : Bool) : String := if b then "true" else "false"

namespace Value

/-- The type a value is stored with. -/
def type : Value → ValueType
  | bool _ => .boolean
  | int _ => .integer
  | long _ => .long
  | double _ => .double
  | string _ => .string

/-- The canonical text of a value. -/
def text : Value → String
  | bool b => boolText b
  | int n => String.ofList (Text.integerText n.toInt)
  | long n => String.ofList (Text.integerText n.toInt)
  | double x => String.ofList x.text
  | string s => s

/-- A value with its kind, as messages show it: texts quoted, doubles as literals. -/
def described (v : Value) : String :=
  let content := match v with
    | double x => String.ofList x.literal
    | string s => String.ofList (Text.quoted s.toList)
    | other => other.text
  v.type.kindName ++ "(" ++ content ++ ")"

/-- Equality of values: the kinds are the same, and doubles are compared as numbers. -/
def equal : Value → Value → Bool
  | double x, double y => x.equal y
  | double _, _ => false
  | _, double _ => false
  | v, w => v == w

/-! ### Conversion -/

/-- Reads a 32-bit integer. -/
def readInt (s : List Char) : Except Text.IntegerFault Int32 :=
  (Text.IntegerRange.bits32.read s).map Int32.ofInt

/-- Reads a 64-bit integer. -/
def readLong (s : List Char) : Except Text.IntegerFault Int64 :=
  (Text.IntegerRange.bits64.read s).map Int64.ofInt

/-- Reads `true` or `false` in any case of its letters. -/
def readBool? (s : List Char) : Option Bool :=
  if Text.sameIgnoringCase s "true".toList then some true
  else if Text.sameIgnoringCase s "false".toList then some false
  else none

/-- A 64-bit integer in 32 bits, if it fits. -/
def narrow? (n : Int64) : Option Int32 :=
  if -2147483648 ≤ n.toInt ∧ n.toInt ≤ 2147483647 then some (Int32.ofInt n.toInt) else none

/-- The value in a type, if it converts. -/
def coerce? (v : Value) (type : ValueType) : Option Value :=
  match type, v with
  | .string, v => some (string v.text)
  | .boolean, bool b => some (bool b)
  | .boolean, string s => (readBool? (Text.trim s.toList)).map bool
  | .integer, int n => some (int n)
  | .integer, long n => (narrow? n).map int
  | .integer, string s => (readInt (Text.trim s.toList)).toOption.map int
  | .long, int n => some (long (Int64.ofInt n.toInt))
  | .long, long n => some (long n)
  | .long, string s => (readLong (Text.trim s.toList)).toOption.map long
  | .double, int n => some (double (Double.ofInt n.toInt))
  | .double, long n => some (double (Double.ofInt n.toInt))
  | .double, double x => some (double x)
  | .double, string s => (Double.read? (Text.trim s.toList)).map double
  | _, _ => none

end Value

/-- A value that does not convert to a type. -/
structure ConversionError where
  value : Value
  type : ValueType
deriving DecidableEq

/-- The wording of a failed conversion. -/
def ConversionError.message (e : ConversionError) : String :=
  "Could not convert '" ++ e.value.text ++ "' to " ++ e.type.name

/-- A value that was asked for as a type it is not stored with. -/
structure TypeMismatch where
  expected : ValueType
  value : Value
deriving DecidableEq

/-- The wording of a failed access. -/
def TypeMismatch.message (e : TypeMismatch) : String :=
  "Expected " ++ e.expected.kindName ++ ", got " ++ e.value.described

namespace Value

/-- The value in a type. -/
def coerce (v : Value) (type : ValueType) : Except ConversionError Value :=
  match v.coerce? type with
  | some w => .ok w
  | none => .error ⟨v, type⟩

/-! ### Accessors -/

/-- The truth value of a boolean. -/
def asBool : Value → Except TypeMismatch Bool
  | bool b => .ok b
  | v => .error ⟨.boolean, v⟩

/-- The number of a 32-bit integer. -/
def asInt : Value → Except TypeMismatch Int32
  | int n => .ok n
  | v => .error ⟨.integer, v⟩

/-- The number of a 64-bit integer. -/
def asLong : Value → Except TypeMismatch Int64
  | long n => .ok n
  | v => .error ⟨.long, v⟩

/-- The number of a double. -/
def asDouble : Value → Except TypeMismatch Double
  | double x => .ok x
  | v => .error ⟨.double, v⟩

/-- The text of a text. -/
def asString : Value → Except TypeMismatch String
  | string s => .ok s
  | v => .error ⟨.string, v⟩

end Value

end TableOptions
