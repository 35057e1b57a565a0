import TableOptions.Value

/-!
# Option definitions

What is declared about one option: its key, group and type, an optional default, a description, and
for enumerated options the documented values. The documented values only inform; reading a
configuration never refuses a value for not being among them.
-/

namespace TableOptions

/-- The key of the table path, the one option that a user has to supply. -/
def pathKey : String := "path"

/-- The definition of a single named, typed option. -/
structure Definition where
  key : String
  group : String
  type : ValueType
  default : Option Value
  description : String
  allowedValues : List String
deriving DecidableEq

namespace Definition

/-- Whether the option has a default. -/
def hasDefault (d : Definition) : Bool := d.default.isSome

/-- Whether the user has to supply the option. An option without a default is simply unset. -/
def isRequired (d : Definition) : Bool := d.key == pathKey

/-- Whether a text is a documented value; without documented values every text is one. -/
def accepts (d : Definition) (text : String) : Bool :=
  d.allowedValues.isEmpty || d.allowedValues.contains text

end Definition

end TableOptions
