import TableOptions.Definition

/-!
# Forms of definitions

One form for each kind of option in the catalog: the key first, then the default, then the
description. The default of each form has the declared type.
-/

namespace TableOptions.Catalog

/-- An option that is on or off. -/
def flag (group key : String) (default : Bool) (description : String) : Definition :=
  ⟨key, group, .boolean, some (.bool default), description, []⟩

/-- An option that counts, in 32 bits. -/
def count (group key : String) (default : Int32) (description : String) : Definition :=
  ⟨key, group, .integer, some (.int default), description, []⟩

/-- An option that counts, in 64 bits. -/
def longCount (group key : String) (default : Int64) (description : String) : Definition :=
  ⟨key, group, .long, some (.long default), description, []⟩

/-- An option that measures. -/
def measure (group key : String) (default : Double) (description : String) : Definition :=
  ⟨key, group, .double, some (.double default), description, []⟩

/-- An option that is any text. -/
def text (group key : String) (default description : String) : Definition :=
  ⟨key, group, .string, some (.string default), description, []⟩

/-- An option that is any text and unset by default. -/
def textUnset (group key : String) (description : String) : Definition :=
  ⟨key, group, .string, none, description, []⟩

/-- An option that is one of some documented texts. -/
def choice (group key : String) (allowed : List String) (default description : String) :
    Definition :=
  ⟨key, group, .string, some (.string default), description, allowed⟩

end TableOptions.Catalog
