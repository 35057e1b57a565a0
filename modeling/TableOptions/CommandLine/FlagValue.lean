import TableOptions.CommandLine.Usage
import TableOptions.Value

/-!
# Values of flags

How the value of a flag is judged: one of several names, a path, or a number.
-/

namespace TableOptions.CommandLine

/-- One of several names, letter by letter. -/
def readName {α : Type} (names : List (String × α)) (text : String) : Except UsageError α :=
  match names.lookup text with
  | some a => .ok a
  | none => .error (.invalidValue text)

/-- A path, which is never empty. -/
def readPath (text : String) : Except UsageError String :=
  if text.isEmpty then .error (.invalidValue text) else .ok text

/-- A 32-bit integer. -/
def readNumber (text : String) : Except UsageError Int32 :=
  match Value.readInt text.toList with
  | .ok n => .ok n
  | .error _ => .error (.notANumber text)

end TableOptions.CommandLine
