/-!
# Refused command lines

Why the words of a command line are not a command. A request for help is among the reasons: it is
answered by a text and not by a command.
-/

namespace TableOptions.CommandLine

/-- Why there is no command to run. -/
inductive UsageError where
  | unknownArgument (argument : String)
  | missingValue (flag : String)
  | invalidValue (value : String)
  | notANumber (value : String)
  | unneededValue (flag : String)
  | conflict (flag : String)
  | missingArgument (name : String)
  | unknownCommand (name : String)
  | missingCommand
  | helpRequested
deriving DecidableEq, Repr

namespace UsageError

/-- The wording of a refusal. -/
def message : UsageError → String
  | unknownArgument argument => "unexpected argument '" ++ argument ++ "'"
  | missingValue flag => "a value is required for '--" ++ flag ++ "'"
  | invalidValue value => "invalid value '" ++ value ++ "'"
  | notANumber value => "not a number in range: '" ++ value ++ "'"
  | unneededValue flag => "'--" ++ flag ++ "' takes no value"
  | conflict flag => "'--" ++ flag ++ "' cannot be used again or with the other flags"
  | missingArgument name => "missing argument '" ++ name ++ "'"
  | unknownCommand name => "unknown command '" ++ name ++ "'"
  | missingCommand => "a command is required: list, describe, resolve, import, props"
  | helpRequested =>
    "Inspect table read/write options and build job configurations\n" ++
    "Commands: list, describe, resolve, import, props"

/-- The exit code of a program that was called that way: being asked for help is no failure. -/
def exitCode : UsageError → Nat
  | helpRequested => 0
  | _ => 2

end UsageError

end TableOptions.CommandLine
