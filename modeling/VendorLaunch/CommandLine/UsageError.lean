import VendorLaunch.Text.Quoted
import VendorLaunch.Text.Split

/-!
# Usage errors

What can be wrong with the arguments of a command. A message about an unknown name proposes the
names most similar to it.
-/

namespace VendorLaunch.CommandLine

/-- What is wrong with arguments. -/
inductive UsageError where
  /-- No option is written like this. -/
  | unknownOption (spelling : String) (similar : List String)
  /-- An option stands at the end and lacks its value. -/
  | missingValue (spelling : String)
  /-- A switch was given a value. -/
  | unexpectedValue (spelling : String)
  /-- The value of an option cannot be used. -/
  | badValue (spelling problem : String)
  /-- The command takes no arguments. -/
  | extraArguments (arguments : List String)
  /-- No subcommand has this name. -/
  | unknownCommand (name : String) (similar : List String)
  /-- A subcommand is needed. -/
  | missingCommand
  deriving DecidableEq, Repr

/-- The proposal of similar names, which are quoted. -/
def proposal : List String → String
  | [] => ""
  | [name] => " Did you mean " ++ Text.quoted name ++ "?"
  | names => " (Did you mean one of: " ++ Text.joinWith ", " (names.map Text.quoted) ++ "?)"

namespace UsageError

/-- The error in words. -/
def message : UsageError → String
  | unknownOption s similar => "No such option " ++ Text.quoted s ++ "." ++ proposal similar
  | missingValue s => "Option " ++ Text.quoted s ++ " requires an argument."
  | unexpectedValue s => "Option " ++ Text.quoted s ++ " does not take a value."
  | badValue s problem => "Invalid value for '" ++ s ++ "': " ++ problem
  | extraArguments [a] => "Got unexpected extra argument (" ++ a ++ ")"
  | extraArguments as => "Got unexpected extra arguments (" ++ Text.joinWith " " as ++ ")"
  | unknownCommand name similar => "No such command " ++ Text.quoted name ++ "." ++ proposal similar
  | missingCommand => "Missing command."

/-- Whether the message comes with the usage of the command; one about the value of an option that
is spelled right does not. -/
def showsUsage : UsageError → Bool
  | missingValue _ | unexpectedValue _ => false
  | _ => true

end UsageError

end VendorLaunch.CommandLine
