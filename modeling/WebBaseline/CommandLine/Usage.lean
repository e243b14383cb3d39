import WebBaseline.Text.Quoted
import WebBaseline.Text.Similar

/-!
What can be wrong with the arguments of a command. Most faults are shown below a line that says how the
command is used.
-/

namespace WebBaseline.CommandLine

inductive UsageFault where
  /-- No option has this name; `near` are names that are like it. -/
  | unknownOption (name : Text) (near : List Text)
  | unknownCommand (name : Text) (near : List Text)
  | missingCommand
  /-- An option stands at the end without its value. -/
  | missingValue (name : Text)
  /-- An option that takes no value is given one. -/
  | unwantedValue (name : Text)
  | missingArgument (name : Text)
  | extraArguments (arguments : List Text)
  /-- The value of an option or argument cannot be used. -/
  | invalid (name reason : Text)
  /-- Nothing says what to look up. -/
  | nothingToLookUp
deriving DecidableEq, Repr

namespace UsageFault

/-- A question for the names that may have been meant. -/
def suggestion : List Text → Text
  | [] => []
  | [name] => " Did you mean " ++ Text.Quoted.encode name ++ "?"
  | names =>
    " (Did you mean one of: " ++
      Text.join ", " ((names.mergeSort fun s t => !(t < s)).map Text.Quoted.encode) ++ "?)"

def message : UsageFault → Text
  | unknownOption name near => "No such option " ++ Text.Quoted.encode name ++ "." ++ suggestion near
  | unknownCommand name near => "No such command " ++ Text.Quoted.encode name ++ "." ++ suggestion near
  | missingCommand => "Missing command."
  | missingValue name => "Option " ++ Text.Quoted.encode name ++ " requires an argument."
  | unwantedValue name => "Option " ++ Text.Quoted.encode name ++ " does not take a value."
  | missingArgument name => "Missing argument '" ++ name ++ "'."
  | extraArguments arguments =>
    "Got unexpected extra argument" ++ (if arguments.length = 1 then "" else "s") ++ " (" ++
      Text.join " " arguments ++ ")"
  | invalid name reason => "Invalid value for '" ++ name ++ "': " ++ reason
  | nothingToLookUp => "Provide TOKEN, or --line together with --column."

/-- Whether the usage is shown above a fault. -/
def showsUsage : UsageFault → Bool
  | missingValue _ => false
  | unwantedValue _ => false
  | _ => true

end UsageFault

end WebBaseline.CommandLine
