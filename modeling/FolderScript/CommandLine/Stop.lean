/-
Why reading the command line stops before there is anything to do: a wrong use,
or a question for help or the version.
-/
import FolderScript.CommandLine.Options
import FolderScript.Text.Styled

namespace FolderScript

/-- Why a text is no number of seconds. -/
inductive NumberFault where
  | empty
  | digit
  | tooLarge
  deriving DecidableEq, Repr

def NumberFault.message : NumberFault → String
  | .empty => "cannot parse integer from empty string"
  | .digit => "invalid digit found in string"
  | .tooLarge => "number too large to fit in target type"

/-- A wrong use of the command line. -/
inductive UsageError where
  | unknownArgument (shown : String)
  | unknownSubcommand (shown : String)
  | missingSubcommand
  | missingValue (option : ValueOption)
  | invalidNumber (option : ValueOption) (shown : String) (fault : NumberFault)
  | repeated (option : ValueOption)
  | unexpectedValue (flag : Flag) (shown : String)
  | brokenText
  deriving DecidableEq, Repr

/-- The complaint about a wrong use, with its styles. -/
def UsageError.styled : UsageError → String
  | .unknownArgument shown =>
      "error: unexpected argument '" ++ Styled.marked shown ++ "' found"
  | .unknownSubcommand shown =>
      "error: unrecognized subcommand '" ++ Styled.marked shown ++ "'"
  | .missingSubcommand =>
      "error: 'scriptrun' requires a subcommand but one was not provided"
  | .missingValue option =>
      "error: a value is required for '" ++ option.shown ++ "' but none was supplied"
  | .invalidNumber option shown fault =>
      "error: invalid value '" ++ Styled.marked shown ++ "' for '" ++ option.shown ++ "': " ++
        fault.message
  | .repeated option =>
      "error: the argument '" ++ option.shown ++ "' cannot be used multiple times"
  | .unexpectedValue flag shown =>
      "error: unexpected value '" ++ Styled.marked shown ++ "' for '" ++ flag.shown ++
        "' found; no more were expected"
  | .brokenText => "error: invalid UTF-8 was detected in one or more arguments"

/-- The complaint about a wrong use. -/
def UsageError.message (error : UsageError) : String := Styled.plain error.styled

/-- What a help text is about. -/
inductive HelpTopic where
  | scope (scope : Scope)
  | helpCommand
  deriving DecidableEq, Repr

/-- Why reading stops. -/
inductive Stop where
  | usage (error : UsageError)
  | help (topic : HelpTopic) (long : Bool)
  | version (scope : Scope)
  /-- Nothing at all was given; the help text is shown as a complaint. -/
  | nothingGiven
  deriving DecidableEq, Repr

def Stop.exitCode : Stop → Nat
  | .usage _ | .nothingGiven => 2
  | .help .. | .version _ => 0

end FolderScript
