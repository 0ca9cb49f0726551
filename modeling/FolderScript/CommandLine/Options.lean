/-
The options of the command line: their names, what they take, where they may
stand, and what has been given of them.
-/
import FolderScript.Settings.Layer

namespace FolderScript

/-- Where options are read: before the subcommand's name, or after it. -/
inductive Scope where
  | program
  | run
  | config
  deriving DecidableEq, Repr

/-- An option that takes a value. -/
inductive ValueOption where
  | project
  | input
  | output
  | interpreter
  | script
  | workdir
  | timeout
  | config
  deriving DecidableEq, Repr

/-- An option that takes none. -/
inductive Flag where
  | verbose
  | help
  | version
  deriving DecidableEq, Repr

/-- What an option's value has to be. -/
inductive ValueKind where
  | path
  | text
  | seconds
  deriving DecidableEq, Repr

namespace ValueOption

/-- The name after two dashes. -/
def long : ValueOption → String
  | .project => "project"
  | .input => "input"
  | .output => "output"
  | .interpreter => "interpreter"
  | .script => "script"
  | .workdir => "workdir"
  | .timeout => "timeout"
  | .config => "config"

/-- The letter after one dash. -/
def short? : ValueOption → Option Char
  | .project => some 'p'
  | .input => some 'i'
  | .output => some 'o'
  | .workdir => some 'w'
  | _ => none

def valueName : ValueOption → String
  | .project => "PROJECT"
  | .input => "INPUT"
  | .output => "OUTPUT"
  | .interpreter => "INTERPRETER"
  | .script => "SCRIPT_PATH"
  | .workdir => "WORKING_DIRECTORY"
  | .timeout => "TIMEOUT_SECS"
  | .config => "CONFIG"

def environmentName? : ValueOption → Option String
  | .interpreter => some "SCRIPTRUN_INTERPRETER"
  | .script => some "SCRIPTRUN_SCRIPT"
  | .workdir => some "SCRIPTRUN_WORKDIR"
  | .timeout => some "SCRIPTRUN_TIMEOUT"
  | .config => some "SCRIPTRUN_CONFIG"
  | _ => none

def kind : ValueOption → ValueKind
  | .project | .workdir | .config => .path
  | .timeout => .seconds
  | _ => .text

/-- The option as texts show it. -/
def shown (option : ValueOption) : String :=
  "--" ++ option.long ++ " <" ++ option.valueName ++ ">"

/-- The options of a scope, in the order in which their environment variables
are looked at. -/
def inScope : Scope → List ValueOption
  | .program => [.config]
  | .run => [.project, .input, .output, .interpreter, .script, .workdir, .timeout, .config]
  | .config => [.interpreter, .script, .workdir, .timeout, .config]

def ofLong? (scope : Scope) (name : Bytes) : Option ValueOption :=
  (inScope scope).find? fun option => Utf8.encode option.long == name

def ofShort? (scope : Scope) (letter : Char) : Option ValueOption :=
  (inScope scope).find? fun option => option.short? == some letter

end ValueOption

namespace Flag

/-- The name after two dashes. -/
def long : Flag → String
  | .verbose => "verbose"
  | .help => "help"
  | .version => "version"

/-- The letter after one dash. -/
def short : Flag → Char
  | .verbose => 'v'
  | .help => 'h'
  | .version => 'V'

/-- The flag as texts show it; one that may be repeated has dots after it. -/
def shown : Flag → String
  | .verbose => "--verbose..."
  | flag => "--" ++ flag.long

/-- All flags; they may stand in every scope. -/
def all : List Flag := [.verbose, .help, .version]

def ofLong? (name : Bytes) : Option Flag :=
  all.find? fun flag => Utf8.encode flag.long == name

def ofShort? (letter : Char) : Option Flag :=
  all.find? fun flag => flag.short == letter

end Flag

/-- What has been given of the options in one scope. -/
structure Options where
  project : Option Path := none
  input : Option String := none
  output : Option String := none
  runner : Layer := {}
  config : Option Path := none
  verbosity : Nat := 0
  deriving DecidableEq, Repr

namespace Options

def has (options : Options) : ValueOption → Bool
  | .project => options.project.isSome
  | .input => options.input.isSome
  | .output => options.output.isSome
  | .interpreter => options.runner.interpreter.isSome
  | .script => options.runner.scriptPath.isSome
  | .workdir => options.runner.workingDirectory.isSome
  | .timeout => options.runner.timeout.isSome
  | .config => options.config.isSome

def setPath (options : Options) (option : ValueOption) (path : Path) : Options :=
  match option with
  | .project => { options with project := some path }
  | .workdir => { options with
      runner := { options.runner with workingDirectory := some path } }
  | .config => { options with config := some path }
  | _ => options

def setText (options : Options) (option : ValueOption) (text : String) : Options :=
  match option with
  | .input => { options with input := some text }
  | .output => { options with output := some text }
  | .interpreter => { options with
      runner := { options.runner with interpreter := some text } }
  | .script => { options with
      runner := { options.runner with scriptPath := some text } }
  | _ => options

def setSeconds (options : Options) (seconds : UInt64) : Options :=
  { options with runner := { options.runner with timeout := some seconds } }

def mostVerbose : Nat := 255

def countVerbose (options : Options) : Options :=
  { options with verbosity := min (options.verbosity + 1) mostVerbose }

end Options

end FolderScript
