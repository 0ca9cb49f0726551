/-
What the program is asked to do.  Options before the subcommand and after it are
read on their own; of the two that both take, the one after it wins.
-/
import FolderScript.CommandLine.Reading

namespace FolderScript

structure RunArguments where
  project : Option Path := none
  input : Option String := none
  output : Option String := none
  overrides : Layer := {}
  deriving DecidableEq, Repr

inductive Subcommand where
  | run (arguments : RunArguments)
  | config (overrides : Layer)
  deriving DecidableEq, Repr

/-- What the program is asked to do. -/
structure Invocation where
  command : Subcommand
  verbosity : Nat
  config : Option Path
  deriving DecidableEq, Repr

namespace Invocation

/-- The scope that a subcommand's name opens; none for the help command. -/
inductive Opened where
  | scope (scope : Scope)
  | helpCommand
  deriving DecidableEq, Repr

def Opened.ofName? (name : Bytes) : Option Opened :=
  if name = Utf8.encode "run" ∨ name = Utf8.encode "r" then some (.scope .run)
  else if name = Utf8.encode "config" then some (.scope .config)
  else if name = Utf8.encode "help" then some .helpCommand
  else none

/-- Reads up to the name of a subcommand; gives also what it opens and the
arguments after it. -/
def readProgram (reading : Reading) :
    List Bytes → Except Stop (Reading × Option (Opened × List Bytes))
  | [] => .ok (reading, none)
  | argument :: rest =>
      let opened? :=
        if reading.isWaiting || reading.trailing then none else Opened.ofName? argument
      match opened? with
      | some opened => .ok (reading, some (opened, rest))
      | none => do
          let reading ← reading.readArgument .program argument
          readProgram reading rest

/-- The text that the help command shows. -/
def readHelp : List Bytes → Stop
  | [] => .help (.scope .program) true
  | name :: rest =>
      match Opened.ofName? name, rest with
      | none, _ => .usage (.unknownSubcommand (Utf8.lossy name))
      | some (.scope scope), [] => .help (.scope scope) true
      | some .helpCommand, [] => .help .helpCommand true
      | some _, extra :: _ => .usage (.unknownSubcommand (Utf8.lossy extra))

def subcommand (scope : Scope) (options : Options) : Subcommand :=
  match scope with
  | .config => .config options.runner
  | _ => .run ⟨options.project, options.input, options.output, options.runner⟩

/-- Puts the options before and after the subcommand's name together.  An
option that was written wins over one from the environment. -/
def combine (scope : Scope) (written filled outerWritten outerFilled : Options) :
    Invocation where
  command := subcommand scope filled
  verbosity := if written.verbosity = 0 then outerWritten.verbosity else written.verbosity
  config :=
    if written.config.isSome then written.config
    else if outerWritten.config.isSome then outerWritten.config
    else filled.config.or outerFilled.config

/-- Reads the command line. -/
def parse (environment : String → Option Bytes) (arguments : List Bytes) :
    Except Stop Invocation := do
  match ← readProgram {} arguments with
  | (_, some (.helpCommand, rest)) => .error (readHelp rest)
  | (outer, some (.scope scope, rest)) =>
      let written := (← Reading.readAll scope rest).options
      let filled ← Reading.fromEnvironment environment scope written
      let outerWritten := (← outer.settle).options
      let outerFilled ← Reading.fromEnvironment environment .program outerWritten
      pure (combine scope written filled outerWritten outerFilled)
  | (outer, none) =>
      let written := (← outer.settle).options
      let filled ← Reading.fromEnvironment environment .program written
      if filled.verbosity = 0 ∧ filled.config.isNone then .error .nothingGiven
      else .error (.usage .missingSubcommand)

end Invocation

namespace RunArguments

/-- The arguments as a log line shows them. -/
def quoted (arguments : RunArguments) : String :=
  "RunArgs \x7b project: " ++
    Quoted.option (fun path => Quoted.bytes path.bytes) arguments.project ++
    ", input: " ++ Quoted.option Quoted.text arguments.input ++
    ", output: " ++ Quoted.option Quoted.text arguments.output ++
    ", runner: " ++ arguments.overrides.quoted ++ " \x7d"

end RunArguments

namespace Invocation

/-- The invocation as a log line shows it. -/
def quoted (invocation : Invocation) : String :=
  let command := match invocation.command with
    | .run arguments => "Run(" ++ arguments.quoted ++ ")"
    | .config overrides => "Config(ConfigArgs \x7b runner: " ++ overrides.quoted ++ " \x7d)"
  "Cli \x7b command: " ++ command ++ ", verbose: " ++ toString invocation.verbosity ++
    ", config: " ++
    Quoted.option (fun path => Quoted.bytes path.bytes) invocation.config ++ " \x7d"

end Invocation

end FolderScript
