/-
Log events, and computations that emit them and have commands started.  The value of
such a computation does not depend on who listens: a filter only selects events
afterwards.
-/
import FolderScript.Path

namespace FolderScript

/-- How severe a log event is. -/
inductive Level where
  | error
  | warn
  | info
  | debug
  | trace
  deriving DecidableEq, Repr

namespace Level

/-- From 1, the most severe, to 5. -/
def rank : Level → Nat
  | .error => 1
  | .warn => 2
  | .info => 3
  | .debug => 4
  | .trace => 5

/-- The name in front of a log line. -/
def name : Level → String
  | .error => "ERROR"
  | .warn => "WARN"
  | .info => "INFO"
  | .debug => "DEBUG"
  | .trace => "TRACE"

/-- The level that a repeated verbosity flag asks for. -/
def ofVerbosity : Nat → Level
  | 0 => .warn
  | 1 => .info
  | 2 => .debug
  | _ => .trace

end Level

/-- The part of the program that an event comes from. -/
inductive Origin where
  | program
  | runCommand
  | configCommand
  | settings
  | runner
  | process
  deriving DecidableEq, Repr

/-- The name by which a log filter selects a part. -/
def Origin.target : Origin → String
  | .program => "scriptrun"
  | .runCommand => "scriptrun::commands::run"
  | .configCommand => "scriptrun::commands::config"
  | .settings => "scriptrun::core::config"
  | .runner => "scriptrun::core::runner"
  | .process => "scriptrun::common::process"

structure LogEvent where
  level : Level
  origin : Origin
  message : String
  deriving DecidableEq, Repr

/-- What a process is started with. -/
structure Command where
  program : String
  arguments : List String
  directory : Path
  deriving DecidableEq, Repr

/-- A value together with the events that were emitted and the commands that a machine
was given to start on the way to it, in order. -/
structure Logged (α : Type) where
  value : α
  events : List LogEvent := []
  started : List Command := []

namespace Logged

protected def pure {α : Type} (value : α) : Logged α := { value := value }

protected def bind {α β : Type} (first : Logged α) (next : α → Logged β) : Logged β where
  value := (next first.value).value
  events := first.events ++ (next first.value).events
  started := first.started ++ (next first.value).started

instance : Monad Logged where
  pure := Logged.pure
  bind := Logged.bind

@[simp] theorem value_pure {α : Type} (value : α) :
    (pure value : Logged α).value = value := rfl

@[simp] theorem events_pure {α : Type} (value : α) :
    (pure value : Logged α).events = [] := rfl

@[simp] theorem started_pure {α : Type} (value : α) :
    (pure value : Logged α).started = [] := rfl

@[simp] theorem value_bind {α β : Type} (first : Logged α) (next : α → Logged β) :
    (first >>= next).value = (next first.value).value := rfl

@[simp] theorem events_bind {α β : Type} (first : Logged α) (next : α → Logged β) :
    (first >>= next).events = first.events ++ (next first.value).events := rfl

@[simp] theorem started_bind {α β : Type} (first : Logged α) (next : α → Logged β) :
    (first >>= next).started = first.started ++ (next first.value).started := rfl

instance : LawfulMonad Logged := LawfulMonad.mk' Logged
  (fun first => by
    change (⟨first.value, first.events ++ [], first.started ++ []⟩ : Logged _) = first
    rw [List.append_nil, List.append_nil])
  (fun value next => by
    change (⟨(next value).value, [] ++ (next value).events, [] ++ (next value).started⟩ :
      Logged _) = next value
    rw [List.nil_append, List.nil_append])
  (fun first next last => by
    change (⟨_, (_ ++ _) ++ _, (_ ++ _) ++ _⟩ : Logged _) = ⟨_, _ ++ (_ ++ _), _ ++ (_ ++ _)⟩
    rw [List.append_assoc, List.append_assoc]
    rfl)

def emit (level : Level) (origin : Origin) (message : String) : Logged Unit :=
  { value := (), events := [⟨level, origin, message⟩] }

@[simp] theorem value_emit (level : Level) (origin : Origin) (message : String) :
    (emit level origin message).value = () := rfl

@[simp] theorem started_emit (level : Level) (origin : Origin) (message : String) :
    (emit level origin message).started = [] := rfl

end Logged

end FolderScript
