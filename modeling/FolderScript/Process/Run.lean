/-
Running a program to its end: start it, read its output, collect its end; past
the limit it is killed.
-/
import FolderScript.Process.Child
import FolderScript.Text.Quoted

namespace FolderScript

/-- A computation that may go on for ever. -/
abbrev Course := OptionT Logged

/-- How a machine answers to a command: the fate of the process that it starts,
or why it starts none. -/
abbrev Launcher := Command → Except IoError Fate

namespace Command

def start (launch : Launcher) (command : Command) : Logged (Except IoError Fate) where
  value := launch command
  started := [command]

/-- Starts a child; dropped before its end is collected, it is killed. -/
def spawn (launch : Launcher) (command : Command) : Logged (Except Failure Child) := do
  Logged.emit .debug .process ("Spawning " ++ Quoted.text command.program ++
    " with args " ++ Quoted.list command.arguments ++ " in " ++ command.directory.display)
  match ← command.start launch with
  | .error cause => pure (.error (.launch command.program cause))
  | .ok fate => pure (.ok (.started fate))

/-- What a run comes to, and the child as the run leaves it. -/
structure Supervised where
  /-- The result; `none` if the run goes on for ever. -/
  result : Option (Except Failure Captured)
  child : Option Child

/-- Kills a child that is not done within the limit. -/
def expire (command : Command) (limit : Duration) (child : Child) : Logged Supervised := do
  Logged.emit .warn .process ("Process " ++ Quoted.text command.program ++
    " still running after " ++ toString limit.seconds ++ "s; killing it.")
  let (fault, child) := child.kill
  if let some error := fault then
    Logged.emit .warn .process ("Failed to kill timed-out process: " ++ error.message)
  pure ⟨some (.error (.timedOut limit.seconds)), some child.drop⟩

/-- Starts a child, drains it and waits for it, and lets go of it. -/
def supervise (launch : Launcher) (schedule : Schedule) (command : Command)
    (limit : Option Duration) : Logged Supervised := do
  match ← command.spawn launch with
  | .error failure => pure ⟨some (.error failure), none⟩
  | .ok child =>
      let (result, child) ← child.drain schedule limit
      match result, limit with
      | some result, _ => pure ⟨some result, some child.drop⟩
      | none, some limit => command.expire limit child
      | none, none => pure ⟨none, some child⟩

/-- Runs a program and captures its output. -/
def run (launch : Launcher) (schedule : Schedule) (command : Command)
    (limit : Option Duration) : Course (Except Failure Captured) :=
  OptionT.mk (Supervised.result <$> command.supervise launch schedule limit)

end Command

end FolderScript
