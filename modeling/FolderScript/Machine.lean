/-
A machine for the program to run on: how it answers to a command, and the files that are
left when the process is done.  It has a shell and the usual tools, so that a run can be
followed to its end without an operating system.  The program does not depend on it: what is
proved of the program holds for every launcher.  What this one finds, starts and matches is
proved on its own.
-/
import FolderScript.Host
import FolderScript.Process.Run
import FolderScript.Machine.Shell.Run

namespace FolderScript

namespace Machine

open Shell (Flow State Text)

/-- How many steps a process may take in a row; far more than it can work. -/
def supply : Nat := 1000000000000

/-- The time until a process does its first step. -/
def startUp : Duration := 1000

/-- The error of a zero byte where a system call would cut the text. -/
def zeroByte : IoError := .other "nul byte found in provided data"

/-- The state in which a process starts. -/
def initial (host : Host) (directory : Position) (readers : Readers) : State where
  world := { files := host.files, readers := readers }
  clock := startUp
  directory := directory
  bindings := host.environment.map fun (name, value) =>
    { name := Text.ofString name, value := Text.ofBytes value, exported := true }
  descriptors := [(0, .null), (1, .stream .out), (2, .stream .err)]

/-- What one owner has written, in order. -/
def writesOf (owner : Nat) (state : State) : List (Duration × Side × Bytes) :=
  (state.world.writes.filter fun write => write.1 = owner).reverse.map Prod.snd

def lastWrite (side : Side) (writes : List (Duration × Side × Bytes)) : Duration :=
  writes.foldl (fun time write => if write.2.1 = side then max time write.1 else time) 0

/-- A process that ends at a time, and holds sides up to then or lets go of them
after its last write. -/
def holder (writes : List (Duration × Side × Bytes)) (endsAt : Option Duration)
    (holdsOut holdsErr : Bool) : Holder where
  writes := writes
  outUntil := if holdsOut then endsAt else some (lastWrite .out writes)
  errUntil := if holdsErr then endsAt else some (lastWrite .err writes)

/-- The life of a process, seen from its end. -/
def life (flow : Flow) (state : State) : Life :=
  let ending := match flow with
    | .forever => none
    | .died signal => some (state.clock, Ending.signaled signal)
    | other => some (state.clock, Ending.exited (other.statusOf state))
  { child := holder (writesOf 0 state) (ending.map Prod.fst) (state.holds .out)
      (state.holds .err)
    ending := ending
    others := state.world.jobs.map fun job =>
      holder (writesOf job.number state) job.endsAt job.holdsOut job.holdsErr }

/-- The time in which all jobs have done what they do. -/
def settling : Duration := Duration.ofSeconds 1000000000

/-- What the end of a process tells about another time that it is carried out. -/
def foretoldBy (state : State) : Shell.Foretold where
  events := state.world.log.reverse.mergeSort fun left right => left.time ≤ right.time
  signals := state.world.sent

/-- How often a process is carried out at most, until it is known what its jobs do. -/
def most : Nat := 4

/-- Carries out a program over and over, each time with what is known from the last,
until nothing changes any more.  A program without jobs is carried out once. -/
def rounds (found : Shell.Resolved) (start : State) : Nat → Flow × State
  | 0 => Shell.Run.carryOut supply found start
  | count + 1 =>
      let (flow, after) := Shell.Run.carryOut supply found start
      let known := foretoldBy after
      if after.world.jobs.isEmpty || known = start.world.foretold then (flow, after)
      else rounds found { start with world := { start.world with foretold := known } } count

/-- How many bytes of something endless are looked at, from try to try. -/
def portions : List Nat := [131072, 1572864, 8388608]

/-- Carries out a program with more and more of what is endless, until it ends or has
seen enough to be taken to go on for ever. -/
def followed (found : Shell.Resolved) (start : State) : List Nat → Flow × State
  | [] => rounds found start most
  | portion :: more =>
      let (flow, after) := rounds found
        { start with world := { start.world with plenty := portion } } most
      if flow = .forever ∧ after.world.isCut ∧ !more.isEmpty then followed found start more
      else (flow, after)

/-- Starts a command and follows it to its end: its life and the files after it,
as both hang on the readers of its streams. -/
def perform (host : Host) (command : Command) :
    Except IoError (Readers → Life × FileSystem) :=
  let texts := command.program :: command.arguments
  if texts.any (fun text => (Utf8.encode text).contains 0) ||
      command.directory.bytes.contains 0 then
    .error zeroByte
  else
    match host.files.locate host.directory command.directory with
    | .error error => .error error
    | .ok (position, .directory) =>
        let search := (host.valueOf? "PATH").map Text.ofBytes
        let name := Text.ofString command.program
        let arguments := command.arguments.map Text.ofString
        let environment := host.environment.map fun (name, value) =>
          Text.ofString name ++ '=' :: Text.ofBytes value
        match Shell.Lookup.find host.files position search name arguments with
        | .error error => .error error
        | .ok found =>
            if !Shell.Lookup.hasRoomFor name (name :: arguments) environment then
              .error .argumentsTooLong
            else .ok fun readers =>
              let (flow, state) := followed found (initial host position readers) portions
              (life flow state, (state.syncTo (state.clock + settling)).world.files)
    | .ok _ => .error .notDirectory

/-- How the machine answers to a command. -/
def launcher (host : Host) : Launcher := fun command =>
  (perform host command).map fun outcome readers => (outcome readers).1

def filesAfter (host : Host) (command : Command) : FileSystem :=
  match perform host command with
  | .ok outcome => (outcome {}).2
  | .error _ => host.files

end Machine

end FolderScript
