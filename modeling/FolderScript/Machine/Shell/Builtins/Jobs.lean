/-
Commands of the shell that list its jobs and wait for them.
-/
import FolderScript.Machine.Shell.Builtins.Signals

namespace FolderScript.Shell

namespace State

def job? (state : State) (number : Nat) : Option Job :=
  state.world.jobs.find? fun job => job.number = number

def hasEnded (state : State) (number : Nat) : Bool :=
  (state.job? number).all fun job => job.endsAt.any (· ≤ state.clock)

/-- Gives a new job the first free place in the list of jobs; a place is free again
when its job has ended and was waited for. -/
def enlist (state : State) (number : Nat) : State :=
  let isFree (slot : Nat) : Bool :=
    match List.lookup slot state.slots with
    | none => true
    | some other => state.waited.contains other && state.hasEnded other
  let slot := ((List.range' 1 (state.slots.length + 1)).find? isFree).getD 1
  { state with slots := (slot, number) :: state.slots.filter fun entry => entry.1 ≠ slot }

/-- The job that a text names, by its number or by its place; or what is wrong. -/
def namedJob (state : State) (text : Text) : Except Text Nat :=
  let missing : Except Text Nat := .error ("No such job: ".toList ++ text)
  match text with
  | ['%'] | ['%', '%'] | ['%', '+'] =>
      match state.slots with
      | (_, number) :: _ => .ok number
      | [] => .error "No current job".toList
  | ['%', '-'] =>
      match state.slots with
      | _ :: (_, number) :: _ => .ok number
      | _ => .error "No previous job".toList
  | '%' :: digits =>
      match (Text.toNat? digits).bind fun slot => List.lookup slot state.slots with
      | some number => .ok number
      | none => missing
  | _ => missing

end State

namespace Builtins

/-- Waits for jobs; `none` if one of them never ends. -/
def waitFor (state : State) (numbers : List Nat) : Option State :=
  numbers.foldlM
    (fun (state : State) number =>
      match state.job? number with
      | none => some (state.withStatus 127)
      | some job => job.endsAt.map fun time =>
          { state with
            clock := max state.clock time
            status := job.status
            waited := number :: state.waited })
    state

/-- The job that an operand of `wait` names; a number of no job is left as it is. -/
def awaitedJob (state : State) (operand : Text) : Except Text Nat :=
  if operand.head? = some '%' then state.namedJob operand
  else
    match number? operand with
    | some number => .ok number
    | none => .error ("Illegal number: ".toList ++ operand)

def wait : Builtin := reading "wait" "" fun state _ operands =>
  match operands.mapM (awaitedJob state) with
  | .error message => refuse "wait" state message
  | .ok [] =>
      match waitFor state state.children with
      | none => (.forever, state)
      | some after => next after 0
  | .ok numbers =>
      let isChild (number : Nat) : Bool := state.children.contains number
      match waitFor state (numbers.filter isChild) with
      | none => (.forever, state)
      | some after =>
          let notices := (numbers.filter isChild).flatMap fun number =>
            match state.job? number with
            | some { diedOf := some signal, .. } => noticeLine signal
            | _ => []
          let after := if numbers.getLast?.all isChild then after else after.withStatus 127
          (.next, after.write 2 notices)

def jobWidth : Nat := 33

/-- A job as it is listed, with its place and a mark. -/
def shownJob (state : State) (withNumber : Bool) (slot number : Nat) : Text :=
  let mark := match state.slots with
    | (first, _) :: rest =>
        if first = slot then '+'
        else if rest.head?.any fun entry => entry.1 = slot then '-'
        else ' '
    | [] => ' '
  let job := state.job? number
  let condition : Text :=
    if !state.hasEnded number then "Running".toList
    else
      match job with
      | some { diedOf := some signal, .. } => (deathNotice signal).toList
      | some { status := 0, .. } | none => "Done".toList
      | some job => "Done(".toList ++ Text.ofNat job.status ++ [')']
  let front := '[' :: Text.ofNat slot ++ "] ".toList ++ [mark, ' '] ++
    (if withNumber then Text.ofNat number ++ [' '] else []) ++ condition
  let others := (job.map fun job => job.stages - 1).getD 0
  front ++ List.replicate (jobWidth - front.length) ' ' ++
    (List.replicate others " | ".toList).flatten ++ ['\n']

def jobs : Builtin := reading "jobs" "lp" fun state letters operands =>
  match operands.mapM state.namedJob with
  | .error message => refuse "jobs" state message
  | .ok named =>
      let wanted := if operands = [] then state.slots.map Prod.snd else named
      let (text, left) := wanted.foldl
        (fun ((text, state) : Text × State) number =>
          match state.slots.find? fun entry => entry.2 = number with
          | none => (text, state)
          | some (slot, _) =>
              if letters.contains 'p' then (text ++ Text.ofNat number ++ ['\n'], state)
              else
                let shown := shownJob state (letters.contains 'l') slot number
                let kept := if state.hasEnded number then
                    { state with
                      slots := state.slots.filter fun entry => entry.1 ≠ slot
                      children := state.children.erase number }
                  else state
                (text ++ shown, kept))
        ([], state)
      put "jobs" left text

def needsTerminal (command : String) : Builtin := fun state arguments =>
  match state.namedJob (arguments.headD ['%', '%']) with
  | .error message => refuse command state message
  | .ok _ => refuse command state "job not created under job control".toList

end Builtins

end FolderScript.Shell
