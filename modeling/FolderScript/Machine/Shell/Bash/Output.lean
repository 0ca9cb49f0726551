/-
Commands of the large shell language that write: `echo` and `printf`.
-/
import FolderScript.Machine.Shell.Bash.Declare
import FolderScript.Machine.Shell.Calendar
import FolderScript.Machine.Shell.Format

namespace FolderScript.Shell

namespace Bash

open Builtins (Builtin next)

def echo : Builtin := fun state arguments => put "echo" state (Format.echoPlain arguments)

/-- The wording of what is wrong with formatted output. -/
def formatComplaint : Format.Complaint → Text
  | .argument text fault =>
      match fault with
      | .noNumber | .notWhole => text ++ ": invalid number".toList
      | .outOfRange => "warning: ".toList ++ text ++ ": Numerical result out of range".toList
  | .directive text => '\x60' :: text.drop (text.length - 1) ++ "': invalid format character".toList
  | .unfinished text => '\x60' :: text ++ "': missing format character".toList

def isFailure : Format.Complaint → Bool
  | .argument _ .outOfRange => false
  | _ => true

/-- A format with its directives for times written out, and the arguments that are left
for the others.  A directive for times takes an argument of its own, the seconds since
the epoch; without one, or with a negative one, the present is meant. -/
def withTimes (state : State) : Nat → Text → List Text → Text × List Text × Nat
  | 0, format, arguments => (format, arguments, 0)
  | fuel + 1, format, arguments =>
      match format with
      | [] => ([], arguments, 0)
      | '%' :: '%' :: rest =>
          let (text, left, used) := withTimes state fuel rest arguments
          ('%' :: '%' :: text, left, used)
      | '%' :: '(' :: rest =>
          let pattern := rest.takeWhile (· ≠ ')')
          match rest.drop pattern.length with
          | ')' :: 'T' :: after =>
              let present := State.momentOf state.clock
              let moment := match (arguments.head?).bind Text.toInt? with
                | some seconds => if seconds < 0 then present else seconds * 1000000
                | none => present
              let pattern := if pattern = [] then "%X".toList else pattern
              let zone := Calendar.Zone.ofText ((state.value? "TZ".toList).getD [])
              let shown := Calendar.text zone moment pattern
              let escaped := shown.flatMap fun char =>
                if char = '%' then ['%', '%'] else if char = '\\' then ['\\', '\\'] else [char]
              let (text, left, used) := withTimes state fuel after arguments.tail
              (escaped ++ text, left, used + 1)
          | _ =>
              let (text, left, used) := withTimes state fuel rest arguments
              ('%' :: '(' :: text, left, used)
      | char :: rest =>
          let (text, left, used) := withTimes state fuel rest arguments
          (char :: text, left, used)

def printf : Builtin := reading "printf" "" "v" fun state found operands =>
  match operands with
  | [] => next (showUsage "printf" state) 2
  | format :: rest =>
      let (format, rest, _) := withTimes state (format.length + 1) format rest
      let written := Format.format true Quoted.backslashed format rest
      let warned := written.complaints.foldl
        (fun (state : State) complaint => warn "printf" state (formatComplaint complaint)) state
      let status := if written.complaints.any isFailure then 1 else 0
      match valueOf? 'v' found with
      | none => putWith "printf" warned written.text status
      | some target =>
          let (name, key) := State.nameAndKey target
          if !isName name then
            fails "printf" state ('\x60' :: target ++ "': not a valid identifier".toList) 2
          else
            let result : Except Text State := do
              match key with
              | some key =>
                  let (key, state) ← keyOf name key warned
                  assign name (some key) false written.text state
              | none => assign name none false written.text warned
            match result with
            | .ok state => next state status
            | .error message => next (warned.complain message) 1

end Bash

end FolderScript.Shell
