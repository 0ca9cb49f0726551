/-
The programs that a bare machine brings along, by their names.
-/
import FolderScript.Machine.Shell.Tools.Callers
import FolderScript.Machine.Shell.Tools.Checks
import FolderScript.Machine.Shell.Tools.Compare
import FolderScript.Machine.Shell.Tools.Dates
import FolderScript.Machine.Shell.Tools.Dumps
import FolderScript.Machine.Shell.Tools.Grep
import FolderScript.Machine.Shell.Tools.Interpreters
import FolderScript.Machine.Shell.Tools.Letters
import FolderScript.Machine.Shell.Tools.Lines
import FolderScript.Machine.Shell.Tools.Merging
import FolderScript.Machine.Shell.Tools.Sed
import FolderScript.Machine.Shell.Tools.Splitting
import FolderScript.Machine.Shell.Tools.Status
import FolderScript.Machine.Shell.Tools.Sums

namespace FolderScript.Shell

namespace Tools

/-- The wording of what is wrong with formatted output. -/
def formatComplaint : Format.Complaint → Text
  | .argument text fault => quoted text ++ (match fault with
      | .noNumber => ": expected a numeric value"
      | .notWhole => ": value not completely converted"
      | .outOfRange => ": Numerical result out of range").toList
  | .directive text | .unfinished text => text ++ ": invalid conversion specification".toList

def printf : Tool := fun state arguments =>
  match if arguments.head? = some ['-', '-'] then arguments.tail else arguments with
  | [] => done (misused state "printf" "missing operand".toList) 1
  | format :: rest =>
      let written := Format.format true Format.shellQuoted format rest
      let told := written.complaints.foldl
        (fun state complaint => complain state "printf" (formatComplaint complaint)) state
      let told := match written.left with
        | extra :: _ =>
            if written.stops then told
            else complain told "printf"
              ("warning: ignoring excess arguments, starting with ".toList ++ quoted extra)
        | [] => told
      done (told.write 1 written.text) (if written.complaints = [] then 0 else 1)

def echo : Tool := fun state arguments => done (state.write 1 (Format.echoPlain arguments)) 0

def plainTools : List (String × Tool) :=
  [("cat", cat), ("echo", echo), ("printf", printf), ("true", fun state _ => done state 0),
    ("false", fun state _ => done state 1), ("sleep", sleep), ("pwd", pwd), ("ls", ls),
    ("mkdir", mkdir), ("rmdir", rmdir), ("touch", touch), ("rm", rm), ("cp", cp), ("mv", mv),
    ("ln", ln), ("install", install), ("mktemp", mktemp), ("chmod", chmod), ("truncate", truncate), ("unlink", unlink), ("test", test),
    ("[", bracket), ("head", head), ("tail", tail), ("wc", wc), ("uniq", uniq), ("cut", cut),
    ("paste", paste), ("tee", tee), ("nl", nl), ("tac", tac), ("rev", rev), ("fold", fold),
    ("expand", expand), ("unexpand", unexpand), ("sort", sort), ("comm", comm), ("seq", seq), ("expr", expr),
    ("factor", factor), ("basename", basename), ("dirname", dirname), ("realpath", realpath),
    ("readlink", readlink), ("which", which), ("whoami", whoami), ("logname", logname), ("arch", arch), ("nproc", nproc),
    ("hostname", hostname), ("groups", groups), ("id", userId),
    ("uname", uname), ("printenv", printenv), ("tty", tty), ("yes", yes), ("tr", tr),
    ("grep", grep), ("egrep", egrep), ("fgrep", fgrep), ("sed", sed), ("cmp", cmp),
    ("diff", diff), ("date", date), ("join", join), ("od", od),
    ("base64", base64), ("base32", base32), ("basenc", basenc), ("stat", stat), ("split", split),
    ("dd", dd), ("sum", sum), ("cksum", cksum), ("sync", fun state _ => done state 0)] ++
    Sums.kinds.map fun kind => (kind.tool, Sums.tool kind)

def callingTools : List (String × (Launch → Tool)) :=
  [("awk", awk "awk"), ("mawk", awk "mawk"), ("perl", perl), ("env", env), ("xargs", xargs), ("find", find), ("timeout", timeout), ("nohup", nohup),
    ("nice", nice), ("setsid", passing "setsid" ""), ("stdbuf", passing "stdbuf" "ioe"),
    ("ionice", passing "ionice" "cn")]

/-- The tool of a name; those that start others are told how. -/
def ofName? (launch : Launch) (name : String) : Option Tool :=
  match List.lookup name plainTools with
  | some tool => some tool
  | none => (List.lookup name callingTools).map fun tool => tool launch

/-- What a tool says when its output cannot be written, and its status. -/
def outputComplaints (tool : String) (reason : Text) : List Text × Nat :=
  let withReason (words : String) : Text := words.toList ++ ": ".toList ++ reason
  match tool with
  | "ls" | "grep" | "egrep" | "fgrep" => ([withReason "write error"], 2)
  | "sed" => ([withReason "couldn't flush stdout"], 4)
  | "find" => ([withReason "'standard output'", "write error".toList], 1)
  | "sort" => ([withReason "fflush failed: 'standard output'", withReason "write error"], 2)
  | "tee" => ([withReason "'standard output'"], 1)
  | "env" => ([withReason "write error"], 125)
  | "expr" => ([withReason "write error"], 3)
  | "diff" | "cmp" => ([withReason "standard output"], 2)
  | _ => ([withReason "write error"], 1)

/-- The end of a tool, if its output could not be written: it dies of that, it waits
for ever, or it complains. -/
def finish (tool : String) (result : Flow × State) : Flow × State :=
  let (flow, state) := result
  if state.pipeBroken then (.died State.pipeSignal, state)
  else if state.starved then (.forever, state)
  else
    match flow, state.writeFault with
    | .exit _, some error =>
        let (messages, status) := outputComplaints tool (reason error)
        done (messages.foldl (fun state message => complain state tool message) state) status
    | _, _ => (flow, state)

def names : List String := plainTools.map Prod.fst ++ callingTools.map Prod.fst

end Tools

end FolderScript.Shell
