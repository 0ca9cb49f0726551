/-
What a script is asked to work on: a folder to read from and one to write to.
-/
import FolderScript.Failure

namespace FolderScript

/-- The two folders handed to the script, verbatim. -/
structure Request where
  input : String
  output : String
  deriving DecidableEq, Repr

/-- A folder that is there and not empty. -/
def requireFolder (role : String) : Option String → Except Failure String
  | none => .error (.missingFolder role)
  | some folder => if folder = "" then .error (.missingFolder role) else .ok folder

/-- A request of two folders; the input folder is looked at first. -/
def Request.ofParts (input output : Option String) : Except Failure Request := do
  let input ← requireFolder "input" input
  let output ← requireFolder "output" output
  pure ⟨input, output⟩

end FolderScript
