/-
A runner that plays a script of answers and keeps every request, to see what a
service asks for and what it makes of the answers.
-/
import FolderScript.Service

namespace FolderScript

/-- The requests so far, and the answers that are left. -/
structure Script where
  requests : List Request := []
  answers : List (Except Failure Captured) := []

namespace Script

/-- The answer when the script has run out. -/
def silence : Except Failure Captured := .ok ⟨0, ""⟩

def answer (script : Script) (request : Request) : Except Failure Captured × Script :=
  (script.answers.headD silence,
    ⟨script.requests ++ [request], script.answers.tail⟩)

def runner : Runner (StateT Script Logged) := fun request =>
  StateT.mk fun script => pure (script.answer request)

end Script

namespace Service

/-- Runs tasks one after the other; with each outcome the number of requests so
far. -/
def runTasks (service : Service (StateT Script Logged)) :
    List (Option String × Option String) →
      StateT Script Logged (List (Except Failure TaskOutcome × Nat))
  | [] => pure []
  | (input, output) :: tasks => do
      let outcome ← service.runTask input output
      let count := (← get).requests.length
      let outcomes ← service.runTasks tasks
      pure ((outcome, count) :: outcomes)

/-- A service's whole history against a script of answers. -/
def rehearse (project : Option String) (tasks : List (Option String × Option String))
    (answers : List (Except Failure Captured)) :
    Logged ((Option String × List (Except Failure TaskOutcome × Nat)) × Script) :=
  StateT.run (do
    let service ← setUp project Script.runner
    let outcomes ← service.runTasks tasks
    pure (service.project, outcomes)) { answers := answers }

end Service

end FolderScript
