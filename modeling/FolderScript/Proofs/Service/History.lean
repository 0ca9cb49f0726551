/-
The history of a service against a script of answers.  Tasks, requests and answers stay
aligned: the requests are those of the tasks that name two folders, in their order, the
k-th request has the k-th answer, and every other task is skipped and costs no answer.
-/
import FolderScript.Proofs.Run.Requests
import Mathlib.Control.Monad.Basic

namespace FolderScript

/-- A task: the folder to read from and the one to write to, as far as they are given. -/
abbrev Task := Option String × Option String

namespace Task

/-- The request of a task: its two folders as they are, if both are there and not empty. -/
def request? : Task → Option Request
  | (some input, some output) =>
      if input = "" ∨ output = "" then none else some ⟨input, output⟩
  | _ => none

theorem request?_eq_some_iff {task : Task} {request : Request} :
    task.request? = some request ↔
      (task.1 = some request.input ∧ request.input ≠ "") ∧
        task.2 = some request.output ∧ request.output ≠ "" := by
  obtain ⟨input, output⟩ := task
  cases input with
  | none => simp [request?]
  | some input =>
      cases output with
      | none => simp [request?]
      | some output =>
          cases request
          simp only [request?]
          grind

/-- A request is made of a task just if the task has one. -/
theorem toOption_ofParts (task : Task) :
    (Request.ofParts task.1 task.2).toOption = task.request? := by
  cases hparts : Request.ofParts task.1 task.2 with
  | ok request =>
      exact (request?_eq_some_iff.mpr (Request.ofParts_eq_ok_iff.mp hparts)).symm
  | error failure =>
      refine (Option.eq_none_iff_forall_ne_some.mpr fun request hrequest => ?_).symm
      rw [Request.ofParts_eq_ok_iff.mpr (request?_eq_some_iff.mp hrequest)] at hparts
      contradiction

def requests (tasks : List Task) : List Request := tasks.filterMap request?

/-- How many of the first tasks have a request. -/
def asked (tasks : List Task) (count : Nat) : Nat := (requests (tasks.take count)).length

/-- What becomes of a task whose request, if it has one, gets an answer. -/
def outcome (task : Task) (answer : Except Failure Captured) : Except Failure TaskOutcome :=
  match task.request? with
  | none => .ok .skipped
  | some _ => answer.map .completed

/-- A task fails only by its answer. -/
theorem eq_error_of_outcome {task : Task} {answer : Except Failure Captured} {failure : Failure}
    (h : task.outcome answer = .error failure) : answer = .error failure := by
  unfold outcome at h
  cases hrequest : task.request? with
  | none =>
      rw [hrequest] at h
      contradiction
  | some request =>
      rw [hrequest] at h
      cases answer with
      | ok captured => contradiction
      | error other => rw [Except.error.inj h]

@[simp] theorem asked_zero (tasks : List Task) : asked tasks 0 = 0 := rfl

theorem requests_cons (task : Task) (tasks : List Task) :
    requests (task :: tasks) = requests [task] ++ requests tasks :=
  List.filterMap_append (l := [task])

theorem asked_cons_succ (task : Task) (tasks : List Task) (count : Nat) :
    asked (task :: tasks) (count + 1) = (requests [task]).length + asked tasks count := by
  rw [asked, List.take_succ_cons, requests_cons, List.length_append, asked]

end Task

namespace Script

theorem value_run_bind {α β : Type} (first : StateT Script Logged α)
    (next : α → StateT Script Logged β) (script : Script) :
    ((first >>= next).run script).value =
      ((next (first.run script).value.1).run (first.run script).value.2).value := rfl

/-- The script after tasks: their requests more, and as many answers less. -/
def afterTasks (script : Script) (tasks : List Task) : Script where
  requests := script.requests ++ Task.requests tasks
  answers := script.answers.drop (Task.requests tasks).length

theorem afterTasks_cons (script : Script) (task : Task) (tasks : List Task) :
    script.afterTasks (task :: tasks) = (script.afterTasks [task]).afterTasks tasks := by
  simp only [afterTasks]
  rw [Task.requests_cons, List.append_assoc, List.drop_drop, List.length_append]

/-- A step of a history: one task is answered by the next answer, or skipped. -/
theorem value_run_runTask (project : Option String) (task : Task) (script : Script) :
    (((⟨project, runner⟩ : Service _).runTask task.1 task.2).run script).value =
      (task.outcome (script.answers.headD silence), script.afterTasks [task]) := by
  have hparts := task.toOption_ofParts
  unfold Service.runTask
  cases hrequest : Request.ofParts task.1 task.2 with
  | error failure =>
      rw [hrequest] at hparts
      change (Except.ok TaskOutcome.skipped, script) = _
      simp [Task.outcome, afterTasks, Task.requests, ← hparts,
        Except.toOption]
  | ok request =>
      rw [hrequest] at hparts
      change ((script.answers.headD silence).map TaskOutcome.completed,
        (script.answer request).2) = _
      simp [Task.outcome, afterTasks, Task.requests, ← hparts,
        Except.toOption, answer]

/-- What comes of tasks on a service that plays a script, and the script after them. -/
def played (script : Script) (project : Option String) (tasks : List Task) :
    List (Except Failure TaskOutcome × Nat) × Script :=
  (((⟨project, runner⟩ : Service _).runTasks tasks).run script).value

theorem played_cons (script : Script) (project : Option String) (task : Task)
    (tasks : List Task) :
    script.played project (task :: tasks) =
      ((task.outcome (script.answers.headD silence),
          (script.afterTasks [task]).requests.length) ::
          ((script.afterTasks [task]).played project tasks).1,
        ((script.afterTasks [task]).played project tasks).2) := by
  rw [played, Service.runTasks, value_run_bind, value_run_runTask]
  rfl

/-- A whole history asks for the requests of its tasks, and takes an answer for each. -/
theorem script_played (script : Script) (project : Option String) (tasks : List Task) :
    (script.played project tasks).2 = script.afterTasks tasks := by
  induction tasks generalizing script with
  | nil =>
      change script = script.afterTasks []
      simp [afterTasks, Task.requests]
  | cons task tasks ih =>
      rw [played_cons, ih, ← afterTasks_cons]

/-- In a history the answer of a task is the one after as many as there were requests
before it. -/
theorem getElem?_played (script : Script) (project : Option String) (tasks : List Task)
    (index : Nat) :
    (script.played project tasks).1[index]? = tasks[index]?.map fun task =>
      (task.outcome (script.answers.getD (Task.asked tasks index) silence),
        script.requests.length + Task.asked tasks (index + 1)) := by
  induction tasks generalizing script index with
  | nil => rfl
  | cons task tasks ih =>
      rw [played_cons]
      cases index with
      | zero =>
          simp [Task.asked_cons_succ, afterTasks, List.headD_eq_head?_getD,
            List.getD_eq_getElem?_getD, List.head?_eq_getElem?]
      | succ index =>
          rw [List.getElem?_cons_succ, ih]
          simp [Task.asked_cons_succ, afterTasks, List.getD_eq_getElem?_getD, Nat.add_assoc]

/-- A script that has run out answers without a failure. -/
theorem mem_of_getD_eq_error {answers : List (Except Failure Captured)} {index : Nat}
    {failure : Failure} (h : answers.getD index silence = .error failure) :
    .error failure ∈ answers := by
  rw [List.getD_eq_getElem?_getD] at h
  cases hanswer : answers[index]? with
  | none =>
      rw [hanswer, Option.getD_none] at h
      contradiction
  | some answer =>
      rw [hanswer, Option.getD_some] at h
      exact List.mem_of_getElem? (hanswer.trans (congrArg some h))

/-- A failure that comes of a task is an answer of the script. -/
theorem mem_of_error_mem_played {script : Script} {project : Option String}
    {tasks : List Task} {failure : Failure}
    (h : .error failure ∈ (script.played project tasks).1.map Prod.fst) :
    .error failure ∈ script.answers := by
  obtain ⟨⟨found, count⟩, hmem, hfailed⟩ := List.mem_map.mp h
  obtain ⟨index, hindex⟩ := List.mem_iff_getElem?.mp hmem
  rw [getElem?_played] at hindex
  obtain ⟨task, -, houtcome⟩ := Option.map_eq_some_iff.mp hindex
  obtain ⟨rfl, -⟩ := Prod.mk.inj houtcome
  exact mem_of_getD_eq_error (Task.eq_error_of_outcome hfailed)

end Script

namespace Service

/-- A history that is aligned with its tasks and with the answers it was given. -/
structure Aligned (project : Option String) (tasks : List Task)
    (answers : List (Except Failure Captured))
    (history : (Option String × List (Except Failure TaskOutcome × Nat)) × Script) : Prop where
  /-- The project folder stays what it was. -/
  projectFolder : history.1.1 = project
  /-- Every task with two folders is asked for once, in its turn, and no other. -/
  requests : history.2.requests = Task.requests tasks
  /-- Every request takes one answer, and nothing else does. -/
  answersLeft : history.2.answers = answers.drop (Task.requests tasks).length
  /-- A task with a request comes to the answer after as many as there were requests before
  it, a task without one is skipped; and there is one more request after the former. -/
  outcomes : history.1.2 = tasks.mapIdx fun index task =>
    (task.outcome (answers.getD (Task.asked tasks index) Script.silence),
      Task.asked tasks (index + 1))
  /-- The service has no failure of its own; one for want of a folder too can only be an
  answer. -/
  failures : ∀ failure, .error failure ∈ history.1.2.map Prod.fst → .error failure ∈ answers

theorem value_rehearse (project : Option String) (tasks : List Task)
    (answers : List (Except Failure Captured)) :
    (rehearse project tasks answers).value =
      ((project, (Script.played { answers := answers } project tasks).1),
        (Script.played { answers := answers } project tasks).2) := rfl

/-- Every history is aligned with its tasks and answers.  Other answers change no request,
and of the outcomes only those whose own answer they change; so a failure neither leads to
another try nor touches a later task. -/
theorem rehearse_aligned (project : Option String) (tasks : List Task)
    (answers : List (Except Failure Captured)) :
    Aligned project tasks answers (rehearse project tasks answers).value ∧
    ∀ others : List (Except Failure Captured),
      (rehearse project tasks others).value.2.requests =
        (rehearse project tasks answers).value.2.requests ∧
      ∀ index, others.getD (Task.asked tasks index) Script.silence =
          answers.getD (Task.asked tasks index) Script.silence →
        (rehearse project tasks others).value.1.2[index]? =
          (rehearse project tasks answers).value.1.2[index]? := by
  simp only [value_rehearse]
  refine ⟨?_, fun others => ⟨?_, fun index hanswer => ?_⟩⟩
  · exact {
      projectFolder := rfl
      requests := by
        rw [Script.script_played]
        exact List.nil_append _
      answersLeft := by
        rw [Script.script_played]
        rfl
      outcomes := by
        refine List.ext_getElem? fun index => ?_
        rw [Script.getElem?_played, List.getElem?_mapIdx]
        simp only [List.length_nil, Nat.zero_add]
      failures := fun failure => Script.mem_of_error_mem_played }
  · rw [Script.script_played, Script.script_played]
    rfl
  · rw [Script.getElem?_played, Script.getElem?_played, hanswer]

end Service

namespace HistoryWitness

/-- A runner that answers a request as if it had no folder to read from. -/
def answers : List (Except Failure Captured) := [.error (.missingFolder "input")]

/-- A failure for want of a folder reaches the caller, if the runner answers with it. -/
theorem missing_folder_answered :
    ¬ ∀ (project : Option String) (tasks : List Task) (answers : List (Except Failure Captured))
        (role : String), .error (.missingFolder role) ∉
      (Service.rehearse project tasks answers).value.1.2.map Prod.fst := by
  intro hnever
  refine hnever none [(some "a", some "b")] answers "input" ?_
  decide

end HistoryWitness

end FolderScript
