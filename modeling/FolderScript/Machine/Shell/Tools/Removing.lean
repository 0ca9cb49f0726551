/-
The programs that remove files and directories.
-/
import FolderScript.Machine.Shell.Tools.Files

namespace FolderScript.Shell

namespace Tools

def removeDirectory (state : State) (path : Text) : Except IoError State :=
  match state.nodeAt true path with
  | .error error => .error error
  | .ok (position, node) =>
      if node.entry ≠ .directory then .error .notDirectory
      else if lastName path = ['.'] then .error (.os 22)
      else if state.world.files.names position ≠ [] || position = [] then
        .error .directoryNotEmpty
      else if !state.mayChange position.dropLast then .error .permissionDenied
      else .ok (state.removeEntry position)

def rmdir : Tool := reading "rmdir" ⟨"pvι", "", [("parents", 'p'), ("verbose", 'v'),
    ("ignore-fail-on-non-empty", 'ι')], true⟩ 1 fun state given =>
  let told (state : State) (path : Text) : State :=
    telling given state ("rmdir: removing directory, ".toList ++ named path)
  let remove (words : String) (state : State) (path : Text) : Except Text State :=
    match removeDirectory (told state path) path with
    | .ok after => .ok after
    | .error error =>
        if error = .directoryNotEmpty && given.has 'ι' then .ok state
        else .error (refusal words path error)
  forOperands "rmdir" "missing operand" given
    (fun state operand => do
      let state ← remove "failed to remove " state operand
      if given.has 'p' then
        ((waysTo operand).dropLast.reverse).foldlM (remove "failed to remove directory ") state
      else pure state)
    state

/-- Whether everything is to be asked for first, as the switches have it. -/
def asksFirst (given : Given) : Bool :=
  match given.last? ['f', 'i', 'I', 'ι'] with
  | some 'i' => true
  | some 'ι' => given.value? 'ι' = some "always".toList || given.value? 'ι' = some []
  | _ => false

def agrees (state : State) (question : Text) : Bool × State :=
  let asked := state.write 2 question
  let (data, after) := asked.readAll 0
  let line := (Text.ofBytes data).takeWhile (· ≠ '\n')
  let back := State.putBack asked after 0 State.blockSize (line.length + 1)
  (line.head? = some 'y' || line.head? = some 'Y', back)

/-- What a question calls a file. -/
def kindName (state : State) (entry : Entry) : String :=
  match state.kindOf entry with
  | .directory => "directory"
  | .link => "symbolic link"
  | .character => "character special file"
  | .pipe => "fifo"
  | .regular => if state.sizeOf entry = 0 then "regular empty file" else "regular file"

/-- Removes what a path names, with all below it; the second part tells whether
something stayed. -/
def removeTree (given : Given) : Nat → State → Text → Position → Node → State × Bool
  | 0, state, _, _, _ => (state, true)
  | depth + 1, state, path, position, node =>
      let refused (state : State) (error : IoError) : State × Bool :=
        (complain state "rm" (refusal "cannot remove " path error), true)
      let isDirectory : Bool := node.entry = .directory
      let hasNames := isDirectory && !(state.world.files.names position).isEmpty
      if hasNames && !(node.allows Node.toRead && node.allows Node.toSearch) then
        refused state .permissionDenied
      else
        let (entered, state) := if asksFirst given && hasNames then
            agrees state ("rm: descend into directory ".toList ++ named path ++ "? ".toList)
          else (true, state)
        if !entered then (state, false)
        else
          let (state, stayed) := if !isDirectory then (state, false)
            else (sortedNames state position).foldl
              (fun (state, stayed) name =>
                let inner := position ++ [Text.toBytes name]
                let (state, wrong) :=
                  removeTree given depth state (below path name) inner (state.nodeOf inner)
                (state, stayed || wrong))
              (state, false)
          let emptied := (state.world.files.names position).isEmpty || !isDirectory
          if stayed || !emptied then (state, stayed)
          else
            let (agreed, state) := if asksFirst given then
                agrees state ("rm: remove ".toList ++ (kindName state node.entry).toList ++ [' '] ++
                  named path ++ "? ".toList)
              else (true, state)
            if !agreed then (state, false)
            else if !state.mayChange position.dropLast then refused state .permissionDenied
            else
              (telling given (state.removeEntry position)
                ((if isDirectory then "removed directory " else "removed ").toList ++ named path),
                false)

def rm : Tool := reading "rm" ⟨"dfiIrRvι", "ι", [("force", 'f'), ("recursive", 'r'),
    ("verbose", 'v'), ("dir", 'd'), ("interactive", 'ι')], true⟩ 1 fun state given =>
  let force := given.last? ['f', 'i', 'I', 'ι'] = some 'f'
  let deep := given.has 'r' || given.has 'R'
  if given.operands = [] then
    if force then done state 0 else done (misused state "rm" "missing operand".toList) 1
  else
    let (state, failed) := given.operands.foldl
      (fun (state, failed) operand =>
        let wrong (message : Text) : State × Bool := (complain state "rm" message, true)
        let refused (error : IoError) : State × Bool :=
          wrong (refusal "cannot remove " operand error)
        let (state, stayed) := match state.nodeAt true operand with
          | .error error =>
              if force && (error = .notFound || error = .notDirectory) then (state, false)
              else refused error
          | .ok (position, node) =>
              let name := lastName operand
              if node.entry = .directory then
                if deep && (name = ['.'] ∨ name = ['.', '.']) then
                  wrong ("refusing to remove '.' or '..' directory: skipping ".toList ++
                    named operand)
                else if deep && position = [] then
                  wrong "it is dangerous to operate recursively on '/'\nrm: use --no-preserve-root to override this failsafe".toList
                else if deep then removeTree given deepest state operand position node
                else if given.has 'd' then
                  if state.world.files.names position = [] then
                    removeTree given deepest state operand position node
                  else refused .directoryNotEmpty
                else refused .isDirectory
              else removeTree given deepest state operand position node
        (state, failed || stayed))
      (state, false)
    done state (if failed then 1 else 0)

def unlink : Tool := reading "unlink" ⟨"", "", [], true⟩ 1 fun state given =>
  match given.operands with
  | [] => done (misused state "unlink" "missing operand".toList) 1
  | [operand] =>
      let refused (error : IoError) : Flow × State :=
        done (complain state "unlink" (refusal "cannot unlink " operand error)) 1
      match state.nodeAt true operand with
      | .ok (position, node) =>
          if node.entry = .directory then refused .isDirectory
          else if !state.mayChange position.dropLast then refused .permissionDenied
          else done (state.removeEntry position) 0
      | .error error => refused error
  | _ :: extra :: _ => done (misused state "unlink" ("extra operand ".toList ++ quoted extra)) 1

end Tools

end FolderScript.Shell
