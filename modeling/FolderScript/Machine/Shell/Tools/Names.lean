/-
The programs that take paths apart, and tell about the machine and its user.
-/
import FolderScript.Machine.Shell.Lookup
import FolderScript.Machine.Shell.Tools.Moving

namespace FolderScript.Shell

namespace Tools

def directoryPart (path : Text) : Text :=
  if path = [] then ['.']
  else
    let cut := withoutSlashes path
    if cut = ['/'] then cut
    else
      let front := (cut.reverse.dropWhile (· ≠ '/')).reverse
      if front = [] then ['.'] else withoutSlashes front

def withoutEnding (ending name : Text) : Text :=
  if ending ≠ [] ∧ ending ≠ name ∧ ending.reverse.isPrefixOf name.reverse then
    name.take (name.length - ending.length)
  else name

def basename : Tool := reading "basename" ⟨"az", "s", [("multiple", 'a'), ("suffix", 's'),
    ("zero", 'z')], false⟩ 1 fun state given =>
  let finish := if given.has 'z' then [Char.ofNat 0] else ['\n']
  let shown (ending : Text) (paths : List Text) : Flow × State :=
    done (state.write 1 (paths.flatMap fun path =>
      withoutEnding ending (lastName path) ++ finish)) 0
  match given.operands with
  | [] => done (misused state "basename" "missing operand".toList) 1
  | operands =>
      if given.has 'a' || given.has 's' then shown ((given.value? 's').getD []) operands
      else
        match operands with
        | _ :: _ :: extra :: _ =>
            done (misused state "basename" ("extra operand ".toList ++ quoted extra)) 1
        | path :: rest => shown (rest.headD []) [path]
        | [] => done state 0

def dirname : Tool := reading "dirname" ⟨"z", "", [("zero", 'z')], true⟩ 1 fun state given =>
  let finish := if given.has 'z' then [Char.ofNat 0] else ['\n']
  if given.operands = [] then done (misused state "dirname" "missing operand".toList) 1
  else done (state.write 1 (given.operands.flatMap fun path => directoryPart path ++ finish)) 0

/-- How much of a path has to be there. -/
inductive Demand where
  | all
  | allButLast
  | nothing
  deriving DecidableEq, Repr

/-- The position that the segments of a path lead to, links followed, whether or not all
of them are there. -/
def resolveSegments (files : FileSystem) (demand : Demand) :
    Nat → Position → List Bytes → Except IoError Position
  | 0, _, _ => .error .tooManyLinks
  | _ + 1, position, [] => .ok position
  | fuel + 1, position, segment :: rest =>
      if segment = [] ∨ segment = [Path.dot] then resolveSegments files demand fuel position rest
      else if segment = [Path.dot, Path.dot] then
        resolveSegments files demand fuel position.dropLast rest
      else
        let next := position ++ [segment]
        let isLast := rest.all fun other => other = []
        match files.node? next with
        | none =>
            if demand = .nothing ∨ (demand = .allButLast ∧ isLast) then
              resolveSegments files demand fuel next rest
            else .error .notFound
        | some node =>
            match node.entry with
            | .link target =>
                let path : Path := ⟨target⟩
                resolveSegments files demand fuel (if path.isAbsolute then [] else position)
                  (path.segments ++ rest)
            | .directory => resolveSegments files demand fuel next rest
            | _ =>
                if rest = [] ∨ demand = .nothing then
                  resolveSegments files demand fuel next rest
                else .error .notDirectory

/-- How many steps a path may take. -/
def mostSteps : Nat := 10000

/-- The position that a path stands for if no link is followed. -/
def plainPosition (state : State) (path : Text) : Position :=
  let start := if path.head? = some '/' then [] else state.directory
  ((Path.mk (Text.toBytes path)).segments).foldl
    (fun position segment =>
      if segment = [] ∨ segment = [Path.dot] then position
      else if segment = [Path.dot, Path.dot] then position.dropLast
      else position ++ [segment])
    start

def resolvePosition (state : State) (demand : Demand) (keepsLinks : Bool) (path : Text) :
    Except IoError Position :=
  if path = [] then .error .notFound
  else if keepsLinks then
    let position := plainPosition state path
    if demand = .all ∧ (state.nodeAt false path).toOption.isNone then .error .notFound
    else .ok position
  else
    let whole : Path := ⟨Text.toBytes path⟩
    resolveSegments state.world.files demand mostSteps
      (if whole.isAbsolute then [] else state.directory) whole.segments

def pathText (position : Position) : Text := Text.ofBytes (Host.pathOf position).bytes

/-- What the switches ask for. -/
def demandOf (given : Given) (usual : Demand) : Demand :=
  match given.last? ['e', 'f', 'm', 'E'] with
  | some 'e' => .all
  | some 'm' => .nothing
  | some _ => .allButLast
  | none => usual

def realpath : Tool := reading "realpath" ⟨"eELmPqsz", "τβ", [("canonicalize-existing", 'e'),
    ("canonicalize-missing", 'm'), ("canonicalize", 'E'), ("quiet", 'q'), ("no-symlinks", 's'),
    ("strip", 's'), ("zero", 'z'), ("logical", 'L'), ("physical", 'P'), ("relative-to", 'τ'),
    ("relative-base", 'β')], true⟩ 1
    fun state given =>
  let demand := demandOf given .allButLast
  let resolve (path : Text) : Except IoError Position :=
    resolvePosition state demand (given.has 's') path
  let finish := if given.has 'z' then [Char.ofNat 0] else ['\n']
  let base? : Except (Text × IoError) (Option Position) := match given.value? 'τ' with
    | none => .ok none
    | some path =>
        match resolve path with
        | .ok position => .ok (some position)
        | .error error => .error (path, error)
  match base? with
  | .error (path, error) => done (complain state "realpath" (nameAndReason path error)) 1
  | .ok base =>
      if given.operands = [] then done (misused state "realpath" "missing operand".toList) 1
      else
        let (state, failed) := given.operands.foldl
          (fun (state, failed) operand =>
            match resolve operand with
            | .ok position =>
                let text := match base with
                  | some base => wayFrom base position
                  | none => pathText position
                (state.write 1 (text ++ finish), failed)
            | .error error =>
                (if given.has 'q' then state
                  else complain state "realpath" (nameAndReason operand error), true))
          (state, false)
        done state (if failed then 1 else 0)

/-- Where a link leads, as it is written; an open file leads to what it was opened on. -/
def linkTarget? (state : State) (node : Node) : Option Text :=
  match node.entry with
  | .link target => some (Text.ofBytes target)
  | .device (.descriptor number) =>
      match state.channel? number with
      | some .null => some "/dev/null".toList
      | some .zeros => some "/dev/zero".toList
      | some .full => some "/dev/full".toList
      | some (.stream _) | some (.buffer _) => some "pipe:[4242]".toList
      | some (.file identity) =>
          (state.world.files.entries.find? fun entry => entry.2.identity = identity).map
            fun entry => pathText entry.1
      | _ => none
  | _ => none

def readlink : Tool := reading "readlink" ⟨"efmnqsvz", "", [("canonicalize", 'f'),
    ("canonicalize-existing", 'e'), ("canonicalize-missing", 'm'), ("no-newline", 'n'),
    ("quiet", 'q'), ("silent", 's'), ("verbose", 'v'), ("zero", 'z')], true⟩ 1
    fun state given =>
  let isPlain := (given.last? ['e', 'f', 'm']).isNone
  let resolve (path : Text) : Except IoError Text :=
    if isPlain then
      match state.nodeAt true path with
      | .error error => .error error
      | .ok (_, node) =>
          match linkTarget? state node with
          | some text => .ok text
          | none => .error (.os 22)
    else (resolvePosition state (demandOf given .allButLast) false path).map pathText
  let state := if given.has 'n' && 1 < given.operands.length then
      complain state "readlink" "ignoring --no-newline with multiple arguments".toList
    else state
  let finish : Text := if given.has 'n' && given.operands.length = 1 then []
    else if given.has 'z' then [Char.ofNat 0] else ['\n']
  if given.operands = [] then done (misused state "readlink" "missing operand".toList) 1
  else
    let (state, failed) := given.operands.foldl
      (fun (state, failed) operand =>
        match resolve operand with
        | .ok text => (state.write 1 (text ++ finish), failed)
        | .error error =>
            (if given.has 'v' then complain state "readlink" (nameAndReason operand error)
              else state, true))
      (state, false)
    done state (if failed then 1 else 0)

def which : Tool := reading "which" ⟨"as", "", [], true⟩ 2 fun state given =>
  let isProgram (path : Text) : Bool :=
    (Lookup.isProgram state.world.files state.directory path).toOption.getD false
  let (state, failed) := given.operands.foldl
    (fun (state, failed) operand =>
      let places := (Lookup.candidates (state.value? "PATH".toList) operand).filter isProgram
      let shown := if given.has 'a' then places else places.take 1
      (if given.has 's' then state else state.write 1 (endLines shown), failed || places.isEmpty))
    (state, given.operands.isEmpty)
  done state (if failed then 1 else 0)

/-- A tool that tells one thing and takes no operands. -/
def telling1 (tool : String) (known : Switches) (text : State → Given → Text) : Tool :=
  reading tool known 1 fun state given =>
    match given.operands with
    | [] => done (state.write 1 (text state given ++ ['\n'])) 0
    | extra :: _ => done (misused state tool ("extra operand ".toList ++ quoted extra)) 1

def whoami : Tool := telling1 "whoami" ⟨"", "", [], true⟩ fun _ _ => userName

def logname : Tool := telling1 "logname" ⟨"", "", [], true⟩ fun _ _ => userName

def arch : Tool := telling1 "arch" ⟨"", "", [], true⟩ fun _ _ => "x86_64".toList

def nproc : Tool := telling1 "nproc" ⟨"α", "ι", [("all", 'α'), ("ignore", 'ι')], true⟩
  fun _ _ => ['4']

def hostname : Tool := reading "hostname" ⟨"adfiIsy", "F", [], true⟩ 1 fun state _ =>
  done (state.write 1 "localhost\n".toList) 0

def groups : Tool := reading "groups" ⟨"", "", [], true⟩ 1 fun state _ =>
  done (state.write 1 (userName ++ ['\n'])) 0

/-- A user or a group, by number and by name. -/
def idEntry (isNamed : Bool) : Text := if isNamed then userName else Text.ofNat userNumber

def userId : Tool := reading "id" ⟨"agGnruzZ", "", [("user", 'u'), ("group", 'g'), ("groups", 'G'),
    ("name", 'n'), ("real", 'r'), ("zero", 'z')], true⟩ 1 fun state given =>
  let kinds := (['u', 'g', 'G'].filter given.has).length
  let whole := "=".toList ++ idEntry false ++ ['('] ++ idEntry true ++ [')']
  let both (name : Text) : Text × Text := match given.operands with
    | [] => (userName, Text.ofNat userNumber)
    | _ => (name, ['0'])
  let name := given.operands.headD userName
  if 1 < kinds then
    done (complain state "id" "cannot print \"only\" of more than one choice".toList) 1
  else if (given.has 'n' || given.has 'r') && kinds = 0 then
    done (complain state "id" "cannot print only names or real IDs in default format".toList) 1
  else if name ≠ userName ∧ name ≠ "root".toList ∧ name ≠ ['0'] then
    done (complain state "id" (quoted name ++ ": no such user".toList)) 1
  else if kinds = 1 then
    let (word, number) := both "root".toList
    done (state.write 1 ((if given.has 'n' then word else number) ++ ['\n'])) 0
  else if given.operands = [] then
    done (state.write 1 ("uid".toList ++ whole ++ " gid".toList ++ whole ++ " groups".toList ++
      whole ++ ['\n'])) 0
  else done (state.write 1 "uid=0(root) gid=0(root) groups=0(root)\n".toList) 0

def uname : Tool := reading "uname" ⟨"asnrvmpio", "", [("all", 'a'), ("kernel-name", 's'),
    ("nodename", 'n'), ("machine", 'm'), ("operating-system", 'o')], true⟩ 1 fun state given =>
  let part (letter : Char) (text : String) : List Text :=
    if given.has letter || given.has 'a' || (letter == 's' && given.switches.isEmpty) then
      [text.toList] else []
  let parts := part 's' "Linux" ++ part 'n' "localhost" ++ part 'r' "6.1.0" ++
    part 'v' "#1 SMP" ++ part 'm' "x86_64" ++ part 'o' "GNU/Linux"
  done (state.write 1 (Text.join [' '] parts ++ ['\n'])) 0

/-- The variables that programs see, as they are written. -/
def environmentTexts (state : State) : List Text :=
  (state.bindings.filter Variable.exported).map fun known =>
    known.name ++ '=' :: known.value

def printenv : Tool := reading "printenv" ⟨"0", "", [("null", '0')], false⟩ 2 fun state given =>
  let finish := if given.has '0' then [Char.ofNat 0] else ['\n']
  if given.operands = [] then
    done (state.write 1 ((environmentTexts state).flatMap (· ++ finish))) 0
  else
    let values := given.operands.map fun name =>
      (state.bindings.find? fun known => known.exported && known.name = name).map
        Variable.value
    done (state.write 1 (values.filterMap fun value? => value? |>.map (· ++ finish)).flatten)
      (if values.contains none then 1 else 0)

def pwd : Tool := reading "pwd" ⟨"LP", "", [("logical", 'L'), ("physical", 'P')], true⟩ 1
    fun state given =>
  let state := if given.operands = [] then state
    else complain state "pwd" "ignoring non-option arguments".toList
  let entered? := (state.bindings.find? fun known =>
    known.exported && known.name = "PWD".toList).map Variable.value
  let isHere (path : Text) : Bool := match state.stat path with
    | .ok (position, _) => position = state.directory && path.head? = some '/'
    | .error _ => false
  let shown := if given.last? ['L', 'P'] = some 'L' then
      (entered?.filter isHere).getD (currentPath state)
    else currentPath state
  done (state.write 1 (shown ++ ['\n'])) 0

def tty : Tool := reading "tty" ⟨"s", "", [("silent", 's'), ("quiet", 's')], true⟩ 2
    fun state given =>
  done (if given.has 's' then state else state.write 1 "not a tty\n".toList) 1

/-- How often an endless line is repeated before its reader has enough. -/
def endlessCount : Nat := 20000

def yes : Tool := reading "yes" ⟨"", "", [], true⟩ 1 fun state given =>
  let line := (if given.operands = [] then ['y'] else Text.join [' '] given.operands) ++ ['\n']
  let buffer? := match state.channel? 1 with
    | some (.buffer number) => some (state.bufferOf number)
    | _ => none
  let count := if buffer?.isSome then state.world.plenty / line.length + 1 else endlessCount
  let repeated := (List.replicate count line).flatten
  match state.emit 1 (Text.toBytes repeated), buffer?.bind Buffer.limit with
  | .ok state, none => (.forever, if buffer?.isSome then state.cutShort else state)
  | .ok state, some (_, gone) =>
      (.forever, { state with clock := max state.clock gone, pipeBroken := true })
  | .error error, _ =>
      done (complain state "yes" ("standard output: ".toList ++ reason error)) 1

end Tools

end FolderScript.Shell
