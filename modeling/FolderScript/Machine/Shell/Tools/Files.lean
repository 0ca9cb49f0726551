/-
The programs that make files and directories, and change what goes with them: their
permissions, times and sizes.
-/
import FolderScript.Machine.Shell.Calendar.Reading
import FolderScript.Machine.Shell.Format
import FolderScript.Machine.Shell.Mode
import FolderScript.Machine.Shell.Tools.Listing

namespace FolderScript.Shell

namespace Tools

/-- A path with a reason, in quotes. -/
def refusal (words : String) (path : Text) (error : IoError) : Text :=
  words.toList ++ named path ++ ": ".toList ++ reason error

/-- The complaint about a directory that cannot be made. -/
def uncreated (path : Text) (error : IoError) : Text :=
  "cannot create directory ".toList ++ quoted path ++ ": ".toList ++ reason error

def forOperands (tool : String) (missing : String) (given : Given)
    (action : State → Text → Except Text State) (state : State) : Flow × State :=
  if given.operands = [] then done (misused state tool missing.toList) 1
  else forEach state given.operands action tool

def withoutSlashes (path : Text) : Text :=
  let cut := (path.reverse.dropWhile (· = '/')).reverse
  if cut = [] ∧ path ≠ [] then ['/'] else cut

def lastName (path : Text) : Text :=
  let cut := withoutSlashes path
  if cut = ['/'] then cut else (cut.reverse.takeWhile (· ≠ '/')).reverse

/-- Whether a path names a directory. -/
def isFolder (state : State) (path : Text) : Bool :=
  match state.stat path with
  | .ok (_, .directory) => true
  | _ => false

/-- Tells what was done, if that was asked for. -/
def telling (given : Given) (state : State) (message : Text) : State :=
  if given.has 'v' then state.write 1 (message ++ ['\n']) else state

/-- Puts something new at a position, if names may be added there. -/
def putNew (state : State) (position : Position) (entry : Entry) (mode : Nat) :
    Except IoError State :=
  if state.mayChange position.dropLast then .ok (state.putWithMode position entry mode)
  else .error .permissionDenied

def makeDirectory (state : State) (path : Text) : Except IoError State :=
  match state.nodeAt true path with
  | .ok _ => .error .fileExists
  | .error .notFound => do
      let position ← state.nameFor (withoutSlashes path)
      if (state.world.files.get? position).isSome then .error .fileExists
      else putNew state position .directory (state.newMode .directory)
  | .error error => .error error

/-- The paths that lead to a path, the shortest first. -/
def waysTo (path : Text) : List Text :=
  ((Path.mk (Text.toBytes path)).chain.reverse.map fun step => Text.ofBytes step.bytes).filter
    fun step => step ≠ []

/-- Makes a directory with all on the way to it, and tells which were made. -/
def makeWays (state : State) (path : Text) : Except Text (List Text × State) :=
  (waysTo path).foldlM
    (fun (made, (state : State)) step =>
      match state.stat step with
      | .ok (_, .directory) => .ok (made, state)
      | .ok _ =>
          .error (uncreated step
            (if step = path then .fileExists else .notDirectory))
      | .error _ =>
          match makeDirectory state step with
          | .ok state => .ok (made ++ [step], state)
          | .error error => .error (uncreated step error))
    (([] : List Text), state)

/-- Gives the file at a path other permissions. -/
def setModeAt (state : State) (path : Text) (mode : Mode) : State :=
  match state.nodeAt false path with
  | .ok (_, node) =>
      state.change (.setMode node.identity
        (mode.apply state.mask (node.entry = .directory) node.mode))
  | .error _ => state

def mkdir : Tool := reading "mkdir" ⟨"pvZ", "m", [("parents", 'p'), ("verbose", 'v'),
    ("mode", 'm')], true⟩ 1 fun state given =>
  match given.value? 'm', (given.value? 'm').bind Mode.ofText? with
  | some text, none =>
      if given.operands = [] then done (misused state "mkdir" "missing operand".toList) 1
      else done (complain state "mkdir" ("invalid mode ".toList ++ quoted text)) 1
  | _, mode => run mode state given
where
  /-- Makes the directories. -/
  run (mode : Option Mode) (state : State) (given : Given) : Flow × State :=
    let told (state : State) (path : Text) : State :=
      telling given state ("mkdir: created directory ".toList ++ named path)
    let withMode (state : State) (path : Text) : State :=
      match mode with
      | some (.changes list) =>
          setModeAt (setModeAt state path (.exact 0o777 5)) path (.changes list)
      | some mode => setModeAt state path mode
      | none => state
    forOperands "mkdir" "missing operand" given
      (fun state operand =>
        if given.has 'p' then
          if operand = [] then .error (uncreated operand .notFound)
          else
            (makeWays state operand).map fun (made, state) =>
              let state := if made.contains (waysTo operand |>.getLastD []) then
                withMode state operand else state
              made.foldl told state
        else
          match makeDirectory state operand with
          | .ok state => .ok (told (withMode state operand) operand)
          | .error error => .error (uncreated operand error))
      state

/-- The moment that a stamp of digits means: the month, the day, the hour and the
minute, with the year in front and the seconds behind if they are there. -/
def stampMoment? (zone : Calendar.Zone) (now : Moment) (text : Text) : Option Moment := do
  let main := text.takeWhile (· ≠ '.')
  let tail := text.drop main.length
  if !main.all Char.isDigit then failure
  let second ← match tail with
    | [] => some 0
    | _ :: digits => if digits.length = 2 then Text.toNat? digits else none
  let number (start count : Nat) (digits : Text) : Nat :=
    (Text.toNat? ((digits.drop start).take count)).getD 0
  let (year, rest) ← match main.length with
    | 8 => some ((Civil.ofSeconds (now / 1000000)).year, main)
    | 10 => some (Calendar.yearOf (main.take 2), main.drop 2)
    | 12 => some (Int.ofNat (number 0 4 main), main.drop 4)
    | _ => none
  let month := number 0 2 rest
  let day := number 2 2 rest
  let hour := number 4 2 rest
  let minute := number 6 2 rest
  if month = 0 ∨ 12 < month ∨ day = 0 ∨ Calendar.monthLength year month < day ∨ 23 < hour ∨
      59 < minute ∨ 60 < second then failure
  let civil : Civil := ⟨year, month, day, hour, minute, second⟩
  pure ((civil.toSeconds - zone.ahead) * 1000000)

/-- The time that a file is to get, or why there is none. -/
def touchTime (state : State) (given : Given) : Except Text (Option Moment) :=
  let zone := zoneOf state
  let reference : Except Text (Option Moment) := match given.value? 'r' with
    | none => .ok none
    | some path =>
        match state.nodeAt (given.has 'h') path with
        | .ok (_, node) => .ok (some node.modified)
        | .error error => .error (refusal "failed to get attributes of " path error)
  match given.value? 'd', given.value? 't' with
  | some text, _ => do
      let base := (← reference).getD (now state)
      match Calendar.moment? zone base text with
      | some moment => pure (some moment)
      | none => throw ("invalid date format ".toList ++ quoted text)
  | none, some text =>
      match stampMoment? zone (now state) text with
      | some moment => .ok (some moment)
      | none => .error ("invalid date format ".toList ++ quoted text)
  | none, none => reference

/-- Sets the time of a file, or makes it. -/
def touchOne (given : Given) (time : Option Moment) (state : State) (operand : Text) :
    Except Text State :=
  let refused (error : IoError) : Except Text State :=
    .error (refusal "cannot touch " operand error)
  let changesTime := given.has 'm' || !given.has 'a'
  let stamped (state : State) (identity : Nat × Nat) : State :=
    if changesTime then state.change (.setTime identity (time.getD (now state))) else state
  match state.nodeAt (given.has 'h') operand with
  | .ok (_, node) =>
      if node.mine then .ok (stamped state node.identity)
      else if time.isSome then .error (refusal "setting times of " operand (.os 1))
      else if node.allows Node.toWrite then .ok (stamped state node.identity)
      else refused .permissionDenied
  | .error .notFound =>
      if given.has 'c' || given.has 'h' then .ok state
      else
        match state.placeFor operand with
        | .error error => refused error
        | .ok position =>
            if operand.getLast? = some '/' then
              .error (refusal "setting times of " operand .notFound)
            else
              match putNew state position (.file []) (state.newMode (.file [])) with
              | .error error => refused error
              | .ok after => .ok (stamped after (after.nodeOf position).identity)
  | .error error =>
      if given.has 'c' && error = .notDirectory then .ok state
      else .error (refusal (if operand.getLast? = some '/' then "setting times of "
        else "cannot touch ") operand error)

def touch : Tool := reading "touch" ⟨"acfhm", "drtτ", [("no-create", 'c'), ("date", 'd'),
    ("reference", 'r'), ("no-dereference", 'h'), ("time", 'τ')], true⟩ 1 fun state given =>
  match touchTime state given with
  | .error message => done (complain state "touch" message) 1
  | .ok time =>
      if given.operands = [] then
        done (misused state "touch" "missing file operand".toList) 1
      else forEach state given.operands (touchOne given time) "touch"

/-- Everything below a position, and what stands there itself. -/
def treeOf (state : State) (position : Position) : List Position :=
  position :: (state.world.files.entries.filter fun entry =>
    position.isPrefixOf entry.1 && position ≠ entry.1).map Prod.fst

def modeDigits (mode : Nat) : Text :=
  let digits := Nat.toDigits 8 mode
  List.replicate (4 - digits.length) '0' ++ digits

/-- Whether an argument is a mode that takes something away, not a switch. -/
def isMinusMode : Text → Bool
  | '-' :: letter :: letters =>
      "rwxXstugo,=+0".toList.contains letter &&
        letters.all fun char => "rwxXstugoa,=+-01234567".toList.contains char
  | _ => false

/-- Gives one file other permissions; the second part tells whether that failed. -/
def changeMode (given : Given) (mode : Mode) (isMinus : Bool) (state : State) (path : Text)
    (node : Node) : State × Bool :=
  let isDirectory : Bool := node.entry = .directory
  let new := mode.apply state.mask isDirectory node.mode
  let expected := mode.apply 0 isDirectory node.mode
  let letters (mode : Nat) : Text := (modeText state { node with mode := mode }).drop 1
  if !node.mine then
    (if given.has 'f' then state
      else complain state "chmod" (refusal "changing permissions of " path (.os 1)), true)
  else
    let changed := state.change (.setMode node.identity new)
    let told := if new ≠ node.mode && (given.has 'v' || given.has 'c') then
        changed.write 1 ("mode of ".toList ++ named path ++ " changed from ".toList ++
          modeDigits node.mode ++ " (".toList ++ letters node.mode ++ ") to ".toList ++
          modeDigits new ++ " (".toList ++ letters new ++ ")\n".toList)
      else if given.has 'v' then
        changed.write 1 ("mode of ".toList ++ named path ++ " retained as ".toList ++
          modeDigits node.mode ++ " (".toList ++ letters node.mode ++ ")\n".toList)
      else changed
    if isMinus && Mode.without new expected ≠ 0 then
      (complain told "chmod" (Quoting.whenNeeded path ++ ": new permissions are ".toList ++
        letters new ++ ", not ".toList ++ letters expected), true)
    else (told, false)

/-- Gives a file other permissions, and all below it if that is wished. -/
def changeModes (given : Given) (mode : Mode) (isMinus : Bool) :
    Nat → State → Text → State × Bool
  | 0, state, _ => (state, true)
  | depth + 1, state, path =>
      match state.nodeAt false path with
      | .error error =>
          let dangling := (state.nodeAt true path).toOption.isSome
          (if given.has 'f' then state
            else complain state "chmod" (if dangling then
                "cannot operate on dangling symlink ".toList ++ named path
              else refusal "cannot access " path error), true)
      | .ok (position, node) =>
          let (state, failed) := changeMode given mode isMinus state path node
          if given.has 'R' && node.entry = .directory then
            if !(state.nodeOf position).allows Node.toRead then
              (complain state "chmod" (refusal "cannot read directory " path .permissionDenied),
                true)
            else
              (sortedNames state position).foldl
                (fun (state, failed) name =>
                  match state.world.files.get? (position ++ [Text.toBytes name]) with
                  | some (.link _) => (state, failed)
                  | _ =>
                      let (state, wrong) :=
                        changeModes given mode isMinus depth state (below path name)
                      (state, failed || wrong))
                (state, failed)
          else (state, failed)

def chmod : Tool := fun state arguments =>
  let isMinus := arguments.any isMinusMode
  let (minus, others) : List Text × List Text :=
    if isMinus then
      let front := arguments.takeWhile fun argument => !isMinusMode argument
      ((arguments.drop front.length).take 1, front ++ arguments.drop (front.length + 1))
    else ([], arguments)
  let action := reading "chmod" ⟨"Rcfv", "ρ", [("recursive", 'R'), ("verbose", 'v'),
      ("changes", 'c'), ("silent", 'f'), ("quiet", 'f'), ("reference", 'ρ')], true⟩ 1
      fun state given =>
    let operands := minus ++ given.operands
    match operands, given.value? 'ρ' with
    | [], _ => done (misused state "chmod" "missing operand".toList) 1
    | operands, some path =>
        match state.nodeAt false path with
        | .error error =>
            done (complain state "chmod" (refusal "failed to get attributes of " path error)) 1
        | .ok (_, node) => run state given (.exact node.mode 5) false operands
    | [mode], none =>
        done (misused state "chmod" ("missing operand after ".toList ++ quoted mode)) 1
    | text :: operands, none =>
        match Mode.ofText? text with
        | none => done (misused state "chmod" ("invalid mode: ".toList ++ quoted text)) 1
        | some mode => run state given mode isMinus operands
  action state others
where
  /-- Changes the permissions of the operands. -/
  run (state : State) (given : Given) (mode : Mode) (isMinus : Bool) (operands : List Text) :
      Flow × State :=
    let (state, failed) := operands.foldl
      (fun (state, failed) operand =>
        let (state, wrong) := changeModes given mode isMinus deepest state operand
        (state, failed || wrong))
      (state, false)
    done state (if failed then 1 else 0)

/-- A size that is set, or changed by so much. -/
def newSize? (text : Text) (old : Nat) : Option Nat :=
  let amount (digits : Text) : Option Nat :=
    (Magnitude.read Magnitude.usualLetters 0 (Magnitude.limit - 1) digits).toOption
  match text with
  | '+' :: digits => (amount digits).map (old + ·)
  | '-' :: digits => (amount digits).map (old - ·)
  | '<' :: digits => (amount digits).map (min old ·)
  | '>' :: digits => (amount digits).map (max old ·)
  | '/' :: digits => (amount digits).bind fun unit =>
      if unit = 0 then none else some (old / unit * unit)
  | '%' :: digits => (amount digits).bind fun unit =>
      if unit = 0 then none else some ((old + unit - 1) / unit * unit)
  | digits => amount digits

/-- Cuts or fills up one file. -/
def truncateOne (given : Given) (size : Text) (state : State) (operand : Text) :
    Except Text State :=
  let refused (error : IoError) : Except Text State :=
    .error ("cannot open ".toList ++ named operand ++ " for writing: ".toList ++ reason error)
  let cut (data : Bytes) : Entry :=
    let wanted := (newSize? size data.length).getD 0
    .file (data.take wanted ++ List.replicate (wanted - data.length) 0)
  match state.placeFor operand with
  | .error error => refused error
  | .ok position =>
      match state.world.files.node? position with
      | none =>
          if given.has 'c' then .ok state
          else
            match putNew state position (cut []) (state.newMode (.file [])) with
            | .ok state => .ok state
            | .error error => refused error
      | some node =>
          match node.entry with
          | .file data =>
              if node.allows Node.toWrite then .ok (state.putEntry position (cut data))
              else refused .permissionDenied
          | .directory => refused .isDirectory
          | .program _ => refused .permissionDenied
          | _ => .ok state

def truncate : Tool := reading "truncate" ⟨"co", "sr", [("size", 's'), ("no-create", 'c'),
    ("reference", 'r'), ("io-blocks", 'o')], true⟩ 1 fun state given =>
  let size? : Except Text (Option Text) := match given.value? 's', given.value? 'r' with
    | some size, _ => .ok (some size)
    | none, some path =>
        match state.nodeAt false path with
        | .ok (_, node) => .ok (some (Text.ofNat (state.sizeOf node.entry)))
        | .error error => .error (refusal "cannot stat " path error)
    | none, none => .ok none
  match size? with
  | .error message => done (complain state "truncate" message) 1
  | .ok none => done (misused state "truncate"
      "you must specify either '--size' or '--reference'".toList) 1
  | .ok (some size) =>
      if (newSize? size 0).isNone then
        done (complain state "truncate" ("Invalid number: ".toList ++ quoted size)) 1
      else
        forOperands "truncate" "missing file operand" given (truncateOne given size) state

def nameLetters : List Char :=
  "abcdefghijklmnopqrstuvwxyzABCDEFGHIJKLMNOPQRSTUVWXYZ0123456789".toList

/-- So many letters that hang on a number in no obvious way. -/
def madeUp : Nat → Nat → Text
  | 0, _ => []
  | count + 1, seed =>
      nameLetters.getD (seed / 65536 % 62) 'a' ::
        madeUp count ((seed * 1103515245 + 12345) % 2147483648)

/-- A path made of a template: its last run of capital X is replaced. -/
def fromTemplate (template ending : Text) (seed : Nat) : Text :=
  let count := (template.reverse.takeWhile (· = 'X')).length
  template.take (template.length - count) ++ madeUp count seed ++ ending

/-- A new path of a template, which names nothing yet. -/
def freshPath (state : State) (template ending : Text) : Nat → Nat → Text
  | 0, seed => fromTemplate template ending seed
  | tries + 1, seed =>
      let path := fromTemplate template ending seed
      if (state.nodeAt true path).toOption.isSome then
        freshPath state template ending tries (seed + 98765431)
      else path

def mktemp : Tool := reading "mktemp" ⟨"duqtVπ", "pσπ", [("directory", 'd'), ("dry-run", 'u'),
    ("quiet", 'q'), ("tmpdir", 'π'), ("suffix", 'σ')], true⟩ 1 fun state given =>
  let folder := (((given.value? 'p').or (given.value? 'π')).filter (· ≠ [])).getD
    ((state.value? "TMPDIR".toList |>.filter (· ≠ [])).getD "/tmp".toList)
  match given.operands with
  | _ :: _ :: _ => done (misused state "mktemp" "too many templates".toList) 1
  | operands =>
      let whole := operands.headD "tmp.XXXXXXXXXX".toList
      let front := (whole.reverse.dropWhile (· ≠ 'X')).reverse
      let (template, ending) := match given.value? 'σ' with
        | some ending => (whole, ending)
        | none => (front, whole.drop front.length)
      let count := (template.reverse.takeWhile (· = 'X')).length
      let inFolder := given.has 'p' || given.has 'π' || given.has 't' || operands = []
      if count < 3 then
        done (complain state "mktemp" ("too few X's in template ".toList ++ quoted whole)) 1
      else
        let template := if inFolder then below folder template else template
        let seed := 40503 * (state.world.changes + 1) + 69069 * (state.number + 7)
        let path := freshPath state template ending 100 seed
        let made : Except IoError State :=
          if given.has 'u' then .ok state
          else do
            let position ← state.placeFor path
            if given.has 'd' then putNew state position .directory 0o700
            else putNew state position (.file []) 0o600
        match made with
        | .ok state => done (state.write 1 (path ++ ['\n'])) 0
        | .error error =>
            let kind := if given.has 'd' then "directory" else "file"
            let shown := template ++ ending
            done (if given.has 'q' then state
              else complain state "mktemp" ("failed to create ".toList ++ kind.toList ++
                " via template ".toList ++ quoted shown ++ ": ".toList ++ reason error)) 1

end Tools

end FolderScript.Shell
