/-
The programs that copy, move and link files and directories.
-/
import FolderScript.Machine.Shell.Tools.Removing

namespace FolderScript.Shell

namespace Tools

/-- Where operands go: to a directory that is there, or to one new name. -/
inductive Destination where
  | inside (path : Text)
  | named (path : Text)
  deriving DecidableEq, Repr

def Destination.pathFor (destination : Destination) (operand : Text) : Text :=
  match destination with
  | .inside path => if lastName operand = ['.', '.'] then path else below path (lastName operand)
  | .named path => path

/-- The operands and where they go, or what is wrong with them. -/
def destinationOf (state : State) (given : Given) :
    Except (Text × Bool) (List Text × Destination) :=
  let target (path : Text) (error : IoError) : Text × Bool :=
    ("target ".toList ++ named path ++ ": ".toList ++ reason error, false)
  let targetDirectory (path : Text) (error : IoError) : Text × Bool :=
    ("target directory ".toList ++ named path ++ ": ".toList ++ reason error, false)
  match given.operands, given.value? 't' with
  | [], _ => .error ("missing file operand".toList, true)
  | operands, some path =>
      match state.stat path with
      | .ok (_, .directory) => .ok (operands, .inside path)
      | .ok _ => .error (targetDirectory path .notDirectory)
      | .error error => .error (targetDirectory path error)
  | [operand], none =>
      .error ("missing destination file operand after ".toList ++ named operand, true)
  | operands, none =>
      let last := operands.getLastD []
      let isLinkKept := given.has 'ν' &&
        (match state.nodeAt true last with
        | .ok (_, { entry := .link _, .. }) => true
        | _ => false)
      if given.has 'T' then
        match operands.drop 2 with
        | extra :: _ => .error ("extra operand ".toList ++ named extra, true)
        | [] => .ok (operands.dropLast, .named last)
      else if isFolder state last && !isLinkKept then .ok (operands.dropLast, .inside last)
      else if operands.length = 2 then .ok (operands.dropLast, .named last)
      else
        match state.stat last with
        | .error error => .error (target last error)
        | .ok _ => .error (target last .notDirectory)

/-- Carries out an action on operands and their destination; it tells whether something
went wrong.  What has just been made is not overwritten. -/
def withDestination (tool : String) (given : Given)
    (action : State → Text → Text → State × Bool) (state : State) : Flow × State :=
  match destinationOf state given with
  | .error (message, true) => done (misused state tool message) 1
  | .error (message, false) => done (complain state tool message) 1
  | .ok (operands, destination) =>
      let (state, failed, _) := operands.foldl
        (fun (state, failed, made) operand =>
          let path := destination.pathFor operand
          let place := (state.nameFor (withoutSlashes path)).toOption
          let isThere := (state.nodeAt true operand).toOption.isSome
          if isThere && !isFolder state operand && place.any fun place => made.contains place then
            (complain state tool ("will not overwrite just-created ".toList ++ named path ++
              " with ".toList ++ named operand), true, made)
          else
            let (state, wrong) := action state operand path
            (state, failed || wrong,
              match place with
              | some place => if wrong then made else place :: made
              | none => made))
        (state, false, ([] : List Position))
      done state (if failed then 1 else 0)

/-- The path under which something that gives way is kept. -/
def spareName (given : Given) (path : Text) : Text :=
  withoutSlashes path ++ (given.value? 'S').getD ['~']

/-- Keeps what stands at a path under another name, if that is wished. -/
def keepSpare (given : Given) (state : State) (path : Text) : State :=
  if !(given.has 'b' || given.has 'S') then state
  else
    match state.nodeAt true path, state.nameFor (spareName given path) with
    | .ok (old, _), .ok new => state.change (.move old new)
    | _, _ => state

/-- The bytes of a file that is copied. -/
def contentOf (state : State) (node : Node) : Except IoError (Bytes × State) :=
  if !node.allows Node.toRead then .error .permissionDenied
  else
    match node.entry with
    | .file data => .ok (data, state)
    | .program _ => .ok (FileSystem.programBytes, state)
    | .device (.descriptor number) => .ok (state.readAll number)
    | _ => .ok ([], state)

/-- What a copy of something is: a program stays one. -/
def copyEntry (entry : Entry) (data : Bytes) : Entry :=
  match entry with
  | .program name => .program name
  | _ => .file data

/-- Whether a question about what would be overwritten is answered with no. -/
def isSpared (tool : String) (given : Given) (state : State) (path : Text) : Bool × State :=
  if given.last? ['n', 'f', 'i'] = some 'i' then
    let (agreed, state) := agrees state (tool.toList ++ ": overwrite ".toList ++ named path ++
      "? ".toList)
    (!agreed, state)
  else (false, state)

/-- Gives a copy the permissions and the time of what it is a copy of, if that is wished. -/
def preserve (given : Given) (state : State) (position : Position) (node : Node) : State :=
  if !(given.has 'p' || given.has 'a') then state
  else
    let identity := (state.nodeOf position).identity
    (state.change (.setMode identity node.mode)).change (.setTime identity node.modified)

/-- Whether a path is given up because what stands there is newer, or to be kept. -/
def isUpToDate (given : Given) (node old : Node) : Bool :=
  (given.has 'u' && decide (node.modified ≤ old.modified)) ||
    given.last? ['n', 'f', 'i'] = some 'n'

def copyFile (tool : String) (given : Given) (state : State) (operand path : Text)
    (source : Position) (node : Node) : State × Bool :=
  let wrong (state : State) (message : Text) : State × Bool := (complain state tool message, true)
  let told (state : State) : State × Bool :=
    (telling given state (named operand ++ " -> ".toList ++ named path), false)
  let refused (error : IoError) : State × Bool :=
    wrong state (refusal "cannot create regular file " path error)
  let linkTo (state : State) (position : Position) : State × Bool :=
    if given.has 'l' then told (state.change (.link source position))
    else if operand.head? ≠ some '/' ∧ path.contains '/' then
      wrong state (Quoting.whenNeeded path ++
        ": can make relative symbolic links only in current directory".toList)
    else told (state.putEntry position (.link (Text.toBytes operand)))
  let fresh (state : State) (position : Position) : State × Bool :=
    if !state.mayChange position.dropLast then refused .permissionDenied
    else if given.has 'l' || given.has 's' then linkTo state position
    else
      match contentOf state node with
      | .error error =>
          wrong state ("cannot open ".toList ++ named operand ++ " for reading: ".toList ++
            reason error)
      | .ok (data, state) =>
          let mode := Nat.land (Nat.land node.mode 0o777) (0o777 - state.mask)
          let made := state.putWithMode position (copyEntry node.entry data) mode
          told (preserve given made position node)
  match state.nodeAt false path with
  | .error .notFound =>
      if (state.nodeAt true path).toOption.isSome then
        wrong state ("not writing through dangling symlink ".toList ++ named path)
      else if path.getLast? = some '/' then refused .notDirectory
      else
        match state.placeFor path with
        | .error error => refused error
        | .ok position => fresh state position
  | .error error => wrong state (refusal "cannot stat " path error)
  | .ok (position, old) =>
      if old.entry = .directory then
        wrong state ("cannot overwrite directory ".toList ++ named path ++
          " with non-directory".toList)
      else if source = position ∨ node.identity = old.identity then
        if given.has 'b' then (state, false)
        else wrong state (named operand ++ " and ".toList ++ named path ++
          " are the same file".toList)
      else if isUpToDate given node old then (state, false)
      else
        let (spared, state) := isSpared tool given state path
        if spared then (state, false)
        else if given.has 'b' || given.has 'S' then fresh (keepSpare given state path) position
        else if given.has 'l' || given.has 's' then
          if given.has 'f' then fresh (state.removeEntry position) position
          else wrong state ("cannot create ".toList ++
            (if given.has 'l' then "hard link " else "symbolic link ").toList ++ named path ++
            (if given.has 'l' then " to ".toList ++ named operand else []) ++ ": ".toList ++
            reason .fileExists)
        else
          match old.entry, old.allows Node.toWrite with
          | .device (.descriptor number), _ =>
              match contentOf state node with
              | .error error => wrong state (refusal "cannot open " operand error)
              | .ok (data, state) => told (state.writeBytes number data)
          | .device _, _ => told state
          | _, false =>
              if given.has 'f' then fresh (state.removeEntry position) position
              else refused .permissionDenied
          | _, true =>
              match contentOf state node with
              | .error error =>
                  wrong state ("cannot open ".toList ++ named operand ++
                    " for reading: ".toList ++ reason error)
              | .ok (data, state) =>
                  let made := state.putEntry position (copyEntry node.entry data)
                  told (preserve given made position node)

def copyLink (tool : String) (given : Given) (state : State) (operand path : Text)
    (source : Position) (node : Node) : State × Bool :=
  let wrong (message : Text) : State × Bool := (complain state tool message, true)
  match state.nameFor path with
  | .error error => wrong (refusal "cannot create symbolic link " path error)
  | .ok position =>
      match state.world.files.node? position with
      | some old =>
          if old.entry = .directory then
            wrong ("cannot overwrite directory ".toList ++ named path ++
              " with non-directory".toList)
          else if source = position then
            wrong (named operand ++ " and ".toList ++ named path ++ " are the same file".toList)
          else if isUpToDate given node old then (state, false)
          else
            (telling given ((state.removeEntry position).putEntry position node.entry)
              (named operand ++ " -> ".toList ++ named path), false)
      | none =>
          if !state.mayChange position.dropLast then
            wrong (refusal "cannot create symbolic link " path .permissionDenied)
          else
            (telling given (state.putEntry position node.entry)
              (named operand ++ " -> ".toList ++ named path), false)

/-- Copies what a path names to another path, with all below it if that is wished.
`root` is the position that is copied, which does not go into itself. -/
def copyTree (tool : String) (given : Given) (isTop : Bool) (root : Position) :
    Nat → State → Text → Text → State × Bool
  | 0, state, _, _ => (state, true)
  | depth + 1, state, operand, path =>
      let wrong (message : Text) : State × Bool := (complain state tool message, true)
      let deep := given.has 'r' || given.has 'R' || given.has 'a'
      let keeps := match given.last? ['L', 'P', 'H', 'd', 'a'] with
        | some 'L' => false
        | some 'H' => !isTop
        | some _ => true
        | none => deep
      match state.nodeAt keeps operand with
      | .error error => wrong (refusal "cannot stat " operand error)
      | .ok (source, node) =>
          match node.entry with
          | .directory =>
              if !deep then wrong ("-r not specified; omitting directory ".toList ++ named operand)
              else
                match state.nameFor (withoutSlashes path) with
                | .error error => wrong (refusal "cannot create directory " path error)
                | .ok position =>
                    let into := isTop && source.isPrefixOf position
                    let old? := state.world.files.node? position
                    if old?.any fun old => old.entry ≠ .directory then
                      wrong ("cannot overwrite non-directory ".toList ++ named path ++
                        " with directory ".toList ++ named operand)
                    else if !(node.allows Node.toRead && node.allows Node.toSearch) then
                      wrong (refusal "cannot access " operand .permissionDenied)
                    else if old?.isNone && !state.mayChange position.dropLast then
                      wrong (refusal "cannot create directory " path .permissionDenied)
                    else
                      let names := sortedNames state source
                      let mode := Nat.land (Nat.land node.mode 0o777) (0o777 - state.mask)
                      let state := if old?.isSome then state
                        else telling given (state.putWithMode position .directory mode)
                          (named operand ++ " -> ".toList ++ named path)
                      let root := if isTop then position else root
                      let (state, failed) := names.foldl
                        (fun (state, failed) name =>
                          if source ++ [Text.toBytes name] = root then (state, failed)
                          else
                            let (state, wrong) := copyTree tool given false root depth state
                              (below operand name) (below path name)
                            (state, failed || wrong))
                        (state, false)
                      let state := preserve given state position node
                      if into then
                        (complain state tool ("cannot copy a directory, ".toList ++
                          named operand ++ ", into itself, ".toList ++ named path), true)
                      else (state, failed)
          | .link _ => copyLink tool given state operand path source node
          | _ => copyFile tool given state operand path source node

/-- Copies one thing to a path; its own directories may be made on the way. -/
def copyOne (given : Given) (state : State) (operand path : Text) : State × Bool :=
  if !given.has 'π' then copyTree "cp" given true [] deepest state operand path
  else
    let folder := path.take (path.length - (lastName path).length)
    let whole := below folder operand
    let front := withoutSlashes (whole.take (whole.length - (lastName operand).length))
    match makeWays state front with
    | .error message => (complain state "cp" message, true)
    | .ok (_, state) => copyTree "cp" given true [] deepest state operand whole

def cp : Tool := reading "cp" ⟨"abdfHilLnpPrRsTuvxZπρ", "tSρ", [("recursive", 'r'),
    ("archive", 'a'), ("force", 'f'), ("no-clobber", 'n'), ("verbose", 'v'),
    ("interactive", 'i'), ("preserve", 'ρ'), ("target-directory", 't'), ("parents", 'π'),
    ("no-target-directory", 'T'), ("update", 'u'), ("backup", 'b'), ("link", 'l'),
    ("symbolic-link", 's'), ("dereference", 'L'), ("no-dereference", 'P'), ("suffix", 'S'),
    ("one-file-system", 'x')], true⟩ 1 fun state given =>
  let warned := if given.has 'n' then complain state "cp"
      "warning: behavior of -n is non-portable and may change in future; use --update=none instead".toList
    else state
  let given := { given with switches := given.switches.map fun (letter, value) =>
    if letter = 'ρ' then ('p', value) else (letter, value) }
  withDestination "cp" given (copyOne given) warned

def moveOne (given : Given) (state : State) (operand path : Text) : State × Bool :=
  let wrong (message : Text) : State × Bool := (complain state "mv" message, true)
  let refused (error : IoError) : State × Bool :=
    wrong ("cannot move ".toList ++ named operand ++ " to ".toList ++ named path ++
      ": ".toList ++ reason error)
  let intoItself : State × Bool :=
    wrong ("cannot move ".toList ++ named operand ++ " to a subdirectory of itself, ".toList ++
      named path)
  let moved (state : State) (source target : Position) : State × Bool :=
    if !(state.mayChange source.dropLast && state.mayChange target.dropLast) then
      refused .permissionDenied
    else
      (telling given (state.change (.move source target))
        ("renamed ".toList ++ named operand ++ " -> ".toList ++ named path), false)
  match state.nodeAt true operand with
  | .error error => wrong (refusal "cannot stat " operand error)
  | .ok (source, node) =>
      match state.nodeAt true path with
      | .error .notFound =>
          if path.getLast? = some '/' ∧ node.entry ≠ .directory then refused .notDirectory
          else
            match state.nameFor (withoutSlashes path) with
            | .error error => refused error
            | .ok target =>
                if source.isPrefixOf target then intoItself else moved state source target
      | .error error => wrong (refusal "cannot stat " path error)
      | .ok (target, old) =>
          if source = target ∧ node.entry = .directory ∧ given.has 'T' then
            wrong (named operand ++ " and ".toList ++ named path ++ " are the same file".toList)
          else if node.entry ≠ .directory ∧ node.identity = old.identity then
            wrong (named operand ++ " and ".toList ++ named path ++ " are the same file".toList)
          else if source.isPrefixOf target then intoItself
          else if given.last? ['n', 'f', 'i'] = some 'n' then
            wrong ("not replacing ".toList ++ named path)
          else if given.has 'u' && decide (node.modified ≤ old.modified) then (state, false)
          else if node.entry = .directory ∧ old.entry ≠ .directory then
            wrong ("cannot overwrite non-directory ".toList ++ named path ++
              " with directory ".toList ++ named operand)
          else if node.entry ≠ .directory ∧ old.entry = .directory then
            wrong ("cannot overwrite directory ".toList ++ named path ++
              " with non-directory".toList)
          else
            let (spared, state) := isSpared "mv" given state path
            if spared then (state, false)
            else if old.entry = .directory ∧ state.world.files.names target ≠ [] then
              (complain state "mv" (refusal "cannot overwrite " path .directoryNotEmpty), true)
            else moved (keepSpare given state path) source target

def mv : Tool := reading "mv" ⟨"bfinTuvZ", "tS", [("force", 'f'), ("no-clobber", 'n'),
    ("verbose", 'v'), ("interactive", 'i'), ("target-directory", 't'), ("backup", 'b'),
    ("suffix", 'S'), ("no-target-directory", 'T'), ("update", 'u')], true⟩ 1 fun state given =>
  withDestination "mv" given (moveOne given) state

def wayFrom (directory position : Position) : Text :=
  let rec shared : Position → Position → Nat
    | left :: lefts, right :: rights => if left = right then shared lefts rights + 1 else 0
    | _, _ => 0
  let count := shared directory position
  let ups := List.replicate (directory.length - count) ['.', '.']
  let way := ups ++ (position.drop count).map Text.ofBytes
  if way = [] then ['.'] else Text.join ['/'] way

/-- Makes a link to a path, seen from where the link stands if that is wished. -/
def symbolicTarget (given : Given) (state : State) (operand : Text) (position : Position) : Text :=
  if !given.has 'r' then operand
  else
    let aim := match state.stat operand with
      | .ok (position, _) => position
      | .error _ => (state.placeFor operand).toOption.getD []
    wayFrom position.dropLast aim

/-- Gives a file another name besides the one it has, or makes a link to it. -/
def linkOne (given : Given) (state : State) (operand path : Text) : State × Bool :=
  let wrong (message : Text) : State × Bool := (complain state "ln" message, true)
  let isSymbolic := given.has 's'
  let words := if isSymbolic then "failed to create symbolic link " else "failed to create hard link "
  let refused (error : IoError) : State × Bool :=
    if isSymbolic && operand = [] then
      wrong (words.toList ++ named path ++ " -> ".toList ++ named operand ++ ": ".toList ++
        reason error)
    else if isSymbolic || error = .fileExists then wrong (refusal words path error)
    else wrong (words.toList ++ named path ++ " => ".toList ++ named operand ++ ": ".toList ++
      reason error)
  let told (state : State) (arrow : String) : State × Bool :=
    (telling given state (named path ++ arrow.toList ++ named operand), false)
  let place (source? : Option (Position × Node)) : State × Bool :=
    match state.nameFor path with
    | .error error => refused error
    | .ok position =>
        let old? := state.world.files.node? position
        let replaces := given.has 'f' || given.has 'b' || given.has 'i'
        if old?.isSome && !replaces then refused .fileExists
        else if old?.any fun old => old.entry = .directory then
          wrong (Quoting.whenNeeded path ++ ": cannot overwrite directory".toList)
        else if old?.any fun old => source?.any fun source => source.2.identity = old.identity then
          wrong (named operand ++ " and ".toList ++ named path ++ " are the same file".toList)
        else if isSymbolic && operand = [] then refused .notFound
        else if !state.mayChange position.dropLast then refused .permissionDenied
        else
          let state := if old?.isNone then state
            else if given.has 'b' then keepSpare given state path
            else state.removeEntry position
          match source? with
          | some (source, _) => told (state.change (.link source position)) " => "
          | none =>
              told (state.putEntry position
                (.link (Text.toBytes (symbolicTarget given state operand position)))) " -> "
  if isSymbolic then place none
  else
    match state.nodeAt (!given.has 'L') operand with
    | .error error => wrong (refusal "failed to access " operand error)
    | .ok (source, node) =>
        if node.entry = .directory then
          wrong (operand ++ ": hard link not allowed for directory".toList)
        else place (some (source, node))

def ln : Tool := reading "ln" ⟨"bdfFiLnPrsTv", "tS", [("symbolic", 's'), ("force", 'f'),
    ("verbose", 'v'), ("no-dereference", 'n'), ("relative", 'r'), ("target-directory", 't'),
    ("no-target-directory", 'T'), ("backup", 'b'), ("interactive", 'i')], true⟩ 1
    fun state given =>
  let given := { given with switches := given.switches.map fun (letter, value) =>
    if letter = 'n' then ('ν', value) else (letter, value) }
  match given.operands with
  | [] => done (misused state "ln" "missing file operand".toList) 1
  | [operand] =>
      if given.has 't' then withDestination "ln" given (linkOne given) state
      else withDestination "ln" { given with operands := [operand, ['.']] } (linkOne given) state
  | _ => withDestination "ln" given (linkOne given) state

/-- Copies files with permissions of their own, or makes directories. -/
def install : Tool := reading "install" ⟨"bcCdDpsTv", "gmoStO", [("directory", 'd'),
    ("mode", 'm'), ("verbose", 'v'), ("target-directory", 't'), ("owner", 'o'),
    ("group", 'g')], true⟩ 1 fun state given =>
  let text := (given.value? 'm').getD "755".toList
  match Mode.ofText? text with
  | none => done (complain state "install" ("invalid mode ".toList ++ quoted text)) 1
  | some mode =>
      let withMode (state : State) (path : Text) : State :=
        setModeAt (setModeAt state path (.exact 0 5)) path mode
      if given.has 'd' then
        forOperands "install" "missing file operand" given
          (fun state operand =>
            match makeWays state operand with
            | .error message => .error message
            | .ok (made, state) =>
                .ok (made.foldl (fun state path => telling given state
                  ("install: creating directory ".toList ++ named path))
                  (withMode state operand)))
          state
      else
        let state := if given.has 'D' then
            match given.operands.getLast?, given.value? 't' with
            | some path, none =>
                (makeWays state (withoutSlashes (path.take
                  (path.length - (lastName path).length)))).toOption.elim state Prod.snd
            | _, some path => (makeWays state path).toOption.elim state Prod.snd
            | none, none => state
          else state
        withDestination "install" given
          (fun state operand path =>
            if isFolder state operand then
              (complain state "install" ("omitting directory ".toList ++ named operand), true)
            else
              let cleared := match state.nodeAt true path with
                | .ok (position, node) =>
                    if node.entry = .directory then state else state.removeEntry position
                | .error _ => state
              let (state, failed) :=
                copyTree "install" given true [] deepest cleared operand path
              (if failed then state else withMode state path, failed))
          state

end Tools

end FolderScript.Shell
