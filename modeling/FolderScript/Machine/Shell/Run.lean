/-
Carrying out scripts.  Every step takes from a supply; a script that has used it
up counts as one that goes on for ever.
-/
import FolderScript.Machine.Shell.Arithmetic
import FolderScript.Machine.Shell.Bash.Printed
import FolderScript.Machine.Shell.Calling
import FolderScript.Machine.Shell.Fields
import FolderScript.Machine.Shell.Redirecting
import FolderScript.Machine.Shell.Tools

namespace FolderScript.Shell

abbrev Ended := Flow × State

/-- Pieces that may be cut unless they are quoted. -/
def cutting (pieces : List Piece) : List Piece :=
  pieces.map fun piece =>
    match piece with
    | .letter char false _ => .letter char false true
    | other => other

/-- The text without the line ends after it, and without zero bytes. -/
def trimOutput (bytes : Bytes) : Text :=
  let text := (Text.ofBytes bytes).filter fun char => char.toNat ≠ 0
  (text.reverse.dropWhile (· = '\n')).reverse

/-- An assignment that was carried out, and the variable as it was before. -/
structure Assigned where
  name : Text
  value : Text
  before : Option Variable
  deriving DecidableEq, Repr

/-- How a part of a pipeline ended: the last of its stages, the times when the first of
them and all of them had ended, and their statuses. -/
structure Piped where
  flow : Flow
  state : State
  firstEnd : Option Duration
  allEnd : Option Duration
  statuses : List Nat

/-- The status of a pipeline that fails with any of its stages: that of the last one that
fails. -/
def failureOf (statuses : List Nat) : Nat := (statuses.reverse.find? (· ≠ 0)).getD 0

/-- The later of two times, if both ever come. -/
def later (first second : Option Duration) : Option Duration :=
  match first, second with
  | some first, some second => some (max first second)
  | _, _ => none

/-- How much later than the end of its reader a write must be to count as lost. -/
def lateness : Duration := 20000

namespace State

def startStatus (error : IoError) : Nat :=
  if error = .notFound || error = .notDirectory || error = .tooManyLinks ||
    error = .nameTooLong then 127 else 126

/-- How it is complained about a program that cannot be started. -/
def startReason (error : IoError) : Text :=
  if error = .notFound || error = .notDirectory then "not found".toList
  else Tools.reason error

/-- What is wrong with a program that cannot be started, and the status of that, in the
large language. -/
def largeStartFailure (state : State) (place : Text) (error : IoError) : Text × Nat :=
  let isFolder := match state.stat place with
    | .ok (_, .directory) => true
    | _ => false
  let isThere := (state.stat place).toOption.isSome
  let reason (text : String) (status : Nat) : Text × Nat := (place ++ text.toList, status)
  if isFolder then reason ": Is a directory" 126
  else if error = .notFound && isThere then
    reason ": cannot execute: required file not found" 127
  else if error = .notFound then reason ": No such file or directory" 127
  else if error = .execFormat then reason ": cannot execute binary file: Exec format error" 126
  else (place ++ ": ".toList ++ largeReason error, 126)

/-- Where programs are looked for. -/
def searchPath (state : State) : Option Text :=
  some ((state.value? "PATH".toList).getD [])

/-- Remembers the place of a program that was found by its name. -/
def remember (state : State) (name : Text) : State :=
  if name.contains '/' || state.located.contains name then state
  else { state with located := name :: state.located }

/-- The signals that come for this process. -/
def incoming (state : State) : List Signal :=
  let here := if state.number = state.shellNumber then
      state.world.signals.filter fun signal => signal.target = state.shellNumber
    else []
  let foretold := state.world.foretold.signals.filter fun signal =>
    state.self = some signal.target && !state.world.seen.contains signal
  here ++ foretold ++ state.group

/-- The first signal that comes for this process up to a time. -/
def due? (state : State) (time : Option Duration) : Option Signal :=
  (state.incoming.filter fun signal => time.all (signal.time ≤ ·)).foldl
    (fun (first : Option Signal) signal =>
      match first with
      | none => some signal
      | some other => if signal.time < other.time then some signal else first)
    none

def without (state : State) (signal : Signal) : State :=
  { state with
    group := state.group.erase signal
    world := { state.world with
      signals := state.world.signals.erase signal
      seen := signal :: state.world.seen } }

/-- Whether a process that is stopped goes on again. -/
def goesOn (state : State) (signal : Signal) : Bool :=
  state.incoming.any fun other => other.number = 18 && signal.time ≤ other.time

/-- How a program ends, if a signal may end it before its time. -/
def struckDown (state : State) (result : Flow × State) : Flow × State :=
  let (flow, after) := result
  let isDue (signal : Signal) : Bool :=
    (flow = .forever || signal.time ≤ after.clock) && Builtins.response state signal = .death
  let known := { state with world := after.world }
  match (known.incoming.filter isDue).mergeSort fun left right => left.time ≤ right.time with
  | [] => result
  | signal :: _ =>
      (.died signal.number, { (after.without signal).cutAt state.owner signal.time with
        clock := signal.time })

/-- The death of the shell by a signal while a command goes on: the command outlives
it. -/
def outlived (state : State) (signal : Signal) (endsAt : Option Duration) : Flow × State :=
  let orphan : Job :=
    { number := 1
      endsAt := endsAt
      status := 0
      holdsOut := state.holds .out
      holdsErr := state.holds .err
      buffers := state.heldBuffers }
  let isForAll := state.group.contains signal
  let left := if isForAll then state.cutAt state.owner signal.time
    else { state with world := { state.world with jobs := state.world.jobs ++ [orphan] } }
  (.died signal.number, { left.without signal with clock := signal.time })

/-- Shows lines of a file as they are read, if that is asked for. -/
def echoed (state : State) (before after : Cursor) : State :=
  if before.isFile && state.has 'v' then
    state.write 2 (before.rest.take (before.rest.length - after.rest.length))
  else state

/-- The state in which a script reads its next line, as far as the reader needs it. -/
def reading (state : State) (cursor : Cursor) : Cursor :=
  let isLarge := state.dialect == .bash
  { cursor with
    aliases := if isLarge && !state.isSetting "expand_aliases" then [] else state.aliases
    dialect := state.dialect
    hasGroups := isLarge && state.isSetting "extglob" }

/-- The complaint about a mistake in a script, which is the end of the script. -/
def misread (state : State) (cursor : Cursor) (fault : SyntaxFault) : Flow × State :=
  match state.dialect with
  | .dash => { state with line := fault.line }.ends fault.message.toList
  | .bash =>
      let lacksEnd := cursor.rest.getLast?.any (· ≠ '\n')
      let line := if fault.isEnd && lacksEnd then fault.line + 1 else fault.line
      let front := state.shownName.getD state.name ++ ": ".toList ++ state.context ++
        "line ".toList ++ Text.ofNat line ++ ": ".toList
      let shown := if fault.showsLine then
          front ++ '\x60' :: (Text.lines cursor.rest).getD (fault.line - cursor.line) [] ++
            ['\'', '\n']
        else []
      (.next, (state.write 2 (front ++ fault.message.toList ++ '\n' :: shown)).withStatus 2)

/-- Goes on after a command that tells whether something holds. -/
def counted (state : State) (holds : Bool) : Flow × State :=
  let status := if holds then 0 else 1
  (.next, { state with status := status, stageStatuses := [status] })

/-- Warns of what a reader has found. -/
def warned (state : State) (warnings : List (Nat × Text)) : State :=
  warnings.foldl
    (fun state (line, text) => state.write 2 (state.shownName.getD state.name ++
      ": line ".toList ++ Text.ofNat line ++ ": warning: ".toList ++ text ++ ['\n'])) state

def writeWith (state : State) (descriptors : List (Nat × Channel)) (text : Text) : State :=
  { ({ state with descriptors := descriptors }.write 2 text) with
    descriptors := state.descriptors }

end State

namespace Run

/-- The value of an expression in the large language. -/
def computed (source : Text) (state : State) : Except Ended (Int × State) :=
  match Expression.compute source state with
  | .ok result => .ok result
  | .error (.unset name) => .error (state.lacks (name ++ ": unbound variable".toList))
  | .error fault => .error (state.drops fault.message)

/-- Gives up the line at hand if something is wrong. -/
def orDrops {α : Type} (state : State) (result : Except Text α) : Except Ended α :=
  match result with
  | .ok value => .ok value
  | .error message => .error (state.drops message)

/-- The key that a text between brackets names.  Where it makes no sense the line at hand
is given up, or all of a script that is a text itself. -/
def keyed (name text : Text) (state : State) : Except Ended (Text × State) :=
  match Bash.keyFound name text state with
  | .ok found => .ok found
  | .error (.subscript target) =>
      .error (state.drops (Expression.Fault.message (.subscript target)))
  | .error fault =>
      if state.isString then .error (.exit 1, (state.complain fault.message).withStatus 1)
      else .error (state.drops fault.message)

/-- Removes what tells the error from the words around it: the descriptors are those from
before. -/
def settled (outer : List (Nat × Channel)) (ended : Ended) : Ended :=
  (ended.1, { ended.2 with descriptors := outer })

/-- Waits for jobs, unless a signal that is caught comes first. -/
def awaited (arguments : List Text) (state : State) : Flow × State :=
  let (flow, after) := match state.dialect with
    | .dash => Builtins.wait state arguments
    | .bash => Bash.wait state arguments
  let time := if flow = .forever then none else some after.clock
  match state.due? time with
  | none => (flow, after)
  | some signal =>
      match Builtins.response state signal with
      | .action _ =>
          (.next, { state with
            clock := max state.clock signal.time
            status := 128 + signal.number })
      | _ => (flow, after)

mutual

def part : Nat → Part → State → Except Ended (List Piece × State)
  | 0, _, state => .error (.forever, state)
  | fuel + 1, wanted, state =>
      match wanted with
      | .literal text quoted => .ok (Piece.literal text quoted, state)
      | .output body quoted => do
          let (text, state) ← capture fuel body state
          pure (Piece.result text quoted, state)
      | .arithmetic expression quoted => do
          let (pieces, state) ← parts fuel expression state
          let source := Piece.plain pieces
          match state.dialect with
          | .dash =>
              match Arithmetic.evaluate state source with
              | .ok (value, state) => pure (Piece.result (Text.ofInt value) quoted, state)
              | .error fault => .error (state.ends (Arithmetic.complaint source fault))
          | .bash =>
              let (value, state) ← computed source state
              pure (Piece.result (Text.ofInt value) quoted, state)
      | .parameter name index modifier quoted =>
          match state.dialect with
          | .dash => parameter fuel name modifier quoted state
          | .bash => largeParameter fuel name index modifier quoted state
      | .names start asOne quoted =>
          .ok ((Content.several (state.namesFrom start) asOne).pieces state quoted, state)
      | .passage body => passage fuel body state
      | .items entries => do
          let (found, state) ← items fuel entries state
          pure (Piece.literal (Bash.listText found) true, state)
termination_by structural fuel => fuel

def parameter : Nat → Text → Modifier → Bool → State → Except Ended (List Piece × State)
  | 0, _, _, _, state => .error (.forever, state)
  | fuel + 1, name, modifier, quoted, state =>
      let value? := state.parameter? name
      let isList := name = ['@'] || name = ['*']
      let present (emptyToo : Bool) : Bool :=
        match value? with
        | none => false
        | some value => !(emptyToo && value.isEmpty)
      let shown : List Piece := match name with
        | ['@'] => Piece.arguments state.arguments quoted
        | ['*'] =>
            if quoted then
              Piece.result (Text.join ((Piece.separators state).take 1) state.arguments) true
            else Piece.arguments state.arguments false
        | _ => Piece.result (value?.getD []) quoted
      let other (word : Word) : Except Ended (List Piece × State) := do
        let (pieces, state) ← parts fuel (if quoted then word else state.withHome word) state
        pure (if quoted then pieces else cutting pieces, state)
      let unset : Except Ended (List Piece × State) :=
        .error (state.ends (name ++ ": parameter not set".toList))
      let isMissing := value?.isNone && state.has 'u' && !isList
      match modifier with
      | .bad => .error (state.ends "Bad substitution".toList)
      | .plain => if isMissing then unset else .ok (shown, state)
      | .length =>
          if isMissing then unset
          else .ok (Piece.result (Text.ofNat (value?.getD []).length) quoted, state)
      | .fallback emptyToo word => if present emptyToo then .ok (shown, state) else other word
      | .replace emptyToo word => if present emptyToo then other word else .ok ([], state)
      | .assign emptyToo word =>
          if present emptyToo then .ok (shown, state)
          else if !isName name then
            .error (state.ends (name ++ ": bad variable name".toList))
          else do
            let (pieces, state) ← other word
            let value := Piece.plain pieces
            match state.refusal? name value with
            | some message => .error (state.ends message)
            | none => pure (Piece.result value quoted, state.setVariable name value)
      | .require emptyToo word =>
          if present emptyToo then .ok (shown, state)
          else do
            let (pieces, state) ← other word
            let reason := if !word.isEmpty then Piece.plain pieces
              else if emptyToo then "parameter not set or null".toList
              else "parameter not set".toList
            .error (state.ends (name ++ ": ".toList ++ reason))
      | .cut atFront longest pattern =>
          if isMissing then unset
          else do
            let (pieces, state) ← parts fuel pattern state
            let glyphs := Piece.glyphs pieces
            if name = ['@'] || (name = ['*'] && !quoted) then
              let left := Pattern.cutAll atFront longest glyphs state.arguments
              pure (Piece.arguments left quoted, state)
            else
              pure (Piece.result (Pattern.cut atFront longest glyphs (value?.getD [])) quoted,
                state)
      | _ => .error (state.ends "Bad substitution".toList)
termination_by structural fuel => fuel

/-- What a parameter of the large language holds. -/
def content : Nat → Text → Option Word → State → Except Ended (Content × State)
  | 0, _, _, state => .error (.forever, state)
  | fuel + 1, name, index, state =>
      match index, name with
      | none, ['@'] => .ok (.several state.arguments false, state)
      | none, ['*'] => .ok (.several state.arguments true, state)
      | none, _ =>
          .ok (((Bash.plainValue? state name).map Content.one).getD .missing, state)
      | some [.literal ['@'] _], _ => .ok (.several (Bash.allValues state name) false, state)
      | some [.literal ['*'] _], _ => .ok (.several (Bash.allValues state name) true, state)
      | some word, _ => do
          let (pieces, state) ← parts fuel word state
          match Bash.keyFound name (Piece.plain pieces) state with
          | .error (.subscript _) =>
              pure (.missing, state.complain (name ++ ": bad array subscript".toList))
          | _ => do
              let (key, state) ← keyed name (Piece.plain pieces) state
              let value? := state.element? (state.targetOf State.longestChain name) key
              pure ((value?.map Content.one).getD .missing, state)
termination_by structural fuel => fuel

def largeParameter : Nat → Text → Option Word → Modifier → Bool → State →
    Except Ended (List Piece × State)
  | 0, _, _, _, _, state => .error (.forever, state)
  | fuel + 1, name, index, modifier, quoted, state => do
      let (found, state) ← content fuel name index state
      let isDigits := name.head?.any Char.isDigit || name = ['!']
      let shownName := if isDigits then '$' :: name
        else match index with
          | some word => name ++ '[' :: Printed.word word ++ [']']
          | none => name
      let unset : Except Ended (List Piece × State) :=
        .error (state.lacks (shownName ++ ": unbound variable".toList))
      let isMissing := found = .missing && state.has 'u'
      let shown (content : Content) : Except Ended (List Piece × State) :=
        if isMissing then unset else .ok (content.pieces state quoted, state)
      let other (word : Word) : Except Ended (List Piece × State) := do
        let (pieces, state) ← parts fuel (if quoted then word else state.withHome word) state
        pure (if quoted then pieces else cutting pieces, state)
      let glyphs (word : Word) (state : State) : Except Ended (List Glyph × State) := do
        let (pieces, state) ← parts fuel word state
        pure (Piece.glyphs pieces, state)
      match modifier with
      | .bad => .error (state.drops (name ++ ": bad substitution".toList))
      | .plain => shown found
      | .via inner =>
          let isReference := index.isNone && (state.traitsOf name).contains 'n'
          match found with
          | .missing =>
              .error (state.drops (name ++ ": invalid indirect expansion".toList))
          | found =>
              if isReference then
                pure (Piece.result (state.targetOf State.longestChain name) quoted, state)
              else
                let (target, key) := State.nameAndKey found.text
                let isSpecial := "@*#?$!-".toList.any fun char => target = [char]
                if isName target || isSpecial || (Text.toNat? target).isSome then
                  largeParameter fuel target (key.map fun key => [.literal key false]) inner
                    quoted state
                else .error (state.drops (found.text ++ ": invalid variable name".toList))
      | .length =>
          match found with
          | .several values _ =>
              let isUnknown := index.isSome && values = [] && state.has 'u' &&
                (state.known? (state.targetOf State.longestChain name)).all fun known =>
                  !known.isSet && known.store.isNone
              if isUnknown then
                .error (.exit 1, (state.complain (name ++ ": unbound variable".toList)).withStatus 1)
              else .ok (Piece.result (Text.ofNat values.length) quoted, state)
          | found =>
              if isMissing then unset
              else .ok (Piece.result (Text.ofNat found.text.length) quoted, state)
      | .fallback emptyToo word =>
          if found.isPresent emptyToo then .ok (found.pieces state quoted, state) else other word
      | .replace emptyToo word =>
          if found.isPresent emptyToo then other word else .ok ([], state)
      | .assign emptyToo word =>
          if found.isPresent emptyToo then .ok (found.pieces state quoted, state)
          else if !isName name then
            .error (state.drops ('$' :: name ++ ": cannot assign in this way".toList))
          else do
            let (pieces, state) ← other word
            let value := Piece.plain pieces
            let (key, state) ← match index with
              | none => pure (none, state)
              | some word => do
                  let (pieces, state) ← parts fuel word state
                  let (key, state) ← keyed name (Piece.plain pieces) state
                  pure (some key, state)
            let state ← orDrops state (Bash.assign name key false value state)
            pure (Piece.result value quoted, state)
      | .require emptyToo word =>
          if found.isPresent emptyToo then .ok (found.pieces state quoted, state)
          else do
            let (pieces, state) ← other word
            let reason := if !word.isEmpty then Piece.plain pieces
              else if emptyToo then "parameter null or not set".toList
              else "parameter not set".toList
            .error (state.lacks (shownName ++ ": ".toList ++ reason))
      | .cut atFront longest pattern => do
          let (glyphs, after) ← glyphs pattern state
          let manner := Bash.manner after false
          if isMissing then unset
          else pure ((found.map (Wild.cut manner atFront longest glyphs)).pieces after quoted, after)
      | .recase toCapital all pattern => do
          let (glyphs, after) ← glyphs pattern state
          let manner := Bash.manner after false
          let fits (char : Char) : Bool := pattern.isEmpty || Wild.holds manner glyphs [char]
          if isMissing then unset
          else pure ((found.map (Bash.recase toCapital all fits)).pieces after quoted, after)
      | .exchange place pattern replacement => do
          let (glyphs', after) ← glyphs (state.withHome pattern) state
          let (standIn, after) ← glyphs (after.withHome replacement) after
          let manner := Bash.manner after false
          let isMarked := after.isSetting "patsub_replacement"
          if isMissing then unset
          else pure ((found.map (Wild.exchange manner isMarked place glyphs' standIn)).pieces after
            quoted, after)
      | .slice start length => do
          let (pieces, state) ← parts fuel start state
          let (first, state) ← computed (Piece.plain pieces) state
          let (count, state) ← match length with
            | none => pure (none, state)
            | some word => do
                let (pieces, state) ← parts fuel word state
                let (count, state) ← computed (Piece.plain pieces) state
                pure (some count, state)
          let negative (count : Int) : Except Ended (List Piece × State) :=
            .error (state.drops (Text.ofInt count ++ ": substring expression < 0".toList))
          match found with
          | .several values asOne =>
              let isArguments := index.isNone
              let items := if isArguments && first ≤ 0 then state.name :: values else values
              let first := if isArguments && first > 0 then first - 1 else first
              match Bash.slice first count false items with
              | .ok kept => pure ((Content.several kept asOne).pieces state quoted, state)
              | .error count => negative count
          | found =>
              if isMissing then unset
              else
                match Bash.slice first count true found.text with
                | .ok kept => pure (Piece.result kept quoted, state)
                | .error count => negative count
      | .form letter =>
          if isMissing && letter ≠ 'a' && letter ≠ 'A' then unset
          else .ok ((Bash.formed state name letter found).pieces state quoted, state)
      | .keys =>
          let asOne := match index with
            | some [.literal ['*'] _] => true
            | _ => false
          .ok ((Content.several (Bash.allKeys state name) asOne).pieces state quoted, state)
termination_by structural fuel => fuel

/-- The values of a list with their keys. -/
def items : Nat → List (Option Word × Word) → State →
    Except Ended (List (Option Text × Text) × State)
  | 0, _, state => .error (.forever, state)
  | _ + 1, [], state => .ok ([], state)
  | fuel + 1, (key, word) :: rest, state => do
      let (found, state) : List (Option Text × Text) × State ← match key with
        | some key => do
            let (keyPieces, state) ← parts fuel key state
            let (pieces, state) ← parts fuel (state.withHomes true word) state
            pure ([(some (Piece.plain keyPieces), Piece.plain pieces)], state)
        | none => do
            let (pieces, state) ← parts fuel (state.withHome word) state
            pure ((Piece.fields state pieces).map fun field => (none, field), state)
      let (more, state) ← items fuel rest state
      pure (found ++ more, state)
termination_by structural fuel => fuel

/-- A file from which the output of commands is read: a descriptor of this process. -/
def passage : Nat → Command → State → Except Ended (List Piece × State)
  | 0, _, state => .error (.forever, state)
  | fuel + 1, body, state =>
      let taken (number : Nat) : Bool := (state.channel? number).isSome
      let descriptor := ((List.range 54).reverse.map (10 + ·)).find? fun number => !taken number
      let (number, opened) := state.newBuffer { endsAt := none }
      let inner := opened.forked.setChannel 1 (some (.buffer number))
      let result := closing fuel (command fuel true body (inner.worked 5))
      let (_, left) := opened.reaped result
      let endTime := if result.1 = .forever then none else some result.2.clock
      let release := left.releaseOf number endTime
      let ended := { left.bufferOf number with endsAt := release }
      let after := { left.setBuffer number ended with
        clock := opened.clock
        status := state.status }
      let place := descriptor.getD 63
      .ok (Piece.literal ("/dev/fd/".toList ++ Text.ofNat place) true,
        after.setChannel place (some (.buffer number)))
termination_by structural fuel => fuel

def parts : Nat → Word → State → Except Ended (List Piece × State)
  | 0, _, state => .error (.forever, state)
  | _ + 1, [], state => .ok ([], state)
  | fuel + 1, first :: rest, state => do
      let (pieces, state) ← part fuel first state
      let (more, state) ← parts fuel rest state
      pure (pieces ++ more, state)
termination_by structural fuel => fuel

def wholeText : Nat → Word → State → Except Ended (Text × State)
  | 0, _, state => .error (.forever, state)
  | fuel + 1, word, state => do
      let (pieces, state) ← parts fuel (state.withHome word) state
      pure (Piece.plain pieces, state)
termination_by structural fuel => fuel

def allFields : Nat → List Word → State → Except Ended (List Text × State)
  | 0, _, state => .error (.forever, state)
  | _ + 1, [], state => .ok ([], state)
  | fuel + 1, word :: rest, state => do
      let (pieces, state) ← parts fuel (state.withHome word) state
      let found := Piece.fields state pieces
      let (more, state) ← allFields fuel rest state
      pure (found ++ more, state)
termination_by structural fuel => fuel

/-- The fields of the words of a command; `found` are those so far.  Words that a
command takes as assignments are not cut. -/
def commandWords : Nat → List Word → List Text → State → Except Ended (List Text × State)
  | 0, _, _, state => .error (.forever, state)
  | _ + 1, [], found, state => .ok (found, state)
  | fuel + 1, word :: rest, found, state => do
      match if Builtins.declares state found then Word.assignment? word else none with
      | some (name, value) =>
          let (pieces, state) ← parts fuel (state.withHomes true value) state
          commandWords fuel rest (found ++ [name ++ Piece.plain pieces]) state
      | none =>
          let (pieces, state) ← parts fuel (state.withHome word) state
          commandWords fuel rest (found ++ Piece.fields state pieces) state
termination_by structural fuel => fuel

/-- Carries out assignments in turn; those for one command are handed on to it. -/
def assign : Nat → Bool → List Assignment → State →
    Except Ended (List Assigned × State)
  | 0, _, _, state => .error (.forever, state)
  | _ + 1, _, [], state => .ok ([], state)
  | fuel + 1, handsOn, .of name _ _ word :: rest, state => do
      let (pieces, state) ← parts fuel (state.withHomes true word) state
      let value := Piece.plain pieces
      match state.refusal? name value with
      | some message => .error (state.ends message)
      | none =>
        let before := state.bindings.find? fun known => known.name = name
        let filled := state.setVariable name value
        let filled := if handsOn then filled.exportVariable name else filled
        let (more, state) ← assign fuel handsOn rest filled
        pure (⟨name, value, before⟩ :: more, state)
termination_by structural fuel => fuel

/-- Carries out an assignment of the large language; gives what is shown of it too. -/
def largeAssign : Nat → Assignment → State → Except Ended (Text × State)
  | 0, _, state => .error (.forever, state)
  | fuel + 1, .of name index adds word, state => do
      let (key, state) ← match index with
        | none => pure (none, state)
        | some word => do
            let (pieces, state) ← parts fuel word state
            let (key, state) ← keyed name (Piece.plain pieces) state
            pure (some key, state)
      match word with
      | [.items entries] => do
          let (found, state) ← items fuel entries state
          let shown := name ++ (if adds then ['+', '='] else ['=']) ++ '(' ::
            Text.join [' '] (found.map fun (key, value) =>
              (key.elim [] fun key => '[' :: key ++ [']', '=']) ++ Quoted.whenNeeded value) ++ [')']
          if key.isSome then
            .error (state.drops (name ++ '[' :: (key.getD []) ++
              "]: cannot assign list to array member".toList))
          else
            let state ← orDrops state (Bash.assignList name adds found state)
            pure (shown, state)
      | word => do
          let (pieces, state) ← parts fuel (state.withHomes true word) state
          let value := Piece.plain pieces
          let state ← orDrops state (Bash.assign name key adds value state)
          pure (Printed.assignment name key adds value, state)
termination_by structural fuel => fuel

/-- Carries out assignments of the large language in turn; those for one command are
handed on to it, and then a variable that is not to be changed is only complained about.
Gives the variables as they were. -/
def largeAssignAll : Nat → Bool → List Assignment → State →
    Except Ended (List (Text × Option Variable) × State)
  | 0, _, _, state => .error (.forever, state)
  | _ + 1, _, [], state => .ok ([], state)
  | fuel + 1, handsOn, .of name index adds word :: rest, state => do
      let before := state.known? name
      if handsOn && state.fixed.contains name then
        largeAssignAll fuel handsOn rest
          (state.complain (name ++ ": readonly variable".toList))
      else
        let (shown, state) ← largeAssign fuel (.of name index adds word) state
        let state := largeTrace fuel state.descriptors shown state
        let state := if handsOn then state.exportVariable name else state
        let (more, state) ← largeAssignAll fuel handsOn rest state
        pure ((name, before) :: more, state)
termination_by structural fuel => fuel

/-- Shows a line of a trace in the large language, with as many marks as scripts are
within each other. -/
def largeTrace : Nat → List (Nat × Channel) → Text → State → State
  | 0, _, _, state => state
  | fuel + 1, descriptors, shown, state =>
      if !state.has 'x' then state
      else
        let (mark, after) := traceMark fuel (Builtins.switch false state 'x')
        let mark := match mark with
          | first :: rest => List.replicate state.depth first ++ rest
          | [] => []
        { after.writeWith descriptors (mark ++ shown ++ ['\n']) with options := state.options }
termination_by structural fuel => fuel

def targets : Nat → List Redirection → State → Except Ended (List Redirected × State)
  | 0, _, state => .error (.forever, state)
  | _ + 1, [], state => .ok ([], state)
  | fuel + 1, .of descriptor action word :: rest, state => do
      let isLarge := state.dialect = .bash
      let (found, state) : Redirected × State ←
        match action, parts fuel (if action = .here then word else state.withHome word) state with
        | .here, .error (.exit _, after) =>
            if isLarge then .error (.exit after.status, after)
            else .ok (⟨descriptor, action, [], true⟩, after)
        | _, .error ended => .error ended
        | .here, .ok (pieces, state) =>
            .ok (⟨descriptor, action, Piece.plain pieces, false⟩, state)
        | _, .ok (pieces, state) =>
            if !isLarge then .ok (⟨descriptor, action, Piece.plain pieces, false⟩, state)
            else
              let ambiguous := (⟨descriptor, action, [], true⟩,
                state.complain (Printed.word word ++ ": ambiguous redirect".toList))
              match Piece.fields state pieces with
              | [path] =>
                  let isDescriptor := path = ['-'] || (Text.toNat? path).isSome
                  .ok (if action = .copy && !isDescriptor then ambiguous
                    else (⟨descriptor, action, path, false⟩, state))
              | _ => .ok ambiguous
      if !isLarge && !found.isSound then
        .error (state.ends "Syntax error: Bad fd number".toList)
      else
        let (more, state) ← targets fuel rest state
        pure (found :: more, state)
termination_by structural fuel => fuel

def capture : Nat → Command → State → Except Ended (Text × State)
  | 0, _, state => .error (.forever, state)
  | fuel + 1, body, state =>
      let isLarge := state.dialect = .bash
      let (number, opened) := state.newBuffer { endsAt := none }
      let forked := opened.forked.setChannel 1 (some (.buffer number))
      let inner := if !isLarge then forked
        else { forked with
          depth := forked.depth + 1
          options := if forked.isSetting "inherit_errexit" then forked.options
            else forked.options.erase 'e' }
      let result := match if isLarge then body.fileOnly? else none with
        | some target => whole fuel target inner
        | none => closing fuel (command fuel true body (inner.worked 5))
      let (flow, left) := opened.reaped result
      match flow, left.releaseOf number (some left.clock) with
      | .forever, _ | _, none => .error (.forever, left)
      | _, some time =>
          .ok (trimOutput (left.bufferOf number).content, { left with
            clock := time
            status := state.status
            outputStatus := left.status })
termination_by structural fuel => fuel

/-- Writes out a whole file. -/
def whole : Nat → Word → State → Flow × State
  | 0, _, state => (.forever, state)
  | fuel + 1, target, state =>
      match targets fuel [.of 0 .input target] state with
      | .error ended => ended
      | .ok (wanted, state) =>
          match State.redirectAll true state wanted with
          | (false, inner) => (.exit 1, inner)
          | (true, inner) =>
              let (data, inner) := inner.readAll 0
              (.exit 0, inner.writeBytes 1 data)
termination_by structural fuel => fuel

/-- Carries out a command; `isLast` tells that the process, a part of the shell, has
nothing else to do after it. -/
def command : Nat → Bool → Command → State → Flow × State
  | 0, _, _, state => (.forever, state)
  | fuel + 1, isLast, wanted, state =>
      let state := state.sync
      if state.has 'n' then (.next, state)
      else
        match wanted with
        | .nothing => (.next, state)
        | .simple line assigned words redirections =>
            let placed := { state.worked 1 with line := line }
            let (flow, after) := attend fuel (checked fuel (match state.dialect with
              | .dash => simple fuel isLast assigned words redirections placed
              | .bash =>
                  match heralded fuel wanted placed with
                  | (.next, placed) => largeSimple fuel isLast assigned words redirections placed
                  | other => other))
            (flow, after.swept state)
        | .sequence first second =>
            match command fuel false first state with
            | (.next, state) => command fuel isLast second state
            | other => other
        | .andThen first second =>
            match guarded fuel first state with
            | (.next, state) =>
                if state.status = 0 then command fuel isLast second state else (.next, state)
            | other => other
        | .orElse first second =>
            match guarded fuel first state with
            | (.next, state) =>
                if state.status = 0 then (.next, state) else command fuel isLast second state
            | other => other
        | .background body => (.next, job fuel body state)
        | .subshell body =>
            let isOver := isLast && !state.catches
            let inner := if isOver then state.handedOver else state.forked
            let result := closing fuel (command fuel true body (inner.worked 5))
            let (flow, after) := attend fuel (checked fuel (state.collected isOver result))
            (flow, after.swept state)
        | .pipeline negated stages =>
            let run := fun (state : State) => match stages with
              | [single] => command fuel false single state
              | several =>
                  let piped := pipeline fuel several none state.clock state
                  let (flow, after) := attend fuel (match piped.allEnd with
                    | none => (.forever, piped.state)
                    | some time => (.next, { piped.state with
                        clock := time
                        stageStatuses := piped.statuses
                        status := if state.has 'π' then failureOf piped.statuses
                          else piped.state.status }))
                  (flow, after.swept state)
            if negated then
              match run { state with guarded := true } with
              | (.next, after) =>
                  (.next, { after with
                    guarded := state.guarded
                    status := if after.status = 0 then 1 else 0 })
              | other => other
            else checked fuel (run state)
        | .conditional test body otherwise =>
            match guarded fuel test state with
            | (.next, state) =>
                if state.status = 0 then command fuel isLast body state
                else
                  match otherwise with
                  | .nothing => (.next, state.withStatus 0)
                  | other => command fuel isLast other state
            | other => other
        | .loop untilTrue test body =>
            let (flow, after) := loop fuel untilTrue test body 0
              { state with loops := state.loops + 1 }
            (flow, { after with loops := state.loops })
        | .each line name words body =>
            let state := { state with line := line }
            if state.dialect = .bash && !isName name then
              (.next, (state.complain ('\x60' :: name ++
                "': not a valid identifier".toList)).withStatus 1)
            else
            match words.elim (.ok (state.arguments, state)) fun words =>
              allFields fuel words state with
            | .error ended => ended
            | .ok ([], state) => (.next, state.withStatus 0)
            | .ok (items, state) =>
                let heading := match words with
                  | none => "for ".toList ++ name
                  | some words => "for ".toList ++ name ++ " in ".toList ++
                      Text.join [' '] (words.map Printed.word)
                let (flow, after) := each fuel name heading items body
                  { state with loops := state.loops + 1 }
                (flow, { after with loops := state.loops })
        | .choose line subject clauses =>
            match wholeText fuel subject { state with line := line } with
            | .error ended => ended
            | .ok (text, state) =>
                let state := if state.dialect = .dash then state
                  else largeTrace fuel state.descriptors
                    ("case ".toList ++ Printed.word subject ++ " in".toList) state
                choose fuel isLast false text clauses state
        | .define name body =>
            (.next, { state with
              status := 0
              functions := (name, body) :: state.functions.filter fun entry => entry.1 ≠ name })
        | .compute line expression =>
            checked fuel (match heralded fuel wanted { state with line := line } with
              | (.next, state) =>
                  match evaluate fuel expression state with
                  | .error ended => ended
                  | .ok (value, state) => State.counted state (value ≠ 0)
              | other => other)
        | .test line condition =>
            checked fuel (match heralded fuel wanted { state with line := line } with
              | (.next, state) =>
                  match judge fuel condition state with
                  | .error ended => ended
                  | .ok (holds, state) => State.counted state holds
              | other => other)
        | .count line start test step body =>
            match evaluate fuel start { state with line := line } with
            | .error ended => ended
            | .ok (_, before) =>
                let (flow, after) := count fuel test step body 0
                  { before with loops := state.loops + 1 }
                (flow, { after with loops := state.loops })
        | .timed body =>
            match command fuel false body state with
            | (.next, after) =>
                let spent := (after.clock - state.clock) / 1000
                let places := Text.ofNat (spent % 1000)
                let shown := Text.ofNat (spent / 60000) ++ ['m'] ++
                  Text.ofNat (spent / 1000 % 60) ++ '.' ::
                    List.replicate (3 - places.length) '0' ++ places
                (.next, after.write 2 ("\nreal\t".toList ++ shown ++
                  "s\nuser\t0m0.000s\nsys\t0m0.000s\n".toList))
            | other => other
        | .redirected line body redirections =>
            let outer := state.descriptors
            match targets fuel redirections { state with line := line } with
            | .error ended => settled outer ended
            | .ok (found, state) =>
                match body with
                | .subshell body =>
                    let isOver := isLast && !state.catches
                    let inner := if isOver then state.handedOver else state.forked
                    let result := match State.redirectAll false inner found with
                      | (false, inner) => (.exit inner.refusalStatus, inner)
                      | (true, inner) => closing fuel (command fuel true body (inner.worked 5))
                    let (flow, after) := attend fuel (checked fuel
                      (state.collected isOver result))
                    (flow, after.swept state)
                | _ =>
                    match State.redirectAll true state found with
                    | (false, inner) =>
                        checked fuel (.next, { inner with descriptors := outer })
                    | (true, inner) =>
                        let (flow, after) := command fuel false body inner
                        (flow, State.swept { after with descriptors := outer } state)
termination_by structural fuel => fuel

/-- Keeps in mind the command at hand, and does what is to be done before every command. -/
def heralded : Nat → Command → State → Flow × State
  | 0, _, state => (.forever, state)
  | fuel + 1, wanted, state =>
      if state.isStirred then (.next, state)
      else
        let state := { state with current := wanted }
        match List.lookup Bash.stepEvent state.traps with
        | none | some [] => (.next, state)
        | some action =>
            match script fuel { rest := action, line := state.line }
                { state with isStirred := true, depth := state.depth + 1 } with
            | (.next, after) =>
                (.next, { after with
                  isStirred := false
                  depth := state.depth
                  line := state.line
                  status := state.status })
            | other => other
termination_by structural fuel => fuel

/-- Ends the shell if it is to end at the first failure, after what is to be done on a
failure. -/
def checked : Nat → Flow × State → Flow × State
  | 0, (_, state) => (.forever, state)
  | fuel + 1, (flow, state) =>
      match flow, List.lookup Bash.failureEvent state.traps with
      | .next, some (first :: rest) =>
          if state.status = 0 || state.guarded then (.next, state)
          else
            let others := state.traps.filter fun entry => entry.1 ≠ Bash.failureEvent
            match script fuel { rest := first :: rest, line := state.line }
                { state with traps := others, depth := state.depth + 1, isStirred := true } with
            | (.next, after) =>
                let isKept := (List.lookup Bash.failureEvent after.traps).isSome
                State.checked (.next, { after with
                  depth := state.depth
                  isStirred := state.isStirred
                  traps := if isKept then after.traps
                    else (Bash.failureEvent, first :: rest) :: after.traps
                  status := state.status })
            | other => other
      | flow, _ => State.checked (flow, state)
termination_by structural fuel => fuel

/-- The value of an expression that is a command; one that makes no sense counts as a
failure. -/
def evaluate : Nat → Word → State → Except Ended (Int × State)
  | 0, _, state => .error (.forever, state)
  | fuel + 1, expression, state => do
      if expression.isEmpty then pure (1, state)
      else
        let (pieces, state) ← parts fuel expression state
        let source := Piece.plain pieces
        let state := largeTrace fuel state.descriptors
          ("(( ".toList ++ source ++ " ))".toList) state
        match Expression.compute source state with
        | .ok result => pure result
        | .error (.unset name) => throw (state.lacks (name ++ ": unbound variable".toList))
        | .error (.fixed name) =>
            throw (.next, (state.complain (Expression.Fault.message (.fixed name))).withStatus 1)
        | .error fault =>
            throw (.next, (state.complain ("((: ".toList ++ fault.message)).withStatus 1)
termination_by structural fuel => fuel

/-- Rounds of a loop with expressions; `last` is the status of its body so far. -/
def count : Nat → Word → Word → Command → Nat → State → Flow × State
  | 0, _, _, _, _, state => (.forever, state)
  | fuel + 1, test, step, body, last, state =>
      match state.goesOn? with
      | some ended => ended
      | none =>
      match evaluate fuel test (state.wait 1) with
      | .error ended => ended
      | .ok (value, tested) =>
          if value = 0 then (.next, tested.withStatus last)
          else
            match command fuel false body tested with
            | (.next, state) => countOn fuel test step body state.status state
            | (.continued levels, state) =>
                if levels ≤ 1 then countOn fuel test step body 0 state
                else (.continued (levels - 1), state)
            | (.broken levels, state) =>
                if levels ≤ 1 then (.next, state) else (.broken (levels - 1), state)
            | other => other
termination_by structural fuel => fuel

/-- The step between two rounds of a loop with expressions. -/
def countOn : Nat → Word → Word → Command → Nat → State → Flow × State
  | 0, _, _, _, _, state => (.forever, state)
  | fuel + 1, test, step, body, last, state =>
      match evaluate fuel step state with
      | .error ended => ended
      | .ok (_, state) => count fuel test step body last state
termination_by structural fuel => fuel

/-- Whether a condition between double brackets holds. -/
def judge : Nat → Test → State → Except Ended (Bool × State)
  | 0, _, state => .error (.forever, state)
  | fuel + 1, condition, state =>
      let shown (state : State) (words : List Text) : State :=
        largeTrace fuel state.descriptors
          (Text.join [' '] ("[[".toList :: words ++ ["]]".toList])) state
      match condition with
      | .word word => do
          let (text, state) ← wholeText fuel word state
          pure (text ≠ [], shown state ["-n".toList, Printed.operand text])
      | .unary letter operand => do
          let (text, state) ← wholeText fuel operand state
          pure (Bash.passes state letter text,
            shown state [['-', letter], Printed.operand text])
      | .negation inner => do
          let (holds, state) ← judge fuel inner state
          pure (!holds, state)
      | .both left right => do
          let (holds, state) ← judge fuel left state
          if holds then judge fuel right state else pure (false, state)
      | .either left right => do
          let (holds, state) ← judge fuel left state
          if holds then pure (true, state) else judge fuel right state
      | .binary left relation right => do
          let (first, state) ← wholeText fuel left state
          let (pieces, state) ← parts fuel (state.withHome right) state
          let second := Piece.plain pieces
          let state := shown state
            [Printed.operand first, relation, Printed.operand second]
          if Bash.isNumeric relation then
            match (do
              let (left, state) ← Expression.compute first state
              let (right, state) ← Expression.compute second state
              pure (left, right, state) : Except Expression.Fault (Int × Int × State)) with
            | .ok (left, right, state) =>
                pure ((Bash.numbersRelate? relation left right).getD false, state)
            | .error (.unset name) =>
                throw (state.lacks (name ++ ": unbound variable".toList))
            | .error fault =>
                pure (false, state.complain ("[[: ".toList ++ fault.message))
          else
            match String.ofList relation with
            | "=" | "==" =>
                pure (Wild.holds (Bash.manner state true) (Piece.glyphs pieces) first, state)
            | "!=" =>
                pure (!Wild.holds (Bash.manner state true) (Piece.glyphs pieces) first, state)
            | "=~" =>
                match Bash.matched? state (Piece.glyphs pieces) first with
                | some result => pure result
                | none => throw (.next, state.withStatus 2)
            | _ => pure (Bash.relates state relation first second, state)
termination_by structural fuel => fuel

/-- Carries out a command whose status is looked at. -/
def guarded : Nat → Command → State → Flow × State
  | 0, _, state => (.forever, state)
  | fuel + 1, wanted, state =>
      let (flow, after) := command fuel false wanted { state with guarded := true }
      (flow, { after with guarded := state.guarded })
termination_by structural fuel => fuel

/-- A loop; `last` is the status of its body so far. -/
def loop : Nat → Bool → Command → Command → Nat → State → Flow × State
  | 0, _, _, _, _, state => (.forever, state)
  | fuel + 1, untilTrue, test, body, last, state =>
      match state.goesOn? with
      | some ended => ended
      | none =>
      match guarded fuel test (state.wait 1) with
      | (.next, state) =>
          if (state.status = 0) = (untilTrue = true) then (.next, state.withStatus last)
          else
            match command fuel false body state with
            | (.next, state) => loop fuel untilTrue test body state.status state
            | (.continued levels, state) =>
                if levels ≤ 1 then loop fuel untilTrue test body 0 state
                else (.continued (levels - 1), state)
            | (.broken levels, state) =>
                if levels ≤ 1 then (.next, state.withStatus 0) else (.broken (levels - 1), state)
            | other => other
      | (.continued levels, state) =>
          if levels ≤ 1 then loop fuel untilTrue test body last state
          else (.continued (levels - 1), state)
      | (.broken levels, state) =>
          if levels ≤ 1 then (.next, state.withStatus last) else (.broken (levels - 1), state)
      | other => other
termination_by structural fuel => fuel

/-- Gives the variable of a loop its next item. -/
def assignItem : Nat → Text → Text → Text → State → Except Ended State
  | 0, _, _, _, state => .error (.forever, state)
  | fuel + 1, name, heading, item, state =>
      match state.dialect with
      | .dash =>
          match state.refusal? name item with
          | some message => .error (state.ends message)
          | none => .ok (state.setVariable name item)
      | .bash =>
          let state := largeTrace fuel state.descriptors heading state
          match Bash.assign name none false item state with
          | .ok state => .ok state
          | .error message => .error (.next, (state.complain message).withStatus 1)
termination_by structural fuel => fuel

/-- A body for every item; `heading` is what is shown of the loop. -/
def each : Nat → Text → Text → List Text → Command → State → Flow × State
  | 0, _, _, _, _, state => (.forever, state)
  | _ + 1, _, _, [], _, state => (.next, state)
  | fuel + 1, name, heading, item :: items, body, state =>
      match assignItem fuel name heading item state with
      | .error ended => ended
      | .ok assigned =>
        match state.goesOn? with
        | some ended => ended
        | none =>
        match command fuel false body assigned with
        | (.next, state) => each fuel name heading items body state
        | (.continued levels, state) =>
            if levels ≤ 1 then each fuel name heading items body state
            else (.continued (levels - 1), state)
        | (.broken levels, state) =>
            if levels ≤ 1 then (.next, state) else (.broken (levels - 1), state)
        | other => other
termination_by structural fuel => fuel

/-- The first clause with a pattern that fits, or the next one if its pattern does not
matter any more. -/
def choose : Nat → Bool → Bool → Text → List (List Word × Command × ClauseEnd) → State →
    Flow × State
  | 0, _, _, _, _, state => (.forever, state)
  | _ + 1, _, isIn, _, [], state => (.next, if isIn then state else state.withStatus 0)
  | fuel + 1, isLast, isIn, text, (patterns, body, ending) :: clauses, state =>
      match if isIn then .ok (true, state) else fits fuel text patterns state with
      | .error ended => ended
      | .ok (true, state) =>
          let run (isLast : Bool) : Flow × State := match body with
            | .nothing => (.next, state.withStatus 0)
            | body => command fuel isLast body state
          match ending with
          | .stops => run isLast
          | .falls =>
              match run false with
              | (.next, state) => choose fuel isLast true text clauses state
              | other => other
          | .tries =>
              match run false with
              | (.next, state) => chooseFurther fuel isLast text clauses state
              | other => other
      | .ok (false, state) => choose fuel isLast false text clauses state
termination_by structural fuel => fuel

/-- Clauses after one that was carried out: if none of them fits, the status stays. -/
def chooseFurther : Nat → Bool → Text → List (List Word × Command × ClauseEnd) → State →
    Flow × State
  | 0, _, _, _, state => (.forever, state)
  | _ + 1, _, _, [], state => (.next, state)
  | fuel + 1, isLast, text, (patterns, body, ending) :: clauses, state =>
      match fits fuel text patterns state with
      | .error ended => ended
      | .ok (true, state) => choose fuel isLast true text ((patterns, body, ending) :: clauses) state
      | .ok (false, state) => chooseFurther fuel isLast text clauses state
termination_by structural fuel => fuel

/-- Whether one of several patterns fits. -/
def fits : Nat → Text → List Word → State → Except Ended (Bool × State)
  | 0, _, _, state => .error (.forever, state)
  | _ + 1, _, [], state => .ok (false, state)
  | fuel + 1, text, pattern :: patterns, state => do
      let (pieces, state) ← parts fuel (state.withHome pattern) state
      let holds := match state.dialect with
        | .dash => Pattern.holds (Piece.glyphs pieces) text
        | .bash => Wild.holds (Bash.manner state false) (Piece.glyphs pieces) text
      if holds then pure (true, state) else fits fuel text patterns state
termination_by structural fuel => fuel

/-- Stages of a pipeline, each in a process of its own, that start at one time and
read what the stage before them writes.  A stage that still writes when its reader
is gone is carried out again, now that this is known. -/
def pipeline : Nat → List Command → Option Nat → Duration → State → Piped
  | 0, _, _, _, state => ⟨.forever, state, none, none, []⟩
  | _ + 1, [], _, _, state => ⟨.next, state, some state.clock, some state.clock, []⟩
  | fuel + 1, stage :: rest, input, start, state =>
      let placed := { state with clock := start }
      let entering := match input with
        | some number => placed.setChannel 0 (some (.buffer number))
        | none => placed
      let endOf (result : Flow × State) : Option Duration :=
        if result.1 = .forever then none else some result.2.clock
      if rest.isEmpty then
        let result := closing fuel (command fuel true stage (entering.forked.worked 5))
        let (flow, left) := state.reaped result
        ⟨flow, left, endOf result, endOf result, [left.status]⟩
      else
        let run := fun (limit : Option (Nat × Duration × Option Duration)) =>
          let (number, opened) := entering.newBuffer
            { endsAt := none, limit := limit.map fun (most, gone, _) => (most, gone) }
          let inner := opened.forked.setChannel 1 (some (.buffer number))
          let result := closing fuel (command fuel true stage (inner.worked 5))
          let (_, left) := state.reaped result
          let release := match limit with
            | some (_, _, release) => release
            | none => left.releaseOf number (endOf result)
          let ended := { left.bufferOf number with endsAt := release }
          let piped := pipeline fuel rest (some number) start (left.setBuffer number ended)
          (number, release, piped.firstEnd, { piped with
            firstEnd := endOf result
            allEnd := later (endOf result) piped.allEnd
            statuses := left.status :: piped.statuses })
        let (number, release, readerEnd, piped) := run none
        match readerEnd with
        | none => piped
        | some gone =>
            let buffer := piped.state.bufferOf number
            let left := buffer.size
            if piped.firstEnd.isNone || gone + lateness < buffer.touchedAt ||
                Buffer.capacity < left then
              (run (some (buffer.written - left + Buffer.capacity, gone, release))).2.2.2
            else piped
termination_by structural fuel => fuel

/-- Starts a command in the background. -/
def job : Nat → Command → State → State
  | 0, _, state => state
  | fuel + 1, body, state =>
      let number := 10000 + 100 * state.world.nextNumber
      let counted := { state with world := { state.world with
        nextNumber := state.world.nextNumber + 1
        work := state.world.work + 600 } }
      let forked := counted.forked.setChannel 0 (some .null)
      let inner := { forked with
        number := number
        owner := number
        self := some number
        bornAt := counted.clock
        syncedAt := counted.clock
        traps := [(2, []), (3, [])] ++ forked.traps
        guarded := false }
      let (plain, outer) : Command × List Redirection := match body with
        | .redirected _ body redirections => (body, redirections)
        | .simple line assigned words redirections =>
            (.simple line assigned words [], redirections)
        | other => (other, [])
      let isWhole := match body with
        | .simple .. => true
        | _ => false
      let (flow, after) := match targets fuel outer inner with
        | .error ended => ended
        | .ok (found, inner) =>
            match State.redirectAll isWhole inner found with
            | (false, inner) => (.exit inner.refusalStatus, inner)
            | (true, inner) => closing fuel (command fuel true plain inner)
      let ended : Job :=
        { number := number
          startsAt := inner.clock
          endsAt := if flow = .forever then none else some after.clock
          status := flow.statusOf after
          diedOf := match flow with
            | .died signal => some signal
            | _ => none
          holdsOut := after.holds .out
          holdsErr := after.holds .err
          buffers := after.heldBuffers
          stages := match body with
            | .pipeline _ stages => stages.length
            | _ => 1 }
      { counted with
        status := 0
        clock := counted.clock + 50
        children := number :: counted.children
        lastJob := some number
        world := { after.world with
          files := counted.world.files
          jobs := after.world.jobs ++ [ended] } }.enlist number
termination_by structural fuel => fuel

/-- What is shown in front of a command that is traced. -/
def traceMark : Nat → State → Text × State
  | 0, state => ([], state)
  | fuel + 1, state =>
      let source := (state.value? "PS4".toList).getD []
      match (Reader.parts Reader.supply .all).run { rest := source, line := state.line } with
      | .error _ => (source, state)
      | .ok (word, _) =>
          match parts fuel word state with
          | .error _ => (source, state)
          | .ok (pieces, state) => (Piece.plain pieces, state)
termination_by structural fuel => fuel

/-- Shows a command before it is carried out, where complaints went so far. -/
def traced : Nat → List (Nat × Channel) → List Assigned → List Text → State → State
  | 0, _, _, _, state => state
  | fuel + 1, descriptors, assigned, words, state =>
      if !state.has 'x' then state
      else
        let (mark, state) := traceMark fuel state
        let shown := assigned.map (fun one => one.name ++ '=' :: one.value) ++ words
        state.writeWith descriptors (mark ++ Text.join [' '] shown ++ ['\n'])
termination_by structural fuel => fuel

def simple : Nat → Bool → List Assignment → List Word → List Redirection → State →
    Flow × State
  | 0, _, _, _, _, state => (.forever, state)
  | fuel + 1, isLast, assignments, words, redirections, state =>
      match (do
        let (found, state) ← commandWords fuel words [] { state with outputStatus := 0 }
        let (wanted, state) ← targets fuel redirections state
        pure (found, wanted, state) : Except Ended (List Text × List Redirected × State)) with
      | .error ended => ended
      | .ok (found, wanted, state) =>
          let isSpecial := Builtins.endsShell state found
          match State.redirectAll true state wanted with
          | (false, inner) =>
              (if isSpecial then .exit 2 else .next, { inner with
                descriptors := state.descriptors })
          | (true, inner) =>
              let called := Called.ofWords state found
              let isExec := called.builtin? state = some "exec"
              match assign fuel ((found ≠ [] && !isSpecial) || isExec) assignments inner with
              | .error (flow, after) => (flow, { after with descriptors := state.descriptors })
              | .ok (assigned, filled) =>
                  let filled := traced fuel state.descriptors assigned found filled
                  let restored := fun (state : State) =>
                    if isSpecial then state
                    else assigned.reverse.foldl
                      (fun (state : State) (one : Assigned) =>
                        state.restoreVariable one.name one.before) state
                  match called.words with
                  | [] =>
                      (.next, { filled with
                        descriptors := state.descriptors
                        status := filled.outputStatus })
                  | name :: arguments =>
                      if isExec then
                        if arguments = [] then (.next, restored (filled.withStatus 0))
                        else replaced fuel arguments filled
                      else
                        let (flow, after) := named fuel isLast called name arguments (filled.wait 10)
                        let left := restored { after with descriptors := state.descriptors }
                        if left.pipeBroken then (.died State.pipeSignal, left)
                        else if left.starved then (.forever, left)
                        else (flow, left)
termination_by structural fuel => fuel

def largeSimple : Nat → Bool → List Assignment → List Word → List Redirection → State →
    Flow × State
  | 0, _, _, _, _, state => (.forever, state)
  | fuel + 1, isLast, assignments, words, redirections, state =>
      let outer := state.descriptors
      match commandWords fuel words [] { state with outputStatus := 0 } with
      | .error ended => settled outer ended
      | .ok (found, state) =>
          match (do
            let (assigned, state) ← largeAssignAll fuel (found ≠ []) assignments state
            let (wanted, state) ← targets fuel redirections state
            pure (assigned, wanted, state) :
              Except Ended (List (Text × Option Variable) × List Redirected × State)) with
          | .error ended => settled outer ended
          | .ok (assigned, wanted, state) =>
              let restored := fun (state : State) =>
                if found = [] then state
                else assigned.reverse.foldl
                  (fun (state : State) (name, before) => state.restoreVariable name before) state
              let settle := fun (state : State) =>
                { restored state with
                  descriptors := outer
                  stageStatuses := [state.status]
                  lastWord := found.getLast?.getD state.lastWord }
              let state := if found = [] then state
                else largeTrace fuel outer (Printed.words found) state
              match State.redirectAll true state wanted with
              | (false, inner) => (.next, settle inner)
              | (true, inner) =>
                  let called := Called.ofWords inner found
                  match called.words with
                  | [] => (.next, settle { inner with status := inner.outputStatus })
                  | name :: arguments =>
                      if called.builtin? inner = some "exec" then
                        if arguments = [] then
                          (.next, { settle inner with descriptors := inner.descriptors, status := 0 })
                        else
                          let (flow, after) := replaced fuel arguments inner
                          (flow, if flow = .next then settle after else after)
                      else
                        let (flow, after) := named fuel isLast called name arguments
                          (inner.wait 10)
                        let left := settle after
                        if left.pipeBroken then (.died State.pipeSignal, left)
                        else if left.starved then (.forever, left)
                        else (flow, left)
termination_by structural fuel => fuel

/-- A program in place of this shell. -/
def replaced : Nat → List Text → State → Flow × State
  | 0, _, state => (.forever, state)
  | fuel + 1, words, state =>
      let (words, calledAs) : List Text × Option Text := match state.dialect, words with
        | .bash, ['-', 'a'] :: name :: words => (words, some name)
        | .bash, ['-', 'c'] :: words | .bash, ['-', 'l'] :: words
        | .bash, ['-', '-'] :: words => (words, none)
        | _, words => (words, none)
      let name := words.headD []
      let place := Lookup.place state.world.files state.directory state.searchPath name
      let result : Except IoError (Flow × State) := do
        let place ← place
        let ignored := state.traps.filter fun entry => entry.2 = []
        enter fuel place (calledAs.getD name) words.tail ({ state with traps := ignored }.wait 900)
      match result with
      | .error error =>
          match state.dialect, place with
          | .dash, _ =>
              let status := State.startStatus error
              (.exit status, ({ state with context := "exec: ".toList }.complain
                (name ++ ": ".toList ++ State.startReason error)).withStatus status)
          | .bash, place =>
              let (told, status) : State × Nat := match place with
                | .error _ =>
                    (state.complain ("exec: ".toList ++ name ++ ": not found".toList), 127)
                | .ok place =>
                    let place := if name.contains '/' && (state.stat place).toOption.isSome then
                        Builtins.enteredBy state.entered place
                      else place
                    let (message, status) := state.largeStartFailure place error
                    (if status = 127 then
                        state.complain ("exec: ".toList ++ message)
                      else
                        (state.complain message).complain ("exec: ".toList ++ place ++
                          ": cannot execute: ".toList ++ State.largeReason error), status)
              (if state.isSetting "execfail" then .next else .exit status, told.withStatus status)
      | .ok (.next, after) => (.exit after.status, { after with traps := [] })
      | .ok (flow, after) => (flow, { after with traps := [] })
termination_by structural fuel => fuel

/-- A function that is called. -/
def invoke : Nat → Text → Command → List Text → State → Flow × State
  | 0, _, _, _, state => (.forever, state)
  | fuel + 1, name, body, arguments, state =>
      let isLarge := state.dialect = .bash
      let most? := if isLarge then (state.value? "FUNCNEST".toList).bind Text.toNat?
        else some State.deepestCalls
      if most?.any fun most => 0 < most && most ≤ state.calls then
        if isLarge then
          (if state.isString then
            { state with shownName := some (state.shownName.getD "environment".toList) }
          else state).drops
            (name ++ ": maximum function nesting level exceeded (".toList ++
              Text.ofNat (most?.getD 0) ++ ")".toList)
        else state.ends "Maximum function recursion depth (1000) reached".toList
      else
        let setAside := state.traps.filter fun entry =>
          (entry.1 = Bash.failureEvent && !state.has 'E') ||
            (entry.1 = Bash.stepEvent && !state.has 'T')
        let placed := { state with
          arguments := arguments
          calls := state.calls + 1
          loops := 0
          saved := some []
          callNames := name :: state.callNames
          callLines := state.line :: state.callLines
          traps := state.traps.filter fun entry =>
            (entry.1 ≠ Bash.failureEvent || state.has 'E') &&
              (entry.1 ≠ Bash.stepEvent || state.has 'T')
          shownName := if state.isString && state.shownName.isNone then
              some "environment".toList else state.shownName }
        let (flow, after) := command fuel false body
          (if isLarge then placed else { placed with optionIndex := 1, letterIndex := 0 })
        let restored := (after.saved.getD []).foldl
          (fun (state : State) (name, before) => state.restoreVariable name before) after
        let left := { restored with
          arguments := state.arguments
          calls := state.calls
          loops := state.loops
          saved := state.saved
          callNames := state.callNames
          shownName := state.shownName
          callLines := state.callLines
          line := if isLarge then state.line else restored.line
          traps := (setAside.filter fun entry =>
            (List.lookup entry.1 restored.traps).isNone) ++ restored.traps }
        (if flow = .returned then .next else flow,
          if isLarge then left
          else { left with
            optionIndex := state.optionIndex
            letterIndex := state.letterIndex })
termination_by structural fuel => fuel

/-- A command by its name: a function, a builtin, or a program. -/
def named : Nat → Bool → Called → Text → List Text → State → Flow × State
  | 0, _, _, _, _, state => (.forever, state)
  | fuel + 1, isLast, called, name, arguments, state =>
      let function? := if called.skipsFunctions then none else List.lookup name state.functions
      match function? with
      | some body => invoke fuel name body arguments state
      | none =>
          let search := if called.isUsual then some State.usualPath else state.searchPath
          match state.dialect with
          | .bash => largeNamed fuel isLast search name arguments state
          | .dash =>
          let plain := { state with context := [] }
          let (flow, after) := match String.ofList name with
            | "eval" =>
                script fuel { rest := Text.join [' '] arguments, line := state.line }
                  { state with
                    context := "eval: ".toList
                    status := 0
                    nesting := state.nesting + 1 }
            | "." => sourced fuel arguments plain
            | "kill" => kill fuel arguments plain
            | "type" => Builtins.describeAll "type" true plain arguments
            | "command" => Builtins.looksUp plain arguments
            | "wait" => awaited arguments plain
            | word =>
                match Builtins.ofName? word with
                | some builtin => builtin plain arguments
                | none => external fuel isLast search name arguments state
          (flow, { after with context := state.context, nesting := state.nesting })
termination_by structural fuel => fuel

/-- A command of the large language by its name, if it is no function. -/
def largeNamed : Nat → Bool → Option Text → Text → List Text → State → Flow × State
  | 0, _, _, _, _, state => (.forever, state)
  | fuel + 1, isLast, search, name, arguments, state =>
      match String.ofList name with
      | "eval" =>
          let source := Text.join [' '] (Bash.operandsOf arguments)
          if source.all Char.isWhitespace then Builtins.next state 0
          else
            let (flow, after) := script fuel { rest := source, line := state.line }
              { state with
                context := "eval: ".toList
                nesting := state.nesting + 1
                depth := state.depth + 1 }
            (flow, { after with
              context := state.context
              nesting := state.nesting
              depth := state.depth })
      | "." | "source" => largeSourced fuel name arguments state
      | "kill" => largeKill fuel arguments state
      | "type" => Bash.describes state arguments
      | "command" => Bash.looksUp state arguments
      | "builtin" =>
          match arguments with
          | [] => Builtins.next state 0
          | word :: _ => Bash.fails "builtin" state (word ++ ": not a shell builtin".toList) 1
      | "wait" => awaited arguments state
      | word =>
          match Bash.ofName? word with
          | some builtin => builtin state arguments
          | none => external fuel isLast search name arguments state
termination_by structural fuel => fuel

/-- Commands from a file in the large language, as if they stood here. -/
def largeSourced : Nat → Text → List Text → State → Flow × State
  | 0, _, _, state => (.forever, state)
  | fuel + 1, name, arguments, state =>
      let command := String.ofList name
      match Bash.operandsOf arguments with
      | [] => Bash.misused command state "filename argument required".toList
      | path :: rest =>
          let isFile (place : Text) : Bool := match state.stat place with
            | .ok (_, .file _) | .ok (_, .program _) => true
            | _ => false
          let place := if path.contains '/' then path
            else ((Lookup.candidates state.searchPath path).find? isFile).getD path
          match Tools.load state place with
          | .error error =>
              if error = .isDirectory then
                Bash.fails command state (path ++ ": is a directory".toList) 1
              else
                Builtins.next (state.complain (path ++ ": ".toList ++ State.largeReason error)) 1
          | .ok (data, loaded) =>
              let (flow, after) := script fuel { rest := Text.ofBytes data, isFile := true }
                { loaded with
                  context := []
                  shownName := some place
                  callNames := "source".toList :: state.callNames
                  arguments := if rest = [] then state.arguments else rest
                  status := 0
                  nesting := state.nesting + 1
                  depth := state.depth + 1 }
              (if flow = .returned then .next else flow, { after with
                context := state.context
                shownName := state.shownName
                callNames := state.callNames
                arguments := if rest = [] then after.arguments else state.arguments
                nesting := state.nesting
                depth := state.depth })
termination_by structural fuel => fuel

/-- Commands from a file, as if they stood here. -/
def sourced : Nat → List Text → State → Flow × State
  | 0, _, state => (.forever, state)
  | fuel + 1, arguments, state =>
      match Builtins.options "" "" (arguments.length + 1) arguments with
      | .error message => Builtins.refuse "." state message
      | .ok (_, []) => Builtins.next state 0
      | .ok (_, path :: _) =>
          let isFile (place : Text) : Bool := match state.stat place with
            | .ok (_, .file _) | .ok (_, .program _) => true
            | _ => false
          let place? := if path.contains '/' then some path
            else (Lookup.candidates state.searchPath path).find? isFile
          match place? with
          | none => Builtins.refuse "." state (path ++ ": not found".toList)
          | some place =>
              match Tools.load state place with
              | .error error =>
                  if error = .isDirectory then Builtins.next state 0
                  else Builtins.refuse "." state ("cannot open ".toList ++ place ++
                    ": ".toList ++ State.openReason error)
              | .ok (data, state) =>
                  let result := script fuel { rest := Text.ofBytes data, isFile := true }
                    { state with
                      context := place ++ ": ".toList
                      status := 0
                      nesting := state.nesting + 1 }
                  match result with
                  | (.returned, after) => (.next, after)
                  | other => other
termination_by structural fuel => fuel

/-- Sends signals to this shell, to jobs, or to other shells. -/
def kill : Nat → List Text → State → Flow × State
  | 0, _, state => (.forever, state)
  | fuel + 1, arguments, state =>
      match Builtins.killRequest arguments with
      | .refused reason => Builtins.refuse "kill" state reason
      | .name signal => Builtins.put "kill" state (Builtins.shortName signal ++ ['\n'])
      | .nameAll => Builtins.put "kill" state Builtins.allSignals
      | .send signal targets => killAll fuel signal targets 0 state
termination_by structural fuel => fuel

/-- Sends a signal to targets in turn; `status` is the status so far. -/
def killAll : Nat → Nat → List Text → Nat → State → Flow × State
  | 0, _, _, _, state => (.forever, state)
  | _ + 1, _, [], status, state => Builtins.next state status
  | fuel + 1, signal, target :: rest, status, state =>
      let gone (state : State) : State := state.complain "kill: No such process\n".toList
      if target.head? = some '%' then
        match state.namedJob target with
        | .error message => Builtins.refuse "kill" state message
        | .ok _ => killAll fuel signal rest 1 (gone state)
      else
        match Builtins.number? target with
        | none => Builtins.noNumber "kill" state target
        | some number =>
            if number = state.number then
              if signal = 0 then killAll fuel signal rest status state
              else
                match strike fuel ⟨state.clock, number, signal⟩ status state with
                | (.next, state) => killAll fuel signal rest status state
                | other => other
            else
              match state.send signal number with
              | some state => killAll fuel signal rest status state
              | none => killAll fuel signal rest 1 (gone state)
termination_by structural fuel => fuel

/-- Sends signals in the large language. -/
def largeKill : Nat → List Text → State → Flow × State
  | 0, _, state => (.forever, state)
  | fuel + 1, arguments, state =>
      match Bash.killRequest arguments with
      | .usage => Builtins.next (Bash.showUsage "kill" state) 2
      | .badSignal name =>
          Bash.fails "kill" state (name ++ ": invalid signal specification".toList) 1
      | .bareOption letter =>
          Bash.fails "kill" state ('-' :: letter :: ": option requires an argument".toList) 1
      | .list names => Bash.listSignals state names
      | .send signal targets => largeKillAll fuel signal targets 1 state
termination_by structural fuel => fuel

/-- Sends a signal to targets in turn; `status` is the status so far. -/
def largeKillAll : Nat → Nat → List Text → Nat → State → Flow × State
  | 0, _, _, _, state => (.forever, state)
  | _ + 1, _, [], status, state => Builtins.next state status
  | fuel + 1, signal, target :: rest, status, state =>
      let number? := if target.head? = some '%' then (state.namedJob target).toOption
        else Text.toNat? target
      match number? with
      | none =>
          let message := if target.head? = some '%' then target ++ ": no such job".toList
            else target ++ ": arguments must be process or job IDs".toList
          largeKillAll fuel signal rest status (Bash.warn "kill" state message)
      | some number =>
          if number = state.number then
            if signal = 0 then largeKillAll fuel signal rest 0 state
            else
              match strike fuel ⟨state.clock, number, signal⟩ 0 state with
              | (.next, state) => largeKillAll fuel signal rest 0 state
              | other => other
          else
            match state.send signal number with
            | some state => largeKillAll fuel signal rest 0 state
            | none =>
                largeKillAll fuel signal rest status
                  (Bash.warn "kill" state ('(' :: target ++ ") - No such process".toList))
termination_by structural fuel => fuel

/-- A signal that the shell gets, and the status with which it goes on. -/
def strike : Nat → Signal → Nat → State → Flow × State
  | 0, _, _, state => (.forever, state)
  | fuel + 1, signal, status, state =>
      match Builtins.response state signal with
      | .nothing => Builtins.next state status
      | .death => (.died signal.number, state)
      | .stop => (.forever, state)
      | .action action =>
          match script fuel { rest := action, line := state.line } (state.withStatus status) with
          | (.next, after) => (.next, after.withStatus status)
          | other => other
termination_by structural fuel => fuel

/-- Lets the signals that have come in the meantime act on the shell. -/
def attend : Nat → Flow × State → Flow × State
  | 0, (_, state) => (.forever, state)
  | fuel + 1, (flow, state) =>
      let time := if flow = .forever then none else some state.clock
      match state.due? time with
      | none => (flow, state)
      | some signal =>
          let seen := state.without signal
          match Builtins.response state signal with
          | .nothing => attend fuel (flow, seen)
          | .stop => if state.goesOn signal then attend fuel (flow, seen) else (.forever, seen)
          | .death => state.outlived signal time
          | .action _ =>
              if flow = .forever then attend fuel (flow, seen)
              else
                match strike fuel signal seen.status seen with
                | (.next, after) => attend fuel (flow, after)
                | other => other
termination_by structural fuel => fuel

/-- A program in a process of its own, or in place of a part of the shell that has
nothing else to do. -/
def external : Nat → Bool → Option Text → Text → List Text → State → Flow × State
  | 0, _, _, _, _, state => (.forever, state)
  | fuel + 1, isLast, search, name, arguments, state =>
      let isLarge := state.dialect = .bash
      let failed (error : IoError) (status : Nat) : Flow × State :=
        Builtins.next (state.complain (name ++ ": ".toList ++ State.startReason error)) status
      match Lookup.place state.world.files state.directory search name with
      | .error error =>
          if !isLarge then failed error 127
          else if error = .permissionDenied then
            let places := (Lookup.candidates search name).filter fun place =>
              (state.stat place).toOption.isSome
            Builtins.next (state.complain (places.headD name ++ ": Permission denied".toList)) 126
          else Builtins.next (state.complain (name ++ ": command not found".toList)) 127
      | .ok place =>
          let isOver := isLast && !state.catches
          let inner := if isOver then state.handedOver else state.forked
          match enter fuel place name arguments ((inner.wait 900).worked 10) with
          | .error error =>
              if isLarge then
                let (message, status) := state.largeStartFailure place error
                Builtins.next (state.complain message) status
              else failed error (State.startStatus error)
          | .ok result =>
              (state.remember name).collected isOver result
termination_by structural fuel => fuel

/-- Starts what stands at a place in this process; a text that names no interpreter is
a script for a shell. -/
def enter : Nat → Text → Text → List Text → State → Except IoError (Flow × State)
  | 0, _, _, _, state => .ok (.forever, state)
  | fuel + 1, place, name, arguments, state =>
      let child := state.handing
      let environment := Tools.environmentTexts child
      if !Lookup.hasRoomFor place (name :: arguments) environment then
        .error .argumentsTooLong
      else
        match Lookup.resolve state.world.files state.directory 5 place name arguments with
        | .ok found => .ok (carryOut fuel found child)
        | .error .execFormat =>
            match Tools.load state place with
            | .ok (data, _) =>
                if Lookup.isText data then
                  .ok (closing fuel (script fuel { rest := Text.ofBytes data, isFile := true }
                    { child.fresh state.dialect place with arguments := arguments }))
                else .error .execFormat
            | .error error => .error error
        | .error error => .error error
termination_by structural fuel => fuel

/-- Starts a program for another one. -/
def launch : Nat → State → List Text → Except IoError (Flow × State)
  | 0, state, _ => .ok (.forever, state)
  | fuel + 1, state, words =>
      let name := words.headD []
      let inner := (state.forked.wait 900).worked 10
      let files := state.world.files
      let search := state.value? "PATH".toList
      let ended (result : Flow × State) : Flow × State :=
        (result.1, state.resume result.2 (result.1.statusOf result.2))
      if !Lookup.hasRoomFor name words (Tools.environmentTexts state) then
        .error .argumentsTooLong
      else
        match Lookup.find files state.directory search name words.tail with
        | .ok found => .ok (ended (carryOut fuel found inner))
        | .error .execFormat =>
            match Lookup.place files state.directory search name with
            | .error error => .error error
            | .ok place =>
                .ok (ended (shell fuel "/bin/sh".toList (place :: words.tail) inner))
        | .error error => .error error
termination_by structural fuel => fuel

/-- A program that has been found. -/
def carryOut : Nat → Resolved → State → Flow × State
  | 0, _, state => (.forever, state)
  | fuel + 1, found, state =>
      match found.program with
      | "sh" | "dash" => shell fuel found.calledAs found.arguments state
      | "bash" => largeShell fuel found.calledAs found.arguments state
      | name =>
          match Tools.ofName? (launch fuel) name with
          | some tool =>
              state.struckDown (Tools.finish name
                (tool { state with name := found.calledAs } found.arguments))
          | none => (.exit 127, state)
termination_by structural fuel => fuel

def shell : Nat → Text → List Text → State → Flow × State
  | 0, _, _, state => (.forever, state)
  | fuel + 1, calledAs, arguments, state =>
      let base := state.fresh .dash calledAs
      let refused (state : State) (message : Text) : Flow × State :=
        Tools.done (state.write 2 (calledAs ++ ": 0: ".toList ++ message ++ ['\n'])) 2
      match Opening.read base false [] arguments with
      | .error message => refused base message
      | .ok opening =>
          let base := opening.state.write 1 opening.shown
          match opening.isCommand, opening.operands with
          | true, [] => refused base "-c requires an argument".toList
          | true, source :: rest =>
              closing fuel (script fuel { rest := source }
                { base with name := rest.headD calledAs, arguments := rest.tail })
          | false, operands =>
              if operands = [] || base.has 's' then
                let (data, base) := base.readAll 0
                closing fuel (script fuel { rest := Text.ofBytes data, isFile := true }
                  { Builtins.switch true base 's' with arguments := operands })
              else
                let path := operands.headD []
                match Tools.load base path with
                | .error error =>
                    if error = .isDirectory then Tools.done base 0
                    else refused base ("cannot open ".toList ++ path ++ ": ".toList ++
                      State.openReason error)
                | .ok (data, base) =>
                    closing fuel (script fuel { rest := Text.ofBytes data, isFile := true }
                      { base with name := path, arguments := operands.tail })
termination_by structural fuel => fuel

def largeShell : Nat → Text → List Text → State → Flow × State
  | 0, _, _, state => (.forever, state)
  | fuel + 1, calledAs, arguments, state =>
      let base := state.fresh .bash calledAs
      let refused (state : State) (message : Text) (status : Nat) : Flow × State :=
        Tools.done (state.write 2 (message ++ ['\n'])) status
      match Bash.opening base false [] (arguments.length + 1) arguments with
      | .error refusal =>
          Tools.done (base.write (if refusal.status = 0 then 1 else 2) refusal.message)
            refusal.status
      | .ok opening =>
          let base := opening.state.write 1 opening.shown
          match opening.isCommand, opening.operands with
          | true, [] =>
              refused base (calledAs ++ ": -c: option requires an argument".toList) 2
          | true, source :: rest =>
              closing fuel (script fuel { rest := source, isOuter := true }
                { base with
                  name := rest.headD calledAs
                  arguments := rest.tail
                  isString := true
                  context := "-c: ".toList })
          | false, operands =>
              if operands = [] || base.has 's' then
                let (data, base) := base.readAll 0
                closing fuel (script fuel
                  { rest := Text.ofBytes data, isFile := true, isOuter := true }
                  { Builtins.switch true base 's' with arguments := operands })
              else
                let path := operands.headD []
                let isThere := (base.stat path).toOption.isSome
                let place := if path.contains '/' || isThere then path
                  else ((Lookup.place base.world.files base.directory base.searchPath
                    path).toOption).getD path
                match Tools.load base place with
                | .error error =>
                    if error = .isDirectory then
                      refused base (path ++ ": ".toList ++ path ++ ": Is a directory".toList) 126
                    else refused base (calledAs ++ ": ".toList ++ path ++ ": ".toList ++
                      State.largeReason error) (if error = .notFound then 127 else 126)
                | .ok (data, base) =>
                    if Lookup.isText data then
                      closing fuel (script fuel
                        { rest := Text.ofBytes data, isFile := true, isOuter := true }
                        { base with name := path, arguments := operands.tail })
                    else refused base (path ++ ": ".toList ++ path ++
                      ": cannot execute binary file".toList) 126
termination_by structural fuel => fuel

/-- Carries out a script, line by line. -/
def script : Nat → Cursor → State → Flow × State
  | 0, _, state => (.forever, state)
  | fuel + 1, cursor, state =>
      if state.isEndless then (.forever, state)
      else
      let cursor := state.reading cursor
      match Reader.nextLine.run cursor with
      | .error fault => state.misread cursor fault
      | .ok (none, after) => (.next, state.echoed cursor after)
      | .ok (some wanted, after) =>
          let state := state.warned after.warnings
          let after := { after with warnings := [] }
          match command fuel false wanted (state.echoed cursor after) with
          | (.next, state) => script fuel after state
          | (.dropped, state) =>
              if cursor.isOuter then script fuel after state else (.dropped, state)
          | other => other
termination_by structural fuel => fuel

/-- The end of a shell process: what is to be done at the exit is done. -/
def closing : Nat → Flow × State → Flow × State
  | 0, (_, state) => (.forever, state)
  | fuel + 1, (flow, state) =>
      let code := match flow with
        | .exit code => code
        | _ => state.status
      match flow, List.lookup 0 state.traps with
      | .forever, _ | .died _, _ => (flow, state)
      | _, some (first :: rest) =>
          let others := state.traps.filter fun entry => entry.1 ≠ 0
          let (flow, after) := script fuel { rest := first :: rest }
            { state with traps := others, status := code, context := [], isStirred := true }
          match flow with
          | .exit code => (.exit code, after)
          | .died _ | .forever => (flow, after)
          | _ => (.exit code, after)
      | _, _ => (.exit code, state)
termination_by structural fuel => fuel

end

end Run

end FolderScript.Shell
