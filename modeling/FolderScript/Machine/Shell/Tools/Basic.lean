/-
What the programs of a bare machine have in common: how they show names and arguments
in messages, read their switches, find their input, and complain.  A message may put
every text between single quotes, with escapes in it, or write a name the way a shell
would read it.
-/
import FolderScript.Machine.Shell.State

namespace FolderScript.Shell

namespace Quoting

/-- Whether a character shows as itself. -/
def isShown (char : Char) : Bool := 32 ≤ char.toNat && char.toNat < 127

/-- The letter that stands for a control character after a backslash. -/
def letterFor? (char : Char) : Option Char :=
  List.lookup char.toNat
    [(7, 'a'), (8, 'b'), (9, 't'), (10, 'n'), (11, 'v'), (12, 'f'), (13, 'r')]

/-- A character that does not show, as a backslash and a letter or three octal
digits. -/
def escape (char : Char) : Text :=
  match letterFor? char with
  | some letter => ['\\', letter]
  | none =>
      let digit (value : Nat) : Char := Char.ofNat ('0'.toNat + value % 8)
      ['\\', digit (char.toNat / 64), digit (char.toNat / 8), digit char.toNat]

/-- A text between single quotes, with a backslash before quotes and backslashes. -/
def between (text : Text) : Text :=
  '\'' :: (text.flatMap fun char =>
    if char = '\'' || char = '\\' then ['\\', char]
    else if isShown char then [char]
    else escape char) ++ ['\'']

/-- Characters that mean something to a shell wherever they stand. -/
def special : List Char := " !\"$&'()*;<=>?[\\]^\x60|".toList.filter (· ≠ ']')

/-- Whether a shell would read a name as something else. -/
def needsQuotes (name : Text) : Bool :=
  name.isEmpty || name = ['\x7b'] || name = ['\x7d'] ||
    name.head? = some '#' || name.head? = some '~' ||
    name.any fun char => special.contains char || !isShown char

def isPlainDoubled (name : Text) : Bool :=
  let rest := if name.head? = some '#' || name.head? = some '~' then name.tail else name
  rest.all fun char => isShown char &&
    (char = ' ' || char = '\'' ||
      !(special.contains char || ['#', '~', '\x7b', '\x7d'].contains char))

/-- The inner part of a name between single quotes, where what does not show stands in
parts that start with a dollar sign; also whether such a part is open at the end. -/
def shellBody : Bool → Text → Text × Bool
  | isOpen, [] => ([], isOpen)
  | isOpen, char :: rest =>
      if char = '\'' then
        let (body, ends) := shellBody false rest
        ("'\\''".toList ++ body, ends)
      else if isShown char then
        let (body, ends) := shellBody false rest
        ((if isOpen then ['\'', '\''] else []) ++ char :: body, ends)
      else
        let (body, ends) := shellBody true rest
        ((if isOpen then [] else ['\'', '$', '\'']) ++ escape char ++ body, ends)

def always (name : Text) : Text :=
  let hasQuote := name.contains '\''
  if hasQuote && isPlainDoubled name then '"' :: name ++ ['"']
  else
    let isOpen := hasQuote && (shellBody false name).2
    '\'' :: (shellBody isOpen name).1 ++ ['\'']

/-- A name as a shell would read it, between quotes only if it needs them; a colon
would be taken for the end of the name. -/
def whenNeeded (name : Text) : Text :=
  if needsQuotes name || name.contains ':' then always name else name

/-- What needs no quotes is shown as it is. -/
theorem whenNeeded_of_plain {name : Text} (plain : needsQuotes name = false)
    (noColon : name.contains ':' = false) : whenNeeded name = name := by
  simp only [whenNeeded, plain, noColon, Bool.or_false, Bool.false_eq_true, if_false]

end Quoting

namespace Tools

/-- The name of the one who asks, and the number that stands for it. -/
def userName : Text := "tester".toList
def userNumber : Nat := 1000

abbrev Tool := State → List Text → Flow × State

def done (state : State) (status : Nat) : Flow × State := (.exit status, state.withStatus status)

/-- The wording of an error without its number. -/
def reason (error : IoError) : Text :=
  match error with
  | .os number => (IoError.describe number).toList
  | .other text => Text.ofString text

/-- How a tool names itself: as it was called, by its path or by its name alone. -/
def title (state : State) (tool : String) : Text :=
  if ('/' :: tool.toList).reverse.isPrefixOf state.name.reverse then state.name
  else tool.toList

def complain (state : State) (tool : String) (message : Text) : State :=
  state.write 2 (title state tool ++ ": ".toList ++ message ++ ['\n'])

/-- Points to where help is found. -/
def tryHelp (state : State) (tool : String) : State :=
  state.write 2 ("Try '".toList ++ title state tool ++
    " --help' for more information.\n".toList)

/-- Writes a complaint of a tool about its arguments, and where help is found. -/
def misused (state : State) (tool : String) (message : Text) : State :=
  tryHelp (complain state tool message) tool

/-- A text between single quotes, as messages show it. -/
def quoted (text : Text) : Text := Quoting.between text

/-- A file name between quotes, as a shell would read it. -/
def named (name : Text) : Text := Quoting.always name

/-- The switches of a tool in the order they were given, with their values, and
the operands. -/
structure Given where
  switches : List (Char × Text)
  operands : List Text
  deriving DecidableEq, Repr

namespace Given

/-- Whether a switch was given. -/
def has (given : Given) (letter : Char) : Bool :=
  given.switches.any fun switch => switch.1 == letter

/-- The last value of a switch. -/
def value? (given : Given) (letter : Char) : Option Text :=
  (given.switches.reverse.find? fun switch => switch.1 == letter).map Prod.snd

def values (given : Given) (letter : Char) : List Text :=
  (given.switches.filter fun switch => switch.1 == letter).map Prod.snd

/-- The last of some switches that was given. -/
def last? (given : Given) (letters : List Char) : Option Char :=
  (given.switches.reverse.find? fun switch => letters.contains switch.1).map Prod.fst

end Given

/-- The switches that a tool knows. -/
structure Switches where
  /-- Letters that stand alone. -/
  plain : String
  /-- Letters that take a value. -/
  valued : String := ""
  /-- Long names and the letters they stand for. -/
  names : List (String × Char) := []
  /-- Whether operands may stand between switches. -/
  mixed : Bool := true
  deriving DecidableEq, Repr

/-- How a cluster of letters ends: well, with a letter that waits for the next argument,
or at a letter that is not known. -/
inductive ClusterEnd where
  | complete
  | waiting (letter : Char)
  | unknown (letter : Char)
  deriving DecidableEq, Repr

namespace Switches

def cluster (known : Switches) : Text → List (Char × Text) × ClusterEnd
  | [] => ([], .complete)
  | letter :: rest =>
      let alone := known.plain.toList.contains letter
      if known.valued.toList.contains letter then
        if rest ≠ [] then ([(letter, rest)], .complete)
        else if alone then ([(letter, [])], .complete)
        else ([], .waiting letter)
      else if alone then
        let (more, ending) := cluster known rest
        ((letter, []) :: more, ending)
      else ([], .unknown letter)

/-- The long names that an abbreviation may stand for; those of one letter count as
one. -/
def longNames (known : Switches) (name : Text) : List (String × Char) :=
  match known.names.find? fun entry => entry.1.toList == name with
  | some entry => [entry]
  | none =>
      let found := known.names.filter fun entry => name.isPrefixOf entry.1.toList
      match found with
      | [] => []
      | entry :: _ => if found.all fun other => other.2 == entry.2 then [entry] else found

/-- Reads arguments as switches and operands, up to the first that makes no sense; then
there is a complaint too.  A letter that may stand alone or take a value takes only
one that is attached to it. -/
def read (known : Switches) : Nat → List Text → Given × Option Text
  | 0, arguments => (⟨[], arguments⟩, none)
  | _ + 1, [] => (⟨[], []⟩, none)
  | fuel + 1, argument :: rest =>
      let adding (switches : List (Char × Text)) (rest : List Text) : Given × Option Text :=
        let (more, fault) := known.read fuel rest
        ({ more with switches := switches ++ more.switches }, fault)
      let wrong (switches : List (Char × Text)) (message : Text) : Given × Option Text :=
        (⟨switches, []⟩, some message)
      match argument with
      | ['-', '-'] => (⟨[], rest⟩, none)
      | '-' :: '-' :: long =>
          let name := long.takeWhile (· ≠ '=')
          match known.longNames name with
          | [] => wrong [] ("unrecognized option '".toList ++ argument ++ ['\''])
          | [(full, letter)] =>
              let option := "option '--".toList ++ full.toList ++ ['\'']
              match (long.drop name.length).tail?, rest with
              | some value, _ =>
                  if known.valued.toList.contains letter then adding [(letter, value)] rest
                  else wrong [] (option ++ " doesn't allow an argument".toList)
              | none, next =>
                  if known.plain.toList.contains letter then adding [(letter, [])] rest
                  else
                    match next with
                    | value :: rest => adding [(letter, value)] rest
                    | [] => wrong [] (option ++ " requires an argument".toList)
          | several =>
              wrong [] ("option '".toList ++ argument ++
                "' is ambiguous; possibilities:".toList ++
                several.flatMap fun (entry : String × Char) =>
                  " '--".toList ++ entry.1.toList ++ ['\''])
      | '-' :: letter :: letters =>
          match known.cluster (letter :: letters), rest with
          | (found, .unknown bad), _ => wrong found ("invalid option -- '".toList ++ [bad, '\''])
          | (found, .complete), _ => adding found rest
          | (found, .waiting letter), value :: rest => adding (found ++ [(letter, value)]) rest
          | (found, .waiting letter), [] =>
              wrong found ("option requires an argument -- '".toList ++ [letter, '\''])
      | operand =>
          if known.mixed then
            let (more, fault) := known.read fuel rest
            ({ more with operands := operand :: more.operands }, fault)
          else (⟨[], operand :: rest⟩, none)

/-- The switches and operands of arguments that all make sense, or a complaint. -/
def accept (known : Switches) (arguments : List Text) : Except Text Given :=
  match known.read (arguments.length + 1) arguments with
  | (given, none) => .ok given
  | (_, some message) => .error message

end Switches

/-- Why a tool refuses the value of a switch, and whether it points to its help. -/
structure Refusal where
  message : Text
  helps : Bool := false
  deriving DecidableEq, Repr

/-- Goes on with the switches that were given, or complains about them; the values of
the switches are looked at in turn, before what follows them. -/
def readingWith (tool : String) (known : Switches) (fault : Nat)
    (refuse? : Char → Text → Option Refusal) (action : State → Given → Flow × State) :
    Tool := fun state arguments =>
  let (given, wrong) := known.read (arguments.length + 1) arguments
  match given.switches.findSome? fun switch => refuse? switch.1 switch.2, wrong with
  | some ⟨message, true⟩, _ => done (misused state tool message) fault
  | some ⟨message, false⟩, _ => done (complain state tool message) fault
  | none, some message => done (misused state tool message) fault
  | none, none => action state given

/-- Goes on with the switches that were given, or complains about them. -/
def reading (tool : String) (known : Switches) (fault : Nat)
    (action : State → Given → Flow × State) : Tool :=
  readingWith tool known fault (fun _ _ => none) action

/-- Applies an action to each operand; the status is 1 if one of them failed. -/
def forEach (state : State) (operands : List Text)
    (action : State → Text → Except Text State) (tool : String) : Flow × State :=
  let (state, failed) := operands.foldl
    (fun (state, failed) operand =>
      match action state operand with
      | .ok state => (state, failed)
      | .error message => (complain state tool message, true))
    (state, false)
  done state (if failed then 1 else 0)

/-- The content of a file, or of standard input for a dash. -/
def load (state : State) (operand : Text) : Except IoError (Bytes × State) :=
  if operand = ['-'] then
    match state.channel? 0 with
    | none => .error .badDescriptor
    | some .folder => .error .isDirectory
    | some _ => .ok (state.readAll 0)
  else
    match state.nodeAt false operand with
    | .error error => .error error
    | .ok (_, node) =>
        if !node.allows Node.toRead then .error .permissionDenied
        else
          match node.entry with
          | .directory => .error .isDirectory
          | .file data => .ok (data, state)
          | .program _ => .ok (FileSystem.programBytes, state)
          | .link _ => .error .tooManyLinks
          | .device (.descriptor number) => .ok (state.readAll number)
          | .device .terminal => .error .noDevice
          | .device .null => .ok ([], state)
          | .device _ => .ok state.zeroBytes

/-- Whether a file is the one that standard output goes to. -/
def isOutput (state : State) (operand : Text) : Bool :=
  match state.channel? 1, state.nodeAt false operand with
  | some (.file identity), .ok (_, node) => node.identity == identity
  | _, _ => false

/-- Opens a file to write to it, from its beginning or behind what it holds. -/
def openTarget (state : State) (path : Text) (keep : Bool) : Except IoError (Channel × State) :=
  match state.openOutput path keep false, state.placeFor path with
  | .ok result, _ => .ok result
  | .error _, .error error => .error error
  | .error _, .ok position =>
      .error (match (state.world.files.node? position).map Node.entry with
        | some .directory => .isDirectory
        | some _ => .permissionDenied
        | none => if path.getLast? = some '/' then .isDirectory else .permissionDenied)

/-- Makes bytes the content of a file. -/
def store (state : State) (path : Text) (data : Bytes) : Except IoError State := do
  let (channel, opened) ← openTarget state path false
  let written := (opened.setChannel 9 (some channel)).writeBytes 9 data
  pure { written with descriptors := state.descriptors }

/-- Loads files in turn, standard input if there are none; what cannot be loaded is
complained about in the given words. -/
def loadAll (tool : String) (wording : Text → IoError → Text) (state : State)
    (operands : List Text) : List (Text × Bytes) × Bool × State :=
  (if operands = [] then [['-']] else operands).foldl
    (fun (found, failed, state) operand =>
      match load state operand with
      | .ok (data, state) => (found ++ [(operand, data)], failed, state)
      | .error error => (found, true, complain state tool (wording operand error)))
    ([], false, state)

def nameAndReason (operand : Text) (error : IoError) : Text :=
  Quoting.whenNeeded operand ++ ": ".toList ++ reason error

def bareNameAndReason (operand : Text) (error : IoError) : Text :=
  operand ++ ": ".toList ++ reason error

def joined (files : List (Text × Bytes)) : Bytes := (files.map Prod.snd).flatten

def consByte (byte : UInt8) (lines : List Bytes) : List Bytes :=
  match lines with
  | [] => [[byte]]
  | line :: others =>
      if byte = newline then [byte] :: line :: others else (byte :: line) :: others

def byteLines (data : Bytes) : List Bytes := data.foldr consByte []

def textLines (data : Bytes) : List Text := Text.lines (Text.ofBytes data)

def endLines (lines : List Text) : Text := lines.flatMap fun line => line ++ ['\n']

def currentPath (state : State) : Text := Text.ofBytes (Host.pathOf state.directory).bytes

end Tools

end FolderScript.Shell
