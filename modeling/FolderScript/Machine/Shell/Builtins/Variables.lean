/-
Commands of the shell that set, show and remove variables and options.
-/
import FolderScript.Machine.Shell.Builtins.Basic
import FolderScript.Machine.Shell.Fields

namespace FolderScript.Shell

namespace Builtins

/-- The name and the value of an assignment. -/
def assignment (text : Text) : Text × Option Text :=
  let name := text.takeWhile (· ≠ '=')
  (name, (text.drop name.length).tail?)

/-- Applies an action to every operand; complains if one is no name, or names a
variable that is not to be changed. -/
def forNames (command : String) (changes : Text → Bool) (action : State → Text → State) :
    Builtin := fun state operands =>
  let rec walk (state : State) : List Text → Flow × State
    | [] => next state 0
    | operand :: rest =>
        let name := (assignment operand).1
        if !isName name then refuse command state (name ++ ": bad variable name".toList)
        else
          let value := (assignment operand).2
          match if changes operand then state.refusal? name (value.getD ['1']) else none with
          | some message => refuse command state message
          | none => walk (action state operand) rest
  walk state operands

/-- Sets the variable of an assignment, if there is a value. -/
def assign (state : State) (operand : Text) : State :=
  match assignment operand with
  | (name, some value) => state.setVariable name value
  | (_, none) => state

def hasValue (operand : Text) : Bool := (assignment operand).2.isSome

/-- Variables in order, each on a line of its own after a word. -/
def shownVariables (word : String) (known : List Variable) : Text :=
  (known.mergeSort fun left right => !decide (right.name < left.name)).flatMap fun one =>
    word.toList ++ one.name ++ '=' :: singleQuoted one.value ++ ['\n']

/-- Names in order, each on a line of its own after a word. -/
def shownNames (word : String) (names : List Text) : Text :=
  (names.mergeSort fun left right => !decide (right < left)).flatMap fun name =>
    word.toList ++ name ++ ['\n']

def exports : Builtin := reading "export" "p" fun state letters operands =>
  if operands = [] || letters.contains 'p' then
    let unset := state.promised.filter fun name => (state.value? name).isNone
    put "export" state (shownVariables "export " (state.bindings.filter Variable.exported) ++
      shownNames "export " unset.eraseDups)
  else
    forNames "export" hasValue (fun state operand =>
      (assign state operand).exportVariable (assignment operand).1) state operands

def fixes : Builtin := reading "readonly" "p" fun state letters operands =>
  if operands = [] || letters.contains 'p' then
    let isFixed (known : Variable) : Bool := state.fixed.contains known.name
    let unset := state.fixed.filter fun name => (state.value? name).isNone
    put "readonly" state (shownVariables "readonly " (state.bindings.filter isFixed) ++
      shownNames "readonly " unset.eraseDups)
  else
    forNames "readonly" hasValue (fun state operand =>
      let after := assign state operand
      { after with fixed := (assignment operand).1 :: after.fixed }) state operands

/-- Sets variables until the function at hand returns. -/
def localizes : Builtin := fun state operands =>
  match state.saved with
  | none => refuse "local" state "not in a function".toList
  | some _ =>
      forNames "local" (fun _ => true) (fun state operand =>
        let name := (assignment operand).1
        let before := state.bindings.find? fun known => known.name = name
        assign { state with saved := state.saved.map ((name, before) :: ·) } operand)
        state operands

def unset : Builtin := reading "unset" "vf" fun state letters operands =>
  if letters.contains 'f' then
    next { state with functions := state.functions.filter fun entry =>
      !operands.contains entry.1 } 0
  else forNames "unset" (fun _ => true) State.unsetVariable state operands

/-- The options of the shell by their names, in order; some have no letter. -/
def optionNames : List (String × Option Char) :=
  [("errexit", some 'e'), ("noglob", some 'f'), ("ignoreeof", some 'I'),
    ("interactive", some 'i'), ("monitor", some 'm'), ("noexec", some 'n'),
    ("stdin", some 's'), ("xtrace", some 'x'), ("verbose", some 'v'), ("vi", some 'V'),
    ("emacs", some 'E'), ("noclobber", some 'C'), ("allexport", some 'a'),
    ("notify", some 'b'), ("nounset", some 'u'), ("privileged", some 'p'), ("nolog", none),
    ("debug", none)]

/-- Switches an option on or off. -/
def switch (value : Bool) (state : State) (letter : Char) : State :=
  let others := state.options.filter (· ≠ letter)
  { state with options := if value then letter :: others else others }

def optionList (state : State) : Text :=
  "Current option settings\n".toList ++ optionNames.flatMap fun (name, letter) =>
    name.toList ++ List.replicate (16 - name.length) ' ' ++
      (if letter.any state.has then "on\n" else "off\n").toList

def optionCommands (state : State) : Text :=
  optionNames.flatMap fun (name, letter) =>
    (if letter.any state.has then "set -o " else "set +o ").toList ++ name.toList ++ ['\n']

/-- Switches the letters of one argument; those left after a letter that needs the
next argument follow it. -/
def switchLetters (value : Bool) (state : State) : Text → Except Char (State × Bool)
  | [] => .ok (state, false)
  | 'o' :: rest => do
      let (state, _) ← switchLetters value state rest
      pure (state, true)
  | letter :: rest =>
      if optionLetters.contains letter then switchLetters value (switch value state letter) rest
      else .error letter

/-- What options in front of arguments lead to. -/
structure Switched where
  state : State
  /-- What is to be shown. -/
  shown : Text := []
  /-- The arguments that follow, if they are given. -/
  operands : Option (List Text) := none

/-- Switches the options in front of arguments. -/
def switchAll (state : State) : List Text → Except Text Switched
  | [] => .ok { state := state }
  | ['-', '-'] :: rest => .ok { state := state, operands := some rest }
  | ['-'] :: rest =>
      let quiet := switch false (switch false state 'x') 'v'
      .ok { state := quiet, operands := if rest = [] then none else some rest }
  | ['+'] :: rest => switchAll state rest
  | (sign :: letters) :: rest =>
      if sign ≠ '-' ∧ sign ≠ '+' then
        .ok { state := state, operands := some ((sign :: letters) :: rest) }
      else
        let value := sign = '-'
        match switchLetters value state letters, rest with
        | .error letter, _ => .error ("Illegal option ".toList ++ [sign, letter])
        | .ok (state, false), rest => switchAll state rest
        | .ok (state, true), [] =>
            .ok { state := state
                  shown := if value then optionList state else optionCommands state }
        | .ok (state, true), name :: rest =>
            match List.lookup (String.ofList name) optionNames with
            | none => .error ("Illegal option ".toList ++ sign :: "o ".toList ++ name)
            | some none => switchAll state rest
            | some (some letter) => switchAll (switch value state letter) rest
  | operands => .ok { state := state, operands := some operands }

def set : Builtin := fun state arguments =>
  if arguments = [] then put "set" state (shownVariables "" state.bindings)
  else
    match switchAll state arguments with
    | .error message => refuse "set" state message
    | .ok switched =>
        let after := match switched.operands with
          | none => switched.state
          | some operands =>
              { switched.state with
                arguments := operands
                optionIndex := 1
                letterIndex := 0 }
        let after := if after.has 'm' then
            (switch false after 'm').complain
              "set: can't access tty; job control turned off".toList
          else after
        put "set" after switched.shown

def shift : Builtin := fun state arguments =>
  let argument := arguments.headD ['1']
  match number? argument with
  | none => noNumber "shift" state argument
  | some count =>
      if state.arguments.length < count then
        refuse "shift" state "can't shift that many".toList
      else
        next { state with
          arguments := state.arguments.drop count
          optionIndex := 1
          letterIndex := 0 } 0

/-- A line with its backslashes read: its characters, whether each was quoted,
whether the line had an end, and how many bytes it took.  Zero bytes are left out. -/
def readGlyphs (raw : Bool) : Nat → List Glyph → Bytes → List Glyph × Bool × Nat
  | count, found, [] => (found.reverse, false, count)
  | count, found, 92 :: 10 :: rest =>
      if raw then (('\\', false) :: found |>.reverse, true, count + 2)
      else readGlyphs raw (count + 2) found rest
  | count, found, 92 :: byte :: rest =>
      if raw then readGlyphs raw (count + 1) (('\\', false) :: found) (byte :: rest)
      else readGlyphs raw (count + 2) ((Char.ofNat byte.toNat, true) :: found) rest
  | count, found, byte :: rest =>
      if byte = newline then (found.reverse, true, count + 1)
      else if byte = 0 then readGlyphs raw (count + 1) found rest
      else if byte = 92 && !raw then readGlyphs raw (count + 1) found rest
      else readGlyphs raw (count + 1) ((Char.ofNat byte.toNat, false) :: found) rest

/-- Whether a character cuts a line, as a blank or otherwise. -/
def cutsLine (separators : Text) (glyph : Glyph) : Bool :=
  !glyph.2 && separators.contains glyph.1

/-- Whether a character is a blank that cuts a line. -/
def isLineGap (separators : Text) (glyph : Glyph) : Bool :=
  cutsLine separators glyph && Piece.isGap glyph.1

/-- The first part of a line, and what follows the characters that end it. -/
def firstPart (separators : Text) (line : List Glyph) : List Glyph × List Glyph :=
  let part := line.takeWhile fun glyph => !cutsLine separators glyph
  let after := (line.drop part.length).dropWhile (isLineGap separators)
  let rest := match after with
    | glyph :: more =>
        if cutsLine separators glyph then more.dropWhile (isLineGap separators) else after
    | [] => []
  (part, rest)

/-- The values of so many names: parts of a line, and for the last name all that is
left of it. -/
def lineParts (separators : Text) : Nat → List Glyph → List Text
  | 0, _ => []
  | 1, line =>
      let line := line.dropWhile (isLineGap separators)
      let (part, rest) := firstPart separators line
      let whole := (line.reverse.dropWhile (isLineGap separators)).reverse
      [(if rest = [] then part else whole).map Prod.fst]
  | count + 1, line =>
      let (part, rest) := firstPart separators (line.dropWhile (isLineGap separators))
      part.map Prod.fst :: lineParts separators count rest

def read : Builtin := fun state arguments =>
  match options "r" "p" (arguments.length + 1) arguments with
  | .error message => refuse "read" state message
  | .ok (_, []) => refuse "read" state "arg count".toList
  | .ok (letters, names) =>
      let raw := letters.any fun entry => entry.1 == 'r'
      let (line, ended, state) : List Glyph × Bool × State :=
        match state.channel? 0 with
        | some (.buffer number) =>
            let buffer := state.bufferOf number
            let (line, ended, count) := readGlyphs raw 0 [] buffer.content
            let moment := if ended then buffer.arrival count else buffer.endsAt
            (line, ended, (state.setBuffer number (buffer.drop count)).waitUntil moment)
        | _ => ([], false, state)
      if state.channel? 0 = some .zeros then (.forever, state)
      else
        let values := lineParts (Piece.separators state) names.length line
        let rec fill (state : State) : List (Text × Text) → Flow × State
          | [] => next state (if ended then 0 else 1)
          | (name, value) :: rest =>
              if !isName name then refuse "read" state (name ++ ": bad variable name".toList)
              else
                match state.refusal? name value with
                | some message => refuse "read" state message
                | none => fill (state.setVariable name value) rest
        fill state (names.zip values)

def getoptsUsage : Text := "Usage: getopts optstring var [arg...]".toList

/-- What is wrong with an option. -/
inductive OptionFault where
  | unknown (letter : Char)
  | bare (letter : Char)
  deriving DecidableEq, Repr

/-- The wording of what is wrong with an option. -/
def OptionFault.message : OptionFault → Text
  | .unknown letter => "Illegal option -".toList ++ [letter, '\n']
  | .bare letter => "No arg for -".toList ++ letter :: " option\n".toList

/-- What the next option is: the letter for the variable, its argument, what is wrong,
where the reading goes on, and whether there was none. -/
structure NextOption where
  letter : Char
  argument : Option Text
  fault : Option OptionFault := none
  index : Nat
  offset : Nat
  isEnd : Bool := false

def nextOption (wanted : Text) (arguments : List Text) (index offset : Nat) : NextOption :=
  let silent := wanted.head? = some ':'
  let current := if index ≤ 1 || offset = 0 then [] else
    (arguments.getD (index - 2) []).drop offset
  let (letters, index, offset, isEnd) : Text × Nat × Nat × Bool :=
    if current ≠ [] then (current, index, offset, false)
    else
      match arguments[index - 1]? with
      | some ['-', '-'] => ([], index + 1, 0, true)
      | some ('-' :: letter :: rest) => (letter :: rest, index + 1, 1, false)
      | _ => ([], index, 0, true)
  match letters with
  | [] => ⟨'?', none, none, index, 0, isEnd⟩
  | letter :: rest =>
      let known := (if silent then wanted.tail else wanted)
      let after := known.dropWhile (· ≠ letter)
      let following := if rest = [] then 0 else offset + 1
      if after = [] ∨ letter = ':' then
        if silent then ⟨'?', some [letter], none, index, following, false⟩
        else ⟨'?', none, some (.unknown letter), index, following, false⟩
      else if after.drop 1 |>.head? |> (· ≠ some ':') then
        ⟨letter, some [], none, index, following, false⟩
      else if rest ≠ [] then ⟨letter, some rest, none, index, 0, false⟩
      else
        match arguments[index - 1]? with
        | some value => ⟨letter, some value, none, index + 1, 0, false⟩
        | none =>
            if silent then ⟨':', some [letter], none, index, 0, false⟩
            else ⟨'?', none, some (.bare letter), index, 0, false⟩

def getopts : Builtin := fun state arguments =>
  match arguments with
  | wanted :: name :: given =>
      let source := if given = [] then state.arguments else given
      let found := nextOption wanted source state.optionIndex state.letterIndex
      let told := state.write 2 ((found.fault.map OptionFault.message).getD [])
      let kept := match found.argument with
        | some value => told.setVariable "OPTARG".toList value
        | none => if found.isEnd then told else told.unsetVariable "OPTARG".toList
      let counted := kept.setVariable State.optionVariable (Text.ofNat found.index)
      let counted := { counted with optionIndex := found.index, letterIndex := found.offset }
      if !isName name then refuse "getopts" counted (name ++ ": bad variable name".toList)
      else if state.fixed.contains name then
        refuse "getopts" counted (name ++ ": is read only".toList)
      else next (counted.setVariable name [found.letter]) (if found.isEnd then 1 else 0)
  | _ => refuse "getopts" state getoptsUsage

def shownAlias (entry : Text × Text) : Text := entry.1 ++ '=' :: singleQuoted entry.2

def aliases : Builtin := fun state arguments =>
  if arguments = [] then
    put "alias" state ((inTableOrder tableSize Prod.fst state.aliases).flatMap fun entry =>
      shownAlias entry ++ ['\n'])
  else
    let (state, shown, failed) := arguments.foldl
      (fun ((state, shown, failed) : State × Text × Bool) argument =>
        match assignment argument with
        | (name, some value) =>
            let others := state.aliases.filter fun entry => entry.1 ≠ name
            ({ state with aliases := others ++ [(name, value)] }, shown, failed)
        | (name, none) =>
            match List.lookup name state.aliases with
            | some value => (state, shown ++ shownAlias (name, value) ++ ['\n'], failed)
            | none =>
                (state.write 2 ("alias: ".toList ++ name ++ " not found\n".toList), shown, true))
      (state, [], false)
    putWith "alias" state shown (if failed then 1 else 0)

def unalias : Builtin := reading "unalias" "a" fun state letters operands =>
  if letters.contains 'a' then next { state with aliases := [] } 0
  else
    let (state, failed) := operands.foldl
      (fun ((state, failed) : State × Bool) name =>
        if (List.lookup name state.aliases).isSome then
          ({ state with aliases := state.aliases.filter fun entry => entry.1 ≠ name }, failed)
        else (state.write 2 ("unalias: ".toList ++ name ++ " not found\n".toList), true))
      (state, false)
    next state (if failed then 1 else 0)

end Builtins

end FolderScript.Shell
