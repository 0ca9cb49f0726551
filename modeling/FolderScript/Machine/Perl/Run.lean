/-
Carries out a list script.
-/
import FolderScript.Machine.Perl.Files
import FolderScript.Machine.Shell.Builtins.Signals

namespace FolderScript.Perl

open Shell (Text Regex State)

namespace Run

/-- Repeats a step as long as it says so. -/
def iterate (step : Machine → Except Stop Bool × Machine) :
    Nat → Machine → Except Stop Unit × Machine
  | 0, machine => (.error .endless, machine)
  | fuel + 1, machine =>
      match step machine with
      | (.ok true, after) => iterate step fuel after
      | (.ok false, after) => (.ok (), after)
      | (.error stop, after) => (.error stop, after)

/-- How often a loop is gone through at most. -/
def supply : Nat := 100000000

/-- Repeats an action as long as it says so. -/
def repeating (step : Act Bool) : Act Unit :=
  ExceptT.mk fun machine => iterate (fun machine => step.run.run machine) supply machine

/-- Puts back one thing that was changed up to the end of a block. -/
def undone (machine : Machine) : Undo → Machine
  | .name sign place =>
      { machine with shared := match place with
        | some place => machine.shared.insert sign place
        | none => machine.shared.erase sign }
  | .entry hash key place =>
      let known := machine.hashAt hash
      machine.setThing hash (.hash (match place with
        | some place => known.put key place
        | none => known.erase key))

/-- The machine after a block, with the names from before it. -/
def left (before after : Machine) : Machine :=
  let count := after.undo.length - before.undo.length
  let restored := (after.undo.take count).foldl undone after
  { restored with
    scope := before.scope, depth := before.depth, undo := before.undo, package := before.package }

/-- Carries out an action in a block of its own. -/
def enclosed {α : Type} (action : Act α) : Act α :=
  ExceptT.mk fun machine =>
    let (result, after) := action.run.run { machine with depth := machine.depth + 1 }
    (result, left machine after)

/-- Carries out what may be left and begun again like the body of a loop, and tells whether
the loop goes on; there is no value of what was left. -/
def loopBody {α : Type} (label : String) (body : Machine → Except Stop α × Machine) :
    Nat → Machine → Except Stop (Bool × Option α) × Machine
  | 0, machine => (.error .endless, machine)
  | fuel + 1, machine =>
      let isMeant (wanted : String) : Bool := wanted == "" || wanted == label
      match body machine with
      | (.ok value, after) => (.ok (true, some value), after)
      | (.error (.last wanted), after) =>
          if isMeant wanted then (.ok (false, none), after) else (.error (.last wanted), after)
      | (.error (.next wanted), after) =>
          if isMeant wanted then (.ok (true, none), after) else (.error (.next wanted), after)
      | (.error (.again wanted), after) =>
          if isMeant wanted then loopBody label body fuel after else (.error (.again wanted), after)
      | (.error stop, after) => (.error stop, after)

/-- Carries out the body of a loop, and tells whether the loop goes on. -/
def looping (label : String) (body : Act Unit) : Act Bool :=
  ExceptT.mk fun machine =>
    match loopBody label body.run.run supply machine with
    | (.ok (goesOn, _), after) => (.ok goesOn, after)
    | (.error stop, after) => (.error stop, after)

def conform (want : Want) (values : List Value) : List Value :=
  match want with
  | .single => [values.getLast?.getD .undefined]
  | _ => values

/-- The value of an array by its number, counted from its end if that is less than zero. -/
def indexOf? (size : Nat) (index : Int) : Option Nat :=
  if 0 ≤ index then some index.toNat
  else if index + Int.ofNat size < 0 then none
  else some (index + Int.ofNat size).toNat

def itemPlace (array : Nat) (index : Int) : Act Nat := do
  let machine ← get
  let cells := machine.cells array
  match indexOf? cells.size index with
  | none => failWith "Modification of non-creatable array value attempted"
  | some index =>
      match cells[index]? with
      | some place => return place
      | none =>
          let missing := index + 1 - cells.size
          let first := machine.heap.size
          let heap := machine.heap ++ Array.replicate missing (.scalar .undefined)
          set { machine with
            heap := heap.setIfInBounds array
              (.array (cells ++ ((List.range missing).map (first + ·)).toArray)) }
          return first + missing - 1

/-- The place of a value under a key, which is there from then on. -/
def entryPlace (hash : Nat) (key : Text) : Act Nat := do
  match ((← get).hashAt hash).get? key with
  | some place => return place
  | none =>
      let place ← cellOf .undefined
      modify fun machine => machine.setThing hash (.hash ((machine.hashAt hash).put key place))
      return place

def append (array : Nat) (values : List Value) : Act Unit := do
  forAll values fun value => do
    let place ← cellOf value
    modify fun machine => { machine with
      heap := machine.heap.modify array fun thing => match thing with
        | .array cells => .array (cells.push place)
        | other => other }

def setValues (array : Nat) (values : List Value) : Act Unit := do
  modify fun machine => machine.setThing array (.array #[])
  append array values

/-- Gives a hash other keys and values, which come in turn. -/
def setEntries (hash : Nat) : List Value → Act Unit
  | [] => return ()
  | [key] => do
      let _ ← entryPlace hash (← textOf key)
  | key :: value :: rest => do
      let place ← entryPlace hash (← textOf key)
      setValue place value
      setEntries hash rest

def pairs (hash : Nat) : Act (List Value) := do
  let machine ← get
  return (machine.hashAt hash).entries.flatMap fun (key, place) =>
    [.text key, machine.value place]

/-- The place of what a name without a reference leads to. -/
def placeNamed (kind : Kind) (name : String) : Act Nat :=
  modifyGet fun machine => machine.lookup kind name

/-- The letters of a pattern that tell how it is read. -/
def mannerOf (marks : List Char) : Regex.Rich.Manner :=
  { ignoresCase := marks.contains 'i', hasLines := marks.contains 'm'
    pointTakesAll := marks.contains 's', isSpaced := marks.contains 'x'
    countsNamed := marks.contains 'n' }

/-- The pattern that a text spells. -/
def compiled (source : Text) (marks : List Char) : Act (Regex × Nat × List (Text × Nat)) := do
  let key := (marks.filter fun mark => "imsxn".toList.contains mark) ++ '/' :: source
  match (← get).regexes[key]? with
  | some found => return found
  | none =>
      match Regex.Rich.parse false (mannerOf marks) source with
      | .error message =>
          fail (message.toList ++ " in regex m/".toList ++ source ++ ['/'])
      | .ok found =>
          modify fun machine => { machine with regexes := machine.regexes.insert key found }
          return found

def subjectOf (regex : Regex) (marks : List Char) (text : Text) : Regex.Subject :=
  { chars := text.toArray, ignoresCase := marks.contains 'i', takesFirst := true, whole := regex }

def remember (subject : Regex.Subject) (found : Regex.Match) (count : Nat)
    (names : List (Text × Nat)) : Act Unit :=
  modify fun machine => { machine with matched := some ⟨subject, found, count, names⟩ }

def groups (subject : Regex.Subject) (found : Regex.Match) (count : Nat) : List Value :=
  (List.range count).map fun index =>
    if (List.lookup (index + 1) found.groups).isSome then .text (found.group subject (index + 1))
    else .undefined

def matchesFrom (regex : Regex) (subject : Regex.Subject) : Nat → Nat → List Regex.Match
  | 0, _ => []
  | fuel + 1, index =>
      match regex.search? subject index with
      | none => []
      | some found =>
          let next := if found.stop = found.start then found.stop + 1 else found.stop
          found :: (if subject.chars.size < next then [] else matchesFrom regex subject fuel next)

/-- The matches that are replaced: none that is empty stands right behind another empty
one. -/
def allMatches (regex : Regex) (subject : Regex.Subject) (index : Nat) : List Regex.Match :=
  matchesFrom regex subject (subject.chars.size + 2) index

/-- Cuts a text at the matches of a pattern, with the groups of each match between; `most`
parts at most. -/
def cutAt (regex : Regex) (count : Nat) (subject : Regex.Subject) :
    Nat → Option Nat → Nat → Nat → List Value
  | 0, _, _, _ => []
  | fuel + 1, most, start, index =>
      let size := subject.chars.size
      let last : List Value := [.text (subject.slice start size)]
      if most = some 1 then last
      else
        match regex.search? subject index with
        | none => last
        | some found =>
            if found.start = found.stop then
              if size ≤ found.start then last
              else if found.start ≤ start then
                if found.start < start then last
                else cutAt regex count subject fuel most start (start + 1)
              else .text (subject.slice start found.start) :: groups subject found count ++
                cutAt regex count subject fuel (most.map (· - 1)) found.stop found.stop
            else
              .text (subject.slice start found.start) :: groups subject found count ++
                cutAt regex count subject fuel (most.map (· - 1)) found.stop found.stop

def withoutEmptyEnd (values : List Value) : List Value :=
  (values.reverse.dropWhile fun value => value.toText = [] && (match value with
    | .reference _ => false
    | _ => true)).reverse

/-- Cuts a text into parts. -/
def split (regex : Regex) (count : Nat) (text : Text) (limit : Int) : List Value :=
  if text = [] then []
  else
    let subject := subjectOf regex [] text
    let most := if 0 < limit then some limit.toNat else none
    let found := cutAt regex count subject (2 * text.length + 4) most 0 0
    if limit = 0 then withoutEmptyEnd found else found

/-- The last place after which a text may be found again. -/
def positionOf (place : Option Nat) : Act Nat := do
  match place with
  | some place => return ((← get).positions[place]?).getD 0
  | none => return 0

/-- Sets the place after which a text may be found again. -/
def setPosition (place : Option Nat) (position : Option Nat) : Act Unit :=
  match place with
  | none => pure ()
  | some place => modify fun machine => { machine with
      positions := match position with
        | some position => machine.positions.insert place position
        | none => machine.positions.erase place }

/-- Merges two lists in order, behind what is done already, the last first. -/
def merge (before : Value → Value → Machine → Except Stop Bool × Machine) :
    Nat → List Value → List Value → List Value → Machine → Except Stop (List Value) × Machine
  | 0, done, left, right, machine => (.ok (done.reverse ++ left ++ right), machine)
  | _ + 1, done, [], right, machine => (.ok (done.reverse ++ right), machine)
  | _ + 1, done, left, [], machine => (.ok (done.reverse ++ left), machine)
  | fuel + 1, done, first :: left, second :: right, machine =>
      match before second first machine with
      | (.ok true, after) => merge before fuel (second :: done) (first :: left) right after
      | (.ok false, after) => merge before fuel (first :: done) left (second :: right) after
      | (.error stop, after) => (.error stop, after)

/-- Puts a list in order. -/
def sorted (before : Value → Value → Act Bool) : Nat → List Value → Act (List Value)
  | 0, values => return values
  | fuel + 1, values => do
      match values with
      | [] | [_] => return values
      | _ =>
          let half := values.length / 2
          let left ← sorted before fuel (values.take half)
          let right ← sorted before fuel (values.drop half)
          ExceptT.mk fun machine =>
            merge (fun left right machine => (before left right).run.run machine)
              (values.length + 1) [] left right machine

/-- The function of a name: of the package at hand, or of the main one. -/
def functionPlace? (name : String) : Act (Option Nat) := do
  let machine ← get
  let bare := String.ofList (Scan.bareName name.toList)
  match machine.functions[machine.package ++ "::" ++ bare]? with
  | some place => return some place
  | none => return machine.functions[bare]?

/-- The packages that a package takes functions from, with their own, so far up at most. -/
def kinship : Nat → String → Act (List String)
  | 0, name => return [name]
  | fuel + 1, name => do
      let machine ← get
      let parents := match machine.shared["@" ++ name ++ "::ISA"]? with
        | some place => machine.values place
        | none => []
      let above ← parents.mapM fun parent => kinship fuel (String.ofList parent.toText)
      return name :: above.flatten

def methodPlace? (package name : String) : Act (Option Nat) := do
  let machine ← get
  let packages ← kinship 20 package
  return packages.findSome? fun package =>
    machine.functions[if package == "main" then name else package ++ "::" ++ name]?

def packageOf (name : String) : String :=
  let text := name.toList
  let last := (text.reverse.takeWhile (· ≠ ':')).length
  if last = text.length then "main" else String.ofList (text.take (text.length - last - 2))

def lastPart (name : String) : String :=
  String.ofList (name.toList.reverse.takeWhile (· ≠ ':')).reverse

/-- The number of a signal by its name or number. -/
def signalOf? (value : Value) : Option Nat :=
  let text := value.toText
  let bare := if text.head? == some '-' then text.drop 1 else text
  match Shell.Text.toNat? bare with
  | some number => some number
  | none =>
      let name := String.ofList (if "SIG".toList.isPrefixOf bare then bare.drop 3 else bare)
      if name == "ZERO" then some 0
      else (List.range 32).find? fun number => Ending.signalName number = "SIG" ++ name

/-- A time from a number of seconds. -/
def duration (number : Number) : Duration :=
  match number with
  | .whole value => value.toNat * 1000000
  | .real value => if value < 0 then 0 else (value * 1000000.0).toUInt64.toNat

/-- The names of variables that are changed in another way than others. -/
def isPeculiar (name : String) : Bool := name == "!" || name == "|" || name == "."

/-- Makes a stream at the place that a value stands for, if there is none. -/
def streamNamed (name : Text) : Act Nat := do
  let sign := Streams.sign (Scan.bareName name)
  match (← get).shared[sign]? with
  | some place => return place
  | none =>
      let place ← allot (.stream { name := name, isOpen := false })
      modify fun machine => { machine with shared := machine.shared.insert sign place }
      return place

/-- Where a script was told to look for the lines of a text. -/
def linesOf (mark : Streams.Mark) : Nat → Text → List Value
  | 0, _ => []
  | _ + 1, [] => []
  | fuel + 1, text =>
      let (line, rest) := Streams.firstLine mark text
      if line = [] then [] else .text line :: linesOf mark fuel rest

def undefinedFunction {α : Type} (name : String) : Act α := do
  let whole := if (packageOf name) == "main" then "main::" ++ lastPart name else name
  fail ("Undefined subroutine &".toList ++ whole.toList ++ " called".toList)

def isArrayFunction (name : String) : Bool :=
  ["push", "unshift", "pop", "shift", "splice"].contains name

def splice (array : Nat) (values : List Value) : Act (List Value) := do
  let cells := ((← get).cells array).toList
  let size := cells.length
  let start := match values.head? with
    | none => 0
    | some value => (indexOf? size value.toInt).getD 0
  let start := min start size
  let count := match values[1]? with
    | none => size - start
    | some value =>
        if value.toInt < 0 then (Int.ofNat (size - start) + value.toInt).toNat
        else min value.toNat (size - start)
  let removed := (cells.drop start).take count
  let added ← (values.drop 2).mapM cellOf
  let machine ← get
  set (machine.setThing array
    (.array (cells.take start ++ added ++ cells.drop (start + count)).toArray))
  return removed.map machine.value

def arrayValues (want : Want) (place : Nat) : Act (List Value) := do
  let machine ← get
  if want == .several then return machine.values place
  else return [.ofNat (machine.cells place).size]

/-- The keys and values of a hash, or how many keys there are. -/
def hashValues (want : Want) (place : Nat) : Act (List Value) := do
  if want == .several then pairs place
  else return [.ofNat ((← get).hashAt place).cells.size]

/-- The places of the arguments of the function at hand. -/
def sharedArguments : Act (List Nat) := do
  return ((← get).cells (← placeNamed .array "_")).toList

def constantPlace (text : Text) : Act Nat := do
  match (← get).constants[text]? with
  | some place => return place
  | none =>
      let place ← cellOf (.text text)
      modify fun machine => { machine with constants := machine.constants.insert text place }
      return place

/-- Takes a key out of a hash; gives the value that it had. -/
def removed (hash : Nat) (key : Text) : Act Value := do
  let machine ← get
  let known := machine.hashAt hash
  match known.get? key with
  | none => return .undefined
  | some cell =>
      set (machine.setThing hash (.hash (known.erase key)))
      return machine.value cell

/-- The text of a message, with the place at its end unless it ends with a line. -/
def messageOf (usual : String) (values : List Value) : Act Text := do
  let text := (← mapAll textOf values).flatten
  let text := if text = [] then usual.toList else text
  let site := (← get).site
  return if text.getLast? == some '\n' then text else text ++ site

/-- The function that is to be called on an event. -/
def handlerOf (name : String) : Act (Option Value) := do
  let machine ← get
  return ((machine.shared["%SIG"]?.bind fun place =>
    (machine.hashAt place).get? name.toList).map machine.value).filter fun value =>
      match value with
      | .reference _ => true
      | _ => false

def defineConstant (name : String) (values : List Value) : Act Unit := do
  let body : List Statement := [.simple 0 (.list (values.map .constant))]
  let place ← allot (.code ⟨name, body, none⟩)
  modify fun machine => { machine with functions := machine.functions.insert name place }

/-- Carries out an action that may fail, and remembers why. -/
def attempt (want : Want) (action : Act (List Value)) : Act (List Value) :=
  ExceptT.mk fun machine =>
    match action.run.run machine with
    | (.ok values, after) => (.ok values, after.setShared "@" (.text []))
    | (.error (.returned values), after) =>
        (.ok (conform want values), (left machine after).setShared "@" (.text []))
    | (.error (.died reason), after) =>
        let after := { left machine after with
          calls := machine.calls, want := machine.want, package := machine.package }
        (.ok (if want == .several then [] else [.undefined]), after.setShared "@" reason)
    | other => other

/-- Carries out a block that can be left like a loop. -/
def enclosedLoop (label : String) (action : Act (List Value)) : Act (List Value) :=
  ExceptT.mk fun machine =>
    match loopBody label (enclosed action).run.run supply machine with
    | (.ok (_, values), after) => (.ok (values.getD []), after)
    | (.error stop, after) => (.error stop, after)

/-- Takes a step for each item of a list, as long as the steps say so. -/
def throughAll {α : Type} (step : α → Machine → Except Stop Bool × Machine) :
    List α → Machine → Except Stop Unit × Machine
  | [], machine => (.ok (), machine)
  | item :: rest, machine =>
      match step item machine with
      | (.ok true, after) => throughAll step rest after
      | (.ok false, after) => (.ok (), after)
      | (.error stop, after) => (.error stop, after)

/-- The place of the function that a value stands for. -/
def codeOf (value : Value) : Act Nat := do
  match value with
  | .reference place =>
      match (← get).thing place with
      | .code _ => return place
      | _ => failWith "Not a CODE reference"
  | other =>
      let name := String.ofList (← textOf other)
      match ← functionPlace? name with
      | some place => return place
      | none => undefinedFunction name

mutual

def eval : Nat → Want → Expr → Act (List Value)
  | 0, _, _ => throw .endless
  | fuel + 1, want, expr => do
      match expr with
      | .constant value => return [value]
      | .joined parts => return [.text (← joined fuel parts)]
      | .spread list =>
          let values ← eval fuel .several list
          let mark ← textOf ((← get).sharedValue "\"")
          return [.text (Shell.Text.join mark (← mapAll textOf values))]
      | .named .scalar name =>
          let machine ← get
          match machine.scoped? .scalar name with
          | some place => return [machine.value place]
          | none =>
              match machine.special? name with
              | some value => return [value]
              | none => return [← valueAt (← placeNamed .scalar name)]
      | .named .array name => arrayValues want (← placeNamed .array name)
      | .named .hash name =>
          if name == "+" then
            let machine ← get
            let names := (machine.matched.map Matched.names).getD []
            return names.flatMap fun (name, _) =>
              [.text name, Machine.optional (machine.namedGroup? name)]
          else hashValues want (← placeNamed .hash name)
      | .named .code name => call fuel want name (← sharedArguments)
      | .followed .scalar inner => return [← valueAt (← follow fuel .scalar inner)]
      | .followed .array inner => arrayValues want (← follow fuel .array inner)
      | .followed .hash inner => hashValues want (← follow fuel .hash inner)
      | .followed .code inner => invoke fuel want (← single fuel inner) (← sharedArguments)
      | .item array index =>
          let index := (← single fuel index).toInt
          let place ← containerOf fuel .array array
          let machine ← get
          let cells := machine.cells place
          return [((indexOf? cells.size index).bind fun index =>
            (cells[index]?).map machine.value).getD .undefined]
      | .entry (.named .hash "+") key =>
          return [Machine.optional ((← get).namedGroup? (← textOf (← single fuel key)))]
      | .entry hash key =>
          let key ← keyOf fuel key
          let place ← containerOf fuel .hash hash
          let machine ← get
          return [(((machine.hashAt place).get? key).map machine.value).getD .undefined]
      | .items array indexes =>
          let indexes ← eval fuel .several indexes
          let place ← containerOf fuel .array array
          let machine ← get
          let cells := machine.cells place
          return conform want (indexes.map fun index =>
            ((indexOf? cells.size index.toInt).bind fun index =>
              (cells[index]?).map machine.value).getD .undefined)
      | .entries hash keys =>
          let keys ← mapAll textOf (← eval fuel .several keys)
          let place ← containerOf fuel .hash hash
          let machine ← get
          return conform want (keys.map fun key =>
            (((machine.hashAt place).get? key).map machine.value).getD .undefined)
      | .pick list indexes =>
          let values ← eval fuel .several list
          let indexes ← eval fuel .several indexes
          let found := indexes.map fun index =>
            ((indexOf? values.length index.toInt).bind fun index => values[index]?).getD .undefined
          return if want == .several && values.isEmpty then [] else conform want found
      | .lastIndex array =>
          let place ← containerOf fuel .array array
          return [.ofInt (Int.ofNat ((← get).cells place).size - 1)]
      | .own isShared targets isList =>
          declareAll fuel isShared targets
          if isList then return conform want (← evalAll fuel targets)
          else eval fuel want (targets.headD (.list []))
      | .kept target =>
          localize fuel target
          eval fuel want target
      | .list items =>
          if want == .several then evalAll fuel items
          else lastOf fuel want items
      | .assign target value =>
          if target.isPlural then
            let values ← eval fuel .several value
            let targets ← assignList fuel target values
            if want == .several then evalAll fuel targets
            else return [.ofNat values.length]
          else
            let value ← single fuel value
            assignTo fuel target value
            return [value]
      | .update operation target value =>
          match operation, target.isPlural with
          | "x", true =>
              let count := (← single fuel value).toInt
              let values ← eval fuel .several target
              let _ ← assignList fuel target (List.replicate count.toNat values).flatten
              return []
          | "||", false | "&&", false | "//", false =>
              let before ← single fuel target
              let isKept := match operation with
                | "||" => before.holds
                | "&&" => !before.holds
                | _ => before.isDefined
              if isKept then return [before]
              else
                let after ← single fuel value
                assignTo fuel target after
                return [after]
          | _, true =>
              let values ← eval fuel .several value
              let _ ← assignList fuel target values
              return []
          | _, false =>
              let right ← single fuel value
              let place ← updatePlace fuel target
              let left ← match place with
                | some place => valueAt place
                | none => single fuel target
              let result ← Functions.binary operation left right
              match place with
              | some place => setValue place result
              | none => assignTo fuel target result
              return [result]
      | .step isBefore isUp target =>
          let place ← updatePlace fuel target
          let before ← match place with
            | some place => valueAt place
            | none => single fuel target
          let after := Functions.stepped isUp before
          match place with
          | some place => setValue place after
          | none => assignTo fuel target after
          return [if isBefore then after
            else if before.isDefined then before else if isUp then .ofInt 0 else .undefined]
      | .binary "x" (.list items) right =>
          if want == .several then
            let values ← evalAll fuel items
            let count := (← single fuel right).toInt
            return (List.replicate count.toNat values).flatten
          else
            let left ← single fuel (.list items)
            return [← Functions.binary "x" left (← single fuel right)]
      | .binary sign left right =>
          let left ← single fuel left
          let right ← single fuel right
          return [← Functions.binary sign left right]
      | .unary sign operand => return [← Functions.unary sign (← single fuel operand)]
      | .logical sign left right =>
          let first ← single fuel left
          match sign with
          | "&&" | "and" => if first.holds then eval fuel want right else return [first]
          | "||" | "or" => if first.holds then return [first] else eval fuel want right
          | "//" => if first.isDefined then return [first] else eval fuel want right
          | _ => return [.ofBool (first.holds != (← single fuel right).holds)]
      | .choice condition yes no =>
          if (← single fuel condition).holds then eval fuel want yes else eval fuel want no
      | .range first last =>
          if want == .several then
            return Functions.range (← single fuel first) (← single fuel last)
          else return [.ofBool false]
      | .fits subject negated pattern marks => matching fuel want subject negated pattern marks
      | .pattern source marks =>
          let source ← textOf (← single fuel source)
          return [.reference (← allot (.pattern source marks))]
      | .exchange subject pattern replacement marks =>
          exchange fuel subject pattern replacement marks
      | .transliterate subject wanted given marks =>
          let subject := subject.getD Reader.atHand
          let text ← textOf (← single fuel subject)
          let (result, count) := Exchange.apply wanted given marks text
          if marks.contains 'r' then return [.text result]
          else
            if result ≠ text then assignTo fuel subject (.text result)
            return [.ofNat count]
      | .call name arguments =>
          match arguments with
          | some arguments =>
              match ← functionPlace? name with
              | some place => apply fuel place (← cellsOf fuel arguments) want
              | none =>
                  let values ← if Functions.single.contains (lastPart name) then singles fuel arguments
                    else evalAll fuel arguments
                  match ← Functions.outcome? name want values with
                  | some found => return conform want found
                  | none => known fuel want name values
          | none =>
              match ← functionPlace? name with
              | some place => apply fuel place [] want
              | none =>
                  match ← Functions.outcome? name want [] with
                  | some found => return conform want found
                  | none => return [.text name.toList]
      | .invoke callee arguments =>
          let function ← single fuel callee
          let place ← codeOf function
          apply fuel place (← cellsOf fuel arguments) want
      | .method object name arguments => method fuel want object name arguments
      | .function name arguments => function fuel want name arguments
      | .print kind handle arguments => print fuel kind handle arguments
      | .ordered order list =>
          let values ← evalAll fuel list
          let before (left right : Value) : Act Bool := do
            match order with
            | none =>
                return Functions.compareTexts (← textOf left) (← textOf right) == .lt
            | some order =>
                tick
                modify fun machine => (machine.setShared "a" left).setShared "b" right
                return (← single fuel order).toNumber.toFloat < 0
          return conform want (← sorted before (values.length + 1) values)
      | .mapped keeps body list =>
          let cells ← cellsOf fuel list
          let found ← mapCells fuel keeps body cells
          if want == .several then return found else return [.ofNat found.length]
      | .readLine handle => readLines fuel want (← single fuel handle)
      | .output command =>
          let line ← textOf (← single fuel command)
          let (text, status) ← Streams.outputOf (Streams.wordsOf line)
          Streams.setStatus status
          if want == .several then
            let mark ← Streams.mark
            return linesOf mark (text.length + 1) text
          else return [if status.isNone then .undefined else .text text]
      | .block body => conform want <$> enclosed (run fuel want body)
      | .attempt body => attempt want (enclosed (run fuel want body))
      | .closure body =>
          let machine ← get
          return [.reference (← allot (.code ⟨"__ANON__", body, some machine.scope⟩))]
      | .refer operand => refer fuel operand
      | .makeArray items =>
          let values ← evalAll fuel items
          let place ← allot (.array #[])
          append place values
          return [.reference place]
      | .makeHash items =>
          let values ← evalAll fuel items
          let place ← allot (.hash {})
          setEntries place values
          return [.reference place]
      | .fileTest letter operand => return [← fileTest fuel letter operand]
termination_by structural fuel => fuel

def single : Nat → Expr → Act Value
  | 0, _ => throw .endless
  | fuel + 1, expr => return ((← eval fuel .single expr).getLast?).getD .undefined
termination_by structural fuel => fuel

def evalAll : Nat → List Expr → Act (List Value)
  | 0, _ => throw .endless
  | _ + 1, [] => return []
  | fuel + 1, first :: rest => do
      let values ← eval fuel .several first
      return values ++ (← evalAll fuel rest)
termination_by structural fuel => fuel

def singles : Nat → List Expr → Act (List Value)
  | 0, _ => throw .endless
  | _ + 1, [] => return []
  | fuel + 1, first :: rest => do
      let value ← single fuel first
      return value :: (← singles fuel rest)
termination_by structural fuel => fuel

def lastOf : Nat → Want → List Expr → Act (List Value)
  | 0, _, _ => throw .endless
  | _ + 1, _, [] => return [.undefined]
  | fuel + 1, want, [last] => eval fuel want last
  | fuel + 1, want, first :: rest => do
      let _ ← eval fuel .nothing first
      lastOf fuel want rest
termination_by structural fuel => fuel

def joined : Nat → List Expr → Act Text
  | 0, _ => throw .endless
  | _ + 1, [] => return []
  | fuel + 1, first :: rest => do
      let text ← textOf (← single fuel first)
      return text ++ (← joined fuel rest)
termination_by structural fuel => fuel

def keyOf : Nat → Expr → Act Text
  | 0, _ => throw .endless
  | fuel + 1, key => do
      match key with
      | .list items =>
          let mark ← textOf ((← get).sharedValue ";")
          return Shell.Text.join mark (← mapAll textOf (← evalAll fuel items))
      | other => textOf (← single fuel other)
termination_by structural fuel => fuel

/-- The place of the array or the hash that an expression names. -/
def containerOf : Nat → Kind → Expr → Act Nat
  | 0, _, _ => throw .endless
  | fuel + 1, kind, expr => do
      match expr with
      | .named _ name => placeNamed kind name
      | .followed _ inner => follow fuel kind inner
      | .own isShared targets _ =>
          declareAll fuel isShared targets
          containerOf fuel kind (targets.headD (.list []))
      | .kept target =>
          localize fuel target
          containerOf fuel kind target
      | .list [inner] => containerOf fuel kind inner
      | other => do
          let values ← eval fuel .several other
          match kind with
          | .hash =>
              let place ← allot (.hash {})
              setEntries place values
              return place
          | _ =>
              let place ← allot (.array #[])
              append place values
              return place
termination_by structural fuel => fuel

/-- The place that a reference leads to; what is not set yet becomes a reference to
something new. -/
def follow : Nat → Kind → Expr → Act Nat
  | 0, _, _ => throw .endless
  | fuel + 1, kind, inner => do
      let isPlace := match inner with
        | .named .scalar _ | .item .. | .entry .. | .followed .scalar _ => true
        | .own .. => true
        | _ => false
      let known ← single fuel inner
      match known with
      | .reference place =>
          let machine ← get
          if (machine.thing place).isOf kind then return place
          else
            match kind, machine.thing place with
            | .array, _ | .hash, _ | .code, _ =>
                let article := if kind == .array then " ARRAY".toList else ' ' :: kind.title.toList
                fail ("Not a".toList ++ (if kind == .array then ['n'] else []) ++ article ++
                  " reference".toList)
            | .scalar, _ => failWith "Not a SCALAR reference"
      | .undefined =>
          let fresh ← allot kind.fresh
          if isPlace then assignTo fuel inner (.reference fresh)
          return fresh
      | other => placeNamed kind (String.ofList (Scan.bareName (← textOf other)))
termination_by structural fuel => fuel

/-- The place of the value that an expression stands for, which is there from then on. -/
def placeOf : Nat → Expr → Act Nat
  | 0, _ => throw .endless
  | fuel + 1, expr => do
      match expr with
      | .named .scalar name =>
          match (← get).special? name with
          | some value => cellOf value
          | none => placeNamed .scalar name
      | .followed .scalar inner => follow fuel .scalar inner
      | .item array index =>
          let index := (← single fuel index).toInt
          let place ← containerOf fuel .array array
          itemPlace place index
      | .entry hash key =>
          let key ← keyOf fuel key
          let place ← containerOf fuel .hash hash
          entryPlace place key
      | .own isShared targets _ =>
          declareAll fuel isShared targets
          placeOf fuel (targets.headD (.list []))
      | .kept target =>
          localize fuel target
          placeOf fuel target
      | .list [inner] => placeOf fuel inner
      | .choice condition yes no =>
          if (← single fuel condition).holds then placeOf fuel yes else placeOf fuel no
      | .assign target value =>
          if target.isPlural then cellOf (← single fuel expr)
          else
            let value ← single fuel value
            let place ← placeOf fuel target
            setValue place value
            return place
      | .step _ _ target | .update _ target _ =>
          let _ ← single fuel expr
          placeOf fuel target
      | other => cellOf (← single fuel other)
termination_by structural fuel => fuel

/-- The place of what is changed, unless it is changed in a peculiar way. -/
def updatePlace : Nat → Expr → Act (Option Nat)
  | 0, _ => throw .endless
  | fuel + 1, expr => do
      match expr with
      | .named .scalar name =>
          if isPeculiar name then return none else return some (← placeOf fuel expr)
      | .item .. | .entry .. | .followed .scalar _ | .own .. | .kept _ | .list [_] =>
          return some (← placeOf fuel expr)
      | .choice .. => return some (← placeOf fuel expr)
      | _ => return none
termination_by structural fuel => fuel

/-- The places of the values of expressions: those that others know where there are some. -/
def cellsOf : Nat → List Expr → Act (List Nat)
  | 0, _ => throw .endless
  | _ + 1, [] => return []
  | fuel + 1, first :: rest => do
      let here ← match first with
        | .named .array _ | .followed .array _ =>
            (do
              let place ← containerOf fuel .array first
              return ((← get).cells place).toList : Act (List Nat))
        | .named .scalar _ | .followed .scalar _ =>
            (do return [← placeOf fuel first] : Act (List Nat))
        | .own _ [.named .scalar _] false => (do return [← placeOf fuel first] : Act (List Nat))
        | .assign target _ =>
            if target.isPlural then
              (do
                let _ ← eval fuel .nothing first
                cellsOf fuel [match target with
                  | .own _ targets _ => .list targets
                  | .kept inner => inner
                  | other => other] : Act (List Nat))
            else (do return [← placeOf fuel first] : Act (List Nat))
        | .list items => cellsOf fuel items
        | .item array index =>
            (do
              let position := (← single fuel index).toInt
              let place ← containerOf fuel .array array
              let cells := (← get).cells place
              match (indexOf? cells.size position).bind fun index => cells[index]? with
              | some cell => return [cell]
              | none => return [← cellOf .undefined] : Act (List Nat))
        | .entry hash key =>
            (do
              let key ← keyOf fuel key
              let place ← containerOf fuel .hash hash
              match ((← get).hashAt place).get? key with
              | some cell => return [cell]
              | none => return [← cellOf .undefined] : Act (List Nat))
        | .function "values" [hash] =>
            (do
              let place ← containerOf fuel .hash hash
              return ((← get).hashAt place).entries.map Prod.snd : Act (List Nat))
        | other => (do mapAll cellOf (← eval fuel .several other) : Act (List Nat))
      return here ++ (← cellsOf fuel rest)
termination_by structural fuel => fuel

/-- Gives what an expression stands for another value. -/
def assignTo : Nat → Expr → Value → Act Unit
  | 0, _, _ => throw .endless
  | fuel + 1, target, value => do
      match target with
      | .named .scalar "!" => setError value.toNat
      | .named .scalar "|" =>
          let place := (← get).selected
          Streams.change place fun stream => { stream with isPrompt := value.holds }
          if value.holds then Streams.flush place
          modify fun machine => machine.setShared "|" (.ofBool value.holds)
      | .kept (.named .scalar "|") => assignTo fuel (.named .scalar "|") value
      | .named .scalar "." =>
          match (← get).lastRead with
          | some (_, place) =>
              Streams.change place fun stream => { stream with lines := value.toNat }
          | none => pure ()
      | .lastIndex array =>
          let place ← containerOf fuel .array array
          let size := (value.toInt + 1).toNat
          let cells := (← get).cells place
          if size ≤ cells.size then
            modify fun machine => machine.setThing place (.array (cells.extract 0 size))
          else
            let _ ← itemPlace place (Int.ofNat size - 1)
      | .function "substr" (text :: rest) =>
          let values ← singles fuel rest
          let _ ← substr fuel text (values.take 2 ++
            (if values.length < 2 then [.undefined] else []) ++ [value])
      | .function "local" _ => pure ()
      | .assign inner _ =>
          let _ ← eval fuel .nothing target
          assignTo fuel inner value
      | .choice condition yes no =>
          if (← single fuel condition).holds then assignTo fuel yes value else assignTo fuel no value
      | .constant (.text name) =>
          match value with
          | .reference place =>
              match (← get).thing place with
              | .code _ =>
                  modify fun machine => { machine with
                    functions := machine.functions.insert (String.ofList name) place }
              | .stream _ =>
                  modify fun machine => { machine with
                    shared := machine.shared.insert (Streams.sign name) place }
              | _ => pure ()
          | _ => pure ()
      | other => setValue (← placeOf fuel other) value
termination_by structural fuel => fuel

/-- Hands values to several targets; gives these. -/
def assignList : Nat → Expr → List Value → Act (List Expr)
  | 0, _, _ => throw .endless
  | fuel + 1, target, values => do
      match target with
      | .own isShared targets _ =>
          declareAll fuel isShared targets
          assignEach fuel targets values
          return targets
      | .kept inner =>
          localize fuel inner
          assignList fuel inner values
      | .list items =>
          assignEach fuel items values
          return items
      | other =>
          assignEach fuel [other] values
          return [other]
termination_by structural fuel => fuel

/-- Hands values to targets in turn. -/
def assignEach : Nat → List Expr → List Value → Act Unit
  | 0, _, _ => throw .endless
  | _ + 1, [], _ => return ()
  | fuel + 1, target :: rest, values => do
      match target with
      | .named .array _ | .followed .array _ =>
          setValues (← containerOf fuel .array target) values
          assignEach fuel rest []
      | .named .hash _ | .followed .hash _ =>
          let place ← containerOf fuel .hash target
          modify fun machine => machine.setThing place (.hash {})
          setEntries place values
          assignEach fuel rest []
      | .own isShared targets isList =>
          declareAll fuel isShared targets
          if isList then assignEach fuel (targets ++ rest) values
          else assignEach fuel (targets.take 1 ++ rest) values
      | .list items => assignEach fuel (items ++ rest) values
      | .function "undef" [] => assignEach fuel rest values.tail
      | .items array indexes =>
          let found ← eval fuel .several indexes
          let place ← containerOf fuel .array array
          (found.zipIdx).forM fun (index, order) => do
            setValue (← itemPlace place index.toInt) (values.getD order .undefined)
          assignEach fuel rest (values.drop found.length)
      | .entries hash keys =>
          let found ← eval fuel .several keys
          let place ← containerOf fuel .hash hash
          (found.zipIdx).forM fun (key, order) => do
            setValue (← entryPlace place (← textOf key)) (values.getD order .undefined)
          assignEach fuel rest (values.drop found.length)
      | other =>
          assignTo fuel other (values.headD .undefined)
          assignEach fuel rest values.tail
termination_by structural fuel => fuel

/-- Makes new variables of the block at hand, or names for those of the whole script. -/
def declareAll : Nat → Bool → List Expr → Act Unit
  | 0, _, _ => throw .endless
  | _ + 1, _, [] => return ()
  | fuel + 1, isShared, target :: rest => do
      match target with
      | .named kind name =>
          let place ← if isShared then
              (do
                let machine ← get
                let sign := kind.sign ++ machine.sharedName name
                match machine.shared[sign]? with
                | some place => return place
                | none =>
                    let place ← allot kind.fresh
                    modify fun machine => { machine with shared := machine.shared.insert sign place }
                    return place : Act Nat)
            else allot kind.fresh
          modify fun machine =>
            let scope := (kind, name, place) :: machine.scope
            { machine with
              scope := scope, outer := if machine.depth = 0 then scope else machine.outer }
      | .list items => declareAll fuel isShared items
      | _ => pure ()
      declareAll fuel isShared rest
termination_by structural fuel => fuel

/-- Puts something new in the place of a variable up to the end of the block. -/
def localize : Nat → Expr → Act Unit
  | 0, _ => throw .endless
  | fuel + 1, target => do
      match target with
      | .named kind name =>
          if !isPeculiar name then
            let sign := kind.sign ++ (← get).sharedName name
            let place ← allot kind.fresh
            modify fun machine => { machine with
              undo := .name sign (machine.shared[sign]?) :: machine.undo
              shared := machine.shared.insert sign place }
      | .entry hash key =>
          let key ← keyOf fuel key
          let place ← containerOf fuel .hash hash
          modify fun machine =>
            let known := machine.hashAt place
            let machine := { machine with undo := .entry place key (known.get? key) :: machine.undo }
            machine.setThing place (.hash (known.erase key))
      | .list items =>
          match items with
          | [] => pure ()
          | first :: rest =>
              localize fuel first
              localize fuel (.list rest)
      | _ => pure ()
termination_by structural fuel => fuel

/-- A reference to what an expression stands for. -/
def refer : Nat → Expr → Act (List Value)
  | 0, _ => throw .endless
  | fuel + 1, operand => do
      match operand with
      | .named .array _ | .followed .array _ =>
          return [.reference (← containerOf fuel .array operand)]
      | .named .hash _ | .followed .hash _ =>
          return [.reference (← containerOf fuel .hash operand)]
      | .named .code name =>
          match ← functionPlace? name with
          | some place => return [.reference place]
          | none => return [.reference (← allot (.code ⟨name, [], none⟩))]
      | .own isShared [.named kind name] false =>
          declareAll fuel isShared [.named kind name]
          refer fuel (.named kind name)
      | .list items =>
          match items with
          | [] => return []
          | first :: rest => return (← refer fuel first) ++ (← refer fuel (.list rest))
      | .closure _ => eval fuel .single operand
      | .constant (.text name) =>
          match (← get).shared[Streams.sign name]? with
          | some place => return [.reference place]
          | none => return [.reference (← cellOf (.text name))]
      | other => return [.reference (← placeOf fuel other)]
termination_by structural fuel => fuel

/-- Calls a function by its name with the arguments at hand. -/
def call : Nat → Want → String → List Nat → Act (List Value)
  | 0, _, _, _ => throw .endless
  | fuel + 1, want, name, cells => do
      match ← functionPlace? name with
      | some place => apply fuel place cells want
      | none => undefinedFunction name
termination_by structural fuel => fuel

def invoke : Nat → Want → Value → List Nat → Act (List Value)
  | 0, _, _, _ => throw .endless
  | fuel + 1, want, value, cells => do apply fuel (← codeOf value) cells want
termination_by structural fuel => fuel

/-- Calls the function at a place with the values at others. -/
def apply : Nat → Nat → List Nat → Want → Act (List Value)
  | 0, _, _, _ => throw .endless
  | fuel + 1, place, cells, want => do
      tick
      match (← get).thing place with
      | .code code =>
          let arguments ← allot (.array cells.toArray)
          ExceptT.mk fun machine =>
            if mostCalls < machine.calls then (.error .endless, machine)
            else
              let inner := { machine with
                scope := (.array, "_", arguments) :: code.scope.getD machine.outer
                depth := machine.depth + 1
                calls := machine.calls + 1
                package := packageOf code.name
                want := want }
              let inner := if code.name == "__ANON__" then { inner with package := machine.package }
                else inner
              let (result, after) := (run fuel want code.body).run.run inner
              let after := { left machine after with
                calls := machine.calls, want := machine.want, line := machine.line
                package := machine.package, matched := machine.matched }
              match result with
              | .ok values => (.ok (conform want values), after)
              | .error (.returned values) => (.ok (conform want values), after)
              | .error stop => (.error stop, after)
      | _ => failWith "Not a CODE reference"
termination_by structural fuel => fuel

/-- Calls a method of an object, of a package, or of a stream. -/
def method : Nat → Want → Expr → Expr → List Expr → Act (List Value)
  | 0, _, _, _, _ => throw .endless
  | fuel + 1, want, object, name, arguments => do
      let target ← match object with
        | .call name none => pure (Value.text name.toList)
        | other => single fuel other
      let called ← single fuel name
      let stream ← Streams.find target
      let cells ← cellsOf fuel arguments
      match called, target with
      | .reference place, _ => apply fuel place ((← cellOf target) :: cells) want
      | _, _ =>
          let name := String.ofList (← textOf called)
          let machine ← get
          let package := match target with
            | .reference place => machine.classes[place]?
            | other => some (String.ofList other.toText)
          match package, stream with
          | _, some place =>
              let values := cells.map machine.value
              streamMethod fuel name place values
          | none, none =>
              fail ("Can't call method \"".toList ++ name.toList ++
                (if target.isDefined then "\" on unblessed reference" else "\" on an undefined value").toList)
          | some package, none =>
              let start := if name.startsWith "SUPER::" then machine.package else package
              let bare := lastPart name
              let found ← if name.startsWith "SUPER::" then
                  (do
                    let above ← kinship 20 start
                    let machine ← get
                    return (above.drop 1).findSome? fun package =>
                      machine.functions[package ++ "::" ++ bare]? : Act (Option Nat))
                else methodPlace? package bare
              match found, bare with
              | some place, _ => apply fuel place ((← cellOf target) :: cells) want
              | none, "can" =>
                  let wanted := String.ofList (← textOf (machine.value (cells.headD 0)))
                  match ← methodPlace? package wanted with
                  | some place => return [.reference place]
                  | none => return [.text []]
              | none, "isa" =>
                  let wanted := String.ofList (← textOf (machine.value (cells.headD 0)))
                  return [.ofBool ((← kinship 20 package).contains wanted)]
              | none, "import" => return []
              | none, _ =>
                  if package == "" then
                    fail ("Can't call method \"".toList ++ name.toList ++
                      (if target.isDefined then "\" without a package or object reference"
                        else "\" on an undefined value").toList)
                  else
                    fail ("Can't locate object method \"".toList ++ name.toList ++
                      "\" via package \"".toList ++ package.toList ++ "\"".toList ++
                      (if machine.functions.toList.any fun entry => packageOf entry.1 == package then []
                        else " (perhaps you forgot to load \"".toList ++ package.toList ++ "\"?)".toList))
termination_by structural fuel => fuel

def streamMethod : Nat → String → Nat → List Value → Act (List Value)
  | 0, _, _, _ => throw .endless
  | fuel + 1, name, place, values => do
      match name with
      | "autoflush" =>
          let isOn := (values.head?.map Value.holds).getD true
          Streams.change place fun stream => { stream with isPrompt := isOn }
          if isOn then Streams.flush place
          return [.ofInt 1]
      | "flush" =>
          Streams.flush place
          return [.ofInt 1]
      | "print" | "say" =>
          let texts ← mapAll textOf values
          return [.ofBool (← Streams.write place
            (texts.flatten ++ if name == "say" then ['\n'] else []))]
      | "printf" =>
          match ← Functions.outcome? "sprintf" .single values with
          | some [text] => return [.ofBool (← Streams.write place (← textOf text))]
          | _ => return []
      | "close" => return [.ofBool (← Streams.close place)]
      | "binmode" | "blocking" => return [.ofInt 1]
      | "opened" => return [.ofBool (← Streams.get place).isOpen]
      | "eof" => return [.ofBool (← Streams.isOver place)]
      | "getline" => readLines fuel .single (.reference place)
      | "getlines" => readLines fuel .several (.reference place)
      | "fileno" => function fuel .single "fileno" [.constant (.reference place)]
      | _ => fail ("Can't locate object method \"".toList ++ name.toList ++
          "\" via package \"IO::File\"".toList)
termination_by structural fuel => fuel

/-- Carries out something for each of some values, which is at hand meanwhile. -/
def mapCells : Nat → Bool → Expr → List Nat → Act (List Value)
  | 0, _, _, _ => throw .endless
  | fuel + 1, keeps, body, cells => do
      let sign := "$_"
      let before := (← get).shared[sign]?
      let restore (machine : Machine) : Machine :=
        { machine with shared := match before with
          | some place => machine.shared.insert sign place
          | none => machine.shared.erase sign }
      ExceptT.mk fun machine =>
        let one (cell : Nat) : Act (List Value) := do
          tick
          modify fun machine => { machine with shared := machine.shared.insert sign cell }
          if keeps then
            let holds := (← single fuel body).holds
            let value ← valueAt cell
            return if holds then [value] else []
          else eval fuel .several body
        let (result, after) := (mapAll one cells).run.run machine
        (result.map List.flatten, restore after)
termination_by structural fuel => fuel

def print : Nat → String → Option Expr → List Expr → Act (List Value)
  | 0, _, _, _ => throw .endless
  | fuel + 1, kind, handle, arguments => do
      let place ← match handle with
        | none => (do return some (← get).selected : Act (Option Nat))
        | some expr => (do Streams.find (← single fuel expr) : Act (Option Nat))
      let values ← if arguments.isEmpty then singles fuel [Reader.atHand] else evalAll fuel arguments
      let machine ← get
      let text ← if kind == "printf" then
          (do
            match ← Functions.outcome? "sprintf" .single values with
            | some [value] => textOf value
            | _ => return [] : Act Text)
        else
          (do
            let texts ← mapAll textOf values
            let between ← textOf (machine.sharedValue ",")
            let ending ← textOf (machine.sharedValue "\\")
            return (if between = [] then texts.flatten else Shell.Text.join between texts) ++
              (if kind == "say" then ['\n'] else []) ++ ending : Act Text)
      match place with
      | none =>
          setError 9
          return [.undefined]
      | some place => return [if ← Streams.write place text then .ofInt 1 else .undefined]
termination_by structural fuel => fuel

/-- Searches a text for a pattern. -/
def matching : Nat → Want → Option Expr → Bool → Expr → List Char → Act (List Value)
  | 0, _, _, _, _, _ => throw .endless
  | fuel + 1, want, subject, negated, pattern, marks => do
      let target := subject.getD Reader.atHand
      let place ← match target with
        | .named .scalar _ | .item .. | .entry .. | .followed .scalar _ | .assign .. | .own .. =>
            (do return some (← placeOf fuel target) : Act (Option Nat))
        | .constant (.text text) => (do return some (← constantPlace text) : Act (Option Nat))
        | _ => (do return none : Act (Option Nat))
      let text ← match place with
        | some place => (do textOf (← valueAt place) : Act Text)
        | none => (do textOf (← single fuel target) : Act Text)
      let source ← textOf (← single fuel pattern)
      let (regex, count, names) ← compiled source marks
      let subject := subjectOf regex marks text
      let isGlobal := marks.contains 'g'
      if negated then
        match regex.search? subject 0 with
        | some found =>
            remember subject found count names
            return [.ofBool false]
        | none => return [.ofBool true]
      else if isGlobal && want == .several then
        let start ← positionOf place
        let found := allMatches regex subject start
        match found.getLast? with
        | some last => remember subject last count names
        | none => pure ()
        setPosition place none
        return found.flatMap fun found =>
          if count = 0 then [.text (found.group subject 0)] else groups subject found count
      else if isGlobal then
        let start ← positionOf place
        let found := regex.search? subject start
        match found with
        | some found =>
            let again := found.start = found.stop && (← get).matched.any fun before =>
              before.found.stop = found.stop && before.subject.chars = subject.chars && 0 < start
            let found' := if again then regex.search? subject (start + 1) else some found
            match found' with
            | some found =>
                remember subject found count names
                setPosition place (some found.stop)
                return [.ofBool true]
            | none =>
                setPosition place none
                return [.ofBool false]
        | none =>
            if !marks.contains 'c' then setPosition place none
            return [.ofBool false]
      else
        match regex.search? subject 0 with
        | some found =>
            remember subject found count names
            if want == .several then
              return if count = 0 then [.ofInt 1] else groups subject found count
            else return [.ofBool true]
        | none => return if want == .several then [] else [.ofBool false]
termination_by structural fuel => fuel

/-- Puts something in the place of what fits a pattern. -/
def exchange : Nat → Option Expr → Expr → Expr → List Char → Act (List Value)
  | 0, _, _, _, _ => throw .endless
  | fuel + 1, subject, pattern, replacement, marks => do
      let target := subject.getD Reader.atHand
      let isCopy := marks.contains 'r'
      let place ← if isCopy then cellOf (← single fuel target) else placeOf fuel target
      let text ← textOf (← valueAt place)
      let source ← textOf (← single fuel pattern)
      let (regex, count, names) ← compiled source marks
      let subject := subjectOf regex marks text
      let found := if marks.contains 'g' then allMatches regex subject 0
        else (regex.search? subject 0).toList
      let isTwice := (marks.filter (· == 'e')).length = 2
      let value : Act Text := do
        let value ← single fuel replacement
        if isTwice then textOf (← single fuel (.function "evaltext" [.constant value]))
        else textOf value
      let step (state : List Text × Nat) (found : Regex.Match) : Act (List Text × Nat) := do
        remember subject found count names
        let shown ← value
        return (shown :: subject.slice state.2 found.start :: state.1, found.stop)
      let (parts, last) ← found.foldlM step ([], 0)
      let result := (subject.slice last subject.chars.size :: parts).reverse.flatten
      if isCopy then return [.text result]
      else if found.isEmpty then return [.text []]
      else
        setValue place (.text result)
        return [.ofNat found.length]
termination_by structural fuel => fuel

/-- A part of a text, in the place of which another may be put. -/
def substr : Nat → Expr → List Value → Act (List Value)
  | 0, _, _ => throw .endless
  | fuel + 1, target, values => do
      let text ← textOf (← single fuel target)
      let length := (values[1]?).bind fun value => if value.isDefined then some value.toInt else none
      match Functions.part? text.length (values.headD (.ofInt 0)).toInt length with
      | none =>
          if 3 ≤ values.length then failWith "substr outside of string" else return [.undefined]
      | some (first, last) =>
          match values[2]? with
          | some other =>
              let given ← textOf other
              assignTo fuel target (.text (text.take first ++ given ++ text.drop last))
          | none => pure ()
          return [.text ((text.drop first).take (last - first))]
termination_by structural fuel => fuel

/-- Lets time pass up to a moment, unless the alarm goes off before. -/
def pause : Nat → Option Duration → Act Unit
  | 0, _ => throw .endless
  | fuel + 1, moment => do
      let machine ← get
      match machine.alarm with
      | some time =>
          if moment.all (time < ·) then
            set { machine with state := { machine.state with clock := max machine.state.clock time }, alarm := none }
            raise fuel 14
          else set { machine with state := machine.state.waitUntil moment }
      | none =>
          match moment with
          | none => throw .endless
          | some _ => set { machine with state := machine.state.waitUntil moment }
termination_by structural fuel => fuel

def raise : Nat → Nat → Act Unit
  | 0, _ => throw .endless
  | fuel + 1, number => do
      let name := (Ending.signalName number).toList.drop 3
      let machine ← get
      let handler := (machine.shared["%SIG"]?.bind fun place =>
        (machine.hashAt place).get? name).map machine.value
      let usual : Act Unit :=
        if Shell.Builtins.harmless.contains number then pure ()
        else if Shell.Builtins.stopping.contains number then throw .endless
        else throw (.struck number)
      match handler with
      | none | some .undefined => usual
      | some value =>
          match value with
          | .reference _ =>
              let _ ← invoke fuel .nothing value [← cellOf (.text name)]
          | other =>
              match String.ofList other.toText with
              | "DEFAULT" | "" => usual
              | "IGNORE" => pure ()
              | function =>
                  let _ ← call fuel .nothing function [← cellOf (.text name)]
termination_by structural fuel => fuel

def readLines : Nat → Want → Value → Act (List Value)
  | 0, _, _ => throw .endless
  | fuel + 1, want, handle => do
      match ← Streams.find handle with
      | none =>
          setError 9
          return if want == .several then [] else [.undefined]
      | some place =>
          let isFeed := (← get).shared[Streams.sign Streams.feedName]? == some place
          let name := (← Streams.get place).name
          modify fun machine => { machine with
            lastRead := some (if isFeed then [] else name, place) }
          if want == .several then
            let store ← allot (.array #[])
            repeating (do
              match ← readOne fuel place isFeed with
              | .undefined => return false
              | value =>
                  append store [value]
                  return true)
            return (← get).values store
          else return [← readOne fuel place isFeed]
termination_by structural fuel => fuel

/-- Reads a line of a stream, which may be that for the files that arguments name. -/
def readOne : Nat → Nat → Bool → Act Value
  | 0, _, _ => throw .endless
  | fuel + 1, place, isFeed => do
      let mark ← Streams.mark
      let standard ← streamNamed "STDOUT".toList
      if isFeed && !(← get).hasFeed then
        if ← Streams.advance place standard 100000 then readOne fuel place isFeed
        else return .undefined
      else
        pause fuel (← Streams.arrival place mark)
        match ← Streams.nextLine place mark with
        | some line => return .text line
        | none =>
            if !isFeed then return .undefined
            else if ← Streams.advance place standard 100000 then readOne fuel place isFeed
            else
              modify fun machine => { machine with hasFeed := false, error := 0 }
              return .undefined
termination_by structural fuel => fuel

/-- The answer to a question about a file, or about a stream. -/
def fileTest : Nat → Char → Expr → Act Value
  | 0, _, _ => throw .endless
  | fuel + 1, letter, operand => do
      let value ← match operand with
        | .call name none => (do return .text name.toList : Act Value)
        | .fileTest inner path =>
            (do
              let held ← fileTest fuel inner path
              if held.holds then single fuel path else return .undefined : Act Value)
        | other => (do single fuel other : Act Value)
      let path ← textOf value
      let stream ← Streams.find value
      if letter == 't' then return .text []
      else
        let path ← match stream with
          | some place =>
              (do
                let stream ← Streams.get place
                return match stream.outlet, stream.source with
                  | some (.descriptor number), _ => "/dev/fd/".toList ++ Shell.Text.ofNat number
                  | _, some number => "/dev/fd/".toList ++ Shell.Text.ofNat number
                  | _, _ => path : Act Text)
          | none => (do return path : Act Text)
        match Files.answer (← get).state letter path with
        | .ok value => return value
        | .error error =>
            setError (errorNumber error)
            return .undefined
termination_by structural fuel => fuel

/-- The value for a stream that an expression names. -/
def handleOf : Nat → Expr → Act Value
  | 0, _ => throw .endless
  | fuel + 1, expr => do
      match expr with
      | .call name none => return .text name.toList
      | other => single fuel other
termination_by structural fuel => fuel

/-- The place of the stream that an expression names, which is there from then on, and how
it is shown. -/
def openable : Nat → Expr → Act (Nat × Text)
  | 0, _ => throw .endless
  | fuel + 1, expr => do
      let shown : Text := match expr with
        | .named .scalar name | .own _ [.named .scalar name] _ => '$' :: name.toList
        | .call name none => name.toList
        | .constant (.text name) => name
        | _ => "__ANONIO__".toList
      match expr with
      | .call name none => return (← streamNamed name.toList, shown)
      | .constant (.text name) => return (← streamNamed name, shown)
      | other =>
          let cell ← placeOf fuel other
          let value ← valueAt cell
          match value with
          | .undefined =>
              let place ← allot (.stream { name := shown, isOpen := false })
              setValue cell (.reference place)
              return (place, shown)
          | value =>
              match ← Streams.find value with
              | some place => return (place, shown)
              | none => return (← streamNamed (← textOf value), shown)
termination_by structural fuel => fuel

/-- Calls a function that is there from the start. -/
def function : Nat → Want → String → List Expr → Act (List Value)
  | 0, _, _, _ => throw .endless
  | fuel + 1, want, name, arguments => do
      match name with
      | "return" =>
          let wanted := (← get).want
          let values ← if wanted == .several then evalAll fuel arguments
            else lastOf fuel wanted arguments
          throw (.returned (if arguments.isEmpty && wanted ≠ .several then [.undefined] else values))
      | "next" | "last" | "redo" =>
          let label ← match arguments with
            | [label] => (do return String.ofList (← textOf (← single fuel label)) : Act String)
            | _ => (do return "" : Act String)
          throw (match name with
            | "next" => .next label
            | "last" => .last label
            | _ => .again label)
      | "package" =>
          let package ← textOf (← single fuel (arguments.headD Reader.atHand))
          modify fun machine => { machine with package := String.ofList package }
          return []
      | "wantarray" =>
          return [match (← get).want with
            | .several => .ofInt 1
            | .single => .ofInt 0
            | .nothing => .undefined]
      | "scalar" => return [← single fuel (arguments.headD (.list []))]
      | "defined" => return [.ofBool (← isDefined fuel (arguments.headD Reader.atHand))]
      | "die" =>
          let values ← evalAll fuel arguments
          let reason ← match values with
            | [.reference place] => (do return .reference place : Act Value)
            | values => (do return .text (← messageOf "Died" values) : Act Value)
          let handler ← handlerOf "__DIE__"
          match handler with
          | some code =>
              let _ ← invoke fuel .nothing code [← cellOf reason]
          | none => pure ()
          throw (.died reason)
      | "warn" =>
          let message ← messageOf "Warning: something's wrong" (← evalAll fuel arguments)
          match ← handlerOf "__WARN__" with
          | some code =>
              let _ ← invoke fuel .nothing code [← cellOf (.text message)]
          | none => Streams.warn message
          return [.ofInt 1]
      | "evaltext" =>
          let text ← textOf (← single fuel (arguments.headD Reader.atHand))
          modify fun machine => { machine with texts := machine.texts + 1 }
          let inner := "(eval ".toList ++ Shell.Text.ofNat (← get).texts ++ [')']
          match Reader.script inner text with
          | .error message =>
              modify fun machine => machine.setShared "@" (.text message)
              return if want == .several then [] else [.undefined]
          | .ok script =>
              let title := (← get).title
              modify fun machine => { machine with title := inner }
              let values ← attempt want (enclosed (run fuel want script.body))
              modify fun machine => { machine with title := title }
              return values
      | "do" | "require" =>
          let path ← textOf (← single fuel (arguments.headD Reader.atHand))
          match Shell.Tools.load (← get).state path with
          | .error error =>
              setError (errorNumber error)
              return [.undefined]
          | .ok (data, state) =>
              modify fun machine => { machine with state := state }
              match Reader.script path (Shell.Text.ofBytes data) with
              | .error message =>
                  modify fun machine => machine.setShared "@" (.text message)
                  return [.undefined]
              | .ok script => attempt want (enclosed (run fuel want script.body))
      | "constant" =>
          match arguments with
          | [.makeHash items] =>
              let place ← allot (.hash {})
              setEntries place (← evalAll fuel items)
              forAll ((← get).hashAt place).entries fun (key, cell) => do
                defineConstant (String.ofList key) [← valueAt cell]
          | items =>
              let values ← evalAll fuel items
              defineConstant (String.ofList (← textOf (values.headD .undefined))) values.tail
          return []
      | "kin" =>
          let values ← evalAll fuel arguments
          let package := String.ofList (values.headD .undefined).toText
          let parents := values.tail.filter fun value => value.toText ≠ "-norequire".toList
          append (← placeNamed .array (package ++ "::ISA")) parents
          return []
      | "finely" =>
          modify fun machine => { machine with isFine := true }
          return []
      | "sleep" =>
          let span := (← single fuel (arguments.headD (.list []))).toNumber
          let before := (← get).state.clock
          let isFine := (← get).isFine
          pause fuel (if arguments.isEmpty then none
            else some (before + if isFine then duration span else span.toInt.toNat * 1000000))
          return [.ofNat (((← get).state.clock - before) / 1000000)]
      | "alarm" =>
          let span := (← single fuel (arguments.headD Reader.atHand)).toNumber
          let machine ← get
          let rest := (machine.alarm.map fun time => (time - machine.state.clock) / 1000000).getD 0
          let time := if span.isZero then none else some (machine.state.clock + duration span)
          set { machine with alarm := time }
          return [.ofNat rest]
      | "exit" =>
          let value ← match arguments with
            | [] => (do return .ofInt 0 : Act Value)
            | first :: _ => (do single fuel first : Act Value)
          throw (.exit (value.toInt % 256).toNat)
      | "split" =>
          let limit ← match arguments[2]? with
            | some limit => (do return (← single fuel limit).toInt : Act Int)
            | none => (do return 0 : Act Int)
          let text ← textOf (← single fuel (arguments.getD 1 Reader.atHand))
          let (source, marks) ← match arguments.headD (.constant (.text [' '])) with
            | .fits _ _ pattern marks =>
                (do return (← textOf (← single fuel pattern), marks) : Act (Text × List Char))
            | other => (do return (← textOf (← single fuel other), []) : Act (Text × List Char))
          let isBlank := source = [' '] && match arguments.head? with
            | some (.fits ..) => false
            | _ => true
          let (regex, count, _) ← if isBlank then compiled "\\s+".toList []
            else compiled source (if source = ['^'] then 'm' :: marks else marks)
          let found := split regex count (if isBlank then text.dropWhile Scan.isBlank else text) limit
          return if want == .several then found else [.ofNat found.length]
      | "substr" =>
          match arguments with
          | [] => return [.undefined]
          | target :: rest => substr fuel target (← singles fuel rest)
      | "ref" =>
          match ← single fuel (arguments.headD Reader.atHand) with
          | .reference place =>
              let machine ← get
              return [.text (match machine.classes[place]? with
                | some name => name.toList
                | none => (machine.thing place).title.toList)]
          | _ => return [.text []]
      | "bless" =>
          let values ← singles fuel arguments
          let class_ ← match values[1]? with
            | some value => (do return String.ofList (← textOf value) : Act String)
            | none => (do return (← get).package : Act String)
          match values.headD .undefined with
          | .reference place =>
              modify fun machine => { machine with classes := machine.classes.insert place class_ }
              return [.reference place]
          | _ => failWith "Can't bless non-reference value"
      | "caller" =>
          let machine ← get
          if machine.calls = 0 then return if want == .several then [] else [.undefined]
          else return conform want [.ofString machine.package, .text machine.title, .ofNat machine.line]
      | "pos" =>
          let place ← placeOf fuel (arguments.headD Reader.atHand)
          return [(((← get).positions[place]?).map Value.ofNat).getD .undefined]
      | "local" | "lock" | "study" => return []
      | _ =>
          match ← containerFunction fuel want name arguments with
          | some values => return values
          | none =>
              match ← streamFunction fuel want name arguments with
              | some values => return values
              | none =>
                  let arguments := if arguments.isEmpty && Functions.defaulted.contains name then
                    [Reader.atHand] else arguments
                  let isOneByOne := Functions.single.contains name || Reader.singular.contains name
                  let values ← if isOneByOne then singles fuel arguments else evalAll fuel arguments
                  match ← Functions.outcome? name want values with
                  | some found => return found
                  | none => known fuel want name values
termination_by structural fuel => fuel

/-- Whether an expression has a value. -/
def isDefined : Nat → Expr → Act Bool
  | 0, _ => throw .endless
  | fuel + 1, expr => do
      match expr with
      | .named .array _ | .followed .array _ =>
          return !((← get).cells (← containerOf fuel .array expr)).isEmpty
      | .named .hash _ | .followed .hash _ =>
          return !((← get).hashAt (← containerOf fuel .hash expr)).cells.isEmpty
      | .named .code name | .call name none => return (← functionPlace? name).isSome
      | other => return (← single fuel other).isDefined
termination_by structural fuel => fuel

/-- Calls a function that works on an array, a hash or a variable. -/
def containerFunction : Nat → Want → String → List Expr → Act (Option (List Value))
  | 0, _, _, _ => throw .endless
  | fuel + 1, want, name, arguments => do
      let first := arguments.headD (.named .array (if (← get).calls = 0 then "ARGV" else "_"))
      match name with
      | "push" | "unshift" =>
          let place ← containerOf fuel .array first
          let values ← evalAll fuel arguments.tail
          if name == "push" then append place values
          else
            let _ ← splice place (.ofInt 0 :: .ofInt 0 :: values)
          return some [.ofNat ((← get).cells place).size]
      | "pop" | "shift" =>
          let place ← containerOf fuel .array first
          let cells := (← get).cells place
          if cells.isEmpty then return some [.undefined]
          else
            let machine ← get
            let taken := if name == "pop" then cells.back? else cells[0]?
            let rest := if name == "pop" then cells.pop else cells.extract 1 cells.size
            set (machine.setThing place (.array rest))
            return some [(taken.map machine.value).getD .undefined]
      | "splice" =>
          let place ← containerOf fuel .array first
          let values ← evalAll fuel arguments.tail
          return some (conform want (← splice place values))
      | "keys" | "values" | "each" =>
          let isArray := match first with
            | .named .array _ | .followed .array _ => true
            | _ => false
          if isArray then
            let place ← containerOf fuel .array first
            let values := (← get).values place
            if want ≠ .several then return some [.ofNat values.length]
            else if name == "keys" then return some ((List.range values.length).map .ofNat)
            else return some values
          else
            let place ← containerOf fuel .hash first
            let machine ← get
            let hash := machine.hashAt place
            let entries := hash.entries
            if name == "each" then
              match entries[hash.seen]? with
              | some (key, cell) =>
                  set (machine.setThing place (.hash { hash with seen := hash.seen + 1 }))
                  return some [.text key, machine.value cell]
              | none =>
                  set (machine.setThing place (.hash { hash with seen := 0 }))
                  return some []
            else
              set (machine.setThing place (.hash { hash with seen := 0 }))
              if want ≠ .several then return some [.ofNat entries.length]
              else return some (entries.map fun (key, cell) =>
                if name == "keys" then .text key else machine.value cell)
      | "exists" =>
          match arguments.headD (.list []) with
          | .entry (.named .hash "+") key =>
              return some [.ofBool ((← get).namedGroup? (← textOf (← single fuel key))).isSome]
          | .entry hash key =>
              let key ← keyOf fuel key
              let place ← containerOf fuel .hash hash
              return some [.ofBool (((← get).hashAt place).get? key).isSome]
          | .item array index =>
              let index := (← single fuel index).toInt
              let place ← containerOf fuel .array array
              return some [.ofBool (indexOf? ((← get).cells place).size index |>.any
                (· < ((← get).cells place).size))]
          | .named .code name | .call name _ => return some [.ofBool (← functionPlace? name).isSome]
          | other => return some [.ofBool (← single fuel other).isDefined]
      | "delete" =>
          match arguments.headD (.list []) with
          | .entry hash key | .kept (.entry hash key) =>
              let key ← keyOf fuel key
              let place ← containerOf fuel .hash hash
              return some [← removed place key]
          | .entries hash keys =>
              let keys ← mapAll textOf (← eval fuel .several keys)
              let place ← containerOf fuel .hash hash
              return some (← mapAll (removed place) keys)
          | .item array index =>
              let cell ← placeOf fuel (.item array index)
              let before ← valueAt cell
              setValue cell .undefined
              return some [before]
          | _ => return some [.undefined]
      | "undef" =>
          match arguments with
          | [] => pure ()
          | target :: _ =>
              match target with
              | .named .array _ | .followed .array _ =>
                  let place ← containerOf fuel .array target
                  modify fun machine => machine.setThing place (.array #[])
              | .named .hash _ | .followed .hash _ =>
                  let place ← containerOf fuel .hash target
                  modify fun machine => machine.setThing place (.hash {})
              | .named .code name =>
                  modify fun machine => { machine with functions := machine.functions.erase name }
              | other => assignTo fuel other .undefined
          return some [.undefined]
      | "chomp" | "chop" =>
          let cells ← cellsOf fuel (if arguments.isEmpty then [Reader.atHand] else arguments)
          let mark ← Streams.mark
          let ending : Text := match mark with
            | .text text => text
            | .blankLine => ['\n']
            | _ => []
          let counts ← mapAll (fun cell => do
            let value ← valueAt cell
            if !value.isDefined then return (0, [])
            else
              let text ← textOf value
              if name == "chop" then
                setValue cell (.text text.dropLast)
                return (1, text.drop (text.length - 1))
              else if ending ≠ [] && ending.reverse.isPrefixOf text.reverse then
                setValue cell (.text (text.take (text.length - ending.length)))
                return (ending.length, ending)
              else return (0, [])) cells
          if name == "chop" then return some [.text ((counts.getLast?.map Prod.snd).getD [])]
          else return some [.ofNat ((counts.map Prod.fst).foldl (· + ·) 0)]
      | _ => return none
termination_by structural fuel => fuel

def streamFunction : Nat → Want → String → List Expr → Act (Option (List Value))
  | 0, _, _, _ => throw .endless
  | fuel + 1, want, name, arguments => do
      let handle : Act (Option Nat) := do
        match arguments with
        | [] => return none
        | first :: _ => Streams.find (← handleOf fuel first)
      match name with
      | "open" =>
          match arguments with
          | handle :: mode :: rest =>
              let mode ← textOf (← single fuel mode)
              let (place, shown) ← openable fuel handle
              match rest with
              | [] =>
                  let (way, file) := Streams.wayAndName mode
                  return some [.ofBool (← Streams.openAt place shown way (.text file) [])]
              | target :: more =>
                  let target ← handleOf fuel target
                  let words ← mapAll textOf (← evalAll fuel more)
                  match Streams.wayOf (Streams.trimmed mode) with
                  | none => fail ("Unknown open() mode '".toList ++ mode ++ ['\''])
                  | some (way, layers) =>
                      let isOpened ← Streams.openAt place shown way target words
                      if isOpened && (layers.map Char.toLower).any (· == 'u') then
                        Streams.change place fun stream => { stream with isWide := true }
                      return some [.ofBool isOpened]
          | _ => return some [.undefined]
      | "close" =>
          match ← handle with
          | some place => return some [.ofBool (← Streams.close place)]
          | none =>
              setError 9
              return some [.ofBool false]
      | "eof" =>
          let place? ← match arguments with
            | [] => (do return (← get).lastRead.map Prod.snd : Act (Option Nat))
            | _ => handle
          match place? with
          | none => return some [.ofBool true]
          | some place =>
              if (← get).shared[Streams.sign Streams.feedName]? == some place && !(← get).hasFeed then
                return some [.ofBool true]
              else return some [.ofBool (← Streams.isOver place)]
      | "binmode" =>
          let layer ← match arguments[1]? with
            | some layer => (do textOf (← single fuel layer) : Act Text)
            | none => (do return [] : Act Text)
          match ← handle with
          | some place =>
              Streams.flush place
              Streams.change place fun stream => { stream with
                isWide := (layer.map Char.toLower).any (· == 'u') }
              return some [.ofInt 1]
          | none => return some [.undefined]
      | "fileno" =>
          match ← handle with
          | none => return some [.undefined]
          | some place =>
              let stream ← Streams.get place
              return some [match stream.outlet, stream.source with
                | some (.descriptor number), _ => .ofNat number
                | _, some number => .ofNat number
                | _, _ => if stream.isOpen then .ofInt 3 else .undefined]
      | "readline" =>
          match arguments with
          | [] => return some (← readLines fuel want (.text Streams.feedName))
          | first :: _ => return some (← readLines fuel want (← handleOf fuel first))
      | "getc" =>
          let place? ← match arguments with
            | [] => Streams.find (.text "STDIN".toList)
            | _ => handle
          match place? with
          | none => return some [.undefined]
          | some place =>
              pause fuel (← Streams.arrival place (.count 1))
              return some [Machine.optional (← Streams.nextLine place (.count 1))]
      | "read" | "sysread" =>
          match ← handle, arguments with
          | some place, _ :: buffer :: size :: rest =>
              let count := (← single fuel size).toNat
              let start ← match rest with
                | [] => (do return 0 : Act Nat)
                | start :: _ => (do return (← single fuel start).toNat : Act Nat)
              pause fuel (← Streams.arrival place (.count count))
              let found := (← Streams.nextLine place (.count count)).getD []
              let before ← textOf (← single fuel buffer)
              assignTo fuel buffer (.text (before.take start ++ found))
              return some [.ofNat found.length]
          | _, _ =>
              setError 9
              return some [.undefined]
      | "syswrite" =>
          match ← handle with
          | none =>
              setError 9
              return some [.undefined]
          | some place =>
              let values ← singles fuel arguments.tail
              let text ← textOf (values.headD .undefined)
              let text := (text.drop ((values[2]?.map Value.toNat).getD 0)).take
                ((values[1]?.map Value.toNat).getD text.length)
              let pending := (← Streams.get place).pending
              let size := (← Streams.get place).size
              Streams.change place fun stream => { stream with pending := [], size := 0 }
              let isDone ← Streams.write place text
              Streams.flush place
              Streams.change place fun stream => { stream with pending := pending, size := size }
              return some [if isDone then .ofNat text.length else .undefined]
      | "select" =>
          match arguments with
          | [_, _, _, span] =>
              let span := (← single fuel span)
              let clock := (← get).state.clock
              pause fuel (if span.isDefined then some (clock + duration span.toNumber) else none)
              return some [.ofInt 0]
          | first :: _ =>
              let before := (← get).selected
              match ← Streams.find (← handleOf fuel first) with
              | some place => modify fun machine => { machine with selected := place }
              | none => pure ()
              return some [.reference before]
          | [] => return some [.reference (← get).selected]
      | "opendir" =>
          match arguments with
          | [handle, path] =>
              let path ← textOf (← single fuel path)
              match Files.names (← get).state path with
              | .error error =>
                  setError (errorNumber error)
                  return some [.ofBool false]
              | .ok names =>
                  let (place, _) ← openable fuel handle
                  modify fun machine => machine.setThing place (.folder names)
                  return some [.ofBool true]
          | _ => return some [.undefined]
      | "readdir" =>
          match ← handle with
          | none => return some [.undefined]
          | some place =>
              match (← get).thing place with
              | .folder names =>
                  if want == .several then
                    modify fun machine => machine.setThing place (.folder [])
                    return some (names.map .text)
                  else
                    modify fun machine => machine.setThing place (.folder names.tail)
                    return some [Machine.optional names.head?]
              | _ => return some [.undefined]
      | "closedir" => return some [.ofBool true]
      | "seek" =>
          return some [.ofBool true]
      | "stat" | "lstat" =>
          let path ← textOf (← single fuel (arguments.headD Reader.atHand))
          match Files.facts (← get).state path (name == "lstat") with
          | .ok facts => return some (if want == .several then facts else [.ofBool true])
          | .error error =>
              setError (errorNumber error)
              return some (if want == .several then [] else [.ofBool false])
      | _ => return none
termination_by structural fuel => fuel

/-- Calls a function that acts on files and other processes. -/
def known : Nat → Want → String → List Value → Act (List Value)
  | 0, _, _, _ => throw .endless
  | fuel + 1, want, name, values => do
      let texts ← mapAll textOf values
      let path := texts.headD []
      let state := (← get).state
      let changing (result : Except IoError State) : Act (List Value) := do
        return [.ofBool (← Files.changed result)]
      let counting (how : State → Text → Except IoError State) (paths : List Text) :
          Act (List Value) := do
        let done ← mapAll (fun path => do Files.changed (how (← get).state path)) paths
        return [.ofNat (done.filter id).length]
      match name with
      | "unlink" => counting Files.unlink texts
      | "mkdir" => changing (Files.makeDirectory state path)
      | "rmdir" => changing (Files.removeDirectory state path)
      | "rename" => changing (Files.rename state path (texts.getD 1 []))
      | "chdir" => changing (Files.enter state path)
      | "symlink" => changing (Files.link state path (texts.getD 1 []) true)
      | "link" => changing (Files.link state path (texts.getD 1 []) false)
      | "chmod" =>
          let mode := (values.headD .undefined).toNat
          counting (fun state path => Files.setMode state mode path) texts.tail
      | "readlink" =>
          match Files.target state path with
          | .ok target => return [.text target]
          | .error error =>
              setError (errorNumber error)
              return [.undefined]
      | "umask" =>
          if !values.isEmpty then
            modify fun machine => { machine with
              state := { machine.state with mask := (values.headD .undefined).toNat } }
          return [.ofNat state.mask]
      | "utime" | "chown" => return [.ofNat (values.length - 2)]
      | "glob" =>
          let (text, _) ← Streams.outputOf ["sh".toList, "-c".toList,
            "for each in ".toList ++ path ++ "; do printf '%s\\n' \"$each\"; done".toList]
          return (Shell.Text.lines text).map .text
      | "system" =>
          let words := match texts with
            | [line] => Streams.wordsOf line
            | words => words
          let status ← Streams.run words id
          Streams.setStatus status
          return [match status with
            | some status => .ofNat status
            | none => .ofInt (-1)]
      | "exec" =>
          let words := match texts with
            | [line] => Streams.wordsOf line
            | words => words
          Streams.flushAll
          let state ← Streams.handed
          match (← get).launch state words with
          | .error error =>
              setError (errorNumber error)
              return [.ofBool false]
          | .ok (flow, after) =>
              modify fun machine => { machine with state := after }
              throw (.over flow)
      | "kill" =>
          match signalOf? (values.headD .undefined) with
          | none =>
              fail ("Unrecognized signal name \"".toList ++ path ++ "\"".toList)
          | some signal =>
              let done ← mapAll (fun value => do
                let state := (← get).state
                let number := value.toInt.natAbs
                if number = state.number then
                  if signal ≠ 0 then raise fuel signal
                  return true
                else
                  match state.send signal number with
                  | some state =>
                      modify fun machine => { machine with state := state }
                      return true
                  | none =>
                      setError 3
                      return false) values.tail
              return [.ofNat (done.filter id).length]
      | "fork" =>
          setError 11
          return [.undefined]
      | "wait" | "waitpid" =>
          setError 10
          return [.ofInt (-1)]
      | "_exit" | "POSIX::_exit" => throw (.over (.exit ((values.headD (.ofInt 0)).toInt % 256).toNat))
      | "usleep" | "Time::HiRes::usleep" =>
          pause fuel (some (state.clock + (values.headD (.ofInt 0)).toNat))
          return [.ofInt 0]
      | "Time::HiRes::sleep" =>
          pause fuel (some (state.clock + duration (values.headD (.ofInt 0)).toNumber))
          return [.ofInt 0]
      | "shuffle" | "List::Util::shuffle" => return values
      | "blessed" | "Scalar::Util::blessed" =>
          match values.headD .undefined with
          | .reference place => return [((((← get).classes[place]?).map String.toList).map Value.text).getD .undefined]
          | _ => return [.undefined]
      | "croak" | "confess" | "Carp::croak" | "Carp::confess" =>
          function fuel want "die" (values.map .constant)
      | "carp" | "cluck" | "Carp::carp" => function fuel want "warn" (values.map .constant)
      | _ => undefinedFunction name
termination_by structural fuel => fuel

/-- Carries out statements; gives the values of the last one. -/
def run : Nat → Want → List Statement → Act (List Value)
  | 0, _, _ => throw .endless
  | _ + 1, _, [] => return []
  | fuel + 1, want, [last] => exec fuel want last
  | fuel + 1, want, first :: rest => do
      let _ ← exec fuel .nothing first
      run fuel want rest
termination_by structural fuel => fuel

def exec : Nat → Want → Statement → Act (List Value)
  | 0, _, _ => throw .endless
  | fuel + 1, want, statement => do
      match statement with
      | .simple line expr =>
          tick
          modify fun machine => { machine with line := line }
          eval fuel want expr
      | .branch line choices otherwise =>
          tick
          modify fun machine => { machine with line := line }
          choose fuel want choices otherwise
      | .loop line label condition body next =>
          modify fun machine => { machine with line := line }
          repeating (do
            tick
            enclosed (do
              if !(← single fuel condition).holds then return false
              else
                let goesOn ← looping label (discard (run fuel .nothing body))
                if goesOn then
                  let _ ← run fuel .nothing next
                return goesOn))
          return []
      | .repetition line body condition =>
          modify fun machine => { machine with line := line }
          repeating (do
            tick
            let _ ← eval fuel .nothing body
            return (← single fuel condition).holds)
          return []
      | .each line label target list body =>
          modify fun machine => { machine with line := line }
          let cells ← cellsOf fuel [list]
          eachCell fuel label target body cells
          return []
      | .bare line label body =>
          modify fun machine => { machine with line := line }
          enclosedLoop label (run fuel want body)
      | .define name body =>
          let machine ← get
          if 0 < machine.depth then
            let place ← allot (.code ⟨name, body, some machine.scope⟩)
            modify fun machine => { machine with functions := machine.functions.insert name place }
          return []
termination_by structural fuel => fuel

/-- Carries out the first of some choices whose condition holds. -/
def choose : Nat → Want → List (Expr × List Statement) → List Statement → Act (List Value)
  | 0, _, _, _ => throw .endless
  | fuel + 1, want, [], otherwise => enclosed (run fuel want otherwise)
  | fuel + 1, want, (condition, body) :: rest, otherwise => do
      let value ← single fuel condition
      if value.holds then enclosed (run fuel want body)
      else if rest.isEmpty && otherwise.isEmpty then
        return if want == .nothing then [] else [value]
      else choose fuel want rest otherwise
termination_by structural fuel => fuel

/-- Goes through the values at some places. -/
def eachCell : Nat → String → Expr → List Statement → List Nat → Act Unit
  | 0, _, _, _, _ => throw .endless
  | fuel + 1, label, target, body, cells => do
      let (name, isOwn) : String × Bool := match target with
        | .own false [.named _ name] _ => (name, true)
        | .own _ [.named _ name] _ => (name, false)
        | .named _ name => (name, false)
        | _ => ("_", false)
      let isScoped := isOwn || ((← get).scoped? .scalar name).isSome
      let sign := "$" ++ (← get).sharedName name
      let before := (← get).shared[sign]?
      let step (cell : Nat) : Act Bool := do
        tick
        enclosed (do
          if isScoped then
            modify fun machine => { machine with scope := (.scalar, name, cell) :: machine.scope }
          else modify fun machine => { machine with shared := machine.shared.insert sign cell }
          looping label (discard (run fuel .nothing body)))
      ExceptT.mk fun machine =>
        let (result, after) := throughAll (fun cell machine => (step cell).run.run machine) cells machine
        if isScoped then (result, after)
        else
          (result, { after with shared := match before with
            | some place => after.shared.insert sign place
            | none => after.shared.erase sign })
termination_by structural fuel => fuel

end

end Run

end FolderScript.Perl
