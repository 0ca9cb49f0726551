/-
What a running list script knows: the things that its names and references lead to, the
streams that it reads and writes, and what it has come across.
-/
import FolderScript.Machine.Perl.Reader
import FolderScript.Machine.Shell.Regex.Rich
import FolderScript.Machine.Shell.Tools.Find
import Std.Data.HashMap

namespace FolderScript.Perl

open Shell (Text Regex State)

/-- The places that the names of a block lead to, the innermost first. -/
abbrev Scope := List (Kind × String × Nat)

/-- A function. -/
structure Code where
  name : String
  body : List Statement
  /-- The names around it; without them those of the whole script count. -/
  scope : Option Scope

/-- Values under keys: the place of each, and when it was put there. -/
structure Hash where
  cells : Std.HashMap Text (Nat × Nat) := {}
  next : Nat := 0
  /-- How many keys have been gone through. -/
  seen : Nat := 0

namespace Hash

/-- The place of the value under a key. -/
def get? (hash : Hash) (key : Text) : Option Nat := (hash.cells[key]?).map Prod.snd

def put (hash : Hash) (key : Text) (place : Nat) : Hash :=
  match hash.cells[key]? with
  | some (order, _) => { hash with cells := hash.cells.insert key (order, place) }
  | none =>
      { hash with cells := hash.cells.insert key (hash.next, place), next := hash.next + 1 }

def erase (hash : Hash) (key : Text) : Hash := { hash with cells := hash.cells.erase key }

/-- The keys with the places of their values, in the order they were put there. -/
def entries (hash : Hash) : List (Text × Nat) :=
  (hash.cells.toList.mergeSort fun left right => left.2.1 ≤ right.2.1).map
    fun (key, _, place) => (key, place)

end Hash

/-- Where output goes. -/
inductive Outlet where
  | descriptor (number : Nat)
  | channel (channel : Shell.Channel)
  /-- A command, and what it is to read, the last part first. -/
  | command (line : List Text) (parts : List Text)
  /-- The text of a variable. -/
  | cell (place : Nat)

/-- Something that is read or written. -/
structure Stream where
  name : Text
  isOpen : Bool := true
  /-- The descriptor that is read once that is asked for. -/
  source : Option Nat := none
  /-- What is left to read. -/
  input : Option Text := none
  /-- The descriptor that it was taken from, and how much that gave. -/
  taken : Option (Nat × Nat) := none
  outlet : Option Outlet := none
  /-- What is still to be written, the last part first, and how long it is. -/
  pending : List Text := []
  size : Nat := 0
  /-- Whether everything is written at once. -/
  isPrompt : Bool := false
  /-- Whether characters are written as several bytes. -/
  isWide : Bool := false
  lines : Nat := 0
  hasEnded : Bool := false
  /-- The status of the command that was read. -/
  status : Nat := 0

/-- Something at a place. -/
inductive Thing where
  | scalar (value : Value)
  | array (cells : Array Nat)
  | hash (hash : Hash)
  | code (code : Code)
  | pattern (source : Text) (marks : List Char)
  | stream (stream : Stream)
  | folder (names : List Text)

/-- The last match. -/
structure Matched where
  subject : Regex.Subject
  found : Regex.Match
  count : Nat
  names : List (Text × Nat)

/-- How to put back what was changed up to the end of a block. -/
inductive Undo where
  | name (sign : String) (place : Option Nat)
  | entry (hash : Nat) (key : Text) (place : Option Nat)

/-- The whole of what is known. -/
structure Machine where
  state : State
  launch : Shell.Tools.Launch
  title : Text
  heap : Array Thing := #[]
  /-- What all know, by the names with their signs. -/
  shared : Std.HashMap String Nat := {}
  functions : Std.HashMap String Nat := {}
  scope : Scope := []
  /-- The names of the whole script. -/
  outer : Scope := []
  /-- How many blocks and calls there are around. -/
  depth : Nat := 0
  calls : Nat := 0
  line : Nat := 1
  package : String := "main"
  want : Want := .nothing
  undo : List Undo := []
  matched : Option Matched := none
  /-- Where in their texts variables were matched last. -/
  positions : Std.HashMap Nat Nat := {}
  /-- The places of texts that scripts hold themselves. -/
  constants : Std.HashMap Text Nat := {}
  regexes : Std.HashMap Text (Regex × Nat × List (Text × Nat)) := {}
  /-- The packages of things that belong to one. -/
  classes : Std.HashMap Nat String := {}
  /-- The stream that is written to. -/
  selected : Nat := 0
  /-- The stream that was read last, and how messages show it. -/
  lastRead : Option (Text × Nat) := none
  /-- The files that are still to be read, once they are asked for. -/
  hasFeed : Bool := false
  /-- What follows the name of a file that is changed in its place. -/
  inPlace : Option Text := none
  error : Nat := 0
  alarm : Option Duration := none
  /-- Whether one sleeps for parts of seconds too. -/
  isFine : Bool := false
  random : UInt64 := 88172645463325252
  steps : Nat := 0
  /-- How many texts were carried out as scripts of their own. -/
  texts : Nat := 0

/-- Why a script does not simply go on. -/
inductive Stop where
  | next (label : String)
  | last (label : String)
  | again (label : String)
  | returned (values : List Value)
  | died (value : Value)
  | exit (status : Nat)
  | endless
  | struck (signal : Nat)
  /-- Another program has taken its place. -/
  | over (flow : Shell.Flow)

abbrev Act := ExceptT Stop (StateM Machine)

/-- How many steps a script takes before it is taken to go on for ever. -/
def mostSteps : Nat := 1500000

/-- How deep functions may call each other. -/
def mostCalls : Nat := 5000

namespace Kind

/-- The sign in front of names. -/
def sign : Kind → String
  | .scalar => "$"
  | .array => "@"
  | .hash => "%"
  | .code => "&"

/-- Something new of a kind. -/
def fresh : Kind → Thing
  | .scalar => .scalar .undefined
  | .array => .array #[]
  | .hash => .hash {}
  | .code => .code ⟨"", [], none⟩

/-- How a reference to something of a kind is called. -/
def title : Kind → String
  | .scalar => "SCALAR"
  | .array => "ARRAY"
  | .hash => "HASH"
  | .code => "CODE"

end Kind

namespace Thing

/-- How a reference to something is called. -/
def title : Thing → String
  | .scalar (.reference _) => "REF"
  | .scalar _ => "SCALAR"
  | .array _ => "ARRAY"
  | .hash _ => "HASH"
  | .code _ => "CODE"
  | .pattern .. => "Regexp"
  | .stream _ | .folder _ => "GLOB"

def isOf (kind : Kind) : Thing → Bool
  | .scalar _ => kind == .scalar
  | .array _ => kind == .array
  | .hash _ => kind == .hash
  | .code _ => kind == .code
  | _ => false

end Thing

namespace Machine

/-- The place of something new. -/
def allot (machine : Machine) (thing : Thing) : Nat × Machine :=
  (machine.heap.size, { machine with heap := machine.heap.push thing })

def thing (machine : Machine) (place : Nat) : Thing :=
  machine.heap.getD place (.scalar .undefined)

/-- Puts something at a place. -/
def setThing (machine : Machine) (place : Nat) (thing : Thing) : Machine :=
  { machine with heap := machine.heap.setIfInBounds place thing }

def value (machine : Machine) (place : Nat) : Value :=
  match machine.thing place with
  | .scalar value => value
  | _ => .undefined

def cells (machine : Machine) (place : Nat) : Array Nat :=
  match machine.thing place with
  | .array cells => cells
  | _ => #[]

def values (machine : Machine) (place : Nat) : List Value :=
  (machine.cells place).toList.map machine.value

def hashAt (machine : Machine) (place : Nat) : Hash :=
  match machine.thing place with
  | .hash hash => hash
  | _ => {}

def streamAt (machine : Machine) (place : Nat) : Stream :=
  match machine.thing place with
  | .stream stream => stream
  | _ => { name := [], isOpen := false }

/-- The place of a name in the block at hand. -/
def scoped? (machine : Machine) (kind : Kind) (name : String) : Option Nat :=
  (machine.scope.find? fun entry => entry.1 == kind && entry.2.1 == name).map fun entry =>
    entry.2.2

/-- The name of something that all know, with the package that it belongs to. -/
def sharedName (machine : Machine) (name : String) : String :=
  if machine.package == "main" || Scan.isCommon name then name
  else machine.package ++ "::" ++ name

/-- The place that a name leads to, which is there from then on. -/
def lookup (machine : Machine) (kind : Kind) (name : String) : Nat × Machine :=
  match machine.scoped? kind name with
  | some place => (place, machine)
  | none =>
      let sign := kind.sign ++ machine.sharedName name
      match machine.shared[sign]? with
      | some place => (place, machine)
      | none =>
          let (place, machine) := machine.allot kind.fresh
          (place, { machine with shared := machine.shared.insert sign place })

/-- Gives a variable that all know a value. -/
def setShared (machine : Machine) (name : String) (value : Value) : Machine :=
  let (place, machine) := machine.lookup .scalar name
  machine.setThing place (.scalar value)

/-- The value of a variable that all know. -/
def sharedValue (machine : Machine) (name : String) : Value :=
  match machine.shared["$" ++ name]? with
  | some place => machine.value place
  | none => .undefined

/-- The text of a group of the last match, if it took part. -/
def group? (machine : Machine) (number : Nat) : Option Text :=
  machine.matched.bind fun matched =>
    if number = 0 || (List.lookup number matched.found.groups).isSome then
      some (matched.found.group matched.subject number)
    else none

/-- The highest group of the last match that took part. -/
def lastGroup? (machine : Machine) : Option Text :=
  machine.matched.bind fun matched =>
    ((List.range matched.count).reverse.findSome? fun number => machine.group? (number + 1))

def namedGroup? (machine : Machine) (name : Text) : Option Text :=
  machine.matched.bind fun matched =>
    (matched.names.filter fun entry => entry.1 = name).findSome? fun entry =>
      machine.group? entry.2

def optional (text : Option Text) : Value := (text.map Value.text).getD .undefined

def errorText (number : Nat) : Text :=
  if number = 0 then [] else Shell.Tools.reason (.os (Int.ofNat number))

/-- The values of variables that are not kept anywhere. -/
def special? (machine : Machine) (name : String) : Option Value :=
  match name with
  | "&" => some (optional (machine.group? 0))
  | "+" => some (optional machine.lastGroup?)
  | "\x60" => some (optional (machine.matched.map fun matched =>
      matched.subject.slice 0 matched.found.start))
  | "'" => some (optional (machine.matched.map fun matched =>
      matched.subject.slice matched.found.stop matched.subject.chars.size))
  | "$" => some (.ofNat machine.state.number)
  | "!" => some (.coded machine.error (errorText machine.error))
  | "." => some (match machine.lastRead with
      | some (_, place) => .ofNat (machine.streamAt place).lines
      | none => .undefined)
  | "<" | ">" => some (.ofNat Shell.Tools.userNumber)
  | "^O" => some (.ofString "linux")
  | "^W" => some (.ofInt 0)
  | "^T" => some (.ofInt (State.momentOf 0 / 1000000))
  | "^V" => some (.ofString "v5.38.2")
  | "^X" => some (.ofString "/usr/bin/perl")
  | "]" => some (.text "5.038002".toList)
  | _ =>
      if name.toList.all Char.isDigit && name ≠ "0" && name ≠ "" then
        some (optional (machine.group? (Nat.ofDigitChars 10 name.toList 0)))
      else none

/-- The place at which messages say that something is wrong. -/
def site (machine : Machine) : Text :=
  let read := match machine.lastRead with
    | some (name, place) =>
        let lines := (machine.streamAt place).lines
        if lines = 0 then [] else ", <".toList ++ name ++ "> line ".toList ++ Shell.Text.ofNat lines
    | none => []
  " at ".toList ++ machine.title ++ " line ".toList ++ Shell.Text.ofNat machine.line ++ read ++
    ['.', '\n']

/-- The text of a value; references are shown with what they lead to. -/
def textOf (machine : Machine) (value : Value) : Text :=
  match value with
  | .reference place =>
      match machine.thing place with
      | .pattern source marks =>
          "(?^".toList ++ (marks.filter fun mark => "msixn".toList.contains mark) ++ ':' :: source ++ [')']
      | thing =>
          let front := match machine.classes[place]? with
            | some name => name.toList ++ ['=']
            | none => []
          front ++ thing.title.toList ++ "(0x".toList ++
            Nat.toDigits 16 (94000000000000 + 24 * place) ++ [')']
  | other => other.toText

end Machine

/-- Stops with a message that tells the place too. -/
def fail {α : Type} (message : Text) : Act α := do
  throw (.died (.text (message ++ (← get).site)))

/-- Stops with a message that tells the place too. -/
def failWith {α : Type} (message : String) : Act α := fail message.toList

def textOf (value : Value) : Act Text :=
  match value with
  | .text text => return text
  | other => return (← get).textOf other

/-- The place of something new. -/
def allot (thing : Thing) : Act Nat :=
  modifyGet fun machine => machine.allot thing

def cellOf (value : Value) : Act Nat := allot (.scalar value)

def valueAt (place : Nat) : Act Value := return (← get).value place

def setValue (place : Nat) (value : Value) : Act Unit :=
  modify fun machine => machine.setThing place (.scalar value)

/-- What an action gives for each item of a list, behind what is done already, the last
first. -/
def gather {α β : Type} (action : α → Act β) :
    List β → List α → Machine → Except Stop (List β) × Machine
  | done, [], machine => (.ok done.reverse, machine)
  | done, item :: rest, machine =>
      match (action item).run.run machine with
      | (.ok found, after) => gather action (found :: done) rest after
      | (.error stop, after) => (.error stop, after)

def mapAll {α β : Type} (action : α → Act β) (items : List α) : Act (List β) :=
  ExceptT.mk fun machine => gather action [] items machine

def forAll {α : Type} (items : List α) (action : α → Act Unit) : Act Unit :=
  discard (mapAll action items)

/-- Counts a step. -/
def tick : Act Unit := do
  let machine ← get
  if mostSteps < machine.steps || machine.state.isEndless then throw .endless
  else set { machine with steps := machine.steps + 1 }

def setError (number : Nat) : Act Unit :=
  modify fun machine => { machine with error := number }

def errorNumber : IoError → Nat
  | .os number => number.toNat
  | .other _ => 2

end FolderScript.Perl
