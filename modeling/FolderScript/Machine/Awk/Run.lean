/-
Carries out a pattern script.
-/
import FolderScript.Machine.Awk.Streams
import FolderScript.Machine.Shell.Calendar

namespace FolderScript.Awk

open Shell (Text Regex State)

namespace Run

open Streams

/-- Repeats a step as long as it says so. -/
def iterate (step : Machine → Except Stop Bool × Machine) :
    Nat → Machine → Except Stop Unit × Machine
  | 0, machine => (.error .endless, machine)
  | fuel + 1, machine =>
      match step machine with
      | (.ok true, after) => iterate step fuel after
      | (.ok false, after) => (.ok (), after)
      | (.error stop, after) => (.error stop, after)

/-- Counts a step. -/
def tick : Act Unit := do
  let machine ← get
  if mostSteps < machine.steps then throw .endless
  else set { machine with steps := machine.steps + 1 }

/-- Repeats an action as long as it says so. -/
def repeating (fuel : Nat) (step : Act Bool) : Act Unit :=
  ExceptT.mk fun machine => iterate (fun machine => step.run.run machine) fuel machine

/-- Carries out the body of a loop, and tells whether the loop goes on. -/
def looping (body : Act Unit) : Act Bool :=
  ExceptT.mk fun machine =>
    match body.run.run machine with
    | (.ok (), after) => (.ok true, after)
    | (.error .broken, after) => (.ok false, after)
    | (.error .continued, after) => (.ok true, after)
    | (.error stop, after) => (.error stop, after)

def textOf (value : Value) : Act Text :=
  match value with
  | .text text => return text
  | .input text _ => return text
  | other => return other.toText (← get).form

/-- The result of an operation on numbers. -/
def compute (operation : Operation) (left right : Float) : Float :=
  match operation with
  | .add => left + right
  | .subtract => left - right
  | .multiply => left * right
  | .divide => left / right
  | .remainder => Number.remainder left right
  | .power => Float.pow left right

/-- The pattern of a text that is only known at run time. -/
def regexOf (source : Text) : Act Regex := do
  let machine ← get
  match machine.regexes[source]? with
  | some regex => return regex
  | none =>
      let regex ← orFail source (Reader.regexOf source)
      set { machine with regexes := machine.regexes.insert source regex }
      return regex

def fits (regex : Regex) (text : Text) : Bool :=
  (regex.search? { chars := text.toArray } 0).isSome

def fieldIndex (value : Value) : Act Nat := do
  match Number.whole? value.toNumber with
  | some whole =>
      if whole < 0 then
        fail ("negative field index $".toList ++ Shell.Text.ofInt whole)
      else return whole.toNat
  | none => fail "illegal field index".toList

def fieldValue (index : Nat) : Act Value := do
  if index = 0 then
    modify Machine.joined
    return Value.ofInput (← get).record
  else
    modify Machine.cut
    return ((← get).fields[index - 1]?).getD .unset

def fetch (place : Place) : Act Value := do
  let machine ← get
  match place with
  | .shared name =>
      let (value, machine) := machine.getShared name
      set machine
      return value
  | .here index =>
      match machine.slots[index]? with
      | some (.value value) => return value
      | _ => return .unset

/-- Sets a variable. -/
def store (place : Place) (value : Value) : Act Unit := do
  match place with
  | .shared name =>
      let machine ← get
      match machine.setShared name value with
      | .ok machine => set machine
      | .error message => fail message.toList
  | .here index =>
      modify fun machine => { machine with slots := machine.slots.set! index (.value value) }

def keyOf (values : List Value) : Act Table.Key := do
  match values with
  | [.number number] =>
      match Number.integer? number with
      | some whole => return .number whole
      | none => return .spelled ((← get).form number)
  | [value] => return .spelled (← textOf value)
  | several =>
      let texts ← several.mapM textOf
      return .spelled (Shell.Text.join ((← get).sharedText "SUBSEP") texts)

/-- The part of a text from a place on, of a length; a start before the text makes the
part longer. -/
def part (text : Text) (start : Int) (length : Option Int) : Text :=
  if 1 ≤ start then
    let rest := text.drop (start.toNat - 1)
    match length with
    | none => rest
    | some length => rest.take length.toNat
  else
    match length with
    | none => text
    | some length => text.take (length - start).toNat

/-- The place of a text in another, counted from 1. -/
def indexOf (wanted : Text) : Nat → Text → Nat
  | place, text =>
      match text with
      | [] => if wanted.isEmpty then (if place = 1 then 0 else place) else 0
      | char :: rest =>
          if wanted.isPrefixOf (char :: rest) then place else indexOf wanted (place + 1) rest

def replacement (matched : Text) : Text → Text
  | [] => []
  | '\\' :: '&' :: rest => '&' :: replacement matched rest
  | '\\' :: '\\' :: '&' :: rest => '\\' :: matched ++ replacement matched rest
  | '&' :: rest => matched ++ replacement matched rest
  | char :: rest => char :: replacement matched rest

/-- A text with matches replaced, all of them or the first, in parts; and how many. -/
def replaced (regex : Regex) (subject : Regex.Subject) (with_ : Text) (all : Bool) :
    Nat → Nat → Option Nat → List Text × Nat
  | 0, index, _ => ([subject.slice index subject.chars.size], 0)
  | fuel + 1, index, last =>
      match regex.search? subject index with
      | none => ([subject.slice index subject.chars.size], 0)
      | some found =>
          let before := subject.slice index found.start
          let size := subject.chars.size
          if found.start = found.stop && last = some found.start then
            if size ≤ index then ([], 0)
            else
              let (more, count) := replaced regex subject with_ all fuel (index + 1) none
              (subject.slice index (index + 1) :: more, count)
          else
            let shown := replacement (subject.slice found.start found.stop) with_
            if !all then ([before, shown, subject.slice found.stop size], 1)
            else if found.start = found.stop then
              if size ≤ found.stop then ([before, shown], 1)
              else
                let (more, count) := replaced regex subject with_ all fuel (found.stop + 1) none
                (before :: shown :: subject.slice found.stop (found.stop + 1) :: more, count + 1)
            else
              let (more, count) :=
                replaced regex subject with_ all fuel found.stop (some found.stop)
              (before :: shown :: more, count + 1)

/-- A format with values filled in; what makes no sense stops the script. -/
def formatted (name : String) (values : List Value) : Act (Text × Option Text) := do
  match values with
  | [] => return ([], some [])
  | format :: values =>
      let format ← textOf format
      let (text, fault) := Printed.format (← get).form (format.length + 1) 1 format values
      let call := name.toList ++ "(\"".toList ++ format ++ "\")".toList
      return (text, fault.map fun fault => match fault with
        | .tooFew => "not enough arguments passed to ".toList ++ call
        | .improper number => "improper conversion(number ".toList ++ Shell.Text.ofNat number ++
            ") in ".toList ++ call)

/-- The next number that nobody can tell in advance. -/
def random : Act Float := do
  let machine ← get
  let a := machine.random ^^^ (machine.random <<< 13)
  let b := a ^^^ (a >>> 7)
  let c := b ^^^ (b <<< 17)
  set { machine with random := c }
  return Float.ofNat (c >>> 11).toNat / 9007199254740992.0

def changing {α : Type} (place : Place) (answer : Table → α) (change : Table → Table) : Act α :=
  ExceptT.mk fun machine =>
    let (number, machine) := machine.tableAt place
    (.ok (answer (machine.table number)), machine.changeTable number change)

mutual

def eval : Nat → Expr → Act Value
  | 0, _ => throw .endless
  | fuel + 1, expr => do
      match expr with
      | .constant value => return value
      | .regex _ regex =>
          modify Machine.joined
          return .ofBool (fits regex (← get).record)
      | .variable_ place => fetch place
      | .field index => fieldValue (← fieldIndex (← eval fuel index))
      | .item table subscripts =>
          let key ← keyOf (← evalAll fuel subscripts)
          changing table (·.get key) (·.visited key)
      | .assign target value =>
          let value ← eval fuel value
          let value := match value with
            | .unset => Value.unset
            | other => other
          setTarget fuel target value
          return value
      | .update target operation value =>
          let right ← eval fuel value
          let left ← eval fuel target
          let result := Value.number (compute operation left.toNumber right.toNumber)
          setTarget fuel target result
          return result
      | .step target amount givesOld =>
          let old := (← eval fuel target).toNumber
          let new := old + amount
          setTarget fuel target (.number new)
          return .number (if givesOld then old else new)
      | .binary operation left right =>
          let left ← eval fuel left
          let right ← eval fuel right
          return .number (compute operation left.toNumber right.toNumber)
      | .concat left right =>
          let left ← textOf (← eval fuel left)
          let right ← textOf (← eval fuel right)
          return .text (left ++ right)
      | .compare relation left right =>
          let left ← eval fuel left
          let right ← eval fuel right
          return .ofBool (Value.related (← get).form relation left right)
      | .fits text pattern =>
          let text ← textOf (← eval fuel text)
          let regex ← pattern_ fuel pattern
          return .ofBool (fits regex text)
      | .isIn subscripts table =>
          let key ← keyOf (← evalAll fuel subscripts)
          changing table (fun table => .ofBool (table.contains key))
            fun table => if table.contains key then table.used key else table
      | .not operand => return .ofBool !(← eval fuel operand).holds
      | .negative operand => return .number (-(← eval fuel operand).toNumber)
      | .positive operand => return .number (← eval fuel operand).toNumber
      | .and left right =>
          if (← eval fuel left).holds then return .ofBool (← eval fuel right).holds
          else return .ofBool false
      | .or left right =>
          if (← eval fuel left).holds then return .ofBool true
          else return .ofBool (← eval fuel right).holds
      | .choice condition yes no =>
          if (← eval fuel condition).holds then eval fuel yes else eval fuel no
      | .tuple items =>
          let values ← evalAll fuel items
          let texts ← values.mapM textOf
          return .text (Shell.Text.join ((← get).sharedText "SUBSEP") texts)
      | .call name arguments => call fuel name arguments
      | .builtin name arguments => builtin fuel name arguments
      | .readMain target =>
          match ← mainRecord 100000 with
          | none => return .number 0
          | some record =>
              match target with
              | none => modify (·.setRecord record)
              | some target => setTarget fuel target (.ofInput record)
              return .number 1
      | .readFile target file =>
          let name ← textOf (← eval fuel file)
          match ← sideRecord false name with
          | .error _ => return .number (-1)
          | .ok none => return .number 0
          | .ok (some record) =>
              match target with
              | none => modify (·.setRecord record)
              | some target => setTarget fuel target (.ofInput record)
              return .number 1
      | .readCommand target command =>
          let name ← textOf (← eval fuel command)
          match ← sideRecord true name with
          | .error _ => return .number (-1)
          | .ok none => return .number 0
          | .ok (some record) =>
              modify fun machine => { machine with
                count := machine.count + 1
                fileCount := machine.fileCount + (if target.isNone then 1 else 1) }
              match target with
              | none => modify (·.setRecord record)
              | some target => setTarget fuel target (.ofInput record)
              return .number 1

def evalAll : Nat → List Expr → Act (List Value)
  | 0, _ => throw .endless
  | _ + 1, [] => return []
  | fuel + 1, first :: rest => do
      let value ← eval fuel first
      return value :: (← evalAll fuel rest)

def pattern_ : Nat → Expr → Act Regex
  | 0, _ => throw .endless
  | fuel + 1, expr => do
      match expr with
      | .regex _ regex => return regex
      | other => regexOf (← textOf (← eval fuel other))

def setTarget : Nat → Expr → Value → Act Unit
  | 0, _, _ => throw .endless
  | fuel + 1, target, value => do
      match target with
      | .variable_ place => store place value
      | .field index =>
          let index ← fieldIndex (← eval fuel index)
          if index = 0 then
            let text ← textOf value
            modify (·.setRecord text)
          else modify (·.setField index value)
      | .item table subscripts =>
          let key ← keyOf (← evalAll fuel subscripts)
          changing table (fun _ => ()) (·.put key value)
      | _ => pure ()

def call : Nat → String → List Expr → Act Value
  | 0, _, _ => throw .endless
  | fuel + 1, name, arguments => do
      match (← get).functions[name]? with
      | none => fail ("function ".toList ++ name.toList ++ " never defined".toList)
      | some function =>
          if function.parameters.length < arguments.length then
            fail ("too many arguments in call to ".toList ++ name.toList)
          else
            tick
            let slots ← slotsFor fuel function.tables arguments
            let before := (← get).slots
            modify fun machine => { machine with slots := slots.toArray }
            let result ← finishing fuel function.body
            modify fun machine => { machine with slots := before }
            return result

/-- Carries out the body of a function, and gives its value. -/
def finishing : Nat → Statement → Act Value
  | 0, _ => throw .endless
  | fuel + 1, body =>
      ExceptT.mk fun machine =>
        match (exec fuel body).run.run machine with
        | (.ok (), after) => (.ok .unset, after)
        | (.error (.returned value), after) => (.ok value, after)
        | (.error stop, after) => (.error stop, after)

/-- What parameters start with: arguments, or nothing. -/
def slotsFor : Nat → List Bool → List Expr → Act (List Slot)
  | 0, _, _ => throw .endless
  | _ + 1, [], _ => return []
  | fuel + 1, isTable :: tables, arguments => do
      let slot : Slot ← match isTable, arguments with
        | true, .variable_ place :: _ =>
            let (number, machine) := (← get).tableAt place
            set machine
            pure (.table number)
        | true, _ =>
            let (number, machine) := (← get).freshTable {}
            set machine
            pure (.table number)
        | false, .variable_ (.shared name) :: _ =>
            match (← get).named[name]? with
            | some number => pure (.table number)
            | none => pure (.value (← fetch (.shared name)))
        | false, .variable_ (.here index) :: _ =>
            match (← get).slots[index]? with
            | some slot => pure slot
            | none => pure (.value .unset)
        | false, argument :: _ => pure (.value (← eval fuel argument))
        | false, [] => pure (.value .unset)
      return slot :: (← slotsFor fuel tables arguments.tail)

/-- Calls a function that is there from the start. -/
def builtin : Nat → String → List Expr → Act Value
  | 0, _, _ => throw .endless
  | fuel + 1, name, arguments => do
      match name, arguments with
      | "length", [] =>
          modify Machine.joined
          return .number (Float.ofNat (← get).record.length)
      | "length", [.variable_ place] =>
          let machine ← get
          let number : Option Nat := match place with
            | .shared name => machine.named[name]?
            | .here index => match machine.slots[index]? with
                | some (.table number) => some number
                | _ => none
          match number with
          | some number => return .number (Float.ofNat (machine.table number).size)
          | none => return .number (Float.ofNat (← textOf (← fetch place)).length)
      | "split", text :: .variable_ table :: rest =>
          let text ← textOf (← eval fuel text)
          let divider : Divider ← match rest with
            | [] => pure (← get).divider
            | .regex _ regex :: _ => pure (.matching regex)
            | other :: _ =>
                let source ← textOf (← eval fuel other)
                orFail source (Divider.ofText source)
          let values := (divider.fields text).map Value.ofInput
          let (number, machine) := (← get).tableAt table
          set (machine.setTable number (.ofList values))
          return .number (Float.ofNat values.length)
      | "sub", pattern :: with_ :: rest => substitute fuel false pattern with_ (rest.headD (.field (.constant (.number 0))))
      | "gsub", pattern :: with_ :: rest => substitute fuel true pattern with_ (rest.headD (.field (.constant (.number 0))))
      | "match", [text, pattern] =>
          let text ← textOf (← eval fuel text)
          let regex ← pattern_ fuel pattern
          let (start, length) : Float × Float :=
            match regex.search? { chars := text.toArray } 0 with
            | some found => (Float.ofNat (found.start + 1), Float.ofNat (found.stop - found.start))
            | none => (0, -1)
          store (.shared "RSTART") (.number start)
          store (.shared "RLENGTH") (.number length)
          return .number start
      | "close", [target] => return .number (← close (← textOf (← eval fuel target)))
      | "system", [command] =>
          let status ← run (← textOf (← eval fuel command)) id
          return .number (Float.ofNat status)
      | "fflush", _ =>
          let _ ← evalAll fuel arguments
          return .number 0
      | "sprintf", _ =>
          let (text, fault) ← formatted "sprintf" (← evalAll fuel arguments)
          match fault with
          | some message => fail message
          | none => return .text text
      | _, _ => simpleBuiltin name (← evalAll fuel arguments)

/-- Replaces matches in a target. -/
def substitute : Nat → Bool → Expr → Expr → Expr → Act Value
  | 0, _, _, _, _ => throw .endless
  | fuel + 1, all, pattern, with_, target => do
      let regex ← pattern_ fuel pattern
      let with_ ← textOf (← eval fuel with_)
      let text ← textOf (← eval fuel target)
      let subject : Regex.Subject := { chars := text.toArray }
      let (parts, count) := replaced regex subject with_ all (2 * subject.chars.size + 4) 0 none
      if count ≠ 0 then setTarget fuel target (.text parts.flatten)
      return .number (Float.ofNat count)

def exec : Nat → Statement → Act Unit
  | 0, _ => throw .endless
  | fuel + 1, statement => do
      match statement with
      | .block statements => execAll fuel statements
      | .print arguments target =>
          let text ← if arguments.isEmpty then do
              modify Machine.joined
              pure (← get).record
            else do
              let values ← evalAll fuel arguments
              let form := (← get).shownForm
              pure (Shell.Text.join ((← get).sharedText "OFS") (values.map (·.toText form)))
          emit fuel target (text ++ (← get).sharedText "ORS")
      | .printf arguments target =>
          let (text, fault) ← formatted "printf" (← evalAll fuel arguments)
          emit fuel target text
          match fault with
          | some message => fail message
          | none => pure ()
      | .evaluate expr =>
          let _ ← eval fuel expr
          pure ()
      | .choose condition yes no =>
          if (← eval fuel condition).holds then exec fuel yes else exec fuel no
      | .whileLoop condition body =>
          repeating fuel do
            tick
            if (← eval fuel condition).holds then looping (exec fuel body) else return false
      | .untilLoop body condition =>
          repeating fuel do
            tick
            if ← looping (exec fuel body) then return (← eval fuel condition).holds
            else return false
      | .forLoop first condition next body =>
          match first with
          | some first =>
              let _ ← eval fuel first
              pure ()
          | none => pure ()
          repeating fuel do
            tick
            let goesOn ← match condition with
              | some condition => pure (← eval fuel condition).holds
              | none => pure true
            if !goesOn then return false
            else if ← looping (exec fuel body) then
              match next with
              | some next =>
                  let _ ← eval fuel next
                  return true
              | none => return true
            else return false
      | .forEach target table body =>
          each fuel target body (← changing table (·.keys) (·.spell))
      | .next => throw .next
      | .nextFile => throw .nextFile
      | .exit status =>
          match status with
          | some status =>
              let value := (Number.whole? (← eval fuel status).toNumber).getD 0
              modify fun machine => { machine with status := (value % 256).toNat }
          | none => pure ()
          throw .exit
      | .return_ value =>
          match value with
          | some value => throw (.returned (← eval fuel value))
          | none => throw (.returned .unset)
      | .break_ => throw .broken
      | .continue_ => throw .continued
      | .delete table subscripts =>
          if subscripts.isEmpty then
            let (number, machine) := (← get).tableAt table
            set (machine.setTable number {})
          else
            let key ← keyOf (← evalAll fuel subscripts)
            changing table (fun _ => ()) (·.erase key)

/-- Carries out statements in turn. -/
def execAll : Nat → List Statement → Act Unit
  | 0, _ => throw .endless
  | _ + 1, [] => return ()
  | fuel + 1, first :: rest => do
      exec fuel first
      execAll fuel rest

/-- Carries out the body of a loop for each key. -/
def each : Nat → Place → Statement → List Text → Act Unit
  | 0, _, _, _ => throw .endless
  | _ + 1, _, _, [] => return ()
  | fuel + 1, target, body, key :: rest => do
      tick
      store target (.text key)
      if ← looping (exec fuel body) then each fuel target body rest

/-- Writes a text to where a statement wants it. -/
def emit : Nat → Option (Way × Expr) → Text → Act Unit
  | 0, _, _ => throw .endless
  | fuel + 1, target, text => do
      match target with
      | none => write 1 text
      | some (way, name) => writeTo way (← textOf (← eval fuel name)) text

/-- Calls a function that only looks at its arguments. -/
def simpleBuiltin (name : String) (values : List Value) : Act Value := do
  let number (index : Nat) : Float := (values.getD index .unset).toNumber
  let text (index : Nat) : Act Text := textOf (values.getD index .unset)
  match name with
  | "length" => return .number (Float.ofNat (← text 0).length)
  | "substr" =>
      let start := (Number.whole? (number 1)).getD 0
      let length : Option Int := if values.length < 3 then none
        else some ((Number.whole? (number 2)).getD (if number 2 < 0 then -1 else 2147483647))
      return .text (part (← text 0) start length)
  | "index" => return .number (Float.ofNat (indexOf (← text 1) 1 (← text 0)))
  | "toupper" => return .text ((← text 0).map Char.toUpper)
  | "tolower" => return .text ((← text 0).map Char.toLower)
  | "sin" => return .number (Float.sin (number 0))
  | "cos" => return .number (Float.cos (number 0))
  | "atan2" => return .number (Float.atan2 (number 0) (number 1))
  | "exp" => return .number (Float.exp (number 0))
  | "log" => return .number (Float.log (number 0))
  | "sqrt" => return .number (Float.sqrt (number 0))
  | "int" =>
      match Number.whole? (number 0) with
      | some whole => return .number (Float.ofInt whole)
      | none => return .number (number 0)
  | "rand" => return .number (← random)
  | "srand" =>
      let machine ← get
      let seed : Value := match values with
        | [] => .number (Float.ofInt (State.momentOf machine.state.clock / 1000000))
        | value :: _ => value
      set { machine with lastSeed := seed }
      return machine.lastSeed
  | "systime" =>
      return .number (Float.ofInt (State.momentOf (← get).state.clock / 1000000))
  | "strftime" =>
      let machine ← get
      let form ← if values.isEmpty then pure "%c".toList else text 0
      let moment : Moment := if values.length < 2 then State.momentOf machine.state.clock
        else ((Number.whole? (number 1)).getD 0) * 1000000
      return .text (Shell.Calendar.text .zero moment form)
  | _ => return .number (-1)

end

end Run

end FolderScript.Awk
