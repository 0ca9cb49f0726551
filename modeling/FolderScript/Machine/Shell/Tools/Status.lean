/-
The program that tells what is known about files.
-/
import FolderScript.Machine.Shell.Format
import FolderScript.Machine.Shell.Tools.Listing

namespace FolderScript.Shell

namespace Tools

namespace Status

def kindWords (state : State) (node : Node) : String :=
  match state.kindOf node.entry with
  | .directory => "directory"
  | .regular => if state.sizeOf node.entry = 0 then "regular empty file" else "regular file"
  | .link => "symbolic link"
  | .character => "character special file"
  | .pipe => "fifo"

def kindBits (state : State) (node : Node) : Nat :=
  match state.kindOf node.entry with
  | .directory => 0x4000
  | .regular => 0x8000
  | .link => 0xa000
  | .character => 0x2000
  | .pipe => 0x1000

def fullTime (state : State) (moment : Moment) : Text :=
  Calendar.text (zoneOf state) moment "%Y-%m-%d %H:%M:%S.%N %z".toList

/-- How a field is to be written. -/
structure Wish where
  left : Bool := false
  zeros : Bool := false
  alternate : Bool := false
  width : Nat := 0
  places : Option Nat := none
  deriving DecidableEq, Repr

/-- What a letter asks about a file. -/
def field? (state : State) (name : Text) (position : Position) (node : Node) (wish : Wish)
    (letter : Char) : Option Text :=
  let owner (isNumber : Bool) : Text :=
    if node.mine then (if isNumber then Text.ofNat userNumber else userName)
    else if isNumber then ['0'] else "root".toList
  let seconds : Text :=
    let whole := Calendar.text .zero node.modified ['%', 's']
    match wish.places with
    | none => whole
    | some places => whole ++ '.' :: Calendar.text .zero node.modified
        ('%' :: Text.ofNat (min places 9) ++ ['N'])
  match letter with
  | 'n' => some name
  | 'N' => some (named name ++ match node.entry with
      | .link target => " -> ".toList ++ named (Text.ofBytes target)
      | _ => [])
  | 's' => some (Text.ofNat (state.sizeOf node.entry))
  | 'a' =>
      let digits := Nat.toDigits 8 node.mode
      some (if wish.alternate && digits ≠ ['0'] then '0' :: digits else digits)
  | 'A' => some (modeText state node)
  | 'f' => some (Nat.toDigits 16 (kindBits state node + node.mode))
  | 'F' => some (kindWords state node).toList
  | 'U' | 'G' => some (owner false)
  | 'u' | 'g' => some (owner true)
  | 'h' => some (Text.ofNat (linksOf state position node))
  | 'i' => some (Text.ofNat (Listing.fileNumber node))
  | 'b' => some (Text.ofNat (2 * blocksOf state node.entry))
  | 'B' => some "512".toList
  | 'o' => some "4096".toList
  | 'd' | 'D' => some ['1']
  | 't' => some (if state.kindOf node.entry = .character then ['1'] else ['0'])
  | 'T' => some (if state.kindOf node.entry = .character then ['3'] else ['0'])
  | 'm' => some ['/']
  | 'x' | 'y' | 'z' | 'w' => some (fullTime state node.modified)
  | 'X' | 'Y' | 'Z' | 'W' => some seconds
  | 'C' => some ['?']
  | _ => none

/-- Whether a field is a number, which may be filled up with zeros. -/
def isNumber (letter : Char) : Bool := "sabughidoBtTXYZWf".toList.contains letter

/-- A format with what it asks for filled in, or the directive that makes no sense. -/
def formatted (state : State) (name : Text) (position : Position) (node : Node)
    (escapes : Bool) :
    Nat → Text → Except Text Text
  | 0, _ => .ok []
  | _ + 1, [] => .ok []
  | fuel + 1, '%' :: rest =>
      let flags := rest.takeWhile fun char => "-+ 0#'".toList.contains char
      let after := rest.drop flags.length
      let width := after.takeWhile Char.isDigit
      let after := after.drop width.length
      let (places, after) : Option Nat × Text := match after with
        | '.' :: digits =>
            let count := digits.takeWhile Char.isDigit
            (some ((Text.toNat? count).getD 9), digits.drop count.length)
        | _ => (none, after)
      match after with
      | [] =>
          if rest = [] then .ok ['%']
          else .error (quoted ('%' :: rest) ++ ": invalid directive".toList)
      | '%' :: more => do
          if rest.head? = some '%' then
            pure ('%' :: (← formatted state name position node escapes fuel more))
          else throw (quoted ('%' :: rest.take (rest.length - more.length)) ++
            ": invalid directive".toList)
      | letter :: more => do
          let wish : Wish :=
            { left := flags.contains '-', zeros := flags.contains '0'
              alternate := flags.contains '#', width := (Text.toNat? width).getD 0
              places := places }
          let text := (field? state name position node wish letter).getD ['?']
          let fill := if wish.zeros && !wish.left && isNumber letter then '0' else ' '
          pure (Format.pad wish.width wish.left fill text ++
            (← formatted state name position node escapes fuel more))
  | fuel + 1, '\\' :: rest => do
      if !escapes then pure ('\\' :: (← formatted state name position node escapes fuel rest))
      else
        match rest with
        | [] => pure ['\\']
        | letter :: more =>
            let one (char : Char) : Except Text Text := do
              pure (char :: (← formatted state name position node escapes fuel more))
            match letter with
            | 'n' => one '\n'
            | 't' => one '\t'
            | 'a' => one '\x07'
            | 'b' => one '\x08'
            | 'e' => one '\x1b'
            | 'f' => one '\x0c'
            | 'r' => one '\r'
            | 'v' => one '\x0b'
            | '\\' => one '\\'
            | '"' => one '"'
            | 'x' =>
                let digits := (Format.hexDigits more).take 2
                if digits = [] then one 'x'
                else pure (Char.ofNat (Format.hexValue digits) ::
                  (← formatted state name position node escapes fuel (more.drop digits.length)))
            | other =>
                let digits := (rest.take 3).takeWhile fun char => '0' ≤ char && char ≤ '7'
                if digits = [] then one other
                else
                  let value := digits.foldl (fun value digit => value * 8 + (digit.toNat - 48)) 0
                  pure (Char.ofNat (value % 256) ::
                    (← formatted state name position node escapes fuel (rest.drop digits.length)))
  | fuel + 1, char :: rest => do pure (char :: (← formatted state name position node escapes fuel rest))

/-- What is told about a file if nothing else is asked for. -/
def fullForm (isLink isDevice : Bool) : String :=
  "  File: %N\n  Size: %-10s\tBlocks: %-10b IO Block: %-6o %F\nDevice: 0,1\tInode: %-11i Links: %-5h" ++
    (if isDevice then " Device type: %t,%T" else "") ++
    "\nAccess: (%04a/%10.10A)  Uid: (%5u/%8U)   Gid: (%5g/%8G)\n" ++
    "Access: %x\nModify: %y\nChange: %z\n Birth: %w\n" ++ (if isLink then "" else "")

/-- The same in one line. -/
def terseForm : String := "%n %s %b %f %u %g %D %i %h %t %T %X %Y %Z %W %o\n"

/-- The form in which a file is told about. -/
def formOf (state : State) (given : Given) (node : Node) : Text × Bool :=
  match given.last? ['c', 'π'], given.has 't' with
  | some 'c', _ => ((given.value? 'c').getD [], false)
  | some letter, _ => ((given.value? letter).getD [], true)
  | none, true => (terseForm.toList, false)
  | none, false =>
      let form := (fullForm (state.kindOf node.entry = .link)
        (state.kindOf node.entry = .character)).toList
      (if state.kindOf node.entry = .link then form
        else "  File: %n".toList ++ form.drop 10, false)

end Status

def stat : Tool := reading "stat" ⟨"Lft", "cπ", [("dereference", 'L'), ("file-system", 'f'),
    ("terse", 't'), ("format", 'c'), ("printf", 'π')], true⟩ 1 fun state given =>
  if given.operands = [] then done (misused state "stat" "missing operand".toList) 1
  else
    let (state, failed) := given.operands.foldl
      (fun (state, failed) operand =>
        match state.nodeAt (!given.has 'L') operand with
        | .error error =>
            (complain state "stat" ("cannot statx ".toList ++ named operand ++ ": ".toList ++
              reason error), true)
        | .ok (position, node) =>
            let (form, escapes) := Status.formOf state given node
            match Status.formatted state operand position node escapes (form.length + 1) form with
            | .ok text =>
                let ending : Text := if given.last? ['c', 'π'] = some 'c' then ['\n'] else []
                (state.write 1 (text ++ ending), failed)
            | .error message => (complain state "stat" message, true))
      (state, false)
    done state (if failed then 1 else 0)

end Tools

end FolderScript.Shell
