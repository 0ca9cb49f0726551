/-
The programs that carry out pattern scripts and list scripts.
-/
import FolderScript.Machine.Awk.Program
import FolderScript.Machine.Perl.Program

namespace FolderScript.Shell

namespace Tools

namespace PatternScripts

/-- What the arguments say. -/
structure Asked where
  files : List Text := []
  settings : List (String × Text) := []
  operands : List Text := []
  deriving DecidableEq, Repr

/-- Reads the switches in front of the operands. -/
def read (asked : Asked) : Nat → List Text → Except Text Asked
  | 0, _ => .ok asked
  | _ + 1, [] => .ok asked
  | fuel + 1, argument :: rest =>
      let valued (value : Text) (use : Text → List Text → Except Text Asked) : Except Text Asked :=
        match value, rest with
        | [], [] => .error ("option requires an argument -- ".toList ++ argument.drop 1)
        | [], next :: rest => use next rest
        | value, rest => use value rest
      match argument with
      | ['-', '-'] => .ok { asked with operands := rest }
      | '-' :: 'F' :: value =>
          valued value fun value rest =>
            read { asked with settings := asked.settings ++ [("FS", value)] } fuel rest
      | '-' :: 'f' :: value =>
          valued value fun value rest =>
            read { asked with files := asked.files ++ [value] } fuel rest
      | '-' :: 'v' :: value =>
          valued value fun value rest =>
            match Awk.Streams.assignment? value with
            | some setting => read { asked with settings := asked.settings ++ [setting] } fuel rest
            | none => .error ("improper assignment: -v ".toList ++ value)
      | '-' :: 'W' :: value => valued value fun _ rest => read asked fuel rest
      | '-' :: _ :: _ => .error ("not an option: ".toList ++ argument)
      | _ => .ok { asked with operands := argument :: rest }

def source (state : State) : List Text → Except Text (Text × State)
  | [] => .ok ([], state)
  | file :: rest =>
      match Tools.load state file with
      | .error error =>
          .error ("cannot open \"".toList ++ file ++ "\" (".toList ++ reason error ++ [')'])
      | .ok (data, state) => do
          let (more, state) ← source state rest
          pure (Text.ofBytes data ++ (if rest = [] then [] else '\n' :: more), state)

end PatternScripts

open PatternScripts in
def awk (name : String) (launch : Launch) : Tool := fun state arguments =>
  let refused (state : State) (message : Text) : Flow × State :=
    done (state.write 2 (name.toList ++ ": ".toList ++ message ++ ['\n'])) 2
  match read {} (arguments.length + 1) arguments with
  | .error message => refused state message
  | .ok asked =>
      let found : Except Text (Option (Text × List Text × State)) :=
        if asked.files ≠ [] then
          (source state asked.files).map fun (text, state) => some (text, asked.operands, state)
        else
          match asked.operands with
          | [] => .ok none
          | text :: operands => .ok (some (text, operands, state))
      match found with
      | .error message => refused state message
      | .ok none => done state 0
      | .ok (some (text, operands, state)) =>
          match Awk.Script.ofText text with
          | .error fault =>
              refused state ((if fault.isShort then [] else "line ".toList) ++
                Text.ofNat fault.line ++ ": ".toList ++ fault.message)
          | .ok script =>
              let environment := state.bindings.filterMap fun known =>
                if known.exported then some (known.name, known.value) else none
              let machine := Awk.Program.start launch state script (name.toList :: operands)
                environment
              match Awk.Program.run name.toList script asked.settings machine with
              | (.done status, state) => done state status
              | (.endless, state) => (.forever, state)
              | (.died signal, state) => (.died signal, state)

namespace ListScripts

open FolderScript.Perl (Program.Wish Value)

/-- What the arguments say: what is asked for, and what is left. -/
structure Asked where
  wish : Program.Wish := {}
  operands : List Text := []

def markOf (digits : Text) : Value :=
  let code := Perl.Scan.inBase 8 digits
  if digits = [] then .text [Char.ofNat 0]
  else if digits = ['0'] then .text []
  else if 0o400 ≤ code then .undefined
  else .text [Char.ofNat code]

/-- The letters that stand alone, without a meaning here. -/
def plainLetters : List Char := "wWXtTuUsSfg".toList

/-- Reads the switches in front of the operands; the error is a complaint. -/
def read (asked : Asked) : Nat → List Text → Except Text Asked
  | 0, arguments => .ok { asked with operands := arguments }
  | _ + 1, [] => .ok asked
  | fuel + 1, argument :: rest =>
      match argument with
      | ['-', '-'] => .ok { asked with operands := rest }
      | ['-'] => .ok { asked with operands := ['-'] :: rest }
      | '-' :: letter :: more =>
          let wish := asked.wish
          let again (wish : Program.Wish) (letters : Text) : Except Text Asked :=
            if letters = [] then read { asked with wish := wish } fuel rest
            else read { asked with wish := wish } fuel (('-' :: letters) :: rest)
          let valued (use : Text → Program.Wish) (fault : Text) : Except Text Asked :=
            match more, rest with
            | [], [] => .error fault
            | [], value :: rest => read { asked with wish := use value } fuel rest
            | value, rest => read { asked with wish := use value } fuel rest
          match letter with
          | 'e' | 'E' =>
              valued (fun text => { wish with texts := wish.texts ++ [text] })
                ("No code specified for -".toList ++ [letter, '.', '\n'])
          | 'n' => again { wish with forLines := true } more
          | 'p' => again { wish with forLines := true, shows := true } more
          | 'a' => again { wish with forLines := true, cutsParts := true } more
          | 'c' => again { wish with onlyReads := true } more
          | 'l' =>
              let digits := more.takeWhile Char.isDigit
              again { wish with cutsEnds := true } (more.drop digits.length)
          | '0' =>
              let digits := more.takeWhile Char.isDigit
              again { wish with mark := markOf digits } (more.drop digits.length)
          | 'i' => read { asked with wish := { wish with inPlace := some more } } fuel rest
          | 'F' =>
              let bare := match Perl.Scan.between more with
                | some ('/', inner, []) => inner
                | _ => more
              read { asked with wish := { wish with
                forLines := true, cutsParts := true, between := some bare } } fuel rest
          | 'M' | 'm' =>
              valued (fun text => { wish with
                  isFine := wish.isFine || "Time::HiRes".toList.isPrefixOf text })
                ("Missing argument to -".toList ++ [letter, '\n'])
          | 'I' => valued (fun _ => wish) "No directory specified for -I\n".toList
          | 'C' => again wish (more.dropWhile fun char => char.isAlphanum)
          | _ =>
              if plainLetters.contains letter then again wish more
              else
                .error ("Unrecognized switch: -".toList ++ letter :: more ++
                  "  (-h will show valid options).\n".toList)
      | _ => .ok { asked with operands := argument :: rest }

def firstSwitches (text : Text) : List Text :=
  let line := text.takeWhile (· ≠ '\n')
  if "#!".toList.isPrefixOf line then
    match (Perl.Scan.words (line.length + 1) line).findIdx? fun word =>
        ("perl".toList.reverse).isPrefixOf word.reverse with
    | some index =>
        ((Perl.Scan.words (line.length + 1) line).drop (index + 1)).filter fun word =>
          word.head? == some '-'
    | none => []
  else []

/-- The error of a place in a pipe that is asked for. -/
def noSeeking : Nat := 29

end ListScripts

open ListScripts in
def perl (launch : Launch) : Tool := fun state arguments =>
  let refused (message : Text) (status : Nat) : Flow × State := done (state.write 2 message) status
  match read {} (2 * arguments.length + (arguments.map List.length).foldl (· + ·) 2) arguments with
  | .error message => refused message noSeeking
  | .ok asked =>
      let found : Except IoError (Text × Text × List Text × State) :=
        if asked.wish.texts ≠ [] then
          .ok (['-', 'e'], asked.wish.texts.flatMap (· ++ ['\n']), asked.operands, state)
        else
          let file := asked.operands.headD ['-']
          (load state file).map fun (data, state) =>
            (file, Text.ofBytes data, asked.operands.tail, state)
      match found with
      | .error error =>
          refused ("Can't open perl script \"".toList ++ asked.operands.headD [] ++ "\": ".toList ++
            reason error ++ ['\n']) (Perl.errorNumber error)
      | .ok (title, text, operands, state) =>
          let wish := match read { wish := asked.wish } 100 (firstSwitches text) with
            | .ok more => more.wish
            | .error _ => asked.wish
          match Perl.Reader.script title text with
          | .error message => done (state.write 2 message) 255
          | .ok script =>
              if wish.onlyReads then done (state.write 2 (title ++ " syntax OK\n".toList)) 0
              else
                match Perl.Program.perform launch state title wish operands script with
                | (.flow flow, after) => (flow, after.withStatus (flow.statusOf after))
                | (.endless, after) => (.forever, after)
                | (.died signal, after) => (.died signal, after)

end Tools

end FolderScript.Shell
