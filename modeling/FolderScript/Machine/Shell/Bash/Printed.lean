/-
Words, conditions and commands of the large shell language as they are shown when they
are traced or complained about.
-/
import FolderScript.Machine.Shell.Bash.Quoting

namespace FolderScript.Shell

namespace Printed

def signed? : Modifier → Option (Text × Word)
  | .fallback emptyToo word => some ((if emptyToo then ":-" else "-").toList, word)
  | .assign emptyToo word => some ((if emptyToo then ":=" else "=").toList, word)
  | .replace emptyToo word => some ((if emptyToo then ":+" else "+").toList, word)
  | .require emptyToo word => some ((if emptyToo then ":?" else "?").toList, word)
  | .cut atFront longest word =>
      some (((if atFront then "#" else "%").toList).flatMap fun char =>
        if longest then [char, char] else [char], word)
  | .recase toCapital all word =>
      let char := match toCapital with
        | some true => '^'
        | some false => ','
        | none => '~'
      some (if all then [char, char] else [char], word)
  | _ => none

/-- The parts of a word as written, whether or not between double quotes. -/
def parts : Nat → Bool → Word → Text
  | 0, _, _ => []
  | _ + 1, isInside, [] => if isInside then ['"'] else []
  | fuel + 1, isInside, first :: rest =>
      let go := parts fuel
      let isQuoted := match first with
        | .literal _ quoted | .parameter _ _ _ quoted | .names _ _ quoted | .output _ quoted
        | .arithmetic _ quoted => quoted
        | _ => false
      let shown : Text := match first with
        | .literal text quoted =>
            if quoted && !isInside then Quoted.single text else text
        | .parameter name index modifier _ =>
            let index := (index.map fun word => '[' :: go false word ++ [']']).getD []
            match modifier, index with
            | .plain, [] => '$' :: name
            | .plain, _ => '$' :: '\x7b' :: name ++ index ++ ['\x7d']
            | .length, _ => '$' :: '\x7b' :: '#' :: name ++ index ++ ['\x7d']
            | modifier, _ =>
                match signed? modifier with
                | some (sign, word) =>
                    '$' :: '\x7b' :: name ++ index ++ sign ++ go false word ++ ['\x7d']
                | none => '$' :: '\x7b' :: name ++ index ++ ['\x7d']
        | .names start asOne _ =>
            '$' :: '\x7b' :: '!' :: start ++ [if asOne then '*' else '@', '\x7d']
        | .output .. => "$(...)".toList
        | .arithmetic expression _ => "$((".toList ++ go false expression ++ "))".toList
        | .passage _ => "<(...)".toList
        | .items entries =>
            '(' :: Text.join [' '] (entries.map fun entry => go false entry.2) ++ [')']
      match first, isInside, isQuoted with
      | .literal [] true, false, _ =>
          if rest = [] then ['"', '"'] else '"' :: go true rest
      | .literal .., false, _ => shown ++ go false rest
      | _, true, false => '"' :: shown ++ go false rest
      | _, true, true => shown ++ go true rest
      | _, false, true => '"' :: shown ++ go true rest
      | _, false, false => shown ++ go false rest

/-- How deep words are looked into. -/
def deepest : Nat := 1000

/-- A word as written, as far as that is still known. -/
def word (word : Word) : Text := parts deepest false word

/-- A word after its expansion, as it is shown in a trace of a condition. -/
def operand (text : Text) : Text := if text = [] then ['\'', '\''] else text

def words (texts : List Text) : Text := Text.join [' '] (texts.map Quoted.whenNeeded)

def assignment (name : Text) (key : Option Text) (adds : Bool) (value : Text) : Text :=
  name ++ ((key.map fun key => '[' :: key ++ [']']).getD []) ++
    (if adds then ['+', '='] else ['=']) ++ (if value = [] then [] else Quoted.whenNeeded value)

/-- A simple command as written. -/
def simple (assignments : List Assignment) (words : List Word) : Text :=
  let shown := assignments.map fun (.of name index adds value) =>
    name ++ ((index.map fun key => '[' :: word key ++ [']']).getD []) ++
      (if adds then ['+', '='] else ['=']) ++ word value
  Text.join [' '] (shown ++ words.map word)

/-- A command as written, if it is one that is carried out in one step. -/
def command : Command → Text
  | .simple _ assignments words _ => simple assignments words
  | .compute _ expression => "((".toList ++ word expression ++ "))".toList
  | .test _ (.word operand) => "[[ -n ".toList ++ word operand ++ " ]]".toList
  | .test _ (.unary letter operand) =>
      "[[ -".toList ++ letter :: ' ' :: word operand ++ " ]]".toList
  | .test _ (.binary left relation right) =>
      "[[ ".toList ++ word left ++ ' ' :: relation ++ ' ' :: word right ++ " ]]".toList
  | _ => []

end Printed

end FolderScript.Shell
