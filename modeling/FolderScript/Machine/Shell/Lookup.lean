/-
Finding the program that a name stands for, and what carries it out: the program
itself, or the interpreter that a script names in its first line.
-/
import FolderScript.Machine.Shell.Script
import FolderScript.Host

namespace FolderScript.Shell

/-- A program with its arguments; the name it was called by is apart. -/
structure Resolved where
  program : String
  calledAs : Text
  arguments : List Text
  deriving DecidableEq, Repr

namespace Lookup

/-- How much of a file is looked at for the interpreter that it names. -/
def headSize : Nat := 256

/-- The interpreter that the first line of a script names, and the argument that
it gives it.  A line of blanks names none, and neither does a name that goes on for
too long; the end of the file may cut the name short. -/
def interpreter? (data : Bytes) : Option (Text × List Text) :=
  match Text.ofBytes (data.take headSize) with
  | '#' :: '!' :: rest =>
      let isGap (char : Char) : Bool := char == ' ' || char == '\t'
      let whole := rest.takeWhile (· ≠ '\n')
      let hasEnd := whole.length < rest.length
      let line := (whole.takeWhile fun char => char.toNat ≠ 0).dropWhile isGap
      let name := line.takeWhile fun char => !isGap char
      let argument := (line.drop name.length).dropWhile isGap
      let argument := (argument.reverse.dropWhile isGap).reverse
      let isCut := !hasEnd && headSize ≤ data.length && name.length = line.length
      if isCut || (hasEnd && whole.all isGap) then none
      else some (name, if argument = [] then [] else [argument])
  | _ => none

/-- Whether the first line of a file looks like a text, not like a program for some
other machine. -/
def isText (data : Bytes) : Bool :=
  ((data.take 128).takeWhile (· ≠ 10)).all fun byte =>
    (32 ≤ byte && byte ≠ 127) || (9 ≤ byte && byte ≤ 15) || byte = 27

/-- The longest text that a program can be handed, with its end. -/
def longestText : Nat := 131072

/-- How much room there is for all texts that a program is handed. -/
def room : Nat := 2097152

/-- Whether a program can be handed arguments and variables. -/
def hasRoomFor (path : Text) (arguments environment : List Text) : Bool :=
  let texts := arguments ++ environment
  let total := texts.foldl (fun total text => total + text.length + 9) (path.length + 1)
  texts.all (fun text => text.length < longestText) && total ≤ room

/-- What carries out a path with arguments; scripts may name scripts, up to a
depth. -/
def resolve (files : FileSystem) (directory : Position) :
    Nat → Text → Text → List Text → Except IoError Resolved
  | 0, _, _, _ => .error (.os 40)
  | depth + 1, path, calledAs, arguments =>
      match files.nodeAt false directory ⟨Text.toBytes path⟩ with
      | .error error => .error error
      | .ok (_, node) =>
          match node.entry with
          | .program name => .ok ⟨name, calledAs, arguments⟩
          | .directory | .device _ | .link _ => .error .permissionDenied
          | .file data =>
              if !node.allows Node.toSearch then .error .permissionDenied
              else
                match interpreter? data with
                | none => .error .execFormat
                | some (name, given) =>
                    if name = [] then .error .permissionDenied
                    else resolve files directory depth name name (given ++ path :: arguments)

def isProgram (files : FileSystem) (directory : Position) (path : Text) : Except IoError Bool :=
  (files.nodeAt false directory ⟨Text.toBytes path⟩).map fun (_, node) =>
    match node.entry with
    | .program _ | .file _ => node.allows Node.toSearch
    | _ => false

/-- The places where a program is looked for. -/
def candidates (search : Option Text) (name : Text) : List Text :=
  if name.contains '/' then [name]
  else
    let parts := (search.getD "/bin:/usr/bin".toList).foldr
      (fun char (parts : List Text) =>
        match parts with
        | [] => [[char]]
        | part :: others => if char = ':' then [] :: part :: others
          else (char :: part) :: others)
      [[]]
    parts.map fun part => if part = [] then name else part ++ '/' :: name

/-- Tries places in turn.  A place where permission is denied is remembered, and
one where nothing is found is passed over. -/
def attempt (files : FileSystem) (directory : Position) (name : Text)
    (arguments : List Text) (denied : Bool) (last : IoError) :
    List Text → Except IoError Resolved
  | [] => .error (if denied then .permissionDenied else last)
  | place :: rest =>
      match resolve files directory 5 place name arguments with
      | .ok found => .ok found
      | .error error =>
          if error = .permissionDenied then
            attempt files directory name arguments true error rest
          else if error = .notFound ∨ error = .notDirectory then
            attempt files directory name arguments denied error rest
          else .error error

/-- The place of a program by its name: the first of its candidates that is a file
which can be carried out.  A name with a separator is a place by itself. -/
def place (files : FileSystem) (directory : Position) (search : Option Text) (name : Text) :
    Except IoError Text :=
  if name.contains '/' then .ok name
  else
    let rec walk (last : IoError) : List Text → Except IoError Text
      | [] => .error last
      | path :: rest =>
          match isProgram files directory path with
          | .ok true => .ok path
          | .ok false => walk .permissionDenied rest
          | .error error =>
              walk (if error = .notFound ∨ error = .notDirectory then last else error) rest
    walk .notFound (candidates search name)

/-- What carries out a program by its name. -/
def find (files : FileSystem) (directory : Position) (search : Option Text) (name : Text)
    (arguments : List Text) : Except IoError Resolved :=
  if name = [] then .error .notFound
  else attempt files directory name arguments false .notFound (candidates search name)

end Lookup

end FolderScript.Shell
