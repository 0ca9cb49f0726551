/-
Permissions as they are written: in octal, or as clauses that say who may do what.
-/
import FolderScript.Machine.Shell.Script

namespace FolderScript.Shell

/-- What a clause sets, adds or takes away. -/
inductive Grant where
  | bits (value : Nat)
  /-- What some others may do already. -/
  | copy (others : Nat)
  /-- As `bits`, and to carry out where someone may already, or in directories. -/
  | withSearch (value : Nat)
  deriving DecidableEq, Repr

/-- A change of permissions: for whom, of what kind, and what. -/
structure ModeChange where
  /-- The bits of those that the change is for; none for all that the mask allows. -/
  users : Nat
  sign : Char
  grant : Grant
  deriving DecidableEq, Repr

/-- A mode as it is written. -/
inductive Mode where
  | exact (value : Nat) (digits : Nat)
  | changes (list : List ModeChange)
  deriving DecidableEq, Repr

namespace Mode

/-- All bits of permissions. -/
def all : Nat := 0o7777

/-- The bits that belong to some letter for users. -/
def usersOf : Char → Nat
  | 'u' => 0o4700
  | 'g' => 0o2070
  | 'o' => 0o1007
  | 'a' => all
  | _ => 0

/-- The bits that some letter for a permission stands for. -/
def bitsOf : Char → Nat
  | 'r' => 0o444
  | 'w' => 0o222
  | 'x' => 0o111
  | 's' => 0o6000
  | 't' => 0o1000
  | _ => 0

def together (values : List Nat) : Nat := values.foldl Nat.lor 0

/-- The bits of one value that another does not have. -/
def without (value other : Nat) : Nat := Nat.land value (Nat.xor all (Nat.land other all))

/-- The changes of one clause, after its letters for users. -/
def actions : Nat → Nat → Text → Option (List ModeChange)
  | 0, _, _ => none
  | fuel + 1, users, sign :: rest =>
      if sign ≠ '+' ∧ sign ≠ '-' ∧ sign ≠ '=' then none
      else do
        let letters := rest.takeWhile fun char => "rwxXst".toList.contains char
        let (grant, after) : Grant × Text := match rest with
          | letter :: more =>
              if "ugo".toList.contains letter then (.copy (Nat.land (usersOf letter) 0o777), more)
              else
                let bits := together (letters.map bitsOf)
                (if letters.contains 'X' then .withSearch bits else .bits bits,
                  rest.drop letters.length)
          | [] => (.bits 0, [])
        let change : ModeChange := ⟨users, sign, grant⟩
        if after = [] then pure [change]
        else (actions fuel users after).map (change :: ·)
  | _ + 1, _, [] => none

/-- The parts of a text between commas. -/
def clauses (text : Text) : List Text :=
  text.foldr
    (fun char (parts : List Text) =>
      match parts with
      | [] => [[char]]
      | part :: others => if char = ',' then [] :: part :: others else (char :: part) :: others)
    [[]]

def clause? (clause : Text) : Option (List ModeChange) :=
  let who := clause.takeWhile fun char => "ugoa".toList.contains char
  actions (clause.length + 1) (together (who.map usersOf)) (clause.drop who.length)

def ofText? (text : Text) : Option Mode :=
  let isOctal (char : Char) : Bool := '0' ≤ char && char ≤ '7'
  if text ≠ [] ∧ text.all isOctal then
    let value := Nat.ofDigitChars 8 text 0
    if value ≤ all then some (.exact value text.length) else none
  else ((clauses text).mapM clause?).map fun list => .changes list.flatten

/-- The bits that a grant stands for, given those that are there. -/
def granted (grant : Grant) (isDirectory : Bool) (old : Nat) : Nat :=
  match grant with
  | .bits value => value
  | .copy others =>
      let kept := Nat.land old others
      together ([0o444, 0o222, 0o111].map fun kind => if Nat.land kept kind ≠ 0 then kind else 0)
  | .withSearch value =>
      if isDirectory ∨ Nat.land old 0o111 ≠ 0 then Nat.lor value 0o111 else value

/-- The permissions after one change; the mask holds back what nobody asked for by
name.  Directories keep the bits for users and groups unless these are named. -/
def afterChange (mask : Nat) (isDirectory : Bool) (old : Nat) (change : ModeChange) : Nat :=
  let granted := granted change.grant isDirectory old
  let omitted := if isDirectory then without 0o6000 granted else 0
  let reach := if change.users = 0 then without all mask else change.users
  let value := without (Nat.land granted reach) omitted
  match change.sign with
  | '+' => Nat.lor old value
  | '-' => without old value
  | _ =>
      let preserved := Nat.lor (if change.users = 0 then 0 else without all change.users) omitted
      Nat.lor (Nat.land old preserved) value

/-- The permissions that a mode makes of others. -/
def apply (mode : Mode) (mask : Nat) (isDirectory : Bool) (old : Nat) : Nat :=
  match mode with
  | .exact value digits =>
      if isDirectory ∧ digits < 5 then Nat.lor value (Nat.land old 0o6000) else value
  | .changes list => list.foldl (afterChange mask isDirectory) old

/-- An exact mode does not hang on what was there before, directories apart. -/
theorem apply_exact (value digits mask old : Nat) :
    (exact value digits).apply mask false old = value := by
  simp [apply]

end Mode

end FolderScript.Shell
