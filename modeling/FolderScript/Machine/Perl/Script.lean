/-
What a list script says: expressions that give one value or several, and statements.
-/
import FolderScript.Machine.Perl.Value

namespace FolderScript.Perl

open Shell (Text)

/-- What a name or a reference leads to. -/
inductive Kind where
  | scalar
  | array
  | hash
  | code
  deriving DecidableEq, Repr

/-- How many values are asked for. -/
inductive Want where
  | nothing
  | single
  | several
  deriving DecidableEq, Repr

mutual

/-- An expression. -/
inductive Expr where
  | constant (value : Value)
  /-- Texts put together. -/
  | joined (parts : List Expr)
  /-- The values of a list as one text. -/
  | spread (list : Expr)
  | named (kind : Kind) (name : String)
  | followed (kind : Kind) (reference : Expr)
  | item (array index : Expr)
  | entry (hash key : Expr)
  | items (array indexes : Expr)
  | entries (hash keys : Expr)
  /-- Some of the values of a list. -/
  | pick (list indexes : Expr)
  | lastIndex (array : Expr)
  /-- Variables of the block at hand, or of the whole script. -/
  | own (isShared : Bool) (targets : List Expr) (isList : Bool)
  /-- A variable of the whole script with another value up to the end of the block. -/
  | kept (target : Expr)
  | list (items : List Expr)
  | assign (target value : Expr)
  | update (operation : String) (target value : Expr)
  | step (isBefore isUp : Bool) (target : Expr)
  | binary (operation : String) (left right : Expr)
  | unary (operation : String) (operand : Expr)
  | logical (operation : String) (left right : Expr)
  | choice (condition yes no : Expr)
  | range (first last : Expr)
  | fits (subject : Option Expr) (negated : Bool) (pattern : Expr) (marks : List Char)
  /-- A pattern as a value. -/
  | pattern (source : Expr) (marks : List Char)
  | exchange (subject : Option Expr) (pattern replacement : Expr) (marks : List Char)
  | transliterate (subject : Option Expr) (wanted given : Text) (marks : List Char)
  /-- A call of a function of the script; a bare name may be a text as well. -/
  | call (name : String) (arguments : Option (List Expr))
  | invoke (callee : Expr) (arguments : List Expr)
  | method (object name : Expr) (arguments : List Expr)
  /-- A call of a function that is there from the start. -/
  | function (name : String) (arguments : List Expr)
  | print (kind : String) (handle : Option Expr) (arguments : List Expr)
  | ordered (order : Option Expr) (list : List Expr)
  | mapped (keeps : Bool) (body : Expr) (list : List Expr)
  | readLine (handle : Expr)
  /-- The output of a command. -/
  | output (command : Expr)
  | block (body : List Statement)
  | attempt (body : List Statement)
  | closure (body : List Statement)
  | refer (operand : Expr)
  | makeArray (items : List Expr)
  | makeHash (items : List Expr)
  | fileTest (letter : Char) (operand : Expr)

/-- A statement, with the line on which it starts. -/
inductive Statement where
  | simple (line : Nat) (expr : Expr)
  | branch (line : Nat) (choices : List (Expr × List Statement)) (otherwise : List Statement)
  /-- A loop, and what is done before it goes on. -/
  | loop (line : Nat) (label : String) (condition : Expr) (body next : List Statement)
  /-- A loop whose condition comes last. -/
  | repetition (line : Nat) (body condition : Expr)
  | each (line : Nat) (label : String) (target list : Expr) (body : List Statement)
  | bare (line : Nat) (label : String) (body : List Statement)
  | define (name : String) (body : List Statement)

end

/-- A whole script. -/
structure Script where
  body : List Statement
  /-- What is done at the end, the last first. -/
  endings : List (List Statement)
  /-- What follows the mark for the end. -/
  data : Option Text

/-- Whether several values may be assigned to an expression. -/
def Expr.isPlural : Expr → Bool
  | .named kind _ | .followed kind _ => kind == .array || kind == .hash
  | .list _ | .items .. | .entries .. => true
  | .own _ targets isList => isList || targets.any fun target =>
      match target with
      | .named kind _ => kind == .array || kind == .hash
      | _ => false
  | .kept target => target.isPlural
  | _ => false

end FolderScript.Perl
