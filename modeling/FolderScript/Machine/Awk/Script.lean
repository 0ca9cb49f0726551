/-
What a pattern script says: rules that act on records, and functions.
-/
import FolderScript.Machine.Awk.Value
import FolderScript.Machine.Shell.Regex

namespace FolderScript.Awk

open Shell (Text Regex)

/-- Where a variable or a table is found: under a name that all know, or among the
parameters of the function that runs. -/
inductive Place where
  | shared (name : String)
  | here (index : Nat)
  deriving DecidableEq, Repr

/-- Operations on two numbers. -/
inductive Operation where
  | add
  | subtract
  | multiply
  | divide
  | remainder
  | power
  deriving DecidableEq, Repr

/-- An expression. -/
inductive Expr where
  | constant (value : Value)
  /-- Whether the record matches. -/
  | regex (source : Text) (regex : Regex)
  | variable_ (place : Place)
  | field (index : Expr)
  | item (table : Place) (subscripts : List Expr)
  | assign (target value : Expr)
  | update (target : Expr) (operation : Operation) (value : Expr)
  /-- Adds a number to a target, and gives its value before or after that. -/
  | step (target : Expr) (amount : Float) (givesOld : Bool)
  | binary (operation : Operation) (left right : Expr)
  | concat (left right : Expr)
  | compare (relation : Value.Relation) (left right : Expr)
  /-- Whether a text matches a pattern. -/
  | fits (text pattern : Expr)
  | isIn (subscripts : List Expr) (table : Place)
  | not (operand : Expr)
  | negative (operand : Expr)
  | positive (operand : Expr)
  | and (left right : Expr)
  | or (left right : Expr)
  | choice (condition yes no : Expr)
  /-- Several values between parentheses, which only stand in some places. -/
  | tuple (items : List Expr)
  | call (name : String) (arguments : List Expr)
  | builtin (name : String) (arguments : List Expr)
  /-- Reads a record from the main input. -/
  | readMain (target : Option Expr)
  | readFile (target : Option Expr) (file : Expr)
  | readCommand (target : Option Expr) (command : Expr)
  deriving Inhabited

/-- Where output goes. -/
inductive Way where
  | onto
  | behind
  | into
  deriving DecidableEq, Repr

inductive Statement where
  | block (statements : List Statement)
  | print (arguments : List Expr) (target : Option (Way × Expr))
  | printf (arguments : List Expr) (target : Option (Way × Expr))
  | evaluate (expr : Expr)
  | choose (condition : Expr) (yes no : Statement)
  | whileLoop (condition : Expr) (body : Statement)
  | untilLoop (body : Statement) (condition : Expr)
  | forLoop (first : Option Expr) (condition : Option Expr) (next : Option Expr) (body : Statement)
  | forEach (target : Place) (table : Place) (body : Statement)
  | next
  | nextFile
  | exit (status : Option Expr)
  | return_ (value : Option Expr)
  | break_
  | continue_
  | delete (table : Place) (subscripts : List Expr)
  deriving Inhabited

/-- When a rule acts. -/
inductive Pattern where
  | begin_
  | end_
  | always
  | when (condition : Expr)
  | between (first last : Expr)

/-- A rule: when it acts, and what it does; without an action it shows the record. -/
structure Rule where
  pattern : Pattern
  action : Option Statement

structure Function where
  name : String
  parameters : List String
  body : Statement
  /-- Which parameters are tables. -/
  tables : List Bool := []

/-- A whole script. -/
structure Script where
  rules : List Rule
  functions : List Function

namespace Expr

/-- The expressions that an expression is made of. -/
def parts : Expr → List Expr
  | .constant _ | .regex .. | .variable_ _ | .readMain none => []
  | .field index => [index]
  | .item _ subscripts => subscripts
  | .assign target value | .update target _ value => [target, value]
  | .step target _ _ => [target]
  | .binary _ left right | .concat left right | .compare _ left right | .fits left right
  | .and left right | .or left right => [left, right]
  | .isIn subscripts _ => subscripts
  | .not operand | .negative operand | .positive operand | .readMain (some operand) => [operand]
  | .choice condition yes no => [condition, yes, no]
  | .tuple items => items
  | .call _ arguments | .builtin _ arguments => arguments
  | .readFile target file => target.toList ++ [file]
  | .readCommand target command => target.toList ++ [command]

/-- Whether something can be assigned to. -/
def isTarget : Expr → Bool
  | .variable_ _ | .field _ | .item .. => true
  | _ => false

end Expr

end FolderScript.Awk
