/-
The values of a TOML document: scalars, arrays and tables.  Tables and arrays
remember how they were written, because that decides how later lines may
extend them.
-/
import FolderScript.Decimal.Binary64

namespace FolderScript.Toml

/-- A value that holds no other values. -/
inductive Scalar where
  | string (text : String)
  | integer (value : Int)
  | float (value : Binary64)
  | boolean (value : Bool)
  /-- A date, a time, or both, as written. -/
  | moment (written : String)
  deriving DecidableEq, Repr

/-- How a table came about. -/
inductive TableForm where
  /-- Written in braces; nothing extends it. -/
  | inline
  /-- Opened by a header of its own. -/
  | header
  /-- Named on the way to the table of a header. -/
  | implicit
  /-- Named on the way to a dotted key. -/
  | dotted
  deriving DecidableEq, Repr

/-- How an array came about. -/
inductive ArrayForm where
  /-- Written in brackets. -/
  | inline
  /-- Grown by headers in double brackets. -/
  | headers
  deriving DecidableEq, Repr

/-- A value of a document. -/
inductive Value where
  | scalar (value : Scalar)
  | array (form : ArrayForm) (items : List Value)
  | table (form : TableForm) (entries : List (String × Value))
  deriving Repr

/-- The keys and values of a table, in order. -/
abbrev Entries := List (String × Value)

namespace Entries

def get? (entries : Entries) (key : String) : Option Value :=
  List.lookup key entries

/-- Replaces the value of a key, or adds the key at the end; refuses when the
change does. -/
def alter (key : String) (change : Option Value → Option Value) : Entries → Option Entries
  | [] => (change none).map fun value => [(key, value)]
  | (other, value) :: rest =>
      if other = key then (change (some value)).map fun value => (other, value) :: rest
      else (alter key change rest).map ((other, value) :: ·)

/-- Applies a change to the table at the end of a path of keys.  Missing tables
on the way are made; inside an array that headers grew, the last table is
meant.  Inline tables are never entered, and by dotted keys neither are tables
with a header of their own. -/
def within (dotted : Bool) (change : TableForm → Entries → Option Entries) :
    List String → TableForm → Entries → Option Entries
  | [], form, entries => change form entries
  | key :: path, _, entries =>
      alter key (fun
        | none =>
            let form := if dotted then TableForm.dotted else .implicit
            (within dotted change path form []).map (Value.table form)
        | some (.table form inner) =>
            if form = .inline ∨ (dotted ∧ form = .header) then none
            else (within dotted change path form inner).map (Value.table form)
        | some (.array .headers items) =>
            match items.getLast? with
            | some (.table form inner) =>
                (within dotted change path form inner).map fun inner =>
                  .array .headers (items.dropLast ++ [.table form inner])
            | _ => none
        | some _ => none) entries

def addNew (key : String) (value : Value) : Entries → Option Entries :=
  alter key fun
    | none => some value
    | some _ => none

/-- Sets a dotted key.  The table it lands in has to be one that dotted keys
made, unless it is the starting table itself. -/
def assign (path : List String) (key : String) (value : Value) (entries : Entries) :
    Option Entries :=
  within true
    (fun form inner =>
      if path.isEmpty ∨ form = .dotted then addNew key value inner else none)
    path .header entries

/-- The table of a list of dotted keys and values, in braces. -/
def ofPairs? (pairs : List (List String × String × Value)) : Option Entries :=
  pairs.foldlM (fun entries (path, key, value) => entries.assign path key value) []

end Entries

/-- What a line of a document says. -/
inductive Statement where
  | openTable (path : List String) (key : String)
  | openArray (path : List String) (key : String)
  | assign (path : List String) (key : String) (value : Value)

/-- A document under construction: its entries and the table that the last
header opened. -/
structure Draft where
  entries : Entries := []
  current : List String := []

namespace Draft

/-- Carries out one statement.  A table named before as a mere step on the way
may get its header once; it then counts as written there. -/
def execute (draft : Draft) : Statement → Option Draft
  | .openTable path key =>
      (Entries.within false
        (fun _ entries =>
          match entries.get? key with
          | none => some (entries ++ [(key, .table .header [])])
          | some (.table .implicit inner) =>
              some (entries.filter (fun entry => entry.1 ≠ key) ++
                [(key, .table .header inner)])
          | some _ => none)
        path .header draft.entries).map fun entries => ⟨entries, path ++ [key]⟩
  | .openArray path key =>
      (Entries.within false
        (fun _ entries =>
          entries.alter key fun
            | none => some (.array .headers [.table .header []])
            | some (.array .headers items) =>
                some (.array .headers (items ++ [.table .header []]))
            | some _ => none)
        path .header draft.entries).map fun entries => ⟨entries, path ++ [key]⟩
  | .assign path key value =>
      (Entries.within false (fun _ entries => entries.assign path key value)
        draft.current .header draft.entries).map fun entries => { draft with entries }

end Draft

/-- The document that statements describe, if they do not contradict. -/
def Entries.ofStatements? (statements : List Statement) : Option Entries :=
  (statements.foldlM Draft.execute {}).map Draft.entries

end FolderScript.Toml
