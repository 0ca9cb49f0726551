/-
Tables that keep values under keys.  The keys stand in chains, and going through a
table follows the chains, so that the order tells how the keys were spelled and used.
-/
import FolderScript.Machine.Awk.Value
import Std.Data.HashMap

namespace FolderScript.Awk

open Shell (Text)

structure Table where
  values : Std.HashMap Text Value := {}
  /-- The chains of keys by how they are spelled, the one used last first. -/
  spelled : Array (List Text) := #[]
  /-- The chains of keys that were used as whole numbers. -/
  numbered : Array (List Int) := #[]
  /-- Whether every key stands in a chain by its spelling. -/
  isSpelled : Bool := false

namespace Table

def fewChains : Nat := 64

/-- How many keys a chain holds on average before there are more chains. -/
def chainLimit : Nat := 12

/-- A number of thirty-two bits that a key is put into a chain by. -/
def digest (key : Text) : UInt32 :=
  key.foldl (fun sum char => (sum ^^^ UInt32.ofNat char.toNat) * 16777619) 2166136261

/-- How many keys there are. -/
def size (table : Table) : Nat := table.values.size

/-- The chain of a spelled key, among so many. -/
def chainOf (count : Nat) (key : Text) : Nat := (digest key).toNat % count

def chainOfNumber (count : Nat) (number : Int) : Nat := (number % Int.ofNat count).toNat

def toFront {α : Type} [BEq α] (chains : Array (List α)) (index : Nat) (item : α) :
    Array (List α) :=
  chains.modify index fun chain => item :: chain.erase item

def keyOf (number : Int) : Text := Shell.Text.ofInt number

/-- All chains as twice as many. -/
def doubled {α : Type} (chains : Array (List α)) (place : Nat → α → Nat) : Array (List α) :=
  let count := 2 * chains.size
  let low := chains.mapIdx fun index chain => chain.filter fun item => place count item == index
  let high := chains.mapIdx fun index chain =>
    chain.filter fun item => place count item == index + chains.size
  low ++ high

/-- Makes room for one more key. -/
def grown (table : Table) : Table :=
  let chains := max table.spelled.size table.numbered.size
  let start := { table with
    spelled := if table.spelled.isEmpty then Array.replicate fewChains [] else table.spelled
    numbered := if table.numbered.isEmpty then Array.replicate fewChains [] else table.numbered }
  if chains * chainLimit ≤ table.size && chains ≠ 0 then
    { start with
      spelled := doubled start.spelled chainOf
      numbered := doubled start.numbered chainOfNumber }
  else start

/-- Puts every key into a chain by its spelling, as far as it is in none. -/
def spell (table : Table) : Table :=
  if table.isSpelled || table.values.isEmpty then table
  else
    let spelled := table.numbered.foldl
      (fun spelled chain => chain.foldl
        (fun (spelled : Array (List Text)) number =>
          let key := keyOf number
          spelled.modify (chainOf spelled.size key) (key :: ·))
        spelled)
      (Array.replicate (max fewChains table.numbered.size) [])
    { table with spelled := spelled, isSpelled := true }

/-- A key as it is used: spelled, or a whole number. -/
inductive Key where
  | spelled (text : Text)
  | number (value : Int)
  deriving DecidableEq, Repr

def Key.text : Key → Text
  | .spelled text => text
  | .number value => keyOf value

def contains (table : Table) (key : Key) : Bool := table.values.contains key.text

/-- Brings a key that is there to the front of its chains. -/
def used (table : Table) (key : Key) : Table :=
  match key with
  | .spelled text =>
      let table := table.spell
      { table with spelled := toFront table.spelled (chainOf table.spelled.size text) text }
  | .number value =>
      let index := chainOfNumber table.numbered.size value
      let isThere := (table.numbered.getD index []).contains value
      let spelled := if table.isSpelled && !isThere then
          let text := keyOf value
          toFront table.spelled (chainOf table.spelled.size text) text
        else table.spelled
      { table with spelled := spelled, numbered := toFront table.numbered index value }

def get (table : Table) (key : Key) : Value := (table.values[key.text]?).getD .unset

/-- The table after a key was looked up, which is there from then on. -/
def visited (table : Table) (key : Key) : Table :=
  let text := key.text
  if table.values.contains text then table.used key
  else
    let table := match key with
      | .spelled _ => table.spell
      | .number _ => table
    let roomy := table.grown
    { roomy with values := roomy.values.insert text .unset }.used key

def put (table : Table) (key : Key) (value : Value) : Table :=
  let table := table.visited key
  { table with values := table.values.insert key.text value }

def erase (table : Table) (key : Key) : Table :=
  let text := key.text
  if !table.values.contains text then table
  else
    let table := table.used key
    let values := table.values.erase text
    if values.isEmpty then {}
    else
      { table with
        values := values
        spelled := table.spelled.map fun chain => chain.erase text
        numbered := table.numbered.map fun chain => chain.filter fun number => keyOf number ≠ text }

/-- The keys of a table in the order in which it is gone through. -/
def keys (table : Table) : List Text :=
  table.spell.spelled.foldr (fun chain rest => chain ++ rest) []

def ofList (values : List Value) : Table :=
  let count := (List.range 32).foldl
    (fun count _ => if count * chainLimit < values.length then 2 * count else count) fewChains
  let numbers := (List.range values.length).map fun index => Int.ofNat index + 1
  { values := (numbers.zip values).foldl
      (fun (entries : Std.HashMap Text Value) entry => entries.insert (keyOf entry.1) entry.2) {}
    spelled := Array.replicate count []
    numbered := numbers.foldl
      (fun chains number => chains.modify (chainOfNumber count number) (number :: ·))
      (Array.replicate count []) }

end Table

end FolderScript.Awk
