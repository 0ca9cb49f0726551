/-
Settings files.  A document may hold one table named "runner" with the four
fields, or an array with their values in order.  The first thing in document
order that does not fit is what gets reported.
-/
import FolderScript.Decimal.Digits
import FolderScript.Settings.Layer
import FolderScript.Toml.Document

namespace FolderScript

open Toml (Entries Scalar Value)

/-- What a place in the document is meant to hold. -/
inductive Wanted where
  | text
  | path
  | seconds
  | runnerTable
  deriving DecidableEq, Repr

/-- Something in the document that does not fit. -/
inductive Misfit where
  | unknownSection (key : String)
  | unknownField (key : String)
  | wrongType (found : String) (wanted : Wanted)
  | negativeSeconds (value : Int)
  | tooFewItems (count : Nat)
  deriving DecidableEq, Repr

namespace Misfit

/-- The key under which a date or time would be read as a table. -/
def momentKey : String := "$__toml_private_datetime"

/-- How a wanted thing is named in a complaint. -/
def describeWanted : Wanted → String
  | .text => "a string"
  | .path => "path string"
  | .seconds => "u64"
  | .runnerTable => "struct PartialRunnerConfig"

/-- The complaint. -/
def message : Misfit → String
  | .unknownSection key => "unknown field `" ++ key ++ "`, expected `runner`"
  | .unknownField key => "unknown field `" ++ key ++
      "`, expected one of `interpreter`, `script_path`, `working_directory`, `timeout_secs`"
  | .wrongType found wanted =>
      "invalid type: " ++ found ++ ", expected " ++ describeWanted wanted
  | .negativeSeconds value =>
      "invalid value: integer `" ++ toString value ++ "`, expected u64"
  | .tooFewItems count => "invalid length " ++ toString count ++
      ", expected struct PartialRunnerConfig with 4 elements"

/-- How a value that was found is named in a complaint. -/
def describeFound : Value → String
  | .scalar (.string text) => "string " ++ Quoted.text text
  | .scalar (.integer value) => "integer `" ++ toString value ++ "`"
  | .scalar (.float value) => "floating point `" ++ value.text ++ "`"
  | .scalar (.boolean value) => "boolean `" ++ toString value ++ "`"
  | .scalar (.moment _) => "map"
  | .array .. => "sequence"
  | .table .. => "map"

end Misfit

/-- Why a text is no settings file. -/
inductive DocumentFault where
  /-- The text is no TOML document. -/
  | malformed
  /-- The document holds something that does not fit. -/
  | misfit (fault : Misfit)
  deriving DecidableEq, Repr

namespace Layer

def readText (wanted : Wanted) : Value → Except Misfit String
  | .scalar (.string text) => .ok text
  | value => .error (.wrongType (Misfit.describeFound value) wanted)

def readSeconds : Value → Except Misfit UInt64
  | .scalar (.integer seconds) =>
      if seconds < 0 then .error (.negativeSeconds seconds)
      else .ok (UInt64.ofNat seconds.toNat)
  | value => .error (.wrongType (Misfit.describeFound value) .seconds)

def readField (layer : Layer) (key : String) (value : Value) : Except Misfit Layer :=
  match key with
  | "interpreter" => (readText .text value).map fun text =>
      { layer with interpreter := some text }
  | "script_path" => (readText .text value).map fun text =>
      { layer with scriptPath := some text }
  | "working_directory" => (readText .path value).map fun text =>
      { layer with workingDirectory := some (Path.ofText text) }
  | "timeout_secs" => (readSeconds value).map fun seconds =>
      { layer with timeout := some seconds }
  | _ => .error (.unknownField key)

/-- The layer of a table with fields. -/
def ofEntries (entries : Entries) : Except Misfit Layer :=
  entries.foldlM (fun layer (key, value) => layer.readField key value) Layer.empty

/-- The keys of the fields, in the order in which an array gives them. -/
def fieldKeys : List String :=
  ["interpreter", "script_path", "working_directory", "timeout_secs"]

/-- The layer of an array with the values of all fields; more items than
fields are not looked at. -/
def ofItems (items : List Value) : Except Misfit Layer :=
  match ofEntries (fieldKeys.zip items) with
  | .error fault => .error fault
  | .ok layer =>
      if items.length < fieldKeys.length then .error (.tooFewItems items.length)
      else .ok layer

/-- The layer of what stands under "runner".  A date or time is read as a table
with one key that is no field. -/
def ofRunner : Value → Except Misfit Layer
  | .table _ entries => ofEntries entries
  | .array _ items => ofItems items
  | .scalar (.moment _) => .error (.unknownField Misfit.momentKey)
  | value => .error (.wrongType (Misfit.describeFound value) .runnerTable)

def ofDocument (document : Entries) : Except Misfit Layer :=
  document.foldlM
    (fun _ (key, value) =>
      if key = "runner" then ofRunner value else .error (.unknownSection key))
    Layer.empty

/-- The layer of a settings file. -/
def parse (text : String) : Except DocumentFault Layer :=
  match Toml.parse? text with
  | none => .error .malformed
  | some document => (ofDocument document).mapError DocumentFault.misfit

end Layer

end FolderScript
