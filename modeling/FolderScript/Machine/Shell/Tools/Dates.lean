/-
The program that tells the time, and what other moments are in other words.
-/
import FolderScript.Machine.Shell.Calendar.Reading
import FolderScript.Machine.Shell.Tools.Files

namespace FolderScript.Shell

namespace Tools

namespace Dates

def usualForm : Text := "%a %b %e %H:%M:%S %Z %Y".toList

/-- The precisions of dates that are written from the largest unit to the smallest. -/
def precisions : List (String × String) :=
  [("hours", "%Y-%m-%dT%H%:z"), ("minutes", "%Y-%m-%dT%H:%M%:z"), ("date", "%Y-%m-%d"),
    ("seconds", "%Y-%m-%dT%H:%M:%S%:z"), ("ns", "%Y-%m-%dT%H:%M:%S,%N%:z")]

/-- The same with a blank before the time. -/
def spacedPrecisions : List (String × String) :=
  [("date", "%Y-%m-%d"), ("seconds", "%Y-%m-%d %H:%M:%S%:z"), ("ns", "%Y-%m-%d %H:%M:%S.%N%:z")]

/-- The entry that a value names, in full or by how it begins. -/
def chosen? (entries : List (String × String)) (value : Text) : Option String :=
  match entries.filter fun entry => value.isPrefixOf entry.1.toList with
  | [entry] => some entry.2
  | several => (several.find? fun entry => entry.1.toList = value).map Prod.snd

/-- The form that a switch asks for. -/
def formOf? : Char × Text → Option Text
  | ('I', value) =>
      (if value = [] then some "%Y-%m-%d" else chosen? precisions value).map String.toList
  | ('ρ', value) => (chosen? spacedPrecisions value).map String.toList
  | ('R', _) => some "%a, %d %b %Y %H:%M:%S %z".toList
  | ('σ', _) => some "%s.%N".toList
  | _ => none

/-- The moment of a stamp that has its year behind the time of day. -/
def stamped? (zone : Calendar.Zone) (now : Moment) (text : Text) : Option Moment :=
  let main := text.takeWhile (· ≠ '.')
  stampMoment? zone now (main.drop 8 ++ main.take 8 ++ text.drop main.length)

/-- The complaint about a date that cannot be read. -/
def invalid (text : Text) : Text := "invalid date ".toList ++ quoted text

def shown (state : State) (zone : Calendar.Zone) (form : Text) (moment : Moment) : State :=
  state.write 1 (Calendar.text zone moment form ++ ['\n'])

def batch (state : State) (zone : Calendar.Zone) (form : Text) (lines : List Text) : Flow × State :=
  let (state, failed) := lines.foldl
    (fun (state, failed) line =>
      match Calendar.moment? zone (now state) line with
      | some moment => (shown state zone form moment, failed)
      | none => (complain state "date" (invalid line), true))
    (state, false)
  done state (if failed then 1 else 0)

/-- Tries to set the clock, which is not allowed. -/
def set (state : State) (zone : Calendar.Zone) (form text : Text) (moment : Option Moment) :
    Flow × State :=
  match moment with
  | none => done (complain state "date" (invalid text)) 1
  | some moment =>
      let state := complain state "date" ("cannot set date: ".toList ++ reason (.os 1))
      done (shown state zone form moment) 1

/-- Writes the moment that is asked for. -/
def run (state : State) (given : Given) (form : Text) : Flow × State :=
  let zone := if given.has 'u' then .zero else zoneOf state
  match given.value? 'd', given.value? 'f', given.value? 'r', given.value? 's' with
  | some text, _, _, _ =>
      match Calendar.moment? zone (now state) text with
      | some moment => done (shown state zone form moment) 0
      | none => done (complain state "date" (invalid text)) 1
  | _, some list, _, _ =>
      match load state list with
      | .ok (data, state) => batch state zone form (textLines data)
      | .error error => done (complain state "date" (nameAndReason list error)) 1
  | _, _, some path, _ =>
      match state.nodeAt false path with
      | .ok (_, node) => done (shown state zone form node.modified) 0
      | .error error => done (complain state "date" (nameAndReason path error)) 1
  | _, _, _, some text => set state zone form text (Calendar.moment? zone (now state) text)
  | none, none, none, none =>
      match given.operands.find? fun operand => operand.head? ≠ some '+' with
      | some text => set state zone form text (stamped? zone (now state) text)
      | none => done (shown state zone form (now state)) 0

/-- What is wrong with how dates and forms were asked for. -/
def refusal? (given : Given) : Option Refusal :=
  let sources := ['d', 'f', 'r'].filter given.has
  let forms := given.switches.filterMap formOf?
  let several : Refusal := { message := "multiple output formats specified".toList }
  if 1 < forms.length then some several
  else if 1 < sources.length then
    some ⟨"the options to specify dates for printing are mutually exclusive".toList, true⟩
  else if sources ≠ [] && given.has 's' then
    some ⟨"the options to print and set the time may not be used together".toList, true⟩
  else
    match given.operands with
    | _ :: extra :: _ => some ⟨"extra operand ".toList ++ quoted extra, true⟩
    | [operand] =>
        if operand.head? = some '+' then (if forms = [] then none else some several)
        else if sources ≠ [] || given.has 's' then
          some ⟨"the argument ".toList ++ quoted operand ++ (" lacks a leading '+';\n" ++
            "when using an option to specify date(s), any non-option\n" ++
            "argument must be a format string beginning with '+'").toList, true⟩
        else none
    | [] => none

end Dates

def date : Tool := readingWith "date" ⟨"uRIση", "dfrsIρ", [("date", 'd'), ("file", 'f'),
    ("iso-8601", 'I'), ("reference", 'r'), ("rfc-email", 'R'), ("rfc-822", 'R'),
    ("rfc-2822", 'R'), ("rfc-3339", 'ρ'), ("set", 's'), ("uct", 'u'), ("utc", 'u'),
    ("universal", 'u'), ("debug", 'η'), ("resolution", 'σ')], true⟩ 1
    (fun letter value =>
      let checked (option : String) (entries : List (String × String)) : Option Refusal :=
        if (Dates.chosen? entries value).isSome then none
        else some (choiceRefusal option (entries.map Prod.fst) value)
      match letter with
      | 'I' => if value = [] then none else checked "--iso-8601" Dates.precisions
      | 'ρ' => checked "--rfc-3339" Dates.spacedPrecisions
      | _ => none)
    fun state given =>
  match Dates.refusal? given with
  | some ⟨message, true⟩ => done (misused state "date" message) 1
  | some ⟨message, false⟩ => done (complain state "date" message) 1
  | none =>
      let asked := (given.operands.find? fun operand => operand.head? = some '+').map List.tail
      let form := (asked.or (given.switches.findSome? Dates.formOf?)).getD Dates.usualForm
      if given.has 'σ' then done (state.write 1 "0.000000001\n".toList) 0
      else Dates.run state given form

end Tools

end FolderScript.Shell
