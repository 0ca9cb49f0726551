/-
Help texts.  Each lists the options of a scope with what they do, and with the
environment variable that stands in for them and its current value.  The names
of options are in a style of their own, so an escape sequence that came with a
value ends before the next name.
-/
import FolderScript.CommandLine.Stop

namespace FolderScript

namespace Help

/-- One line of an option list. -/
inductive Item where
  | value (option : ValueOption)
  | flag (flag : Flag)
  deriving DecidableEq, Repr

/-- The options of a scope in the order of its help text. -/
def items : Scope → List Item
  | .program => [.flag .verbose, .value .config, .flag .help, .flag .version]
  | .run => [.value .project, .value .input, .value .output, .flag .verbose, .value .config,
      .value .interpreter, .value .script, .value .workdir, .value .timeout, .flag .help,
      .flag .version]
  | .config => [.value .interpreter, .value .script, .flag .verbose, .value .workdir,
      .value .config, .value .timeout, .flag .help, .flag .version]

def valueText : ValueOption → String
  | .project => "Project folder (defaults to the current directory)"
  | .input => "Folder the script reads from (defaults to the project folder)"
  | .output => "Folder the script writes to (defaults to the project folder)"
  | .interpreter => "Program used to run the script (looked up on PATH)"
  | .script => "Script passed to the interpreter; relative paths resolve against the " ++
      "working directory"
  | .workdir => "Working directory of the script process (defaults to your home directory)"
  | .timeout => "Kill the script if it runs longer than this many seconds"
  | .config => "Read configuration from this file instead of the user/project config files"

def hasLong : Scope → Bool
  | .program | .run => true
  | .config => false

def flagText (scope : Scope) (long : Bool) : Flag → String
  | .verbose => "Increase log verbosity (-v info, -vv debug, -vvv trace)"
  | .help =>
      if !hasLong scope then "Print help"
      else if long then "Print help (see a summary with '-h')"
      else "Print help (see more with '--help')"
  | .version => "Print version"

/-- What stands in front of the text of an item: blanks, and the names. -/
def labelParts : Item → String × String
  | .value option =>
      match option.short? with
      | some letter => ("  ", "-" ++ letter.toString ++ ", " ++ option.shown)
      | none => ("      ", option.shown)
  | .flag flag => ("  ", "-" ++ flag.short.toString ++ ", " ++ flag.shown)

def labelWidth (item : Item) : Nat :=
  (labelParts item).1.length + (labelParts item).2.length

/-- What stands in front of the text of an item, with its style. -/
def label (item : Item) : String :=
  (labelParts item).1 ++ Styled.marked (labelParts item).2

def itemText (scope : Scope) (long : Bool) : Item → String
  | .value option => valueText option
  | .flag flag => flagText scope long flag

def note? (environment : String → Option Bytes) : Item → Option String
  | .value option => option.environmentName?.map fun name =>
      "[env: " ++ name ++ "=" ++ Utf8.lossy ((environment name).getD []) ++ "]"
  | .flag _ => none

def blanks (count : Nat) : String := String.ofList (List.replicate count ' ')

/-- A text with blanks after each line end. -/
def indented (width : Nat) (text : String) : String :=
  String.ofList (text.toList.flatMap fun char =>
    if char = '\n' then '\n' :: List.replicate width ' ' else [char])

/-- The width of the column of labels. -/
def column (scope : Scope) : Nat :=
  ((items scope).map labelWidth).foldl max 0 + 2

/-- An item with everything on one line. -/
def shortItem (environment : String → Option Bytes) (scope : Scope) (item : Item) : String :=
  let text := match note? environment item with
    | some note => itemText scope false item ++ " " ++ note
    | none => itemText scope false item
  label item ++ blanks (column scope - labelWidth item) ++ indented (column scope) text

/-- An item with its text below the label. -/
def longItem (environment : String → Option Bytes) (scope : Scope) (item : Item) : String :=
  let text := match note? environment item with
    | some note => itemText scope true item ++ "\n\n" ++ note
    | none => itemText scope true item
  label item ++ "\n" ++ blanks 10 ++ indented 10 text

def about (scope : Scope) (long : Bool) : String :=
  match scope, long with
  | .program, false => "Run an external script against a project folder and report its outcome"
  | .program, true =>
      "Runs `<interpreter> <script> <input> <output>` in a fixed working directory,\n" ++
        "then prints the exit code and the combined stdout/stderr of the script."
  | .run, false => "Run the configured script against a project folder"
  | .run, true =>
      "Runs `<interpreter> <script> <input> <output>` in the configured working directory\n" ++
        "and prints the exit code followed by the combined stdout/stderr."
  | .config, _ => "Print the resolved runner configuration"

def usage : Scope → String
  | .program => "Usage: scriptrun [OPTIONS] <COMMAND>"
  | .run => "Usage: scriptrun run [OPTIONS]"
  | .config => "Usage: scriptrun config [OPTIONS]"

/-- The subcommands, where there are any. -/
def commands : Scope → String
  | .program => "Commands:\n" ++
      "  run     Run the configured script against a project folder\n" ++
      "  config  Print the resolved runner configuration\n" ++
      "  help    Print this message or the help of the given subcommand(s)\n\n"
  | _ => ""

def styled (environment : String → Option Bytes) (scope : Scope) (long : Bool) : String :=
  let long := long && hasLong scope
  let listed :=
    if long then "\n\n".intercalate ((items scope).map (longItem environment scope))
    else "\n".intercalate ((items scope).map (shortItem environment scope))
  about scope long ++ "\n\n" ++ usage scope ++ "\n\n" ++ commands scope ++ "Options:\n" ++
    listed ++ "\n"

def ofScope (environment : String → Option Bytes) (scope : Scope) (long : Bool) : String :=
  Styled.plain (styled environment scope long)

def ofHelpCommand : String :=
  "Print this message or the help of the given subcommand(s)\n\n" ++
    "Usage: scriptrun help [COMMAND]...\n\n" ++
    "Arguments:\n" ++
    "  [COMMAND]...  Print help for the subcommand(s)\n"

def version : Scope → String
  | .program => "scriptrun 0.1.0\n"
  | .run => "scriptrun-run 0.1.0\n"
  | .config => "scriptrun-config 0.1.0\n"

end Help

/-- What is printed when reading stops. -/
def Stop.text (environment : String → Option Bytes) : Stop → String
  | .usage error => error.message
  | .help (.scope scope) long => Help.ofScope environment scope long
  | .help .helpCommand _ => Help.ofHelpCommand
  | .version scope => Help.version scope
  | .nothingGiven => Help.ofScope environment .program false

end FolderScript
