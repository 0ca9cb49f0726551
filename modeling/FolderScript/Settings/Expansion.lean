/-
The tilde.  A leading "~", alone or before a separator, stands for the home
directory; "~name" does not.
-/
import FolderScript.Settings.Layer
import FolderScript.Trouble

namespace FolderScript

/-- The characters with a leading tilde replaced by the home directory. -/
def expandTildeChars (home : List Char) : List Char → List Char
  | ['~'] => home
  | '~' :: '/' :: rest => home ++ '/' :: rest
  | chars => chars

/-- The text with a leading tilde replaced by the home directory; without a
home directory it stays. -/
def expandTilde (home : Option String) (text : String) : String :=
  match home with
  | none => text
  | some home => String.ofList (expandTildeChars home.toList text.toList)

namespace Settings

def homeText? (home : Option Path) : Option String := home.bind Path.text?

/-- Why a working directory of "~" cannot be used. -/
def homeUnknown : Failure :=
  .settings "Could not determine the home directory for the working directory."

/-- The working directory without its tilde.  It is taken as a text, broken
bytes replaced; a lone tilde is the home directory byte for byte. -/
def expandDirectory (home : Option Path) (directory : Path) : Except Failure Path :=
  if directory.display = "~" then
    match home with
    | some home => .ok home
    | none => .error homeUnknown
  else .ok (Path.ofText (expandTilde (homeText? home) directory.display))

/-- The settings without tildes. -/
def expand (home : Option Path) (settings : Settings) : Attempt Settings := do
  let script := expandTilde (homeText? home) settings.scriptPath
  Attempt.emit .debug .settings ("Expanded script path: " ++ script)
  let directory ← Attempt.ofExcept
    ((expandDirectory home settings.workingDirectory).mapError Trouble.ofFailure)
  Attempt.emit .debug .settings ("Expanded working directory: " ++ directory.display)
  pure { settings with scriptPath := script, workingDirectory := directory }

end Settings

end FolderScript
