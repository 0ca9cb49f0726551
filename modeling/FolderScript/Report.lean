/-
Texts for the reader: the report of a finished run, and the settings with the
command that they lead to.
-/
import FolderScript.Process.Child
import FolderScript.Settings.Layer

namespace FolderScript

/-- The exit code, and below it the output. -/
def Captured.report (captured : Captured) : String :=
  "Process exited with code: " ++ toString captured.exitCode ++ "\nProcess output:\n" ++
    captured.output

namespace Settings

def timeoutText (settings : Settings) : String :=
  match settings.timeout with
  | some seconds => toString seconds ++ "s"
  | none => "none"

def describe (settings : Settings) (project : String) : String :=
  "interpreter       = " ++ settings.interpreter ++
  "\nscript_path       = " ++ settings.scriptPath ++
  "\nworking_directory = " ++ settings.workingDirectory.display ++
  "\ntimeout           = " ++ settings.timeoutText ++
  "\ncommand           = " ++
    " ".intercalate [settings.interpreter, settings.scriptPath, project, project]

end Settings

end FolderScript
