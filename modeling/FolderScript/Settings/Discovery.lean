/-
Where settings files are found: one file for the user, and the nearest project
file on the way up from a directory, not beyond a version control root.
-/
import FolderScript.Host
import FolderScript.Trouble

namespace FolderScript

def Host.currentDirectory (host : Host) : Except Trouble Path :=
  host.currentPath.mapError fun error => ⟨["Failed to get current directory"], .io error⟩

namespace Discovery

def projectFileName : Path := Path.ofText ".scriptrun.toml"

/-- The directory that marks a version control root. -/
def rootMarker : Path := Path.ofText ".git"

/-- The directory of the user's settings files: XDG_CONFIG_HOME if it is an
absolute path, else ".config" in the home directory. -/
def userDirectory? (host : Host) : Option Path :=
  host.home?.map fun home =>
    match host.valueOf? "XDG_CONFIG_HOME" with
    | some bytes =>
        if Path.isAbsolute ⟨bytes⟩ then ⟨bytes⟩ else home.join (Path.ofText ".config")
    | none => home.join (Path.ofText ".config")

/-- The user's settings file, whether it exists or not. -/
def userFile? (host : Host) : Option Path :=
  (userDirectory? host).map fun directory =>
    (directory.join (Path.ofText "scriptrun")).join (Path.ofText "config.toml")

/-- Looks for a project file in each directory in turn, and stops after one
that is a version control root. -/
def searchAlong (host : Host) : List Path → Logged (Option Path)
  | [] => pure none
  | path :: rest =>
      if host.files.isFile host.directory (path.join projectFileName) then
        pure (some (path.join projectFileName))
      else if host.files.isDirectory host.directory (path.join rootMarker) then do
        Logged.emit .debug .settings ("Found .git directory at " ++ path.display ++
          ", stopping project config search.")
        pure none
      else searchAlong host rest

/-- Looks for a project file in a directory and the directories above it. -/
def projectFile (host : Host) (start : Path) : Logged (Option Path) :=
  searchAlong host start.chain

end Discovery

end FolderScript
