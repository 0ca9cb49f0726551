/-
What the program finds around it: files, environment variables and the current
directory.
-/
import FolderScript.Host.FileSystem

namespace FolderScript

/-- The surroundings of one invocation. -/
structure Host where
  files : FileSystem
  /-- Environment variables; the first of a name counts. -/
  environment : List (String × Bytes)
  /-- Where the current directory is, or was. -/
  directory : Position
  /-- The number of the error for which the current directory cannot be told, if it is still
  there. -/
  directoryFault : Option Int := none
  /-- The home directory of the user's account. -/
  accountHome : Option Path := none
  deriving DecidableEq, Repr

namespace Host

/-- The value of an environment variable. -/
def valueOf? (host : Host) (name : String) : Option Bytes :=
  List.lookup name host.environment

def pathOf (position : Position) : Path := ⟨Path.slash :: Path.joinSlash position⟩

/-- The path of the current directory, if that is still there and can be told. -/
def currentPath (host : Host) : Except IoError Path :=
  if host.files.get? host.directory ≠ some .directory then .error .notFound
  else
    match host.directoryFault with
    | some number => .error (.os number)
    | none => .ok (pathOf host.directory)

/-- The home directory: the value of HOME, or that of the account if it is empty or not
set. -/
def home? (host : Host) : Option Path :=
  match host.valueOf? "HOME" with
  | some (byte :: rest) => some ⟨byte :: rest⟩
  | _ => host.accountHome

end Host

end FolderScript
