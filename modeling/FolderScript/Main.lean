/-
The program at a terminal: the surroundings are looked up once, and all the rest
is a function of them.
-/
import FolderScript.Host.Standard
import FolderScript.Machine
import FolderScript.Program

namespace FolderScript

namespace Surroundings

/-- The environment variables that are looked up. -/
def variableNames : List String :=
  ["HOME", "PATH", "XDG_CONFIG_HOME", "RUST_LOG", "SCRIPTRUN_CONFIG",
    "SCRIPTRUN_INTERPRETER", "SCRIPTRUN_SCRIPT", "SCRIPTRUN_WORKDIR", "SCRIPTRUN_TIMEOUT"]

/-- The values of the environment variables that are set. -/
def environment : IO (List (String × Bytes)) :=
  variableNames.filterMapM fun name => do
    return (← IO.getEnv name).map fun value => (name, Utf8.encode value)

/-- The position that a path names if nothing on the way is a link. -/
def positionOf (directory : Position) (path : Path) : Position :=
  path.segments.foldl
    (fun position segment =>
      if segment = [] ∨ segment = [Path.dot] then position
      else if segment = [Path.dot, Path.dot] then position.dropLast
      else position ++ [segment])
    (if path.isAbsolute then [] else directory)

/-- Whether a file can be carried out: its first line names an interpreter. -/
def namesInterpreter (data : Bytes) : Bool := "#!".toUTF8.toList.isPrefixOf data

/-- Adds what stands at a position, and what is below it down to a depth. -/
def gather : Nat → FileSystem → Position → IO FileSystem
  | 0, files, _ => pure files
  | depth + 1, files, position => do
      let path := (Host.pathOf position).display
      try
        let place ← IO.FS.realPath path
        if ← place.isDir then
          let names := (← place.readDir).toList.map fun entry => Utf8.encode entry.fileName
          names.foldlM (fun files name => gather depth files (position ++ [name]))
            (files.add position .directory 0o755)
        else
          let data := (← IO.FS.readBinFile path).toList
          return files.add position (.file data)
            (if namesInterpreter data then 0o755 else 0o644)
      catch _ => return files

/-- The places where settings are looked for, seen from a directory, and what the
arguments and the environment may name. -/
def firstPlaces (host : Host) (arguments : List Bytes) : List Position :=
  let above := (Host.pathOf host.directory).chain.flatMap fun path =>
    [path.join Discovery.projectFileName, path.join Discovery.rootMarker]
  let named := arguments.flatMap fun argument =>
    [argument, (argument.dropWhile (· ≠ 0x3D)).drop 1]
  let paths := above ++ (Discovery.userFile? host).toList ++
    (named ++ host.environment.map Prod.snd).map Path.mk
  paths.map (positionOf host.directory)

def settingsPlaces (host : Host) (arguments : List Bytes) : List Position :=
  match Invocation.parse host.valueOf? arguments with
  | .error _ => []
  | .ok invocation =>
      let overrides := match invocation.command with
        | .run arguments => arguments.overrides
        | .config overrides => overrides
      let found : Attempt Settings := do
        let files ← Layer.ofFiles host invocation.config
        ((overrides.onTopOf files).resolve).expand host.home?
      match found.run.value with
      | .error _ => []
      | .ok settings =>
          let directory := positionOf host.directory settings.workingDirectory
          [directory, positionOf directory (Path.ofText settings.scriptPath)]

/-- What is printed at a terminal beside the program's own texts. -/
def wording : Wording where
  ofDocument _ fault :=
    match fault with
    | .malformed => "TOML parse error"
    | .misfit misfit => "TOML parse error: " ++ misfit.message
  lead _ level := level.name ++ " "

def host (arguments : List Bytes) : IO Host := do
  let current ← IO.currentDir
  let bare : Host :=
    { files := .standard
      environment := ← environment
      directory := positionOf [] (Path.ofText current.toString) }
  let files ← (firstPlaces bare arguments).foldlM (gather 2) bare.files
  let known := { bare with files := ← gather 3 files bare.directory }
  let files ← (settingsPlaces known arguments).foldlM (gather 2) known.files
  return { known with files := files }

end Surroundings

end FolderScript

open FolderScript in
/-- Runs the program and hands on what it leaves behind. -/
def main (arguments : List String) : IO UInt32 := do
  let given := arguments.map Utf8.encode
  let host ← Surroundings.host given
  match Program.run Surroundings.wording (Machine.launcher host) .inOrder host given with
  | none =>
      IO.eprintln "The script does not end."
      return 1
  | some finished =>
      IO.print finished.output
      IO.eprint finished.complaints
      return UInt32.ofNat finished.exitCode
