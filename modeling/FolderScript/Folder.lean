/-
Folders given on the command line.  The script runs in another directory, so a
relative folder is anchored at the directory of the invocation, and only its
components are kept.
-/
import FolderScript.Path

namespace FolderScript

/-- A given folder, made absolute and normal.  An empty one stays empty; none
if the result is not UTF-8. -/
def anchorFolder (folder : String) (directory : Path) : Option String :=
  if folder = "" then some ""
  else ((directory.join (Path.ofText folder)).normalize).text?

/-- The project folder: the given one, else the directory of the invocation as
it is. -/
def projectFolder (project : Option Path) (directory : Path) : Option String :=
  match project with
  | some path => path.text?.bind fun folder => anchorFolder folder directory
  | none => directory.text?

example : anchorFolder "./src//a/../b/" (Path.ofText "/work/.") = some "/work/src/a/../b" := by
  decide +kernel

end FolderScript
