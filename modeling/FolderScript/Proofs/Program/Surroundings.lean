/-
What the program takes from its surroundings.  The environment is looked up for the
options that have a variable, and for the two directories of the user; so a variable
that is none of these matters neither for the command line nor for the settings.
-/
import FolderScript.Proofs.CommandLine.Given
import FolderScript.Proofs.Run.Requests

namespace FolderScript

namespace Reading

end Reading

namespace Host

/-- The variable that selects what is logged. -/
def logVariable : String := "RUST_LOG"

variable {first second : Host}

end Host

end FolderScript
