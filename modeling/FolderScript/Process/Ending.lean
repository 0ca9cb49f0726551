/-
How a process ended: with a code of its own, or by a signal.  The wait status
packs both into one word, and the exit code unpacks them into one number.
-/

namespace FolderScript

/-- How a process ended. -/
inductive Ending where
  /-- It returned a code from 0 to 255. -/
  | exited (code : Nat)
  /-- A signal killed it. -/
  | signaled (signal : Nat)
  /-- The status tells of no end. -/
  | neither (word : Nat)
  deriving DecidableEq, Repr

namespace Ending

/-- Unpacks a wait status.  The low seven bits hold the signal; none of them set
means that the process exited, all of them that it only stopped. -/
def ofRaw (raw : Int) : Ending :=
  let word := (raw % 0x100000000).toNat
  let signal := word % 128
  if signal = 0 then .exited (word / 256 % 256)
  else if signal = 127 then .neither word
  else .signaled signal

/-- The exit code that stands for an ending: a signal counts from 128. -/
def code : Ending → Int
  | .exited code => code
  | .signaled signal => 128 + signal
  | .neither _ => -1

def signalName : Nat → String
  | 1 => "SIGHUP"
  | 2 => "SIGINT"
  | 3 => "SIGQUIT"
  | 4 => "SIGILL"
  | 5 => "SIGTRAP"
  | 6 => "SIGABRT"
  | 7 => "SIGBUS"
  | 8 => "SIGFPE"
  | 9 => "SIGKILL"
  | 10 => "SIGUSR1"
  | 11 => "SIGSEGV"
  | 12 => "SIGUSR2"
  | 13 => "SIGPIPE"
  | 14 => "SIGALRM"
  | 15 => "SIGTERM"
  | 16 => "SIGSTKFLT"
  | 17 => "SIGCHLD"
  | 18 => "SIGCONT"
  | 19 => "SIGSTOP"
  | 20 => "SIGTSTP"
  | 21 => "SIGTTIN"
  | 22 => "SIGTTOU"
  | 23 => "SIGURG"
  | 24 => "SIGXCPU"
  | 25 => "SIGXFSZ"
  | 26 => "SIGVTALRM"
  | 27 => "SIGPROF"
  | 28 => "SIGWINCH"
  | 29 => "SIGIO"
  | 30 => "SIGPWR"
  | 31 => "SIGSYS"
  | _ => ""

/-- The ending as a log line shows it. -/
def text : Ending → String
  | .exited code => "exit status: " ++ toString code
  | .signaled signal =>
      "signal: " ++ toString signal ++
        if signalName signal = "" then "" else " (" ++ signalName signal ++ ")"
  | .neither word => "unrecognised wait status: " ++ toString word

end Ending

end FolderScript
