/-!
# Signals

Processes are told to end, or told something, by signals that go by number or name.
-/

namespace Testbed.Shell.Signal

/-- The names of the signals by number, from 1. -/
def names : List String :=
  ["HUP", "INT", "QUIT", "ILL", "TRAP", "ABRT", "BUS", "FPE", "KILL", "USR1", "SEGV", "USR2",
   "PIPE", "ALRM", "TERM", "STKFLT", "CHLD", "CONT", "STOP", "TSTP", "TTIN", "TTOU", "URG",
   "XCPU", "XFSZ", "VTALRM", "PROF", "WINCH", "IO", "PWR", "SYS"]

/-- The bare name of a signal. -/
def bareName (n : Nat) : String := (names[n - 1]?).getD "?"

/-- The name of a signal. -/
def name (n : Nat) : String := "SIG" ++ bareName n

/-- The number of the signal that a text names. -/
def ofText? (s : String) : Option Nat :=
  match s.toNat? with
  | some n => if n ≤ names.length then some n else none
  | none => (names.findIdx? fun m => m = s.toUpper).map (· + 1)

/-- The signals that a process does not notice. -/
def ignored : List Nat := [0, 17, 18, 23, 28]

/-- The signals that halt a process for good, as nobody will wake it. -/
def halting : List Nat := [19, 20, 21, 22]

/-- The signals of which a shell says nothing when they end a process of its own. -/
def quiet : List Nat := [2, 13]

/-- What a shell says of a signal that ended a process of its own. -/
def description (n : Nat) : String :=
  match bareName n with
  | "HUP" => "Hangup"
  | "QUIT" => "Quit"
  | "ILL" => "Illegal instruction"
  | "TRAP" => "Trace/breakpoint trap"
  | "ABRT" => "Aborted"
  | "BUS" => "Bus error"
  | "FPE" => "Floating point exception"
  | "KILL" => "Killed"
  | "USR1" => "User defined signal 1"
  | "SEGV" => "Segmentation fault"
  | "USR2" => "User defined signal 2"
  | "ALRM" => "Alarm clock"
  | "TERM" => "Terminated"
  | "STKFLT" => "Stack fault"
  | "XCPU" => "CPU time limit exceeded"
  | "XFSZ" => "File size limit exceeded"
  | "VTALRM" => "Virtual timer expired"
  | "PROF" => "Profiling timer expired"
  | "IO" => "I/O possible"
  | "PWR" => "Power failure"
  | "SYS" => "Bad system call"
  | other => other

end Testbed.Shell.Signal
