import EngineTokens.Shell.Numeral

/-!
# Signals

A signal is known by its number and its name. What it does to a process that has made no provision:
most signals kill it, and how it was killed is told on the error output of a shell that waited for
it.
-/

set_option autoImplicit false

namespace EngineTokens.Shell

/-- The signals by number, from number one on. -/
def signalNames : List String :=
  ["HUP", "INT", "QUIT", "ILL", "TRAP", "ABRT", "BUS", "FPE", "KILL", "USR1", "SEGV", "USR2", "PIPE",
    "ALRM", "TERM", "16", "CHLD", "CONT", "STOP", "TSTP", "TTIN", "TTOU", "URG", "XCPU", "XFSZ",
    "VTALRM", "PROF", "WINCH", "IO", "PWR", "SYS", "32", "33", "RTMIN"] ++
    ((List.range 15).map fun i => "RTMIN+" ++ toString (i + 1)) ++
    ((List.range 14).map fun i => "RTMAX-" ++ toString (14 - i)) ++ ["RTMAX"]

/-- The number of the signal of a name or number; the end of the script counts as number zero. -/
def signalNumber? (text : ByteText) : Option Nat :=
  if text.all Char.isDigit && !text.isEmpty then
    let n := ofDigits 10 text
    if n ≤ 64 then some n else none
  else
    let name := String.ofList (text.map Char.toUpper)
    if name == "EXIT" then some 0
    else (signalNames.findIdx? (· == name)).map (· + 1)

/-- The name of a signal. -/
def signalName (n : Nat) : String :=
  if n = 0 then "EXIT" else signalNames[n - 1]?.getD (toString n)

/-- The signal leaves a process running. -/
def isHarmless (n : Nat) : Bool :=
  [0, 17, 18, 23, 28].contains n

/-- No provision can be made for the signal. -/
def isUnblockable (n : Nat) : Bool :=
  n == 9 || n == 19

/-- How a shell tells that a command was killed; some signals are passed over. -/
def signalReport? : Nat → Option String
  | 1 => some "Hangup"
  | 3 => some "Quit"
  | 4 => some "Illegal instruction"
  | 5 => some "Trace/breakpoint trap"
  | 6 => some "Aborted"
  | 7 => some "Bus error"
  | 8 => some "Floating point exception"
  | 9 => some "Killed"
  | 10 => some "User defined signal 1"
  | 11 => some "Segmentation fault"
  | 12 => some "User defined signal 2"
  | 14 => some "Alarm clock"
  | 15 => some "Terminated"
  | 16 => some "Stack fault"
  | 24 => some "CPU time limit exceeded"
  | 25 => some "File size limit exceeded"
  | 26 => some "Virtual timer expired"
  | 27 => some "Profiling timer expired"
  | 29 => some "I/O possible"
  | 30 => some "Power failure"
  | 31 => some "Bad system call"
  | n =>
    if 34 ≤ n && n ≤ 64 then some ("Real-time signal " ++ toString (n - 34))
    else if n = 32 || n = 33 then some ("Unknown signal " ++ toString n)
    else none

end EngineTokens.Shell
