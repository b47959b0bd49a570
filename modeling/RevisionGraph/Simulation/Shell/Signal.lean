import RevisionGraph.Simulation.Shell.Script

/-!
# Signals

The names and numbers of signals, and what is said of a process that one of them ended.
-/

set_option autoImplicit false

namespace RevisionGraph.Shell.Signal

/-- Numbers, names and what is said of an end by the signal. -/
def table : List (Nat × String × String) := [
  (1, "HUP", "Hangup"), (2, "INT", ""), (3, "QUIT", "Quit"), (4, "ILL", "Illegal instruction"),
  (5, "TRAP", "Trace/breakpoint trap"), (6, "ABRT", "Aborted"), (7, "BUS", "Bus error"),
  (8, "FPE", "Floating point exception"), (9, "KILL", "Killed"),
  (10, "USR1", "User defined signal 1"), (11, "SEGV", "Segmentation fault"),
  (12, "USR2", "User defined signal 2"), (13, "PIPE", ""), (14, "ALRM", "Alarm clock"),
  (15, "TERM", "Terminated"), (16, "16", "Stack fault"), (17, "CHLD", "Child exited"),
  (18, "CONT", "Continued"), (19, "STOP", "Stopped (signal)"), (20, "TSTP", "Stopped"),
  (21, "TTIN", "Stopped (tty input)"), (22, "TTOU", "Stopped (tty output)"),
  (23, "URG", "Urgent I/O condition"), (24, "XCPU", "CPU time limit exceeded"),
  (25, "XFSZ", "File size limit exceeded"), (26, "VTALRM", "Virtual timer expired"),
  (27, "PROF", "Profiling timer expired"), (28, "WINCH", "Window changed"),
  (29, "IO", "I/O possible"), (30, "PWR", "Power failure"), (31, "SYS", "Bad system call")]

/-- The first of the signals that have numbers instead of names of their own. -/
def firstReal : Nat := 34

/-- The greatest number of a signal. -/
def greatest : Nat := 64

/-- The name of a signal, or else its number. -/
def nameOf (signal : Nat) : String :=
  if signal = 0 then "EXIT"
  else match table.find? fun e ↦ e.1 == signal with
    | some (_, name, _) => name
    | none =>
      if signal = firstReal then "RTMIN"
      else if signal = greatest then "RTMAX"
      else if firstReal < signal && signal ≤ firstReal + 15 then s!"RTMIN+{signal - firstReal}"
      else if firstReal + 15 < signal && signal < greatest then s!"RTMAX-{greatest - signal}"
      else toString signal

/-- The signal of a name; the name of the end of a shell has the number zero. -/
def ofName? (name : String) : Option Nat :=
  (List.range (greatest + 1)).find? fun n ↦ nameOf n == name

/-- The signal that a name or a number means. -/
def ofText? (s : String) : Option Nat :=
  if !s.isEmpty && s.toList.all Char.isDigit then
    let n := Nat.ofDigitChars 10 s.toList 0
    if n ≤ greatest then some n else none
  else ofName? s

/-- What is said of a process that the signal ended; nothing where it is empty. -/
def lastWords (signal : Nat) : String :=
  match table.find? fun e ↦ e.1 == signal with
  | some (_, _, words) => words
  | none => if firstReal ≤ signal then s!"Real-time signal {signal - firstReal}" else ""

end RevisionGraph.Shell.Signal
