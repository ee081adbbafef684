set_option autoImplicit false

/-! # Signals

The numbered signals that a process can be sent, and what one does that nobody waits for. -/

namespace Flowchart.Signal

/-- The names of the signals from the first one on. -/
def names : List String :=
  ["HUP", "INT", "QUIT", "ILL", "TRAP", "ABRT", "BUS", "FPE", "KILL", "USR1", "SEGV", "USR2",
    "PIPE", "ALRM", "TERM", "STKFLT", "CHLD", "CONT", "STOP", "TSTP", "TTIN", "TTOU", "URG",
    "XCPU", "XFSZ", "VTALRM", "PROF", "WINCH", "IO", "PWR", "SYS"]

/-- What is told of a process that a signal has ended, from the first signal on. -/
def descriptions : List String :=
  ["Hangup", "Interrupt", "Quit", "Illegal instruction", "Trace/breakpoint trap", "Aborted",
    "Bus error", "Floating point exception", "Killed", "User defined signal 1",
    "Segmentation fault", "User defined signal 2", "Broken pipe", "Alarm clock", "Terminated",
    "Stack fault", "Child exited", "Continued", "Stopped (signal)", "Stopped",
    "Stopped (tty input)", "Stopped (tty output)", "Urgent I/O condition",
    "CPU time limit exceeded", "File size limit exceeded", "Virtual timer expired",
    "Profiling timer expired", "Window changed", "I/O possible", "Power failure",
    "Bad system call"]

/-- What is told of a process that a signal has ended. -/
def describe (n : Nat) : String :=
  if n = 0 then "Unknown signal 0"
  else
    match descriptions[n - 1]? with
    | some text => text
    | none => if 34 ≤ n && n < 65 then s!"Real-time signal {n - 34}" else s!"Unknown signal {n}"

/-- The number after the last signal, those without a name included. -/
def bound : Nat := 65

/-- The name of a signal. -/
def name? (n : Nat) : Option String := if n = 0 then none else names[n - 1]?

/-- The signal with a name. -/
def number? (name : String) : Option Nat := (names.idxOf? name).map (· + 1)

/-- The signals that do not end a process: a child has ended, a stopped process goes on or stops, a
    connection is urgent, a window has changed. -/
def harmless : List String := ["CHLD", "CONT", "STOP", "TSTP", "TTIN", "TTOU", "URG", "WINCH"]

/-- Whether a signal ends a process that does nothing about it. -/
def isFatal (n : Nat) : Bool :=
  match name? n with
  | some name => !harmless.contains name
  | none => decide (0 < n)

end Flowchart.Signal
