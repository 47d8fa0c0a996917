/-
Signals: their names, and what is said of a process that one ended.
-/
import LineShell.Testbed.Script.Bindings

namespace LineShell.Script

/-- A signal. -/
structure Signal where
  /-- The name without `SIG`. -/
  name : String
  /-- What is said of a process that it ended. -/
  text : String
  deriving DecidableEq, Repr

namespace Signal

/-- The signals with names of their own, from number 1 on. -/
def named : List Signal :=
  [⟨"HUP", "Hangup"⟩, ⟨"INT", "Interrupt"⟩, ⟨"QUIT", "Quit"⟩,
    ⟨"ILL", "Illegal instruction"⟩, ⟨"TRAP", "Trace/breakpoint trap"⟩, ⟨"ABRT", "Aborted"⟩,
    ⟨"BUS", "Bus error"⟩, ⟨"FPE", "Floating point exception"⟩, ⟨"KILL", "Killed"⟩,
    ⟨"USR1", "User defined signal 1"⟩, ⟨"SEGV", "Segmentation fault"⟩,
    ⟨"USR2", "User defined signal 2"⟩, ⟨"PIPE", "Broken pipe"⟩, ⟨"ALRM", "Alarm clock"⟩,
    ⟨"TERM", "Terminated"⟩, ⟨"16", "Stack fault"⟩, ⟨"CHLD", "Child exited"⟩,
    ⟨"CONT", "Continued"⟩, ⟨"STOP", "Stopped (signal)"⟩, ⟨"TSTP", "Stopped"⟩,
    ⟨"TTIN", "Stopped (tty input)"⟩, ⟨"TTOU", "Stopped (tty output)"⟩,
    ⟨"URG", "Urgent I/O condition"⟩, ⟨"XCPU", "CPU time limit exceeded"⟩,
    ⟨"XFSZ", "File size limit exceeded"⟩, ⟨"VTALRM", "Virtual timer expired"⟩,
    ⟨"PROF", "Profiling timer expired"⟩, ⟨"WINCH", "Window changed"⟩,
    ⟨"IO", "I/O possible"⟩, ⟨"PWR", "Power failure"⟩, ⟨"SYS", "Bad system call"⟩]

/-- The number behind the last signal. -/
def count : Nat := 65

/-- The name of a number; that of 0 is the end of the shell. -/
def nameOf (n : Nat) : String :=
  if n = 0 then "EXIT"
  else match named[n - 1]? with
    | some s => s.name
    | none =>
      if n < 34 then toString n
      else if n = 34 then "RTMIN"
      else if n < 50 then "RTMIN+" ++ toString (n - 34)
      else if n < 64 then "RTMAX-" ++ toString (64 - n)
      else "RTMAX"

/-- What is said of a process that a signal ended. -/
def textOf (n : Nat) : String :=
  match named[n - 1]? with
  | some s => s.text
  | none =>
    if n < 34 then "Unknown signal " ++ toString n
    else "Real-time signal " ++ toString (n - 34)

/-- The number that a text gives. -/
def number? (text : Bytes) : Option Nat :=
  if text.isEmpty || !text.all isDigit then none
  else
    let n := text.foldl (fun n d => n * 10 + (d.toNat - 48)) 0
    if n < count then some n else none

/-- The signal that a text names or gives the number of, from a number on. -/
def ofText? (first : Nat) (text : Bytes) : Option Nat :=
  match number? text with
  | some n => some n
  | none =>
    let name := (Utf8.lossy text).toUpper
    (List.range count).find? fun n => first ≤ n && nameOf n == name

end Signal

end LineShell.Script
