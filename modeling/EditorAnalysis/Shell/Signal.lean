/-
EditorAnalysis.Shell.Signal — signals by number and name.
-/
import EditorAnalysis.Shell.Numeral

namespace EditorAnalysis.Shell.Signal

open Text (Octets)

/-- The names of the signals, by number, and of the end of a shell. -/
def names : List String :=
  ["EXIT", "HUP", "INT", "QUIT", "ILL", "TRAP", "ABRT", "BUS", "FPE", "KILL", "USR1", "SEGV",
    "USR2", "PIPE", "ALRM", "TERM", "STKFLT", "CHLD", "CONT", "STOP", "TSTP", "TTIN", "TTOU",
    "URG", "XCPU", "XFSZ", "VTALRM", "PROF", "WINCH", "IO", "PWR", "SYS", "32", "33", "RTMIN",
    "RTMIN+1", "RTMIN+2", "RTMIN+3", "RTMIN+4", "RTMIN+5", "RTMIN+6", "RTMIN+7", "RTMIN+8",
    "RTMIN+9", "RTMIN+10", "RTMIN+11", "RTMIN+12", "RTMIN+13", "RTMIN+14", "RTMIN+15",
    "RTMAX-14", "RTMAX-13", "RTMAX-12", "RTMAX-11", "RTMAX-10", "RTMAX-9", "RTMAX-8", "RTMAX-7",
    "RTMAX-6", "RTMAX-5", "RTMAX-4", "RTMAX-3", "RTMAX-2", "RTMAX-1", "RTMAX"]

/-- The name of a signal. -/
def nameOf (signal : Nat) : String := names.getD signal (toString signal)

/-- The signal that a word names, among those from a number on. -/
def ofWord? (least : Nat) (word : Octets) : Option Nat :=
  match Numeral.natural? word with
  | some n => if n < names.length then some n else none
  | none =>
    let name := String.ofList (word.map Char.toUpper)
    ((List.range names.length).drop least).find? fun n => nameOf n == name

/-- What is said of a process that a signal has ended. -/
def description (signal : Nat) : String :=
  match signal with
  | 1 => "Hangup"
  | 3 => "Quit"
  | 4 => "Illegal instruction"
  | 5 => "Trace/breakpoint trap"
  | 6 => "Aborted"
  | 7 => "Bus error"
  | 8 => "Floating point exception"
  | 9 => "Killed"
  | 10 => "User defined signal 1"
  | 11 => "Segmentation fault"
  | 12 => "User defined signal 2"
  | 14 => "Alarm clock"
  | 15 => "Terminated"
  | 16 => "Stack fault"
  | 24 => "CPU time limit exceeded"
  | 25 => "File size limit exceeded"
  | 26 => "Virtual timer expired"
  | 27 => "Profiling timer expired"
  | 29 => "I/O possible"
  | 30 => "Power failure"
  | 31 => "Bad system call"
  | n => "Real-time signal " ++ toString (n - 34)

/-- Signals that do nothing by themselves. -/
def ignored : List Nat := [0, 17, 18, 23, 28]

/-- Signals that stop a process until another one wakes it. -/
def stopping : List Nat := [19, 20, 21, 22]

/-- The signal from the keyboard. -/
def interrupt : Nat := 2

/-- The signal that ends every process. -/
def kill : Nat := 9

/-- The signal that ends a process which uses up its memory. -/
def overflow : Nat := 11

/-- The signal to a process that writes what nobody reads. -/
def pipe : Nat := 13

/-- The signal that asks a process to end. -/
def terminate : Nat := 15

/-- The number under which a shell notes what is to be done about failures. -/
def failure : Nat := 66

/-- Signals after which nothing is said. -/
def silent : List Nat := [interrupt, pipe]

/-- The status of a process that a signal has ended. -/
def status (signal : Nat) : Nat := 128 + signal

end EditorAnalysis.Shell.Signal
