import BuildMatrix.Script.Integer

namespace BuildMatrix.Script.Signal

def names : List Letters :=
  (["HUP", "INT", "QUIT", "ILL", "TRAP", "ABRT", "BUS", "FPE", "KILL", "USR1", "SEGV", "USR2",
    "PIPE", "ALRM", "TERM", "16", "CHLD", "CONT", "STOP", "TSTP", "TTIN", "TTOU", "URG", "XCPU",
    "XFSZ", "VTALRM", "PROF", "WINCH", "IO", "PWR", "SYS", "32", "33", "RTMIN", "RTMIN+1",
    "RTMIN+2", "RTMIN+3", "RTMIN+4", "RTMIN+5", "RTMIN+6", "RTMIN+7", "RTMIN+8", "RTMIN+9",
    "RTMIN+10", "RTMIN+11", "RTMIN+12", "RTMIN+13", "RTMIN+14", "RTMIN+15", "RTMAX-14",
    "RTMAX-13", "RTMAX-12", "RTMAX-11", "RTMAX-10", "RTMAX-9", "RTMAX-8", "RTMAX-7", "RTMAX-6",
    "RTMAX-5", "RTMAX-4", "RTMAX-3", "RTMAX-2", "RTMAX-1", "RTMAX"]).map String.toList

/-- The signals, after the end of the script as number 0. -/
def count : Nat := 65

def name (n : Nat) : Letters := if n = 0 then "EXIT".toList else (names[n - 1]?).getD []

def kill : Nat := 9

def pipe : Nat := 13

def isCertain (n : Nat) : Bool := n = 9 || n = 19

def isHarmless (n : Nat) : Bool := [17, 18, 23, 28].contains n

/-- The signal that a text names, by its number or its name in any case; 0 for the end of the
script, if that has a name here. -/
def number? (withExit : Bool) (s : Letters) : Option Nat :=
  if s ≠ [] && s.all Char.isDigit then
    let n := s.foldl (fun n c ↦ 10 * n + digitValue c) 0
    if n < count then some n else none
  else
    let upper := s.map Char.toUpper
    if withExit && upper = "EXIT".toList then some 0
    else
      let i := names.findIdx (· == upper)
      if i < names.length then some (i + 1) else none

def description (n : Nat) : Letters :=
  match n with
  | 1 => "Hangup".toList
  | 3 => "Quit".toList
  | 4 => "Illegal instruction".toList
  | 5 => "Trace/breakpoint trap".toList
  | 6 => "Aborted".toList
  | 7 => "Bus error".toList
  | 8 => "Floating point exception".toList
  | 9 => "Killed".toList
  | 10 => "User defined signal 1".toList
  | 11 => "Segmentation fault".toList
  | 12 => "User defined signal 2".toList
  | 14 => "Alarm clock".toList
  | 15 => "Terminated".toList
  | 16 => "Stack fault".toList
  | 24 => "CPU time limit exceeded".toList
  | 25 => "File size limit exceeded".toList
  | 26 => "Virtual timer expired".toList
  | 27 => "Profiling timer expired".toList
  | 29 => "I/O possible".toList
  | 30 => "Power failure".toList
  | 31 => "Bad system call".toList
  | n => if 34 ≤ n then "Real-time signal ".toList ++ showNat (n - 34) else
      "Unknown signal ".toList ++ showNat n

end BuildMatrix.Script.Signal
