import LineShell.Text.Basic

/-!
# Signals

A signal is known by its name and by its number.  A process that a signal ends is
reported by a short description.
-/

namespace LineShell
namespace Script
namespace Signal

/-- The signals by number: their names and descriptions. -/
def table : List (Nat × String × String) :=
  [(1, "HUP", "Hangup"), (2, "INT", "Interrupt"), (3, "QUIT", "Quit"),
    (4, "ILL", "Illegal instruction"), (5, "TRAP", "Trace/breakpoint trap"), (6, "ABRT", "Aborted"),
    (7, "BUS", "Bus error"), (8, "FPE", "Floating point exception"), (9, "KILL", "Killed"),
    (10, "USR1", "User defined signal 1"), (11, "SEGV", "Segmentation fault"),
    (12, "USR2", "User defined signal 2"), (13, "PIPE", "Broken pipe"), (14, "ALRM", "Alarm clock"),
    (15, "TERM", "Terminated"), (16, "16", "Stack fault"), (17, "CHLD", "Child exited"),
    (18, "CONT", "Continued"), (19, "STOP", "Stopped (signal)"), (20, "TSTP", "Stopped"),
    (21, "TTIN", "Stopped (tty input)"), (22, "TTOU", "Stopped (tty output)"),
    (23, "URG", "Urgent I/O condition"), (24, "XCPU", "CPU time limit exceeded"),
    (25, "XFSZ", "File size limit exceeded"), (26, "VTALRM", "Virtual timer expired"),
    (27, "PROF", "Profiling timer expired"), (28, "WINCH", "Window changed"),
    (29, "IO", "I/O possible"), (30, "PWR", "Power failure"), (31, "SYS", "Bad system call")]

/-- The number that a trap at the end of a script has. -/
def atExit : Nat := 0

def interrupt : Nat := 2

def quit : Nat := 3

def childEnded : Nat := 17

def badArithmetic : Nat := 8

def brokenPipe : Nat := 13

/-- The first of the signals that have no meaning of their own. -/
def firstFree : Nat := 34

def greatest : Nat := 64

def name (number : Nat) : String :=
  if number = atExit then "EXIT"
  else
    match table.lookup number with
    | some entry => entry.1
    | none =>
        if number < firstFree then toString number
        else if number = firstFree then "RTMIN"
        else if number = greatest then "RTMAX"
        else if number < firstFree + 16 then "RTMIN+" ++ toString (number - firstFree)
        else "RTMAX-" ++ toString (greatest - number)

def description (number : Nat) : String :=
  match table.lookup number with
  | some entry => entry.2
  | none =>
      if number < firstFree then "Unknown signal " ++ toString number
      else "Real-time signal " ++ toString (number - firstFree)

/-- The signal that a text names, by its number or by its name in any case; the names
begin with that of the least one. -/
def ofText? (least : Nat) (text : String) : Option Nat :=
  let cs := text.toList
  if !cs.isEmpty && cs.all Char.isDigit then
    let n := Text.digitsValue cs
    if n ≤ greatest then some n else none
  else
    let upper := String.ofList (cs.map Char.toUpper)
    (List.range (greatest + 1)).find? fun n => decide (least ≤ n) && name n == upper

/-- Whether nothing is reported of a process that the signal ended. -/
def isSilent (number : Nat) : Bool :=
  number == 2 || number == brokenPipe

/-- Whether a process goes on when the signal comes and nothing is set for it. -/
def isHarmless (number : Nat) : Bool :=
  [17, 18, 23, 28].contains number

def ends (number : Nat) : Bool :=
  number != 0 && !isHarmless number

/-- Whether nothing can be set for the signal. -/
def isFinal (number : Nat) : Bool :=
  number == 9 || number == 19

def status (number : Nat) : Nat :=
  128 + number

end Signal
end Script
end LineShell
