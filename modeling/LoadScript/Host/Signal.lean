set_option autoImplicit false

namespace LoadScript

abbrev Signal := Nat

namespace Signal

inductive Effect where
  | ends
  | stops
  | continues
  | nothing
  deriving DecidableEq, Repr

def table : List (Signal × String × String) :=
  [(1, "HUP", "Hangup"), (2, "INT", "Interrupt"), (3, "QUIT", "Quit"),
    (4, "ILL", "Illegal instruction"), (5, "TRAP", "Trace/breakpoint trap"), (6, "ABRT", "Aborted"),
    (7, "BUS", "Bus error"), (8, "FPE", "Floating point exception"), (9, "KILL", "Killed"),
    (10, "USR1", "User defined signal 1"), (11, "SEGV", "Segmentation fault"),
    (12, "USR2", "User defined signal 2"), (13, "PIPE", "Broken pipe"), (14, "ALRM", "Alarm clock"),
    (15, "TERM", "Terminated"), (16, "STKFLT", "Stack fault"), (17, "CHLD", "Child exited"),
    (18, "CONT", "Continued"), (19, "STOP", "Stopped (signal)"), (20, "TSTP", "Stopped"),
    (21, "TTIN", "Stopped (tty input)"), (22, "TTOU", "Stopped (tty output)"),
    (23, "URG", "Urgent I/O condition"), (24, "XCPU", "CPU time limit exceeded"),
    (25, "XFSZ", "File size limit exceeded"), (26, "VTALRM", "Virtual timer expired"),
    (27, "PROF", "Profiling timer expired"), (28, "WINCH", "Window changed"),
    (29, "IO", "I/O possible"), (30, "PWR", "Power failure"), (31, "SYS", "Bad system call")]

def kill : Signal := 9

def pipe : Signal := 13

def terminate : Signal := 15

def bound : Nat := 65

def name? (signal : Signal) : Option String := (table.find? (·.1 = signal)).map (·.2.1)

def ofName? (name : String) : Option Signal := (table.find? (·.2.1 = name)).map (·.1)

def text (signal : Signal) : String :=
  match table.find? (·.1 = signal) with
  | some (_, _, text) => text
  | none => "Real-time signal " ++ Nat.repr (signal - 34)

def effect (signal : Signal) : Effect :=
  if [17, 23, 28].contains signal then .nothing
  else if signal = 18 then .continues
  else if [19, 20, 21, 22].contains signal then .stops
  else .ends

end Signal

end LoadScript
