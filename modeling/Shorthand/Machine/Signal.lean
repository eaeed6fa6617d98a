set_option autoImplicit false

namespace Shorthand

abbrev Signal := Nat

namespace Signal

inductive Effect where
  | ends
  | stops
  | goesOn
  deriving DecidableEq, Repr

def named : List (String × String) :=
  [("HUP", "Hangup"), ("INT", "Interrupt"), ("QUIT", "Quit"), ("ILL", "Illegal instruction"),
    ("TRAP", "Trace/breakpoint trap"), ("ABRT", "Aborted"), ("BUS", "Bus error"),
    ("FPE", "Floating point exception"), ("KILL", "Killed"), ("USR1", "User defined signal 1"),
    ("SEGV", "Segmentation fault"), ("USR2", "User defined signal 2"), ("PIPE", "Broken pipe"),
    ("ALRM", "Alarm clock"), ("TERM", "Terminated"), ("16", "Stack fault"),
    ("CHLD", "Child exited"), ("CONT", "Continued"), ("STOP", "Stopped (signal)"),
    ("TSTP", "Stopped"), ("TTIN", "Stopped (tty input)"),
    ("TTOU", "Stopped (tty output)"), ("URG", "Urgent I/O condition"),
    ("XCPU", "CPU time limit exceeded"), ("XFSZ", "File size limit exceeded"),
    ("VTALRM", "Virtual timer expired"), ("PROF", "Profiling timer expired"),
    ("WINCH", "Window changed"), ("IO", "I/O possible"), ("PWR", "Power failure"),
      ("SYS", "Bad system call")]

def firstFree : Signal := 34
def lastFree : Signal := 64

def freeName (s : Signal) : String :=
  if s = firstFree then "RTMIN"
  else if s = lastFree then "RTMAX"
  else if s < firstFree + 16 then "RTMIN+" ++ toString (s - firstFree)
  else "RTMAX-" ++ toString (lastFree - s)

def name (s : Signal) : String :=
  match s with
  | 0 => "EXIT"
  | n + 1 =>
    match named[n]? with
    | some e => e.1
    | none => if s < firstFree then toString s else freeName s

def description (s : Signal) : String :=
  match s with
  | 0 => "Unknown signal 0"
  | n + 1 =>
    match named[n]? with
    | some e => e.2
    | none =>
      if s < firstFree then "Unknown signal " ++
        toString s else "Real-time signal " ++ toString (s - firstFree)

def all : List Signal := List.range (lastFree + 1)

def interrupt : Signal := 2
def quit : Signal := 3
def kill : Signal := 9
def pipe : Signal := 13
def terminate : Signal := 15
def child : Signal := 17
def continue_ : Signal := 18
def stop : Signal := 19

def effect (s : Signal) : Effect :=
  if [child, continue_, 23, 28].contains s then .goesOn
  else if [stop, 20, 21, 22].contains s then .stops
  else .ends

end Signal

end Shorthand
