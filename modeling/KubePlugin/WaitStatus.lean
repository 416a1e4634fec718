/-!
How a child ended, as the system reports it in a word of 32 bits: the low seven bits are zero for
a child that exited, and its code stands in the second byte; else they are the number of the
signal that killed it, unless all are set.
-/

namespace KubePlugin

namespace Signal

def names : List (Nat × String) :=
  [ (1, "HUP"), (2, "INT"), (3, "QUIT"), (4, "ILL"), (5, "TRAP"), (6, "ABRT"), (7, "BUS"),
    (8, "FPE"), (9, "KILL"), (10, "USR1"), (11, "SEGV"), (12, "USR2"), (13, "PIPE"), (14, "ALRM"),
    (15, "TERM"), (16, "STKFLT"), (17, "CHLD"), (18, "CONT"), (19, "STOP"), (20, "TSTP"),
    (21, "TTIN"), (22, "TTOU"), (23, "URG"), (24, "XCPU"), (25, "XFSZ"), (26, "VTALRM"),
    (27, "PROF"), (28, "WINCH"), (29, "IO"), (30, "PWR"), (31, "SYS") ]

def name? (n : Nat) : Option String := names.lookup n

def ofName? (name : String) : Option Nat :=
  (names.find? fun p => p.2 == name).map (·.1)

def farewells : List (Nat × String) :=
  [ (1, "Hangup"), (3, "Quit"), (4, "Illegal instruction"), (5, "Trace/breakpoint trap"),
    (6, "Aborted"), (7, "Bus error"), (8, "Floating point exception"), (9, "Killed"),
    (10, "User defined signal 1"), (11, "Segmentation fault"), (12, "User defined signal 2"),
    (14, "Alarm clock"), (15, "Terminated"), (16, "Stack fault"), (24, "CPU time limit exceeded"),
    (25, "File size limit exceeded"), (26, "Virtual timer expired"),
    (27, "Profiling timer expired"), (29, "I/O possible"), (30, "Power failure"),
    (31, "Bad system call") ]

def int : Nat := 2

def abort : Nat := 6

def kill : Nat := 9

def pipe : Nat := 13

def term : Nat := 15

def isHarmless (n : Nat) : Bool :=
  n = 0 || n = 17 || n = 18 || n = 19 || n = 20 || n = 21 || n = 22 || n = 23 || n = 28

end Signal

structure WaitStatus where
  raw : UInt32
deriving DecidableEq, Repr

namespace WaitStatus

def exited (code : Nat) : WaitStatus := ⟨UInt32.ofNat (code % 256 * 256)⟩

def killed (signal : Nat) : WaitStatus := ⟨UInt32.ofNat (signal % 128)⟩

def low (s : WaitStatus) : Nat := s.raw.toNat % 128

def code? (s : WaitStatus) : Option Nat :=
  if s.low = 0 then some (s.raw.toNat / 256 % 256) else none

def signal? (s : WaitStatus) : Option Nat :=
  if s.low = 0 ∨ s.low = 127 then none else some s.low

def dumped (s : WaitStatus) : Bool := s.raw.toNat / 128 % 2 = 1

def succeeded (s : WaitStatus) : Bool := s.code? = some 0

/-- The code that the plugin ends with for a child: the child's own, or 128 and the number of the
signal that killed it, as shells report it. -/
def relay (s : WaitStatus) : Int :=
  match s.code? with
  | some code => code
  | none =>
    match s.signal? with
    | some signal => 128 + signal
    | none => -1

def signalText (n : Nat) : String :=
  match Signal.name? n with
  | some name => s!"{n} (SIG{name})"
  | none => toString n

def describe (s : WaitStatus) : String :=
  match s.code? with
  | some code => s!"exit status: {code}"
  | none =>
    match s.signal? with
    | some signal =>
      "signal: " ++ signalText signal ++ (if s.dumped then " (core dumped)" else "")
    | none => s!"stopped (not terminated) by signal: {signalText (s.raw.toNat / 256 % 256)}"

end WaitStatus

end KubePlugin
