import KubePlugin.Machine.Shell.Expand
import KubePlugin.WaitStatus

namespace KubePlugin.Machine

open Shell

inductive Sink where
  | output
  | errors
  | reader
  | pipe (n : Nat)
  | file (loc : Location)
  | nowhere
deriving DecidableEq, Repr

inductive Source where
  | input
  | bytes (content : List UInt8)
  | pipe (n : Nat)
deriving DecidableEq, Repr

structure Streams where
  input : Source
  output : Sink
  errors : Sink
deriving DecidableEq, Repr

inductive Task where
  | run (script : Script)
  | builtin (line : Nat) (words : List RawText)
  | fill (script : Script) (pipe : Nat)
  | afterSuccess (script : Script)
  | afterFailure (script : Script)
  | invert
  | choose (yes no : Script)
  | select (value : RawText) (clauses : Script)
  | forEach (name : String) (values : List RawText) (body : Script)
  | again (success : Bool) (condition body : Script)
  | loop (success : Bool) (condition body : Script)
  | check
  | leave (args : Option (List RawText)) (saved : List (String × Option RawText))
  | restore (streams : Streams)
  | settle (status : Nat)
deriving DecidableEq, Repr

inductive Activity where
  | running
  | asleep (wake : Nat)
  | waitingFor (ids : List Nat)
  | waitingForJobs (id : Option Nat)
  | collecting (pipe id : Nat)
  | reading (pipe : Nat) (line : Bool)
  | ended (status : WaitStatus)
deriving DecidableEq, Repr

structure Process where
  id : Nat
  parent : Nat
  group : Nat
  settings : Settings
  streams : Streams
  tasks : List Task
  activity : Activity := .running
  pending : List Nat := []
deriving DecidableEq, Repr

namespace Process

def isAlive (p : Process) : Bool :=
  match p.activity with
  | .ended _ => false
  | _ => true

def ending? (p : Process) : Option WaitStatus :=
  match p.activity with
  | .ended status => some status
  | _ => none

def signalled (p : Process) (signal : Nat) : Process :=
  if !p.isAlive || signal = 0 then p
  else if signal ≠ Signal.kill ∧ signal ∈ p.settings.ignored then p
  else if signal ≠ Signal.kill ∧ (p.settings.traps.lookup signal).isSome then
    { p with pending := p.pending ++ [signal] }
  else if Signal.isHarmless signal then p
  else { p with activity := .ended (.killed signal) }

def allStreams (p : Process) : List Streams :=
  p.streams :: p.tasks.filterMap fun task =>
    match task with
    | .restore streams => some streams
    | _ => none

def writesTo (p : Process) (sinks : List Sink) : Bool :=
  p.isAlive && p.allStreams.any fun s => s.output ∈ sinks || s.errors ∈ sinks

def readsFrom (p : Process) (pipe : Nat) : Bool :=
  match p.activity with
  | .ended _ => false
  | .collecting n _ => n = pipe || p.allStreams.any fun s => s.input = .pipe pipe
  | _ => p.allStreams.any fun s => s.input = .pipe pipe

def withStatus (p : Process) (status : Nat) : Process :=
  { p with settings := { p.settings with status := status } }

end Process

structure World where
  files : Files := {}
  clock : Nat := 0
  processes : List Process := []
  next : Nat := 2
  input : List UInt8 := []
  output : List UInt8 := []
  errors : List UInt8 := []
  unread : List UInt8 := []
  pipes : List (List UInt8) := []
  signals : List Nat := []
  environment : List (String × RawText) := []
  here : Location := []
deriving DecidableEq, Repr, Inhabited

namespace World

def programId : Nat := 1

def epoch : Time := ⟨1770000000, 0⟩

def now (w : World) : Time := epoch.addMillis w.clock

def process? (w : World) (id : Nat) : Option Process :=
  w.processes.find? fun p => p.id = id

def put (w : World) (p : Process) : World :=
  { w with processes := w.processes.map fun q => if q.id = p.id then p else q }

def add (w : World) (make : Nat → Process) : World :=
  { w with processes := w.processes ++ [make w.next], next := w.next + 1 }

def write (w : World) (sink : Sink) (bytes : List UInt8) : World :=
  match sink with
  | .output => { w with output := w.output ++ bytes }
  | .errors => { w with errors := w.errors ++ bytes }
  | .reader => { w with unread := w.unread ++ bytes }
  | .pipe n => { w with pipes := w.pipes.modify n (· ++ bytes) }
  | .file loc => { w with files := w.files.append w.now loc bytes }
  | .nowhere => w

def signal (w : World) (id signal : Nat) : World :=
  if id = programId then { w with signals := w.signals ++ [signal] }
  else { w with processes := w.processes.map fun p => if p.id = id then p.signalled signal else p }

def signalGroup (w : World) (group signal : Nat) : World :=
  { w with processes :=
      w.processes.map fun p => if p.group = group then p.signalled signal else p }

def hasWriterTo (w : World) (sinks : List Sink) : Bool :=
  w.processes.any fun p => p.writesTo sinks

def hasWriter (w : World) : Bool := w.hasWriterTo [.reader]

def hasSpeaker (w : World) : Bool := w.hasWriterTo [.output, .errors]

def hasReader (w : World) (pipe : Nat) : Bool :=
  w.processes.any fun p => p.readsFrom pipe

def pipeContent (w : World) (pipe : Nat) : List UInt8 := w.pipes.getD pipe []

def setPipe (w : World) (pipe : Nat) (bytes : List UInt8) : World :=
  { w with pipes := w.pipes.set pipe bytes }

def addPipe (w : World) : World × Nat := ({ w with pipes := w.pipes ++ [[]] }, w.pipes.length)

end World

end KubePlugin.Machine
