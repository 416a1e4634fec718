import KubePlugin.Host

/-!
How a tool is run as a child. Three parties take steps in any order: the main flow, which starts
the child, waits for it and cleans up; a listener beside it, which kills the child's group when a
signal arrives; and the world, which sends signals and ends children. A move is one step of one of
them, and `step` says whether a move is possible and where it leads.
-/

namespace KubePlugin

inductive Cancellation where
  | interrupt
  | terminate
deriving DecidableEq, Repr

def Cancellation.signal : Cancellation → Nat
  | interrupt => Signal.int
  | terminate => Signal.term

def Cancellation.ofSignal? (n : Nat) : Option Cancellation :=
  if n = Signal.int then some interrupt else if n = Signal.term then some terminate else none

namespace Supervision

inductive Flow where
  | start
  | registered
  | spawned
  | waiting
  | waited (outcome : Except IoError WaitStatus)
  | aborted (outcome : Except IoError WaitStatus)
  | joined (outcome : Except IoError WaitStatus)
  | disposed (outcome : Except IoError WaitStatus)
  | returned (result : Except PluginError Int)
deriving DecidableEq, Repr

inductive Listener where
  | absent
  | listening
  /-- It has taken a signal and is about to kill; it can no longer be stopped. -/
  | roused (signal : Cancellation)
  | finished
  | stopped
deriving DecidableEq, Repr

def Listener.isLive : Listener → Bool
  | listening => true
  | roused _ => true
  | _ => false

inductive Child where
  | absent
  | alive
  | ended (status : WaitStatus)
  /-- It was waited for; its number may be given to another process. -/
  | reaped (status : WaitStatus)
deriving DecidableEq, Repr

structure Kill where
  group : Nat
  child : Child
deriving DecidableEq, Repr

structure State where
  flow : Flow := .start
  catching : Bool := false
  listener : Listener := .absent
  child : Child := .absent
  group : Nat := 0
  pending : List Cancellation := []
  kills : List Kill := []
  disposals : Nat := 0
deriving DecidableEq, Repr

inductive Move where
  | register (succeeds : Bool)
  | spawn (outcome : Except IoError Nat)
  | startListener
  | reap
  | waitFails (cause : IoError)
  | abort
  | join
  | dispose
  | finish
  | rouse (signal : Cancellation)
  | kill
  | arrive (signal : Cancellation)
  | exit (status : WaitStatus)
  | die
deriving DecidableEq, Repr

def addPending (signal : Cancellation) (pending : List Cancellation) : List Cancellation :=
  if signal ∈ pending then pending else pending ++ [signal]

def resultOf : Except IoError WaitStatus → Except PluginError Int
  | .ok status => .ok status.relay
  | .error cause => .error (.wait cause)

def step (i : Invocation) (s : State) : Move → Option State
  | .register succeeds =>
    if s.flow = .start then some { s with flow := .registered, catching := succeeds } else none
  | .spawn outcome =>
    if s.flow = .registered then
      match outcome with
      | .ok group => some { s with flow := .spawned, child := .alive, group := group }
      | .error cause =>
        some { s with flow := .returned (.error (.launch i.tool i.program cause)) }
    else none
  | .startListener =>
    if s.flow = .spawned then
      some { s with flow := .waiting, listener := if s.catching then .listening else .absent }
    else none
  | .reap =>
    match s.flow, s.child with
    | .waiting, .ended status =>
      some { s with flow := .waited (.ok status), child := .reaped status }
    | _, _ => none
  | .waitFails cause =>
    if s.flow = .waiting then some { s with flow := .waited (.error cause) } else none
  | .abort =>
    match s.flow with
    | .waited outcome =>
      some { s with
        flow := .aborted outcome
        listener := if s.listener = .listening then .stopped else s.listener }
    | _ => none
  | .join =>
    match s.flow with
    | .aborted outcome =>
      if s.listener.isLive then none else some { s with flow := .joined outcome }
    | _ => none
  | .dispose =>
    match s.flow with
    | .joined outcome =>
      some { s with
        flow := .disposed outcome
        disposals := if s.listener.isLive then s.disposals else s.disposals + 1 }
    | _ => none
  | .finish =>
    match s.flow with
    | .disposed outcome => some { s with flow := .returned (resultOf outcome) }
    | _ => none
  | .rouse signal =>
    if s.listener = .listening ∧ signal ∈ s.pending then
      some { s with listener := .roused signal, pending := s.pending.erase signal }
    else none
  | .kill =>
    match s.listener with
    | .roused _ =>
      some { s with listener := .finished, kills := s.kills ++ [⟨s.group, s.child⟩] }
    | _ => none
  | .arrive signal =>
    if s.catching then some { s with pending := addPending signal s.pending } else none
  | .exit status =>
    if s.child = .alive then some { s with child := .ended status } else none
  | .die =>
    if s.child = .alive ∧ s.kills ≠ [] then
      some { s with child := .ended (.killed Signal.kill) }
    else none

def run (i : Invocation) : State → List Move → Option State
  | s, [] => some s
  | s, move :: rest =>
    match step i s move with
    | some s => run i s rest
    | none => none

def events (i : Invocation) (s : State) : Move → List Log.Event
  | .spawn (.ok group) => [i.started group]
  | .rouse signal => [signalReceived signal.signal]
  | .kill => [killingGroup s.group]
  | .finish =>
    match s.flow with
    | .disposed (.ok status) => [i.ended status]
    | _ => []
  | _ => []

end Supervision

end KubePlugin
