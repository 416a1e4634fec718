import KubePlugin.Machine.Evaluation

/-!
How processes go on. Of those that can, the one that was started first takes its turn, for one
task; when none can, the clock moves to the end of the shortest sleep. So what happens is settled
by the world alone.
-/

namespace KubePlugin.Machine

open Shell

namespace World

def seenStatus (status : WaitStatus) : Nat := status.relay.toNat

def endings? (w : World) (ids : List Nat) : Option Nat :=
  (ids.mapM fun id =>
    match w.process? id with
    | some child => child.ending?.map seenStatus
    | none => some 127).bind List.getLast?

def news? (w : World) (p : Process) : Option Nat :=
  match p.activity with
  | .waitingFor ids => w.endings? ids
  | .waitingForJobs (some id) => w.endings? [id]
  | .waitingForJobs none =>
    if w.processes.any fun q => q.parent = p.id && q.isAlive then none else some 0
  | .collecting pipe id => if w.hasWriterTo [.pipe pipe] then none else w.endings? [id]
  | .reading pipe line =>
    if (line && (w.pipeContent pipe).contains 0x0A) || !w.hasWriterTo [.pipe pipe] then
      some p.settings.status
    else none
  | _ => none

def informed (p : Process) (status : Nat) : Process :=
  match p.activity with
  | .collecting .. =>
    { p with activity := .running, settings := { p.settings with innerStatus := status } }
  | _ => { p with activity := .running }.withStatus status

def farewell (w : World) (p : Process) : List UInt8 :=
  match p.activity with
  | .waitingFor [id] => ofProcess id
  | .waitingForJobs (some id) => ofProcess id
  | _ => []
where
  ofProcess (id : Nat) : List UInt8 :=
    match ((w.process? id).bind Process.ending?).bind WaitStatus.signal? with
    | some signal =>
      match Signal.farewells.lookup signal with
      | some text => (RawText.ofString text).bytes ++ [0x0A]
      | none => []
    | none => []

def answering? (p : Process) : Option Process :=
  match p.pending with
  | [] => none
  | signal :: pending =>
    match p.activity with
    | .running => some (answer p signal pending p.settings.status)
    | .waitingForJobs _ => some (answer p signal pending (128 + signal))
    | _ => none
where
  answer (p : Process) (signal : Nat) (pending : List Nat) (status : Nat) : Process :=
    let action := (p.settings.traps.lookup signal).getD RawText.empty
    { p with
      pending := pending
      activity := .running
      tasks := .run (Script.ofText 1 (charsOf action.bytes)) :: .settle status :: p.tasks }

def atEnd (p : Process) : Process :=
  match p.settings.traps.lookup 0 with
  | some action =>
    { p with
      settings := { p.settings with traps := p.settings.traps.filter fun a => a.1 ≠ 0 }
      tasks := [.run (Script.ofText 1 (charsOf action.bytes)), .settle p.settings.status] }
  | none => { p with activity := .ended (.exited p.settings.status) }

def turn? (w : World) (p : Process) : Option World :=
  match answering? p with
  | some p => some (w.put p)
  | none =>
    match p.activity with
    | .running =>
      match p.tasks with
      | [] => some (w.put (atEnd p))
      | task :: rest => some ((Turn.mk w { p with tasks := rest }).carryOut task).done
    | _ =>
      (w.news? p).map fun status =>
        (w.write p.streams.errors (w.farewell p)).put (informed p status)

def step? (w : World) : Option World := w.processes.findSome? (w.turn? ·)

def wake? (p : Process) : Option Nat :=
  match p.activity with
  | .asleep wake => some wake
  | _ => none

def atClock (w : World) (clock : Nat) : World :=
  { w with
    clock := clock
    processes := w.processes.map fun p =>
      match wake? p with
      | some wake => if wake ≤ clock then { p with activity := .running } else p
      | none => p }

def sleep? (w : World) : Option World :=
  ((w.processes.filterMap wake?).min?).map fun wake => w.atClock (max w.clock wake)

def advance? (w : World) : Option World := w.step? <|> w.sleep?

def runUntil (stop : World → Bool) : Nat → World → World
  | 0, w => w
  | fuel + 1, w =>
    if stop w then w
    else
      match w.advance? with
      | some w => runUntil stop fuel w
      | none => w

def stepLimit : Nat := 1000000

def pause (w : World) (ms : Nat) : World :=
  let due := w.clock + ms
  (go due stepLimit w).atClock due
where
  go (due : Nat) : Nat → World → World
  | 0, w => w
  | fuel + 1, w =>
    match w.step? with
    | some w => go due fuel w
    | none =>
      match (w.processes.filterMap wake?).min? with
      | some wake => if wake ≤ due then go due fuel (w.atClock (max w.clock wake)) else w
      | none => w

end World

end KubePlugin.Machine
