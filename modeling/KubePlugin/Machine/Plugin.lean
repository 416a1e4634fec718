import KubePlugin.Machine.Scheduler
import KubePlugin.Program
import KubePlugin.Supervision

/-!
The plugin in a world of its own: its requests are answered by the files and the processes of that
world. A run can end at any request, since the plugin may be killed, or a tool may take its place.
-/

namespace KubePlugin.Machine

abbrev Run := ExceptT WaitStatus (StateM World)

namespace Run

def deadlySignals (w : World) : List Nat :=
  w.signals.filter fun n => !Signal.isHarmless n && n ≠ Signal.pipe

def checkSignals (caught : Nat → Bool) : Run Unit := do
  match (deadlySignals (← get)).filter (!caught ·) with
  | signal :: _ => throw (.killed signal)
  | [] => pure ()

def checkOtherSignals : Run Unit := checkSignals fun n => (Cancellation.ofSignal? n).isSome

def endingOf? (w : World) (id : Nat) : Option WaitStatus := (w.process? id).bind Process.ending?

def waitFor (id : Nat) (further : World → Bool) : Run WaitStatus := do
  let stop (w : World) : Bool :=
    ((endingOf? w id).isSome && further w) || !(deadlySignals w).isEmpty
  modify (World.runUntil stop World.stepLimit)
  checkSignals fun _ => false
  match endingOf? (← get) id with
  | some status => pure status
  | none => throw (.killed Signal.kill)

def image (fallback : Bool) (program : Path) (args : List RawText) :
    Run (Except IoError Image) := do
  let w ← get
  pure (Image.start w.files w.here fallback w.environment program args)

def start (image : Image) (alone : Bool) (parent : Nat) (here : Location) (streams : Streams) :
    Run Nat := do
  let w ← get
  set (w.add fun id =>
    image.process id parent (if alone then id else World.programId) w.environment here streams)
  pure w.next

def ownStreams : Streams := ⟨.input, .output, .errors⟩

def capture (program : Path) (args : List String) : Run Capture := do
  match ← image false program (args.map RawText.ofString) with
  | .error cause => pure (.notStarted cause)
  | .ok image => do
    let id ← start image false World.programId (← get).here ⟨.bytes [], .reader, .errors⟩
    let status ← waitFor id fun w => !w.hasWriter
    let w ← get
    set { w with unread := [] }
    pure (.ended status ⟨w.unread⟩)

def replace (i : Invocation) : Run (Except PluginError Int) := do
  match ← image true i.program i.args with
  | .error cause => pure (.error (.launch i.tool i.program cause))
  | .ok image => do
    let id ← start image false 0 (← get).here ownStreams
    let status ← waitFor id fun _ => true
    throw status

def takeCancellation : Run (Option Cancellation) := do
  let w ← get
  match w.signals.findSome? Cancellation.ofSignal? with
  | some c => do
    set { w with signals := w.signals.erase c.signal }
    pure (some c)
  | none => pure none

def spawnMove (i : Invocation) : Run Supervision.Move := do
  match ← image false i.program i.args with
  | .error cause => pure (.spawn (.error cause))
  | .ok image => do
    let id ← start image true World.programId (← get).here ownStreams
    pure (.spawn (.ok id))

/-- What a supervision with a living child does next. A signal that is not caught ends the program
at once. Processes go on as long as they can; only then the signals that were caught are looked at,
and at last the clock moves, which is no step. -/
def waitMove (s : Supervision.State) : Run (Option Supervision.Move) := do
  checkOtherSignals
  let w ← get
  match endingOf? w s.group with
  | some status =>
    pure (some (if s.kills ≠ [] ∧ status = .killed Signal.kill then .die else .exit status))
  | none =>
    match w.step? with
    | some w => do
      set w
      pure none
    | none => do
      match ← takeCancellation with
      | some c => pure (some (.arrive c))
      | none =>
        match s.listener, s.pending with
        | .listening, c :: _ => pure (some (.rouse c))
        | _, _ =>
          match w.sleep? with
          | some w => do
            set w
            pure none
          | none => throw (.killed Signal.kill)

def nextMove (i : Invocation) (s : Supervision.State) : Run (Option Supervision.Move) := do
  match s.flow with
  | .start => pure (some (.register true))
  | .registered => some <$> spawnMove i
  | .spawned => pure (some .startListener)
  | .waiting =>
    match s.listener with
    | .roused _ => do
      modify fun w => w.signalGroup s.group Signal.kill
      pure (some .kill)
    | _ => if s.child = .alive then waitMove s else pure (some .reap)
  | .waited _ => pure (some .abort)
  | .aborted _ => pure (some .join)
  | .joined _ => pure (some .dispose)
  | .disposed _ => pure (some .finish)
  | .returned _ => pure none

def supervise (log : Log.Event → Run Unit) (i : Invocation) :
    Nat → Supervision.State → Run (Except PluginError Int)
  | 0, _ => throw (.killed Signal.kill)
  | fuel + 1, s =>
    match s.flow with
    | .returned result => pure result
    | _ => do
      match ← nextMove i s with
      | none => supervise log i fuel s
      | some move => do
        logEach (Supervision.events i s move)
        match Supervision.step i s move with
        | some s => supervise log i fuel s
        | none => throw (.killed Signal.kill)
where
  logEach : List Log.Event → Run Unit
  | [] => pure ()
  | e :: rest => do
    log e
    logEach rest

def launch (log : Log.Event → Run Unit) (i : Invocation) : Run (Except PluginError Int) := do
  log i.launching
  match i.mode with
  | .replace => replace i
  | .supervised => supervise log i World.stepLimit {}

def say (text : String) : Run Unit :=
  modify fun w => w.write .output (RawText.ofString text).bytes

def complain (text : String) : Run Unit :=
  modify fun w => w.write .errors (RawText.ofString text).bytes

def log (preferences : Preferences) (e : Log.Event) : Run Unit :=
  if preferences.filter.shows e then do
    let w ← get
    complain (e.line preferences.logColor w.now.stamp ++ "\n")
  else pure ()

def files : Run FileView := do
  let w ← get
  pure (w.files.status w.here)

def host (preferences : Preferences) : Host Run where
  files := files
  capture := capture
  launch := launch (log preferences)
  print text := say (text ++ "\n")
  log := log preferences

def quietHost : Host Run where
  files := files
  capture := capture
  launch := launch fun _ => pure ()
  print text := say (text ++ "\n")
  log _ := pure ()

def program (argv : List RawText) : Run Unit := do
  let w ← get
  let preferences := Preferences.ofLookup false fun name => w.environment.lookup name
  let ending ← runProgram (host preferences) preferences argv
  say ending.output
  complain ending.errors
  throw ending.status

end Run

namespace World

structure Report where
  status : WaitStatus
  output : RawText
  errors : RawText

def fresh (w : World) (environment : List (String × RawText)) (input : List UInt8) : World :=
  { w with
    environment := environment, input := input, output := [], errors := [], unread := [],
    signals := [] }

def runProgram (w : World) (program : Run Unit) : Report × World :=
  let ran := program w
  let w := ran.2.runUntil (fun w => !w.hasSpeaker) stepLimit
  let status := match ran.1 with
    | .ok _ => WaitStatus.exited 0
    | .error status => status
  (⟨status, ⟨w.output⟩, ⟨w.errors⟩⟩, w)

end World

end KubePlugin.Machine
