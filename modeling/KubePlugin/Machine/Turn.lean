import KubePlugin.Machine.Program

namespace KubePlugin.Machine

open Shell

structure Turn where
  world : World
  process : Process

namespace Turn

variable (t : Turn)

def done : World := t.world.put t.process

def settings : Settings := t.process.settings

def settle (f : Settings → Settings) : Turn :=
  { t with process := { t.process with settings := f t.process.settings } }

def become (activity : Activity) : Turn :=
  { t with process := { t.process with activity := activity } }

def push (task : Task) : Turn :=
  { t with process := { t.process with tasks := task :: t.process.tasks } }

def status (n : Nat) : Turn := { t with process := t.process.withStatus n }

def succeeded : Bool := t.settings.status = 0

def write (sink : Sink) (bytes : List UInt8) : Turn :=
  match sink with
  | .pipe n =>
    if bytes = [] ∨ t.world.hasReader n then { t with world := t.world.write sink bytes }
    else { t with process := t.process.signalled Signal.pipe }
  | sink => { t with world := t.world.write sink bytes }

def say (bytes : List UInt8) : Turn := t.write t.process.streams.output bytes

def sayWell (bytes : List UInt8) : Turn := (t.say bytes).status 0

def sayLines (lines : List RawText) : Turn := t.sayWell (lines.flatMap fun l => l.bytes ++ [0x0A])

def complain (text : RawText) : Turn := t.write t.process.streams.errors (text.bytes ++ [0x0A])

def mark (line : Nat) : RawText :=
  t.settings.name ++ RawText.ofString s!": {line}: "

def fail (line : Nat) (text : RawText) (n : Nat) : Turn :=
  (t.complain (t.mark line ++ text)).status n

def leave : Turn := { t with process := { t.process with tasks := [] } }

def wording : IoError → String
  | .os n => (IoError.description? n).getD "Unknown error"
  | .other text => text

def openFailure (missing : String) (e : IoError) : String :=
  if e = .notFound ∨ e = .notFolder then missing else wording e

def blame (complaint : RawText) (e : IoError) : Turn :=
  (t.complain (complaint ++ RawText.ofString (": " ++ wording e))).status 1

def change (outcome : Except IoError Files) (complaint : RawText) : Turn :=
  match outcome with
  | .ok files => { t with world := { t.world with files := files } }
  | .error e => t.blame complaint e

def natOf? (word : RawText) : Option Nat :=
  let isNumber := !word.isEmpty && word.bytes.all fun b => 0x30 ≤ b && b ≤ 0x39
  if isNumber then word.text?.bind String.toNat? else none

def readInput : List UInt8 × Turn :=
  match t.process.streams.input with
  | .input => (t.world.input, { t with world := { t.world with input := [] } })
  | .pipe n => (t.world.pipeContent n, { t with world := t.world.setPipe n [] })
  | .bytes content =>
    (content,
      { t with process :=
          { t.process with streams := { t.process.streams with input := .bytes [] } } })

def leaveInput (bytes : List UInt8) : Turn :=
  match t.process.streams.input with
  | .input => { t with world := { t.world with input := bytes } }
  | .pipe n => { t with world := t.world.setPipe n bytes }
  | .bytes _ =>
    { t with process :=
        { t.process with streams := { t.process.streams with input := .bytes bytes } } }

def withInput (line : Bool) (task : Task) (next : Turn → Turn) : Turn :=
  match t.process.streams.input with
  | .pipe n =>
    if (line && (t.world.pipeContent n).contains 0x0A) || !t.world.hasWriterTo [.pipe n] then next t
    else (t.push task).become (.reading n line)
  | _ => next t

def spawn (settings : Settings) (streams : Streams) (tasks : List Task) : Turn × Nat :=
  let child (id : Nat) : Process :=
    { id := id, parent := t.process.id, group := t.process.group, settings := settings,
      streams := streams, tasks := tasks }
  ({ t with world := t.world.add child }, t.world.next)

def isAsked : Bool :=
  t.process.tasks.any fun task =>
    match task with
    | .afterSuccess _ => true
    | .afterFailure _ => true
    | .invert => true
    | .choose .. => true
    | .loop .. => true
    | _ => false

def subshellSettings : Settings :=
  { t.settings with traps := [], exitsOnFailure := t.settings.exitsOnFailure && !t.isAsked }

def program (words : List RawText) : Except IoError Image :=
  let folders := (t.settings.value? "PATH").getD RawText.empty
  Image.search t.world.files t.settings.here true folders (words.headD RawText.empty) words.tail

def programSettings (image : Image) (id : Nat) (extra : List (String × RawText)) : Settings :=
  let s := extra.foldl (fun s v => s.assign v.1 v.2) t.settings
  let environment :=
    s.vars.filter fun v => v.1 ∈ s.exported ∨ v.1 ∈ extra.map (·.1)
  { name := image.name, id := id, parent := t.settings.id, args := image.args, vars := environment,
    exported := environment.map (·.1), ignored := s.ignored, here := s.here,
    exitsOnFailure := image.exitsOnFailure, refusesUnset := image.refusesUnset }

def replace (image : Image) (extra : List (String × RawText)) : Turn :=
  let settings := { t.programSettings image t.process.id extra with parent := t.settings.parent }
  { t with process := { t.process with settings := settings, tasks := image.tasks } }

def send (id signal : Nat) : Turn :=
  if id = t.process.id then { t with process := t.process.signalled signal }
  else { t with world := t.world.signal id signal }

def sendGroup (group signal : Nat) : Turn :=
  let world := t.world.signalGroup group signal
  if group = t.process.group then { world := world, process := t.process.signalled signal }
  else { t with world := world }

def hasProcess (id : Nat) : Bool :=
  id = World.programId || (t.world.process? id).any Process.isAlive

def hasGroup (group : Nat) : Bool :=
  t.world.processes.any fun p => p.group = group && p.isAlive

def unwind (isEnd : Task → Bool) : Turn :=
  { t with process := go t.process t.process.tasks }
where
  go (p : Process) : List Task → Process
  | [] => { p with tasks := [] }
  | task :: rest =>
    if isEnd task then { p with tasks := task :: rest }
    else
      match task with
      | .restore streams => go { p with streams := streams } rest
      | _ => go p rest

end Turn

end KubePlugin.Machine
