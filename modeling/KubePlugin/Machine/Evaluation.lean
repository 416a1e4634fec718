import KubePlugin.Machine.Utility

/-!
How a shell carries out its script. A command is done in tasks, which stand in front of what the
process has to do: a command that waits for another one, or that runs several, leaves the rest as
tasks.
-/

namespace KubePlugin.Machine

open Shell

namespace Turn

variable (t : Turn)

def cannot (line : Nat) (verb missing : String) (path : Path) (e : IoError) : Turn :=
  t.fail line
    (RawText.ofString s!"cannot {verb} " ++ path ++ RawText.ofString ": " ++
      RawText.ofString (openFailure missing e)) 2

def ownSink? (path : Path) : Option Sink :=
  match path.text? with
  | some "/dev/stdout" => some t.process.streams.output
  | some "/dev/stderr" => some t.process.streams.errors
  | _ => none

def openFile (append : Bool) (path : Path) : Except IoError (Sink × Files) :=
  let files := t.world.files
  match t.ownSink? path, append, files.find t.settings.here path with
  | some sink, _, _ => .ok (sink, files)
  | _, true, .ok (loc, ⟨.file .., _⟩) => .ok (.file loc, files)
  | _, _, _ =>
    (files.openForWriting t.settings.here t.world.now Files.plainMode path).map
      fun opened => (.file opened.1, opened.2)

def withSink (stream : Nat) (sink : Sink) : Turn :=
  let streams := t.process.streams
  let streams :=
    if stream = 1 then { streams with output := sink }
    else if stream = 2 then { streams with errors := sink }
    else streams
  { t with process := { t.process with streams := streams } }

def withSource (source : Source) : Turn :=
  { t with process := { t.process with streams := { t.process.streams with input := source } } }

def expanded {α : Type} (line : Nat) (expansion : Expansion α) (next : Turn → α → Turn) : Turn :=
  match expansion t.settings with
  | .ok (value, settings) => next (t.settle fun _ => settings) value
  | .error text => t.giveUp line text

def redirect (line : Nat) (r : Redirect) (word : RawText) : Except Turn Turn :=
  match r with
  | .toFile stream append _ =>
    match t.openFile append word with
    | .ok (sink, files) =>
      .ok (({ t with world := { t.world with files := files } }).withSink stream sink)
    | .error e => .error (t.cannot line "create" "Directory nonexistent" word e)
  | .fromFile _ =>
    match t.world.files.read t.settings.here word with
    | .ok content => .ok (t.withSource (.bytes content))
    | .error e => .error (t.cannot line "open" "No such file" word e)
  | .fromText _ => .ok (t.withSource (.bytes word.bytes))
  | .duplicate stream other =>
    if other = 1 then .ok (t.withSink stream t.process.streams.output)
    else if other = 2 then .ok (t.withSink stream t.process.streams.errors)
    else if other = 0 then .ok t
    else .error (t.fail line (RawText.ofString s!"{other}: Bad file descriptor") 2)

def redirectAll (line : Nat) (redirects : List (Redirect × RawText)) : Except Turn Turn :=
  redirects.foldlM (fun t r => t.redirect line r.1 r.2) t

def redirected (line : Nat) (redirects : List (Redirect × RawText)) (next : Turn → Turn) : Turn :=
  match redirects with
  | [] => next t
  | _ :: _ =>
    match (t.push (.restore t.process.streams)).redirectAll line redirects with
    | .ok t => next t
    | .error failed =>
      { failed with process :=
          { failed.process with streams := t.process.streams, tasks := t.process.tasks } }

def await (ids : List Nat) : Turn := t.become (.waitingFor ids)

def subshell (body : Script) : Turn :=
  let started := t.spawn t.subshellSettings t.process.streams [.run body]
  started.1.await [started.2]

def background (body : Script) : Turn :=
  let own := t.subshellSettings
  let settings := { own with ignored := own.ignored ++ [Signal.int, 3] }
  let streams := { t.process.streams with input := .bytes [] }
  let started := t.spawn settings streams [.run body]
  (started.1.settle fun s => { s with job := some started.2 }).status 0

def stages : Script → List Script
  | .pipeline first second => first :: stages second
  | s => [s]

def startStages (written complaints : Sink) : Turn → Source → List Script → Turn × List Nat
  | t, _, [] => (t, [])
  | t, source, [last] =>
    let started := t.spawn t.subshellSettings ⟨source, written, complaints⟩ [.run last]
    (started.1, [started.2])
  | t, source, first :: rest =>
    let piped := t.world.addPipe
    let t := { t with world := piped.1 }
    let started := t.spawn t.subshellSettings ⟨source, .pipe piped.2, complaints⟩ [.run first]
    let more := startStages written complaints started.1 (.pipe piped.2) rest
    (more.1, started.2 :: more.2)

def pipeline (stages : List Script) : Turn :=
  let streams := t.process.streams
  let started := startStages streams.output streams.errors t streams.input stages
  started.1.await started.2

def noProgram (line : Nat) (name : RawText) (e : IoError) : Turn :=
  t.fail line (name ++ RawText.ofString (": " ++ openFailure "not found" e))
    (if e = .notFound then 127 else 126)

def ownVariables : List (String × RawText) := [("PWD", pathOf t.settings.here)]

def external (line : Nat) (extra : List (String × RawText)) (words : List RawText) : Turn :=
  match t.program words with
  | .ok image =>
    let settings := t.programSettings image t.world.next (t.ownVariables ++ extra)
    let started := t.spawn settings t.process.streams image.tasks
    started.1.await [started.2]
  | .error e => t.noProgram line (words.headD RawText.empty) e

def exec (line : Nat) (words : List RawText) : Turn :=
  match t.program words with
  | .ok image => t.replace image t.ownVariables
  | .error e =>
    (t.noProgram line (RawText.ofString "exec: " ++ words.headD RawText.empty) e).leave

def assignAll (values : List (String × RawText)) : Turn :=
  t.settle fun s => values.foldl (fun s v => s.assign v.1 v.2) s

def call (body : Script) (args : List RawText) : Turn :=
  let t := t.push (.leave (some t.settings.args) [])
  (t.settle fun s => { s with args := args }).push (.run body)

def giveBack (args : Option (List RawText)) (saved : List (String × Option RawText)) : Turn :=
  t.settle fun s =>
    let s := match args with
      | some args => { s with args := args }
      | none => s
    saved.foldl
      (fun s v =>
        match v.2 with
        | some value => s.assign v.1 value
        | none => s.forget v.1) s

def command (line : Nat) (values : List (String × RawText)) (name : RawText)
    (args : List RawText) : Turn :=
  match (t.assignAll values).inShell? line name.lossy args with
  | some done =>
    if name.lossy ∈ specialNames then done
    else done.giveBack none (values.map fun v => (v.1, t.settings.vars.lookup v.1))
  | none => t.external line values (name :: args)

def runWords (line : Nat) (isFilled : Bool) (values : List (String × RawText)) :
    List RawText → Turn
  | [] => (t.assignAll values).status (if isFilled then t.settings.innerStatus else 0)
  | name :: args =>
    match t.settings.functions.lookup name.lossy with
    | some body => (t.assignAll values).call body args
    | none =>
      if name = RawText.ofString "command" then
        match args with
        | [] => t.status 0
        | first :: rest =>
          if first = RawText.ofString "-v" then describe false (t.status 0) rest
          else if first = RawText.ofString "-V" then describe true (t.status 0) rest
          else t.command line values first rest
      else t.command line values name args

structure Expanded where
  fields : List RawText
  targets : List RawText
  values : List (String × RawText)

def expandSimple (assignments : List (String × WordParts)) (words : List WordParts)
    (redirects : List Redirect) : Expansion Expanded := do
  let fields ← Expansion.allFields words
  let targets ← redirects.mapM fun r => Expansion.whole r.word
  let values ← assignments.mapM fun a => do pure (a.1, ← Expansion.whole a.2)
  pure ⟨fields.flatMap (fileNames t.world.files t.settings.here), targets, values⟩

def simple (line : Nat) (isFilled : Bool) (assignments : List (String × WordParts))
    (words : List WordParts) (redirects : List Redirect) : Turn :=
  t.expanded line (t.expandSimple assignments words redirects) fun t e =>
    let redirects := redirects.zip e.targets
    if e.fields.head? = some (RawText.ofString "exec") then
      match t.redirectAll line redirects with
      | .error failed => failed.leave
      | .ok t => if e.fields.tail = [] then t.status 0 else t.exec line e.fields.tail
    else t.redirected line redirects fun t => t.runWords line isFilled e.values e.fields

def substitute (script : Script) (text : List Char) : Turn :=
  let piped := t.world.addPipe
  let t := ({ t with world := piped.1 }).push (.fill script piped.2)
  let streams := { t.process.streams with output := .pipe piped.2 }
  let started := t.spawn t.subshellSettings streams [.run (Script.ofText script.line text)]
  started.1.become (.collecting piped.2 started.2)

def isChecked : Script → Bool
  | .simple .. => true
  | .subshell _ => true
  | .pipeline .. => true
  | _ => false

def perform (script : Script) : Turn :=
  let t := if isChecked script then t.push .check else t
  match script with
  | .skip => t
  | .simple line assignments words redirects =>
    t.simple line script.isFilled assignments words redirects
  | .sequence first second => (t.push (.run second)).push (.run first)
  | .both first second => (t.push (.afterSuccess second)).push (.run first)
  | .either first second => (t.push (.afterFailure second)).push (.run first)
  | .negate body => (t.push .invert).push (.run body)
  | .pipeline first second => t.pipeline (stages (.pipeline first second))
  | .subshell body => t.subshell body
  | .group line body redirects =>
    t.expanded line (redirects.mapM fun r => Expansion.whole r.word) fun t targets =>
      t.redirected line (redirects.zip targets) fun t => t.push (.run body)
  | .background body => t.background body
  | .forEach name none body => (t.status 0).push (.forEach name t.settings.args body)
  | .forEach name (some words) body =>
    t.expanded 1 (Expansion.allFields words) fun t fields =>
      let values := fields.flatMap (fileNames t.world.files t.settings.here)
      (t.status 0).push (.forEach name values body)
  | .ifThen condition yes no => (t.push (.choose yes no)).push (.run condition)
  | .loop success condition body => (t.status 0).push (.again success condition body)
  | .choice word clauses =>
    t.expanded 1 (Expansion.whole word) fun t value => (t.status 0).push (.select value clauses)
  | .clause .. => t
  | .define name body =>
    (t.settle fun s =>
      { s with functions := (name, body) :: s.functions.filter fun f => f.1 ≠ name }).status 0
  | .broken line fault => t.giveUp line (RawText.ofString fault)

def runScript (script : Script) : Turn :=
  match script.command? with
  | some text => t.substitute script text
  | none => t.perform script

def select (value : RawText) : Script → Turn
  | .clause patterns body others =>
    t.expanded 1 (patterns.mapM Expansion.pattern) fun t patterns =>
      if patterns.any (Pattern.fits · value.bytes) then t.push (.run body)
      else t.push (.select value others)
  | _ => t

def withoutEnd (bytes : List UInt8) : List UInt8 :=
  (bytes.reverse.dropWhile (· = 0x0A)).reverse

def carryOut : Task → Turn
  | .run script => t.runScript script
  | .builtin line words =>
    match words with
    | [] => t
    | name :: args => t.system line name.lossy args
  | .fill script pipe =>
    let written := withoutEnd ((t.world.pipeContent pipe).filter (· ≠ 0))
    t.push (.run (script.fill written))
  | .afterSuccess script => if t.succeeded then t.push (.run script) else t
  | .afterFailure script => if t.succeeded then t else t.push (.run script)
  | .invert => t.status (if t.succeeded then 1 else 0)
  | .choose yes no =>
    if t.succeeded then t.push (.run yes)
    else if no = .skip then t.status 0
    else t.push (.run no)
  | .select value clauses => t.select value clauses
  | .forEach _ [] _ => t
  | .forEach name (value :: values) body =>
    (((t.push (.forEach name values body)).push (.run body))).settle fun s => s.assign name value
  | .again success condition body => (t.push (.loop success condition body)).push (.run condition)
  | .loop success condition body =>
    if t.succeeded = success then (t.push (.again success condition body)).push (.run body)
    else t.status 0
  | .check => if t.settings.exitsOnFailure && !t.succeeded && !t.isAsked then t.leave else t
  | .leave args saved => t.giveBack args saved
  | .restore streams => { t with process := { t.process with streams := streams } }
  | .settle status => t.status status

end Turn

end KubePlugin.Machine
