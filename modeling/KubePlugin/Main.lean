import KubePlugin.Machine.Setup
import Std.Time.DateTime.Timestamp

/-!
The plugin on the command line. What it finds is looked up in the files of the system; a tool that
is a script is run by the shell of this library, in a world that holds the script and nothing else
of the system's files.
-/

namespace KubePlugin.Main

open Machine

def variableNames : List String :=
  [ "PATH", "HOME", "NEON_LOG", "NO_COLOR", "CLICOLOR", "CLICOLOR_FORCE", "TERM", "CI",
    LocatorConfig.installVariable ] ++ LocatorConfig.rootVariables

def readVariables : List String → IO (List (String × RawText))
  | [] => pure []
  | name :: rest => do
    let value ← IO.getEnv name
    let others ← readVariables rest
    match value with
    | some text => pure ((name, RawText.ofString text) :: others)
    | none => pure others

def statusOf (path : Path) : IO (Option FileStatus) := do
  match path.text? with
  | none => pure none
  | some text =>
    try
      let real ← IO.FS.realPath text
      let known ← real.metadata
      let isFolder := match known.type with
        | .dir => true
        | _ => false
      pure (some ⟨isFolder, known.modified.sec, known.modified.nsec.toNat⟩)
    catch _ => pure none

def statusesOf : List Path → IO (List (Path × FileStatus))
  | [] => pure []
  | path :: rest => do
    let status ← statusOf path
    let others ← statusesOf rest
    match status with
    | some s => pure ((path, s) :: others)
    | none => pure others

def contentOf (path : Path) : IO (Option (List UInt8)) := do
  match path.text? with
  | none => pure none
  | some text =>
    try
      let bytes ← IO.FS.readBinFile text
      pure (some bytes.toList)
    catch _ => pure none

partial def readAll (stream : IO.FS.Stream) : IO (List UInt8) := do
  let bytes ← stream.read 65536
  if bytes.isEmpty then pure []
  else do
    let rest ← readAll stream
    pure (bytes.toList ++ rest)

def currentTime : IO Time := do
  let t ← Std.Time.Timestamp.now
  pure ⟨t.val.second.val, t.val.nano.val.toNat⟩

abbrev Answers := ExceptT WaitStatus IO

def worldFor (environment : List (String × RawText)) (program : Path) (input : List UInt8) :
    IO World := do
  let here ← IO.currentDir
  let world := (World.start [RawText.ofString here.toString]).fresh environment input
  match ← contentOf program with
  | none => pure world
  | some content =>
    let stored := world.withFiles fun files folder now =>
      files.store folder now program content Files.programMode now
    pure (stored.toOption.getD world)

def happen {α : Type} (world : World) (act : Run α) : Answers α := do
  let ran := act world
  let out ← IO.getStdout
  out.write (ByteArray.mk ran.2.output.toArray)
  out.flush
  let err ← IO.getStderr
  err.write (ByteArray.mk ran.2.errors.toArray)
  match ran.1 with
  | .ok a => pure a
  | .error status => throw status

def host (preferences : Preferences) (environment : List (String × RawText)) : Host Answers where
  files := do
    let statuses ← statusesOf (Locator.inspected preferences.config)
    pure fun path => statuses.lookup path
  capture program args := do
    let world ← worldFor environment program []
    happen world (Run.capture program args)
  launch i := do
    let input ← readAll (← IO.getStdin)
    let world ← worldFor environment i.program input
    happen world (Run.launch (Run.log preferences) i)
  print text := do
    let out ← IO.getStdout
    out.putStrLn text
  log e :=
    if preferences.filter.shows e then do
      let time ← currentTime
      IO.eprintln (e.line preferences.logColor time.stamp)
    else pure ()

def codeOf (status : WaitStatus) : UInt32 := UInt32.ofNat status.relay.toNat

def run (args : List String) : IO UInt32 := do
  let environment ← readVariables variableNames
  let terminal ← (← IO.getStdout).isTty
  let preferences := Preferences.ofLookup terminal fun name => environment.lookup name
  let argv := RawText.ofString Surface.plugin.name :: args.map RawText.ofString
  match ← (runProgram (host preferences environment) preferences argv).run with
  | .error status => pure (codeOf status)
  | .ok ending => do
    IO.print ending.output
    IO.eprint ending.errors
    pure (codeOf ending.status)

end KubePlugin.Main

def main (args : List String) : IO UInt32 := KubePlugin.Main.run args
