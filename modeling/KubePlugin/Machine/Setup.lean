import KubePlugin.Machine.Plugin

namespace KubePlugin.Machine

namespace Files

def locationOf (names : List String) : Location := names.map RawText.ofString

def standardFolders : List (List String) :=
  [ ["dev"], ["etc"], ["home"], ["opt"], ["root"], ["tmp"], ["usr"], ["usr", "bin"],
    ["usr", "local"], ["usr", "local", "bin"], ["var"] ]

def standard (now : Time) : Files where
  entries :=
    standardFolders.map (fun names => (locationOf names, ⟨.folder, now⟩)) ++
      Image.systemPrograms.map
        (fun name => (locationOf ["usr", "bin", name], ⟨.program name, now⟩)) ++
      [ (locationOf ["bin"], ⟨.link (RawText.ofString "usr/bin"), now⟩),
        (locationOf ["dev", "null"], ⟨.sink, now⟩) ]

def makeAbove (fs : Files) (here : Location) (now : Time) (path : Path) : Except IoError Files :=
  fs.makeFolders here now (Path.isAbsolute path) (Path.parts path).dropLast.reverse

def setTime (fs : Files) (here : Location) (path : Path) (time : Time) : Except IoError Files :=
  match fs.find here path with
  | .ok (loc, entry) => .ok (fs.put loc { entry with modified := time })
  | .error e => .error e

def store (fs : Files) (here : Location) (now : Time) (path : Path) (content : List UInt8)
    (mode : Nat) (time : Time) : Except IoError Files := do
  let fs ← fs.makeAbove here now path
  let (loc, fs) ← fs.openForWriting here now mode path
  let fs := (fs.append now loc content).setModeAt loc mode
  fs.setTime here path time

def place (fs : Files) (here : Location) (now : Time) (path : Path) (node : Node) :
    Except IoError Files := do
  let fs ← fs.makeAbove here now path
  match ← fs.resolve here false path with
  | .vacant loc => pure (fs.put loc ⟨node, now⟩)
  | .found .. => .error .alreadyExists

def remove (fs : Files) (here : Location) (path : Path) : Except IoError Files := do
  match ← fs.resolve here false path with
  | .found loc _ => pure (fs.removeAt loc)
  | .vacant _ => .error .notFound

end Files

namespace World

def start (folders : List Path) : World :=
  let now := epoch
  let files := folders.foldl
    (fun fs path => (fs.makeFolderPath [] now path).toOption.getD fs) (Files.standard now)
  { files := files, here := Path.parts (folders.headD RawText.empty) }

def withFiles (w : World) (change : Files → Location → Time → Except IoError Files) :
    Except IoError World :=
  (change w.files w.here w.now).map fun files => { w with files := files }

end World

namespace Run

def startScript (script : RawText) : Run (Except IoError Nat) := do
  match ← image false (RawText.ofString "/bin/sh") [RawText.ofString "-c", script] with
  | .error e => pure (.error e)
  | .ok image => .ok <$> start image true World.programId (← get).here ownStreams

def killGroup (group : Nat) : Run Unit := modify fun w => w.signalGroup group Signal.kill

def waitCode (id : Nat) : Run Int := WaitStatus.relay <$> waitFor id fun _ => true

end Run

abbrev Recorded := StateT (List Invocation) Run

def recordingHost (result : Except PluginError Int) : Host Recorded where
  files := StateT.lift Run.files
  capture program args := StateT.lift (Run.capture program args)
  launch i := do
    modify fun l => l ++ [i]
    pure result
  print text := StateT.lift (Run.say (text ++ "\n"))
  log _ := pure ()

end KubePlugin.Machine
