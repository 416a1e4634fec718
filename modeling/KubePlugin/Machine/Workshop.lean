import KubePlugin.Automation.Surface
import KubePlugin.Machine.Plugin

namespace KubePlugin.Machine.Run

open Automation

def changeFiles (change : World → Except IoError Files) : Run (Except IoError Unit) := do
  let w ← get
  match change w with
  | .ok files => do
    set { w with files := files }
    pure (.ok ())
  | .error e => pure (.error e)

def command (folder : Location) (words : CommandWords) : Run (Except IoError WaitStatus) := do
  let w ← get
  let words := words.map RawText.ofString
  match Image.start w.files folder false w.environment (words.headD RawText.empty) words.tail with
  | .error cause => pure (.error cause)
  | .ok image => do
    let id ← start image false World.programId folder ⟨.bytes [], .output, .errors⟩
    .ok <$> waitFor id fun _ => true

def workshop (folder : Location) : Workshop Run where
  root := Shell.pathOf folder
  say line := say (line ++ "\n")
  note line := complain (line ++ "\n")
  run := command folder
  isThere path := do
    let w ← get
    pure (w.files.status folder path).isSome
  isFolder path := do
    let w ← get
    pure (w.files.isFolder folder path)
  makeFolder path := changeFiles fun w => w.files.makeFolderPath folder w.now path
  copy source target := changeFiles fun w => w.files.copy folder w.now source target
  setMode path mode := changeFiles fun w => w.files.setMode w.here path mode

def taskProgram (folder : Location) (argv : List RawText) : Run Unit := do
  let w ← get
  let color := messageColors false fun name => w.environment.lookup name
  let ending ← runTask (workshop folder) color argv
  say ending.output
  complain ending.errors
  throw ending.status

end KubePlugin.Machine.Run
