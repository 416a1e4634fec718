import KubePlugin.Host
import KubePlugin.Locator.Candidate
import KubePlugin.Text.Class

/-!
The search for the executable of a tool. The folder of an installation settles it without a look
at anything else. Otherwise neon-cli is the most recent build below the checkouts, and helm is
where that neon-cli says it is.
-/

namespace KubePlugin

inductive FoundBy where
  | installFolder
  | sourceRoot
  | toolPath
deriving DecidableEq, Repr

def FoundBy.name : FoundBy → String
  | installFolder => "InstallFolder"
  | sourceRoot => "SourceRoot"
  | toolPath => "ToolPath"

structure Resolved where
  tool : Tool
  path : Path
  source : FoundBy
deriving DecidableEq, Repr

namespace Locator

def candidates (config : LocatorConfig) (files : FileView) : List Candidate :=
  (config.sourceRoots.flatMap Candidate.layouts).filterMap (Candidate.probe files)

def neonCli (config : LocatorConfig) (files : FileView) : Except PluginError Resolved :=
  match config.installFolder with
  | some folder =>
    .ok ⟨.neonCli, Path.join folder (RawText.ofString Tool.neonCli.fileName), .installFolder⟩
  | none =>
    match Candidate.mostRecent (candidates config files) with
    | some c => .ok ⟨.neonCli, c.path, .sourceRoot⟩
    | none => .error (.cannotLocate .neonCli)

def isFile (files : FileView) (path : Path) : Bool :=
  match files path with
  | some status => !status.isFolder
  | none => false

def helmInTools (folder : Path) : Path := Path.joinAll folder ["tools", Tool.helm.fileName]

def helmAtRoot (folder : Path) : Path := Path.join folder (RawText.ofString Tool.helm.fileName)

def installedHelm (folder : Path) (files : FileView) : Path :=
  if isFile files (helmInTools folder) then helmInTools folder
  else if isFile files (helmAtRoot folder) then helmAtRoot folder
  else helmInTools folder

def inspected (config : LocatorConfig) : List Path :=
  match config.installFolder with
  | some folder => [helmInTools folder, helmAtRoot folder]
  | none => config.sourceRoots.flatMap Candidate.layouts

inductive Plan where
  | settled (outcome : Except PluginError Resolved)
  | ask (neonCli : Path)

def plan (config : LocatorConfig) (files : FileView) : Tool → Plan
  | .neonCli => .settled (neonCli config files)
  | .helm =>
    match config.installFolder with
    | some folder => .settled (.ok ⟨.helm, installedHelm folder files, .installFolder⟩)
    | none =>
      match neonCli config files with
      | .ok found => .ask found.path
      | .error e => .settled (.error e)

def question (tool : Tool) : List String := ["toolpath", tool.name]

def readPath (output : RawText) : String := trimmed output.lossy

def answer (tool : Tool) (neonCli : Path) : Capture → Except PluginError Resolved
  | .notStarted cause => .error (.toolPath tool neonCli s!"failed to launch: {cause.message}")
  | .ended status output =>
    if status.succeeded then
      if (readPath output).isEmpty then .error (.cannotLocate tool)
      else .ok ⟨tool, RawText.ofString (readPath output), .toolPath⟩
    else .error (.toolPath tool neonCli s!"neon-cli {status.describe}")

def foundCandidate (path : Path) : Log.Event where
  part := .locator
  level := .debug
  message := "Found candidate executable"
  fields := [("path", path.lossy)]

def asking (tool : Tool) (neonCli : Path) : Log.Event where
  part := .locator
  level := .debug
  message := s!"Querying neon-cli for the {tool.name} path"
  fields := [("neon_cli", neonCli.lossy)]

def resolvedEvent (r : Resolved) : Log.Event where
  part := .locator
  level := .debug
  message := "Resolved executable"
  fields := [("tool", r.tool.name), ("path", r.path.lossy), ("source", r.source.name)]

def searchEvents (config : LocatorConfig) (files : FileView) : List Log.Event :=
  match config.installFolder with
  | some _ => []
  | none => (candidates config files).map fun c => foundCandidate c.path

def resolvedEvents : Except PluginError Resolved → List Log.Event
  | .ok r => [resolvedEvent r]
  | .error _ => []

def locate {m : Type → Type} [Monad m] (host : Host m) (config : LocatorConfig) (tool : Tool) :
    m (Except PluginError Resolved) := do
  let files ← host.files
  host.logAll (searchEvents config files)
  let outcome ← match plan config files tool with
    | .settled outcome => pure outcome
    | .ask neonCli => do
      host.log (asking tool neonCli)
      let captured ← host.capture neonCli (question tool)
      pure (answer tool neonCli captured)
  host.logAll (resolvedEvents outcome)
  pure outcome

end Locator

end KubePlugin
