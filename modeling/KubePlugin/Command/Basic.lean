import KubePlugin.Command.Cluster
import KubePlugin.Command.Login
import KubePlugin.Command.Version
import KubePlugin.Host
import KubePlugin.Locator.Search
import KubePlugin.Text.Class

/-!
The commands of the plugin, and what each of them does. A command that has a tool to run collects
its arguments first, then looks for the tool, and runs it last; the first failure ends it.
-/

namespace KubePlugin

inductive LockStatus where
  | locked
  | fetchFailed
  | unlocked
deriving DecidableEq, Repr

namespace LockStatus

def ofExitCode? : Int → Option LockStatus
  | 0 => some locked
  | 1 => some fetchFailed
  | 2 => some unlocked
  | _ => none

def exitCode : LockStatus → Int
  | locked => 0
  | fetchFailed => 1
  | unlocked => 2

def describe : LockStatus → String
  | locked => "locked"
  | fetchFailed => "unknown (lock status request failed)"
  | unlocked => "unlocked"

@[simp] theorem ofExitCode?_exitCode (s : LockStatus) : ofExitCode? s.exitCode = some s := by
  cases s <;> rfl

end LockStatus

inductive Command where
  | cluster (command : ClusterCommand)
  | login (command : LoginCommand)
  | logout
  | helm (args : List RawText)
  | version (output : OutputFormat)
deriving DecidableEq, Repr

namespace Command

variable {m : Type → Type} [Monad m]

def run (host : Host m) (config : LocatorConfig) (tool : Tool) (args : List RawText)
    (mode : LaunchMode) : m (Except PluginError Int) := do
  match ← Locator.locate host config tool with
  | .error e => pure (.error e)
  | .ok found => host.launch ⟨found.tool, found.path, args, mode⟩

def runNeonCli (host : Host m) (config : LocatorConfig) (args : Except PluginError ArgVector)
    (mode : LaunchMode) : m (Except PluginError Int) :=
  match args with
  | .error e => pure (.error e)
  | .ok v => run host config .neonCli (v.toList.map RawText.ofString) mode

def lockEvent (code : Int) : Log.Event :=
  match LockStatus.ofExitCode? code with
  | some status =>
    { part := .cluster, level := .debug, message := "Cluster lock status",
      fields := [("status", status.describe)] }
  | none =>
    { part := .cluster, level := .debug, message := "Unexpected lock status exit code",
      fields := [("exit_code", toString code)] }

def clusterEvents : ClusterCommand → Except PluginError Int → List Log.Event
  | .isLocked, .ok code => [lockEvent code]
  | _, _ => []

def logoutArgs : ArgVector := ArgVector.command ["logout"]

def execute (host : Host m) (config : LocatorConfig) (color : Bool) :
    Command → m (Except PluginError Int)
  | cluster c => do
    let outcome ← runNeonCli host config c.neonCliArgs .supervised
    host.logAll (clusterEvents c outcome)
    pure outcome
  | login c => runNeonCli host config c.neonCliArgs c.launchMode
  | logout => runNeonCli host config (.ok logoutArgs) .supervised
  | helm args => run host config .helm args .replace
  | version output => do
    host.print (trimmedEnd (Versions.render color output))
    pure (.ok 0)

end Command

end KubePlugin
