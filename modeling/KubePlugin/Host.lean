import KubePlugin.Locator.Candidate
import KubePlugin.Log
import KubePlugin.Text.Quoted
import KubePlugin.WaitStatus

namespace KubePlugin

inductive LaunchMode where
  | replace
  | supervised
deriving DecidableEq, Repr

def LaunchMode.name : LaunchMode → String
  | replace => "Replace"
  | supervised => "Supervised"

structure Invocation where
  tool : Tool
  program : Path
  args : List RawText
  mode : LaunchMode
deriving DecidableEq, Repr

namespace Invocation

def launching (i : Invocation) : Log.Event where
  part := .launcher
  level := .debug
  message := s!"Launching {i.tool.name}"
  fields :=
    [ ("program", i.program.lossy), ("args", quotedRawList i.args), ("mode", i.mode.name) ]

def started (i : Invocation) (group : Nat) : Log.Event where
  part := .launcher
  level := .debug
  message := s!"Started {i.tool.name}"
  fields := [("group", toString group)]

def ended (i : Invocation) (status : WaitStatus) : Log.Event where
  part := .launcher
  level := .debug
  message := s!"{i.tool.name} exited"
  fields := [("status", status.describe)]

end Invocation

def signalReceived (signal : Nat) : Log.Event where
  part := .launcher
  level := .warn
  message := "Received signal, killing the child process group"
  fields := [("signal", "SIG" ++ (Signal.name? signal).getD (toString signal))]

def killingGroup (group : Nat) : Log.Event where
  part := .group
  level := .debug
  message := "Sending SIGKILL to process group"
  fields := [("pgid", toString group)]

inductive Capture where
  | notStarted (cause : IoError)
  | ended (status : WaitStatus) (output : RawText)
deriving DecidableEq, Repr

structure Host (m : Type → Type) where
  files : m FileView
  capture : Path → List String → m Capture
  launch : Invocation → m (Except PluginError Int)
  print : String → m Unit
  log : Log.Event → m Unit

def Host.logAll {m : Type → Type} [Monad m] (host : Host m) : List Log.Event → m Unit
  | [] => pure ()
  | e :: rest => do
    host.log e
    host.logAll rest

end KubePlugin
