import KubePlugin.IoError
import KubePlugin.Path

namespace KubePlugin

inductive Tool where
  | neonCli
  | helm
deriving DecidableEq, Repr

namespace Tool

def name : Tool → String
  | neonCli => "neon-cli"
  | helm => "helm"

def fileName (t : Tool) : String := t.name

end Tool

inductive PluginError where
  | cannotLocate (tool : Tool)
  | toolPath (tool : Tool) (neonCli : Path) (reason : String)
  | launch (tool : Tool) (path : Path) (cause : IoError)
  | wait (cause : IoError)
  | missingArgument (name : String)
deriving DecidableEq, Repr

namespace PluginError

def message : PluginError → String
  | cannotLocate tool => s!"cannot locate the [{tool.name}] binary"
  | toolPath tool neonCli reason =>
    s!"[{neonCli.lossy}] could not resolve the path for [{tool.name}]: {reason}"
  | launch tool path _ => s!"cannot launch the [{tool.name}] binary: {path.lossy}"
  | wait cause => s!"unable to determine how the child process terminated: {cause.message}"
  | missingArgument name => s!"{name} argument is required"

def cause? : PluginError → Option IoError
  | launch _ _ cause => some cause
  | wait cause => some cause
  | _ => none

def report (e : PluginError) : String :=
  match e.cause? with
  | some cause => e.message ++ ": " ++ cause.message
  | none => e.message

def exitCode? : PluginError → Option Int
  | cannotLocate _ => some (-1)
  | toolPath .. => some (-1)
  | launch .. => some (-1)
  | missingArgument _ => some 1
  | wait _ => none

end PluginError

def errorMark : String := "*** ERROR:"

def boldRed (color : Bool) (s : String) : String :=
  if color then "\x1b[1;31m" ++ s ++ "\x1b[0m" else s

def errorLine (color : Bool) (message : String) : String :=
  boldRed color errorMark ++ " " ++ message

end KubePlugin
