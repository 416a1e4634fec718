import KubePlugin.ArgVector
import KubePlugin.Host

/-!
The commands on contexts. A bare login may talk to the user for long, so neon-cli takes the place
of the plugin for it; the others run as children.
-/

namespace KubePlugin

structure LoginDeleteOptions where
  contextName : Option String := none
  force : Bool := false
deriving DecidableEq, Repr, Inhabited

structure LoginExportOptions where
  path : Option String := none
  context : Option String := none
deriving DecidableEq, Repr, Inhabited

structure LoginImportOptions where
  path : Option String := none
  force : Bool := false
  noLogin : Bool := false
deriving DecidableEq, Repr, Inhabited

inductive LoginCommand where
  | enter (name : Option String)
  | delete (options : LoginDeleteOptions)
  | exportContext (options : LoginExportOptions)
  | importContext (options : LoginImportOptions)
  | list (output : Option String)
deriving DecidableEq, Repr

namespace LoginCommand

def launchMode : LoginCommand → LaunchMode
  | enter _ => .replace
  | _ => .supervised

def words (name : String) : ArgVector := ArgVector.command ["login", name]

def neonCliArgs : LoginCommand → Except PluginError ArgVector
  | enter name => .ok ((ArgVector.command ["login"]).positional name)
  | delete o => .ok ((words "delete").positional o.contextName |>.switch "force" o.force)
  | exportContext o => .ok ((words "export").positional o.path |>.value "context" o.context)
  | importContext o => do
    let v ← (words "import").required o.path "PATH"
    return v |>.switch "force" o.force |>.switch "no-login" o.noLogin
  | list output => .ok ((words "list").value "output" output)

end LoginCommand

end KubePlugin
