import KubePlugin.Automation.Task
import KubePlugin.CommandLine.Parser
import KubePlugin.Program

namespace KubePlugin.Automation

open CommandLine

def usualPlace : String := "/usr/local"

def placeOption : Opt where
  long := "prefix"
  takes := .value "PREFIX"
  about := "Installation prefix (default: /usr/local)"
  usual := some usualPlace

def surface : Spec :=
  .group "xtask" "Build automation for neon-kubectl"
    [ .leaf "build" "Build the project" [flag "release" "Build in release mode"],
      .leaf "test" "Run tests" [flag "integration" "Run only integration tests"],
      .leaf "dist" "Create distribution packages"
        [valued "target" "TARGET" "Target triple (e.g., x86_64-unknown-linux-gnu)"],
      .leaf "install" "Install to system" [placeOption],
      .leaf "ci" "Run CI checks (format, clippy, test)",
      .leaf "format" "Format code" [flag "check" "Check formatting without modifying files"],
      .leaf "clippy" "Run clippy" ]

def task? (m : Matched) : Option BuildTask :=
  match m.path with
  | ["build"] => some (.build (m.given.has "release"))
  | ["test"] => some (.test (m.given.has "integration"))
  | ["dist"] => some (.dist (m.given.text? "target"))
  | ["install"] => some (.install ((m.given.text? "prefix").getD usualPlace))
  | ["ci"] => some .ci
  | ["format"] => some (.format (m.given.has "check"))
  | ["clippy"] => some .clippy
  | _ => none

def parseTask (argv : List RawText) : Except Stop BuildTask :=
  match surface.parse argv with
  | .ok m =>
    match task? m with
    | some t => .ok t
    | none => .error (.helpOnMissing ((Scope.top surface (calledName? argv)).helpText false))
  | .error stop => .error stop

def endingOf : Except Failure Unit → Ending
  | .ok () => { code := some 0 }
  | .error f => { errors := f.report, code := some 1 }

def runTask {m : Type → Type} [Monad m] (w : Workshop m) (color : Bool) (argv : List RawText) :
    m Ending :=
  match parseTask argv with
  | .error stop => pure (.ofStop color stop)
  | .ok task => endingOf <$> (task.work w).run

end KubePlugin.Automation
