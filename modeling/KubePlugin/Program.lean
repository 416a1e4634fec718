import KubePlugin.Command.Surface
import KubePlugin.Log.Filter

namespace KubePlugin

structure Preferences where
  config : LocatorConfig
  color : Bool
  messageColor : Bool
  logColor : Bool
  filter : Log.Filter
deriving DecidableEq, Repr

/-- Whether messages about the command line have colours: not if `NO_COLOR` says anything, else if
`CLICOLOR_FORCE` does, else on a terminal that has them, unless `CLICOLOR` is `0`. An empty text
says nothing. -/
def messageColors (terminal : Bool) (lookup : String → Option RawText) : Bool :=
  let states (name : String) : Bool :=
    match lookup name with
    | some text => !text.isEmpty
    | none => false
  if states "NO_COLOR" then false
  else if states "CLICOLOR_FORCE" then true
  else
    match lookup "CLICOLOR" with
    | some text => text ≠ RawText.ofString "0" && terminal
    | none => terminal && (hasColors || (lookup "CI").isSome)
where
  hasColors : Bool :=
    match lookup "TERM" with
    | some kind => kind ≠ RawText.ofString "dumb"
    | none => false

def Preferences.ofLookup (terminal : Bool) (lookup : String → Option RawText) : Preferences :=
  let text (name : String) : Option String := (lookup name).bind RawText.text?
  { config := LocatorConfig.ofLookup lookup
    color :=
      match text "CLICOLOR_FORCE" with
      | some value => value ≠ "0" || (terminal && (text "NO_COLOR").isNone)
      | none => terminal && (text "NO_COLOR").isNone
    messageColor := messageColors terminal lookup
    logColor :=
      match text "NO_COLOR" with
      | some value => value.isEmpty
      | none => true
    filter := Log.Filter.ofVariable (text "NEON_LOG") }

structure Ending where
  output : String := ""
  errors : String := ""
  code : Option Int
deriving DecidableEq, Repr

namespace Ending

def ofStop (color : Bool) (s : CommandLine.Stop) : Ending :=
  let text := s.report.render color
  if s.isAnswer then { output := text, code := some s.exitCode }
  else { errors := text, code := some s.exitCode }

def ofOutcome (color : Bool) : Except PluginError Int → Ending
  | .ok code => { code := some code }
  | .error e => { errors := errorLine color e.report ++ "\n", code := e.exitCode? }

def status (e : Ending) : WaitStatus :=
  match e.code with
  | some code => .exited (code % 256).toNat
  | none => .killed Signal.abort

end Ending

def runProgram {m : Type → Type} [Monad m] (host : Host m) (preferences : Preferences)
    (argv : List RawText) : m Ending :=
  match Surface.read argv with
  | .error stop => pure (.ofStop preferences.messageColor stop)
  | .ok command => do
    let outcome ← command.execute host preferences.config preferences.color
    pure (.ofOutcome preferences.color outcome)

end KubePlugin
