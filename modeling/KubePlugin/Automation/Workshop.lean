import KubePlugin.IoError
import KubePlugin.Path
import KubePlugin.Text.Quoted
import KubePlugin.WaitStatus

namespace KubePlugin.Automation

abbrev CommandWords := List String

def shownCommand (words : CommandWords) : String := " ".intercalate (words.map quotedWord)

inductive Failure where
  | ended (words : CommandWords) (status : WaitStatus)
  | notStarted (words : CommandWords) (cause : IoError)
  | noFolder (path : Path) (cause : IoError)
  | notCopied (source target : Path) (cause : IoError)
  | modeKept (cause : IoError)
  | noArchive (cause : Failure)
deriving DecidableEq, Repr

def inBackquotes (s : String) : String := "\x60" ++ s ++ "\x60"

def endedMessage (words : CommandWords) (status : WaitStatus) : String :=
  match status.code? with
  | some code =>
    "command exited with non-zero code " ++ inBackquotes (shownCommand words) ++ s!": {code}"
  | none =>
    match status.signal? with
    | some signal =>
      "command was terminated by a signal " ++ inBackquotes (shownCommand words) ++ s!": {signal}"
    | none => "command exited unexpectedly " ++ inBackquotes (shownCommand words)

def notStartedMessage (words : CommandWords) (cause : IoError) : String :=
  if cause = .notFound then "command not found: " ++ inBackquotes (words.headD "")
  else
    "io error when running command " ++ inBackquotes (shownCommand words) ++ ": " ++ cause.message

namespace Failure

def message : Failure → String
  | ended words status => endedMessage words status
  | notStarted words cause => notStartedMessage words cause
  | noFolder path cause =>
    "failed to create directory " ++ inBackquotes path.lossy ++ ": " ++ cause.message
  | notCopied source target cause =>
    "failed to copy " ++ inBackquotes source.lossy ++ " to " ++ inBackquotes target.lossy ++ ": " ++
      cause.message
  | modeKept cause => cause.message
  | noArchive _ => "Failed to create tarball"

def cause? : Failure → Option Failure
  | noArchive cause => some cause
  | _ => none

def report (f : Failure) : String :=
  match f.cause? with
  | some cause => "Error: " ++ f.message ++ "\n\nCaused by:\n    " ++ cause.message ++ "\n"
  | none => "Error: " ++ f.message ++ "\n"

end Failure

/-- The requests to the system. Relative paths are those of the workspace, except that the mode of
a file is changed where the program itself works. -/
structure Workshop (m : Type → Type) where
  root : Path
  say : String → m Unit
  note : String → m Unit
  run : CommandWords → m (Except IoError WaitStatus)
  isThere : Path → m Bool
  isFolder : Path → m Bool
  makeFolder : Path → m (Except IoError Unit)
  copy : Path → Path → m (Except IoError Unit)
  setMode : Path → Nat → m (Except IoError Unit)

abbrev Work (m : Type → Type) := ExceptT Failure m

namespace Workshop

variable {m : Type → Type} [Monad m] (w : Workshop m)

def tell (line : String) : Work m Unit := ExceptT.lift (w.say line)

def orFail {α : Type} (failure : IoError → Failure) (outcome : Except IoError α) : Work m α :=
  match outcome with
  | .ok a => pure a
  | .error e => throw (failure e)

def command (words : CommandWords) : Work m Unit := do
  ExceptT.lift (w.note ("$ " ++ shownCommand words))
  let status ← orFail (.notStarted words) (← ExceptT.lift (w.run words))
  if status.succeeded then pure () else throw (.ended words status)

def inRoot (path : Path) : Path := Path.join w.root path

def folder (path : Path) : Work m Unit := do
  orFail (.noFolder (w.inRoot path)) (← ExceptT.lift (w.makeFolder (w.inRoot path)))

def copyTarget (source target : Path) : m Path := do
  if ← w.isFolder target then
    match Path.fileName? source with
    | some name => pure (Path.join target name)
    | none => pure target
  else pure target

def copyFile (source target : Path) : Work m Unit := do
  let source := w.inRoot source
  let target ← ExceptT.lift (w.copyTarget source (w.inRoot target))
  orFail (.notCopied source target) (← ExceptT.lift (w.copy source target))

def makeProgram (path : Path) : Work m Unit := do
  orFail .modeKept (← ExceptT.lift (w.setMode path 0o755))

end Workshop

end KubePlugin.Automation
