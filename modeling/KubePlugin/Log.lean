namespace KubePlugin.Log

inductive Level where
  | error
  | warn
  | info
  | debug
  | trace
deriving DecidableEq, Repr

namespace Level

def rank : Level → Nat
  | error => 1
  | warn => 2
  | info => 3
  | debug => 4
  | trace => 5

def label : Level → String
  | error => "ERROR"
  | warn => " WARN"
  | info => " INFO"
  | debug => "DEBUG"
  | trace => "TRACE"

def colorCode : Level → Nat
  | error => 31
  | warn => 33
  | info => 32
  | debug => 34
  | trace => 35

end Level

inductive Part where
  | locator
  | launcher
  | group
  | cluster
deriving DecidableEq, Repr

def Part.path : Part → String
  | locator => "neon_kubectl::infrastructure::locator"
  | launcher => "neon_kubectl::infrastructure::process"
  | group => "neon_kubectl::infrastructure::process::unix"
  | cluster => "neon_kubectl::cli::cluster"

structure Event where
  part : Part
  level : Level
  message : String
  fields : List (String × String) := []
deriving DecidableEq, Repr

def Event.line (color : Bool) (time : String) (e : Event) : String :=
  if color then
    "\x1b[2m" ++ time ++ "\x1b[0m \x1b[" ++ toString e.level.colorCode ++ "m" ++ e.level.label ++
      "\x1b[0m " ++ e.message ++
      String.join (e.fields.map fun f =>
        " \x1b[3m" ++ f.1 ++ "\x1b[0m\x1b[2m=\x1b[0m" ++ f.2)
  else
    time ++ " " ++ e.level.label ++ " " ++ e.message ++
      String.join (e.fields.map fun f => " " ++ f.1 ++ "=" ++ f.2)

def Event.names (e : Event) : List String := "message" :: e.fields.map (·.1)

end KubePlugin.Log
