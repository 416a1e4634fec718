import KubePlugin.Error

/-!
The arguments handed to neon-cli: the words of the command, then the positional argument, then
flags. Every operation appends at most one argument.
-/

namespace KubePlugin

structure ArgVector where
  toList : List String := []
deriving DecidableEq, Repr, Inhabited

namespace ArgVector

def defaultParallel : UInt32 := 6

def command (tokens : List String) : ArgVector := ⟨tokens⟩

def push (v : ArgVector) (arg : String) : ArgVector := ⟨v.toList ++ [arg]⟩

def positional (v : ArgVector) : Option String → ArgVector
  | some value => v.push value
  | none => v

def required (v : ArgVector) (value : Option String) (name : String) :
    Except PluginError ArgVector :=
  match value with
  | some value => .ok (v.push value)
  | none => .error (.missingArgument name)

def bareFlag (name : String) : String := "--" ++ name

def valueFlag (name value : String) : String := "--" ++ name ++ "=" ++ value

def switch (v : ArgVector) (name : String) (enabled : Bool) : ArgVector :=
  if enabled then v.push (bareFlag name) else v

def value (v : ArgVector) (name : String) : Option String → ArgVector
  | some value => if value.isEmpty then v else v.push (valueFlag name value)
  | none => v

def optionalValue (v : ArgVector) (name : String) : Option (Option String) → ArgVector
  | some none => v.push (bareFlag name)
  | some (some value) => if value.isEmpty then v else v.push (valueFlag name value)
  | none => v

def maxParallel (v : ArgVector) (n : UInt32) : ArgVector :=
  if n = defaultParallel then v else v.push (valueFlag "max-parallel" (toString n.toNat))

inductive Step where
  | command (tokens : List String)
  | positional (value : Option String)
  | required (value : Option String) (name : String)
  | switch (name : String) (enabled : Bool)
  | value (name : String) (value : Option String)
  | optionalValue (name : String) (value : Option (Option String))
  | maxParallel (n : UInt32)
deriving DecidableEq, Repr

def apply (v : ArgVector) : Step → Except PluginError ArgVector
  | .command tokens => .ok (command tokens)
  | .positional value => .ok (v.positional value)
  | .required value name => v.required value name
  | .switch name enabled => .ok (v.switch name enabled)
  | .value name value => .ok (v.value name value)
  | .optionalValue name value => .ok (v.optionalValue name value)
  | .maxParallel n => .ok (v.maxParallel n)

def applyAll (v : ArgVector) : List Step → Except PluginError ArgVector
  | [] => .ok v
  | s :: rest =>
    match v.apply s with
    | .ok v' => v'.applyAll rest
    | .error e => .error e

@[simp] theorem toList_push (v : ArgVector) (arg : String) :
    (v.push arg).toList = v.toList ++ [arg] := rfl

@[simp] theorem toList_command (tokens : List String) : (command tokens).toList = tokens := rfl

end ArgVector

end KubePlugin
