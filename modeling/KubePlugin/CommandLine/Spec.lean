import KubePlugin.Text.Decimal
import KubePlugin.Text.Raw

/-!
Descriptions of command lines: a tree of commands, each with options, at most one positional
argument, and commands of its own. Everything that parsing, messages and help texts need is in the
description.
-/

namespace KubePlugin.CommandLine

inductive Takes where
  | nothing
  | value (name : String)
  | optional (name : String)
deriving DecidableEq, Repr

inductive Reading where
  | text
  | count
  | choice (words : List String)
deriving DecidableEq, Repr

structure Opt where
  long : String
  short : Option Char := none
  takes : Takes := .nothing
  reading : Reading := .text
  about : String
  usual : Option String := none
deriving DecidableEq, Repr

structure Positional where
  name : String
  about : String
  verbatim : Bool := false
deriving DecidableEq, Repr

inductive Spec where
  /-- A command with its name, other names, description, longer description, options, positional
  argument, and commands of its own. `needsSub` tells that one of these has to follow, `hasHelp`
  that it takes the option for help, and `version` what it answers to the option for it. -/
  | mk (name : String) (aliases : List String) (about : String) (longAbout : Option String)
      (options : List Opt) (positional : Option Positional) (subs : List Spec)
      (needsSub hasHelp : Bool) (version : Option String)

namespace Spec

def name : Spec → String | mk n .. => n

def aliases : Spec → List String | mk _ a .. => a

def about : Spec → String | mk _ _ a .. => a

def longAbout : Spec → Option String | mk _ _ _ l .. => l

def options : Spec → List Opt | mk _ _ _ _ o .. => o

def positional : Spec → Option Positional | mk _ _ _ _ _ p .. => p

def subs : Spec → List Spec | mk _ _ _ _ _ _ s .. => s

def needsSub : Spec → Bool | mk _ _ _ _ _ _ _ n .. => n

def hasHelp : Spec → Bool | mk _ _ _ _ _ _ _ _ h _ => h

def version : Spec → Option String | mk _ _ _ _ _ _ _ _ _ v => v

def leaf (name about : String) (options : List Opt := []) (positional : Option Positional := none)
    (aliases : List String := []) (longAbout : Option String := none) (hasHelp : Bool := true) :
    Spec :=
  mk name aliases about longAbout options positional [] false hasHelp none

def group (name about : String) (subs : List Spec) (longAbout : Option String := none)
    (version : Option String := none) : Spec :=
  mk name [] about longAbout [] none subs true true version

end Spec

def flag (long about : String) : Opt := { long, about }

def valued (long value about : String) (short : Option Char := none) : Opt :=
  { long, about, short, takes := .value value }

def helpCommand : Spec :=
  .leaf "help" "Print this message or the help of the given subcommand(s)" []
    (some ⟨"COMMAND", "Print help for the subcommand(s)", true⟩) [] none false

namespace Spec

def allSubs (c : Spec) : List Spec :=
  if c.subs.isEmpty then [] else c.subs ++ [helpCommand]

def sub? (c : Spec) (word : RawText) : Option Spec :=
  c.allSubs.find? fun s => (s.name :: s.aliases).any fun n => RawText.ofString n = word

end Spec

inductive Named where
  | declared (o : Opt)
  | help
  | version
deriving DecidableEq, Repr

namespace Spec

def longNames (c : Spec) : List (String × Named) :=
  c.options.map (fun o => (o.long, .declared o)) ++
    (if c.hasHelp then [("help", .help)] else []) ++
    (if c.version.isSome then [("version", .version)] else [])

def long? (c : Spec) (name : List UInt8) : Option Named :=
  (c.longNames.find? fun p => Utf8.encode p.1.toList = name).map (·.2)

def short? (c : Spec) (letter : Char) : Option Named :=
  match c.options.find? fun o => o.short = some letter with
  | some o => some (.declared o)
  | none =>
    if c.hasHelp && letter = 'h' then some .help
    else if c.version.isSome && letter = 'V' then some .version
    else none

end Spec

inductive ArgId where
  | option (long : String)
  | positional
deriving DecidableEq, Repr

inductive Value where
  | on
  | text (s : String)
  | count (n : UInt32)
  | words (l : List RawText)
deriving DecidableEq, Repr

abbrev Given := List (ArgId × Value)

namespace Given

def get? (g : Given) (id : ArgId) : Option Value := g.lookup id

def has (g : Given) (long : String) : Bool := (g.get? (.option long)).isSome

def textOf? (g : Given) (id : ArgId) : Option String :=
  match g.get? id with
  | some (.text s) => some s
  | _ => none

def text? (g : Given) (long : String) : Option String := g.textOf? (.option long)

def positional? (g : Given) : Option String := g.textOf? .positional

def count? (g : Given) (long : String) : Option UInt32 :=
  match g.get? (.option long) with
  | some (.count n) => some n
  | _ => none

def optional? (g : Given) (long : String) : Option (Option String) :=
  match g.get? (.option long) with
  | some .on => some none
  | some (.text s) => some (some s)
  | _ => none

def words (g : Given) : List RawText :=
  match g.get? .positional with
  | some (.words l) => l
  | _ => []

end Given

end KubePlugin.CommandLine
