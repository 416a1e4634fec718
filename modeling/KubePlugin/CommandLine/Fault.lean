import KubePlugin.CommandLine.Spec
import KubePlugin.CommandLine.Styled

namespace KubePlugin

def takePlace (c : Char) (low high : Nat) : List (Nat × Char × Bool) →
    Option (List (Nat × Char × Bool))
  | [] => none
  | (i, d, taken) :: rest =>
    if low ≤ i && i < high && d == c && !taken then some ((i, d, true) :: rest)
    else (takePlace c low high rest).map ((i, d, taken) :: ·)

def partners (range : Nat) (a : List (Nat × Char)) (b : List (Nat × Char × Bool)) :
    List Char × List (Nat × Char × Bool) :=
  match a with
  | [] => ([], b)
  | (i, c) :: rest =>
    match takePlace c (i - range) (i + range + 1) b with
    | none => partners range rest b
    | some b' => (c :: (partners range rest b').1, (partners range rest b').2)

def similarity (a b : String) : Float :=
  let as := a.toList
  let bs := b.toList
  if as.isEmpty && bs.isEmpty then 1.0
  else
    let range := max as.length bs.length / 2 - 1
    let found := partners range (as.zipIdx.map fun p => (p.2, p.1))
      (bs.zipIdx.map fun p => (p.2, p.1, false))
    let left := found.1
    let right := found.2.filterMap fun p => if p.2.2 then some p.2.1 else none
    let m := left.length
    if m = 0 then 0.0
    else
      let out := ((left.zip right).filter fun p => p.1 != p.2).length / 2
      let share (n d : Nat) : Float := n.toFloat / d.toFloat
      (share m as.length + share m bs.length + share (m - out) m) / 3.0

def insertScored (entry : Float × String) : List (Float × String) → List (Float × String)
  | [] => [entry]
  | e :: rest =>
    if e.1 > entry.1 then entry :: e :: rest else e :: insertScored entry rest

def similarWords (word : String) (words : List String) : List String :=
  ((words.filterMap fun w =>
      if similarity word w > 0.7 then some (similarity word w, w) else none).foldl
    (fun sorted e => insertScored e sorted) []).map (·.2)

end KubePlugin

namespace KubePlugin.CommandLine

def Takes.shown : Takes → String
  | nothing => ""
  | value name => " <" ++ name ++ ">"
  | optional name => "[=<" ++ name ++ ">]"

def Opt.shown (o : Opt) : String := "--" ++ o.long ++ o.takes.shown

def Opt.form (o : Opt) : Styled :=
  Styled.literal ("--" ++ o.long) ++
    (if o.takes = .nothing then [] else Styled.ofText o.takes.shown)

def Opt.choices (o : Opt) : List String :=
  match o.reading with
  | .choice words => words
  | _ => []

namespace Positional

def dots (p : Positional) : String := if p.verbatim then "..." else ""

def optionalForm (p : Positional) : String := "[" ++ p.name ++ "]" ++ p.dots

def givenForm (p : Positional) : String := "<" ++ p.name ++ ">" ++ p.dots

end Positional

inductive Cause where
  | unknownArgument (shown : String)
  | unwantedValue (value shown : String)
  | repeated (shown : String)
  | commandConflict (word positional : String)
  | missingValue (shown : String) (choices : List String)
  | badChoice (value shown : String) (choices : List String)
  | badCount (value shown : String) (fault : CountFault)
  | badText
  | unknownCommand (word : String)
deriving DecidableEq, Repr

inductive Tip where
  | similarArgument (shown : String)
  | argumentOfCommand (command shown : String)
  | asValue (shown : String)
  | similarCommands (names : List String)
  | similarValue (name : String)
  | commandAfterDashes (word : String)
deriving DecidableEq, Repr

open Styled in
def Tip.message : Tip → Styled
  | similarArgument shown => ofText "a similar argument exists: " ++ inQuotes (valid shown)
  | argumentOfCommand command shown =>
    inQuotes (valid (command ++ " " ++ shown)) ++ ofText " exists"
  | asValue shown =>
    ofText "to pass " ++ inQuotes (invalid shown) ++ ofText " as a value, use " ++
      inQuotes (valid ("-- " ++ shown))
  | similarCommands names =>
    ofText (if names.length = 1 then "a similar subcommand exists: "
      else "some similar subcommands exist: ") ++
      joined ", " (names.map fun name => inQuotes (valid name))
  | similarValue name => ofText "a similar value exists: " ++ inQuotes (valid name)
  | commandAfterDashes word =>
    ofText "subcommand " ++ inQuotes (valid word) ++ ofText " exists; to use it, remove the " ++
      inQuotes (invalid "--") ++ ofText " before it"

namespace Cause

open Styled in
def message : Cause → Styled
  | unknownArgument shown =>
    ofText "unexpected argument " ++ inQuotes (invalid shown) ++ ofText " found"
  | unwantedValue value shown =>
    ofText "unexpected value " ++ inQuotes (invalid value) ++ ofText " for " ++
      inQuotes (literal shown) ++ ofText " found; no more were expected"
  | repeated shown =>
    ofText "the argument " ++ inQuotes (invalid shown) ++ ofText " cannot be used multiple times"
  | commandConflict word positional =>
    ofText "the subcommand " ++ inQuotes (invalid word) ++ ofText " cannot be used with " ++
      inQuotes (invalid positional)
  | missingValue shown _ =>
    ofText "a value is required for " ++ inQuotes (invalid shown) ++
      ofText " but none was supplied"
  | badChoice value shown _ =>
    ofText "invalid value " ++ inQuotes (invalid value) ++ ofText " for " ++
      inQuotes (literal shown)
  | badCount value shown fault =>
    ofText "invalid value " ++ inQuotes (invalid value) ++ ofText " for " ++
      inQuotes (literal shown) ++ ofText (": " ++ fault.message)
  | badText => ofText "invalid UTF-8 was detected in one or more arguments"
  | unknownCommand word => ofText "unrecognized subcommand " ++ inQuotes (invalid word)

def choices : Cause → List String
  | missingValue _ words => words
  | badChoice _ _ words => words
  | _ => []

def showsUsage : Cause → Bool
  | missingValue .. => false
  | badChoice .. => false
  | badCount .. => false
  | _ => true

end Cause

structure Failure where
  cause : Cause
  tips : List Tip := []
  usage : Option Styled := none
  pointsAtHelp : Bool := true
deriving DecidableEq, Repr

namespace Failure

open Styled

def choiceLine (f : Failure) : Styled :=
  if f.cause.choices.isEmpty then []
  else
    ofText "\n  [possible values: " ++ joined ", " (f.cause.choices.map valid) ++ ofText "]"

def tipLine (t : Tip) : Styled := ofText "\n  " ++ valid "tip:" ++ ofText " " ++ t.message

def report (f : Failure) : Styled :=
  [⟨.mistake, "error:"⟩] ++ ofText " " ++ f.cause.message ++ f.choiceLine ++
    (if f.tips.isEmpty then [] else ofText "\n" ++ f.tips.flatMap tipLine) ++
    (match f.usage with
      | some usage => ofText "\n\n" ++ usage
      | none => []) ++
    (if f.pointsAtHelp then
        ofText "\n\nFor more information, try " ++ inQuotes (literal "--help") ++ ofText ".\n"
      else ofText "\n")

end Failure

inductive Stop where
  | failure (f : Failure)
  | help (text : Styled)
  | helpOnMissing (text : Styled)
  | version (text : String)
deriving DecidableEq, Repr

namespace Stop

def report : Stop → Styled
  | failure f => f.report
  | help text => text
  | helpOnMissing text => text
  | version text => Styled.ofText text

def text (s : Stop) : String := s.report.shown

def isAnswer : Stop → Bool
  | help _ => true
  | version _ => true
  | _ => false

def exitCode (s : Stop) : Nat := if s.isAnswer then 0 else 2

def firstLine (s : Stop) : String := String.ofList (s.text.toList.takeWhile (· ≠ '\n'))

end Stop

end KubePlugin.CommandLine
