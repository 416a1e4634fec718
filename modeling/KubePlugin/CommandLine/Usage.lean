import KubePlugin.CommandLine.Fault

namespace KubePlugin.CommandLine

structure Scope where
  spec : Spec
  lead : Option String

namespace Scope

open Styled

def top (spec : Spec) (called : Option String) : Scope := ⟨spec, called⟩

def below (s : Scope) (sub : Spec) : Scope where
  spec := sub
  lead := some (match s.lead with
    | some lead => lead ++ " " ++ sub.name
    | none => sub.name)

def title (s : Scope) : String := s.lead.getD s.spec.name

def spaced (words : List Styled) : Styled := joined " " words

def usageWith (s : Scope) (words : List Styled) : Styled :=
  heading "Usage:" ++ ofText " " ++ spaced (literal s.title :: words)

def commandWord (c : Spec) : List Styled := if c.needsSub then [ofText "<COMMAND>"] else []

def optionalPositional (c : Spec) : List Styled :=
  match c.positional with
  | some p => [ofText p.optionalForm]
  | none => []

def usage (s : Scope) : Styled :=
  let c := s.spec
  let options := if c.options.isEmpty then [] else [ofText "[OPTIONS]"]
  s.usageWith (options ++ optionalPositional c ++ commandWord c) ++
    (if !c.needsSub && !c.subs.isEmpty then
        ofText "\n       " ++ spaced [literal s.title, ofText "<COMMAND>"]
      else [])

def usageOf (s : Scope) (options : List Styled) (positionalGiven : Bool) : Styled :=
  let c := s.spec
  let positional := match c.positional with
    | some p => [ofText (if positionalGiven then p.givenForm else p.optionalForm)]
    | none => []
  s.usageWith (options ++ positional ++ commandWord c)

def usageOfGroup (s : Scope) (front : List Styled) : Styled :=
  let c := s.spec
  let members := (c.positional.map Positional.name).toList ++ c.options.map Opt.shown
  s.usageWith (front ++ [ofText ("<" ++ "|".intercalate members ++ ">")] ++ commandWord c)

structure Row where
  left : Styled
  right : String

def drawRows (rows : List Row) : Styled :=
  let width := (rows.map fun r => r.left.length).foldl max 0
  rows.flatMap fun r =>
    ofText "  " ++ r.left ++
      ofText (String.ofList (List.replicate (width - r.left.length + 2) ' ') ++ r.right ++ "\n")

def optionLabel (short : Option Char) (form : Styled) : Styled :=
  (match short with
    | some letter => literal ("-" ++ String.singleton letter) ++ ofText ", "
    | none => ofText "    ") ++ form

def optionAbout (o : Opt) : String :=
  o.about ++
    (match o.usual with
      | some value => " [default: " ++ value ++ "]"
      | none => "") ++
    (if o.choices.isEmpty then ""
      else " [possible values: " ++ ", ".intercalate o.choices ++ "]")

def standardRows (c : Spec) (long : Bool) : List Row :=
  (if c.hasHelp then
      [ ⟨optionLabel (some 'h') (literal "--help"),
          if c.longAbout.isNone then "Print help"
          else if long then "Print help (see a summary with '-h')"
          else "Print help (see more with '--help')"⟩ ]
    else []) ++
    (if c.version.isSome then
      [⟨optionLabel (some 'V') (literal "--version"), "Print version"⟩]
    else [])

def optionRows (c : Spec) (long : Bool) : List Row :=
  c.options.map (fun o => ⟨optionLabel o.short o.form, optionAbout o⟩) ++ standardRows c long

def drawLongRows (rows : List Row) : Styled :=
  joined "\n"
    (rows.map fun r => ofText "  " ++ r.left ++ ofText ("\n          " ++ r.right ++ "\n"))

def titled (title : String) (rows : List Row) (draw : List Row → Styled) : Styled :=
  if rows.isEmpty then [] else ofText "\n" ++ heading (title ++ ":") ++ ofText "\n" ++ draw rows

def helpText (s : Scope) (long : Bool) : Styled :=
  let c := s.spec
  let about := match c.longAbout with
    | some text => if long then text else c.about
    | none => c.about
  let apart := long && c.longAbout.isSome
  ofText (about ++ "\n\n") ++ s.usage ++ ofText "\n" ++
    titled "Commands" (c.allSubs.map fun sub => ⟨literal sub.name, sub.about⟩) drawRows ++
    titled "Arguments"
      (match c.positional with
        | some p => [⟨ofText p.optionalForm, p.about⟩]
        | none => []) drawRows ++
    titled "Options" (optionRows c long) (if apart then drawLongRows else drawRows)

end Scope

end KubePlugin.CommandLine
