import KubePlugin.Text.Visible

namespace KubePlugin.CommandLine

inductive Style where
  | plain
  | heading
  | literal
  | mistake
  | invalid
  | valid
deriving DecidableEq, Repr

def Style.code : Style → String
  | plain => ""
  | heading => "\x1b[1m\x1b[4m"
  | literal => "\x1b[1m"
  | mistake => "\x1b[1m\x1b[31m"
  | invalid => "\x1b[33m"
  | valid => "\x1b[32m"

structure Piece where
  style : Style := .plain
  text : String
deriving DecidableEq, Repr

def Piece.colored (p : Piece) : String :=
  match p.style with
  | .plain => p.text
  | style => style.code ++ p.text ++ "\x1b[0m"

abbrev Styled := List Piece

namespace Styled

def ofText (text : String) : Styled := [⟨.plain, text⟩]

def heading (text : String) : Styled := [⟨.heading, text⟩]

def literal (text : String) : Styled := [⟨.literal, text⟩]

def invalid (text : String) : Styled := [⟨.invalid, text⟩]

def valid (text : String) : Styled := [⟨.valid, text⟩]

def inQuotes (s : Styled) : Styled := ofText "'" ++ s ++ ofText "'"

def joined (between : String) : List Styled → Styled
  | [] => []
  | [s] => s
  | s :: rest => s ++ ofText between ++ joined between rest

def length (s : Styled) : Nat := s.foldl (fun n p => n + p.text.length) 0

def colored (s : Styled) : String := String.join (s.map Piece.colored)

def shown (s : Styled) : String := String.join (s.map fun p => visible p.text)

def render (s : Styled) (color : Bool) : String := if color then s.colored else s.shown

end Styled

end KubePlugin.CommandLine
