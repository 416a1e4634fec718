import KubePlugin.Text.Utf8

namespace KubePlugin

def isBlankControl (c : Char) : Bool := c = '\t' || c = '\n' || c = '\x0c' || c = '\r'

def isControl (c : Char) : Bool := c.toNat < 0x20 || c.toNat = 0x7F

inductive Reception where
  | text
  | escape
  | intermediate
  | parameters
  | string
  | title
deriving DecidableEq, Repr

namespace Reception

def ofControl (r : Reception) (c : Char) : Bool × Reception :=
  if c = '\x1b' then (false, escape)
  else if c = '\x18' ∨ c = '\x1a' then (false, text)
  else
    match r with
    | string => (false, string)
    | title => (false, if c = '\x07' then text else title)
    | _ => if isBlankControl c then (true, text) else (false, r)

def ofIntroducer (c : Char) : Reception :=
  if c < '0' then intermediate
  else if c = '[' then parameters
  else if c = ']' then title
  else if c = 'P' ∨ c = 'X' ∨ c = '^' ∨ c = '_' then string
  else text

def step (r : Reception) (c : Char) : Bool × Reception :=
  if isControl c then r.ofControl c
  else if 0x80 ≤ c.toNat then
    match r with
    | text => (true, text)
    | string => (false, if 0x9C ∈ Utf8.encode [c] then text else string)
    | _ => (false, r)
  else
    match r with
    | text => (true, text)
    | escape => (false, ofIntroducer c)
    | intermediate => (false, if c < '0' then intermediate else text)
    | parameters => (false, if c < '@' then parameters else text)
    | string => (false, string)
    | title => (false, title)

def shown (r : Reception) : List Char → List Char
  | [] => []
  | c :: rest =>
    let next := r.step c
    if next.1 then c :: shown next.2 rest else shown next.2 rest

end Reception

def visible (s : String) : String := String.ofList (Reception.text.shown s.toList)

end KubePlugin
