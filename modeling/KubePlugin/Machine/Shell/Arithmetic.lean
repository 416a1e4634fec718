import KubePlugin.Text.Raw

namespace KubePlugin.Machine.Shell.Arithmetic

inductive Token where
  | number (n : Int)
  | name (text : String)
  | sign (text : String)
deriving DecidableEq, Repr

inductive Fault where
  | expecting (what : String)
  | divisionByZero
  | noNumber (value : RawText)
deriving DecidableEq, Repr

def longSigns : List String :=
  [ "<<=", ">>=", "<<", ">>", "<=", ">=", "==", "!=", "&&", "||", "+=", "-=", "*=", "/=", "%=",
    "&=", "^=", "|=" ]

def digit? (base : Nat) (c : Char) : Option Nat :=
  let value :=
    if c.isDigit then some (c.toNat - '0'.toNat)
    else if 'a' ≤ c ∧ c ≤ 'f' then some (c.toNat - 'a'.toNat + 10)
    else if 'A' ≤ c ∧ c ≤ 'F' then some (c.toNat - 'A'.toNat + 10)
    else none
  value.filter (· < base)

def digits (base value : Nat) : List Char → Nat × List Char
  | [] => (value, [])
  | c :: rest =>
    match digit? base c with
    | some d => digits base (value * base + d) rest
    | none => (value, c :: rest)

def numeral (l : List Char) : Nat × List Char :=
  match l with
  | '0' :: x :: rest => if x = 'x' ∨ x = 'X' then digits 16 0 rest else digits 8 0 (x :: rest)
  | l => digits 10 0 l

def ofText? (l : List Char) : Option Int :=
  let l := ((l.dropWhile Char.isWhitespace).reverse.dropWhile Char.isWhitespace).reverse
  let signed (negative : Bool) (l : List Char) : Option Int :=
    if l.head?.any Char.isDigit ∧ (numeral l).2 = [] then
      some (if negative then -(numeral l).1 else (numeral l).1)
    else none
  match l with
  | '-' :: rest => signed true rest
  | '+' :: rest => signed false rest
  | l => signed false l

def tokens : Nat → List Char → List Token
  | 0, _ => []
  | _ + 1, [] => []
  | fuel + 1, c :: rest =>
    if c.isWhitespace then tokens fuel rest
    else if c.isDigit then
      .number (numeral (c :: rest)).1 :: tokens fuel (numeral (c :: rest)).2
    else if c.isAlpha ∨ c = '_' then
      let more (d : Char) : Bool := d.isAlphanum || d = '_'
      .name (String.ofList (c :: rest.takeWhile more)) :: tokens fuel (rest.dropWhile more)
    else
      match longSigns.find? fun s => s.toList.isPrefixOf (c :: rest) with
      | some s => .sign s :: tokens fuel ((c :: rest).drop s.length)
      | none => .sign (String.singleton c) :: tokens fuel rest

def modulus : Nat := 18446744073709551616

def wrap (n : Int) : Int := n.bmod modulus

structure Progress where
  left : List Token
  lookup : String → Option RawText
  assigned : List (String × Int) := []

abbrev Value := StateT Progress (Except Fault) Int

def next? : StateT Progress (Except Fault) (Option Token) := do
  pure (← get).left.head?

def advance : StateT Progress (Except Fault) Unit :=
  modify fun p => { p with left := p.left.tail }

def valueOf (name : String) : Value := do
  let p ← get
  match p.assigned.lookup name with
  | some n => pure n
  | none =>
    match p.lookup name with
    | none => pure 0
    | some text =>
      if text.isEmpty then pure 0
      else
        match ofText? (text.bytes.map fun b => Char.ofNat b.toNat) with
        | some n => pure (wrap n)
        | none => throw (.noNumber text)

def truth (b : Bool) : Int := if b then 1 else 0

def bits (n : Int) : Nat := (n % modulus).toNat

def apply (operator : String) (a b : Int) : Except Fault Int :=
  match operator with
  | "||" => pure (truth (a ≠ 0 ∨ b ≠ 0))
  | "&&" => pure (truth (a ≠ 0 ∧ b ≠ 0))
  | "|" => pure (wrap (bits a ||| bits b))
  | "^" => pure (wrap (bits a ^^^ bits b))
  | "&" => pure (wrap (bits a &&& bits b))
  | "==" => pure (truth (a = b))
  | "!=" => pure (truth (a ≠ b))
  | "<" => pure (truth (a < b))
  | "<=" => pure (truth (a ≤ b))
  | ">" => pure (truth (b < a))
  | ">=" => pure (truth (b ≤ a))
  | "<<" => pure (wrap (bits a <<< (bits b % 64)))
  | ">>" => pure (a >>> (bits b % 64))
  | "+" => pure (wrap (a + b))
  | "-" => pure (wrap (a - b))
  | "*" => pure (wrap (a * b))
  | "/" => if b = 0 then throw .divisionByZero else pure (wrap (a.tdiv b))
  | "%" => if b = 0 then throw .divisionByZero else pure (a.tmod b)
  | _ => throw (.expecting "EOF")

def levels : List (List String) :=
  [ ["||"], ["&&"], ["|"], ["^"], ["&"], ["==", "!="], ["<", "<=", ">", ">="], ["<<", ">>"],
    ["+", "-"], ["*", "/", "%"] ]

def assigning? (sign : String) : Option (Option String) :=
  if sign = "=" then some none
  else if sign ∈ ["<<=", ">>=", "+=", "-=", "*=", "/=", "%=", "&=", "^=", "|="] then
    some (some (sign.dropEnd 1).toString)
  else none

mutual

def assignment : Nat → Value
  | 0 => throw (.expecting "primary")
  | fuel + 1 => do
    match (← get).left with
    | .name name :: .sign s :: rest =>
      match assigning? s with
      | some operator => do
        modify fun p => { p with left := rest }
        let value ← assignment fuel
        let value ← match operator with
          | some operator => do StateT.lift (apply operator (← valueOf name) value)
          | none => pure value
        modify fun p => { p with assigned := (name, value) :: p.assigned }
        pure value
      | none => choice fuel
    | _ => choice fuel

def choice : Nat → Value
  | 0 => throw (.expecting "primary")
  | fuel + 1 => do
    let condition ← binary fuel levels
    match ← next? with
    | some (.sign "?") => do
      advance
      let yes ← assignment fuel
      match ← next? with
      | some (.sign ":") => do
        advance
        let no ← choice fuel
        pure (if condition ≠ 0 then yes else no)
      | _ => throw (.expecting "':'")
    | _ => pure condition

def binary : Nat → List (List String) → Value
  | 0, _ => throw (.expecting "primary")
  | fuel + 1, [] => unary fuel
  | fuel + 1, level :: higher => do
    let first ← binary fuel higher
    operators fuel level higher first

def operators : Nat → List String → List (List String) → Int → Value
  | 0, _, _, _ => throw (.expecting "primary")
  | fuel + 1, level, higher, first => do
    match ← next? with
    | some (.sign s) =>
      if s ∈ level then do
        advance
        let second ← binary fuel higher
        let value ← StateT.lift (apply s first second)
        operators fuel level higher value
      else pure first
    | _ => pure first

def unary : Nat → Value
  | 0 => throw (.expecting "primary")
  | fuel + 1 => do
    match ← next? with
    | some (.number n) => do
      advance
      pure (wrap n)
    | some (.name name) => do
      advance
      valueOf name
    | some (.sign "-") => do
      advance
      pure (wrap (-(← unary fuel)))
    | some (.sign "+") => do
      advance
      unary fuel
    | some (.sign "!") => do
      advance
      pure (truth ((← unary fuel) = 0))
    | some (.sign "~") => do
      advance
      pure (-(← unary fuel) - 1)
    | some (.sign "(") => do
      advance
      let value ← assignment fuel
      match ← next? with
      | some (.sign ")") => do
        advance
        pure value
      | _ => throw (.expecting "')'")
    | _ => throw (.expecting "primary")

end

def evaluate (lookup : String → Option RawText) (text : List Char) :
    Except Fault (Int × List (String × Int)) :=
  let left := tokens (text.length + 1) text
  if left = [] then .ok (0, [])
  else do
    let (value, p) ← (assignment (16 * left.length + 32)).run { left := left, lookup := lookup }
    if p.left = [] then pure (value, p.assigned) else throw (.expecting "EOF")

end KubePlugin.Machine.Shell.Arithmetic
