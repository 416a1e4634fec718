import KubePlugin.Machine.Shell.Arithmetic

namespace KubePlugin.Machine.Shell.Print

def octalValue? (b : UInt8) : Option Nat :=
  if 0x30 ≤ b ∧ b ≤ 0x37 then some (b.toNat - 0x30) else none

def octal : Nat → Nat → List UInt8 → Nat × List UInt8
  | n + 1, value, b :: rest =>
    match octalValue? b with
    | some d => octal n (value * 8 + d) rest
    | none => (value, b :: rest)
  | _, value, bytes => (value, bytes)

def letter? (b : UInt8) : Option UInt8 :=
  match b with
  | 0x5C => some 0x5C
  | 0x61 => some 0x07
  | 0x62 => some 0x08
  | 0x66 => some 0x0C
  | 0x6E => some 0x0A
  | 0x72 => some 0x0D
  | 0x74 => some 0x09
  | 0x76 => some 0x0B
  | _ => none

def escape : List UInt8 → UInt8 × List UInt8
  | [] => (0x5C, [])
  | b :: rest =>
    match octalValue? b with
    | some _ =>
      let n := octal 3 0 (b :: rest)
      (UInt8.ofNat n.1, n.2)
    | none =>
      match letter? b with
      | some c => (c, rest)
      | none => (0x5C, b :: rest)

def unescape : Nat → List UInt8 → List UInt8 × Bool
  | 0, _ => ([], false)
  | _ + 1, [] => ([], false)
  | fuel + 1, 0x5C :: rest =>
    match rest with
    | 0x63 :: _ => ([], true)
    | 0x30 :: d :: more =>
      let e := if (octalValue? d).isSome then escape (d :: more) else escape (0x30 :: d :: more)
      let next := unescape fuel e.2
      (e.1 :: next.1, next.2)
    | rest =>
      let e := escape rest
      let next := unescape fuel e.2
      (e.1 :: next.1, next.2)
  | fuel + 1, b :: rest =>
    let next := unescape fuel rest
    (b :: next.1, next.2)

def spaced (ending : List UInt8) : List (List UInt8) → List UInt8
  | [] => ending
  | [w] => if (unescape (w.length + 1) w).2 then (unescape (w.length + 1) w).1
      else (unescape (w.length + 1) w).1 ++ ending
  | w :: rest => if (unescape (w.length + 1) w).2 then (unescape (w.length + 1) w).1
      else (unescape (w.length + 1) w).1 ++ 0x20 :: spaced ending rest

def echo (args : List RawText) : List UInt8 :=
  match args with
  | first :: rest =>
    if first = RawText.ofString "-n" then spaced [] (rest.map RawText.bytes)
    else spaced [0x0A] (args.map RawText.bytes)
  | [] => [0x0A]

structure Style where
  left : Bool := false
  zeros : Bool := false
  plus : Bool := false
  width : Nat := 0
  limit : Option Nat := none

def Style.pad (s : Style) (bytes : List UInt8) : List UInt8 :=
  let blanks := List.replicate (s.width - bytes.length) 0x20
  if s.left then bytes ++ blanks else blanks ++ bytes

def Style.padNumber (s : Style) (negative : Bool) (digits : List UInt8) : List UInt8 :=
  let sign := if negative then [0x2D] else if s.plus then [0x2B] else []
  let zeros :=
    if s.zeros && !s.left then List.replicate (s.width - sign.length - digits.length) 0x30 else []
  s.pad (sign ++ zeros ++ digits)

def flags (s : Style) : List UInt8 → Style × List UInt8
  | 0x2D :: rest => flags { s with left := true } rest
  | 0x30 :: rest => flags { s with zeros := true } rest
  | 0x2B :: rest => flags { s with plus := true } rest
  | bytes => (s, bytes)

def number (value : Nat) : List UInt8 → Nat × List UInt8
  | b :: rest =>
    if 0x30 ≤ b ∧ b ≤ 0x39 then number (value * 10 + (b.toNat - 0x30)) rest else (value, b :: rest)
  | [] => (value, [])

def style (bytes : List UInt8) : Style × List UInt8 :=
  let f := flags {} bytes
  let w := number 0 f.2
  match w.2 with
  | 0x2E :: rest =>
    let p := number 0 rest
    ({ f.1 with width := w.1, limit := some p.1 }, p.2)
  | rest => ({ f.1 with width := w.1 }, rest)

abbrev Fault := RawText × Nat

def numberOf (arg : List UInt8) : Int × List Fault :=
  match arg with
  | [] => (0, [])
  | [_, b] => if arg.head? = some 0x27 ∨ arg.head? = some 0x22 then (b.toNat, []) else ofDigits
  | _ => ofDigits
where
  ofDigits : Int × List Fault :=
    let text := (arg.map fun b => Char.ofNat b.toNat).dropWhile Char.isWhitespace
    let (negative, digits) := match text with
      | '-' :: rest => (true, rest)
      | '+' :: rest => (false, rest)
      | _ => (false, text)
    let n := Arithmetic.numeral digits
    let value : Int := if negative then -n.1 else n.1
    if !digits.head?.any Char.isDigit then
      (0, [(⟨arg⟩ ++ RawText.ofString ": expected numeric value", 1)])
    else if n.2 ≠ [] then (value, [(⟨arg⟩ ++ RawText.ofString ": not completely converted", 1)])
    else (value, [])

def digitsOf (base n : Nat) : List UInt8 :=
  (Nat.toDigits base n).map fun c => UInt8.ofNat c.toNat

structure Piece where
  bytes : List UInt8
  stops : Bool := false
  faults : List Fault := []

def directive (s : Style) (kind : UInt8) (arg : List UInt8) : Option Piece :=
  let cut (bytes : List UInt8) := match s.limit with
    | some n => bytes.take n
    | none => bytes
  let signed : Piece :=
    let n := numberOf arg
    ⟨s.padNumber (n.1 < 0) (digitsOf 10 n.1.natAbs), false, n.2⟩
  let unsigned (base : Nat) : Piece :=
    let n := numberOf arg
    ⟨{ s with plus := false }.padNumber false (digitsOf base (Arithmetic.bits n.1)), false, n.2⟩
  match kind with
  | 0x73 => some ⟨s.pad (cut arg), false, []⟩
  | 0x62 =>
    let u := unescape (arg.length + 1) arg
    some ⟨s.pad (cut u.1), u.2, []⟩
  | 0x63 => some ⟨s.pad (arg.take 1), false, []⟩
  | 0x64 => some signed
  | 0x69 => some signed
  | 0x75 => some (unsigned 10)
  | 0x78 => some (unsigned 16)
  | 0x58 =>
    let p := unsigned 16
    some { p with bytes := p.bytes.map fun b => if 0x61 ≤ b ∧ b ≤ 0x66 then b - 0x20 else b }
  | 0x6F => some (unsigned 8)
  | _ => none

structure Pass where
  written : List UInt8
  left : List (List UInt8)
  stops : Bool := false
  faults : List Fault := []

def Pass.after (p : Pass) (bytes : List UInt8) : Pass := { p with written := bytes ++ p.written }

def pass : Nat → List UInt8 → List (List UInt8) → Pass
  | 0, _, args => { written := [], left := args, stops := true }
  | _ + 1, [], args => { written := [], left := args }
  | fuel + 1, 0x5C :: rest, args =>
    match rest with
    | 0x63 :: _ => { written := [], left := args, stops := true }
    | rest =>
      let e := escape rest
      (pass fuel e.2 args).after [e.1]
  | fuel + 1, 0x25 :: 0x25 :: rest, args => (pass fuel rest args).after [0x25]
  | fuel + 1, 0x25 :: rest, args =>
    let s := style rest
    let invalid : Pass :=
      let text := 0x25 :: rest.take (rest.length - s.2.length + 1)
      { written := [], left := args, stops := true
        faults := [(⟨text⟩ ++ RawText.ofString ": invalid directive", 2)] }
    match s.2 with
    | [] => invalid
    | kind :: rest =>
      match directive s.1 kind (args.headD []) with
      | none => invalid
      | some p =>
        if p.stops then { written := p.bytes, left := args.drop 1, stops := true }
        else
          let next := pass fuel rest (args.drop 1)
          { next with written := p.bytes ++ next.written, faults := p.faults ++ next.faults }
  | fuel + 1, b :: rest, args => (pass fuel rest args).after [b]

def passes : Nat → List UInt8 → List (List UInt8) → Pass
  | 0, _, args => { written := [], left := args }
  | fuel + 1, format, args =>
    let p := pass (format.length + 1) format args
    if p.stops || p.left.isEmpty || p.left.length = args.length then p
    else
      let next := passes fuel format p.left
      { next with written := p.written ++ next.written, faults := p.faults ++ next.faults }

def printf (format : RawText) (args : List RawText) : Pass :=
  passes (args.length + 1) format.bytes (args.map RawText.bytes)

end KubePlugin.Machine.Shell.Print
