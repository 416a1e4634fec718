/-!
UTF-8, read one byte at a time. Bytes that belong to no character are reported where they stand:
the longest run that could have begun a character is one fault, so a text with its faults replaced
has one character for each of them.
-/

namespace KubePlugin.Utf8

inductive Piece where
  | char (c : Char)
  | fault (bytes : List UInt8)
deriving DecidableEq, Repr

inductive State where
  | start
  | inside (seen : List UInt8) (value more low high : Nat)
deriving DecidableEq, Repr

def lead (b : UInt8) : List Piece × State :=
  let n := b.toNat
  if n < 0x80 then ([.char (Char.ofNat n)], .start)
  else if n < 0xC2 then ([.fault [b]], .start)
  else if n < 0xE0 then ([], .inside [b] (n - 0xC0) 0 0x80 0xBF)
  else if n = 0xE0 then ([], .inside [b] 0 1 0xA0 0xBF)
  else if n = 0xED then ([], .inside [b] 0xD 1 0x80 0x9F)
  else if n < 0xF0 then ([], .inside [b] (n - 0xE0) 1 0x80 0xBF)
  else if n = 0xF0 then ([], .inside [b] 0 2 0x90 0xBF)
  else if n < 0xF4 then ([], .inside [b] (n - 0xF0) 2 0x80 0xBF)
  else if n = 0xF4 then ([], .inside [b] 4 2 0x80 0x8F)
  else ([.fault [b]], .start)

/-- One byte: what it completes, and the state after it. A byte that does not go on with the
character under way ends it as a fault and is read again as a first byte. -/
def step : State → UInt8 → List Piece × State
  | .start, b => lead b
  | .inside seen value more low high, b =>
    if low ≤ b.toNat ∧ b.toNat ≤ high then
      match more with
      | 0 => ([.char (Char.ofNat (value * 64 + (b.toNat - 0x80)))], .start)
      | more + 1 => ([], .inside (seen ++ [b]) (value * 64 + (b.toNat - 0x80)) more 0x80 0xBF)
    else
      (.fault seen :: (lead b).1, (lead b).2)

def finish : State → List Piece
  | .start => []
  | .inside seen .. => [.fault seen]

def decode (bytes : List UInt8) : List Piece :=
  go .start bytes
where
  go (s : State) : List UInt8 → List Piece
    | [] => finish s
    | b :: rest => (step s b).1 ++ go (step s b).2 rest

def encode (cs : List Char) : List UInt8 :=
  cs.flatMap String.utf8EncodeChar

def chars? : List Piece → Option (List Char)
  | [] => some []
  | .fault _ :: _ => none
  | .char c :: rest => (chars? rest).map (c :: ·)

def decode? (bytes : List UInt8) : Option (List Char) :=
  chars? (decode bytes)

def replacement : Char := '\ufffd'

def Piece.shown : Piece → Char
  | .char c => c
  | .fault _ => replacement

def decodeLossy (bytes : List UInt8) : List Char :=
  (decode bytes).map Piece.shown

@[simp] theorem encode_nil : encode [] = [] := rfl

@[simp] theorem encode_append (xs ys : List Char) : encode (xs ++ ys) = encode xs ++ encode ys := by
  simp [encode]

end KubePlugin.Utf8
