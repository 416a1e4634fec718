import KubePlugin.Text.Raw

namespace KubePlugin.Machine.Shell

structure Mark where
  byte : UInt8
  quoted : Bool
deriving DecidableEq, Repr

abbrev Pattern := List Mark

namespace Pattern

def ofBytes (quoted : Bool) (bytes : List UInt8) : Pattern := bytes.map fun b => ⟨b, quoted⟩

def bytes (p : Pattern) : List UInt8 := p.map Mark.byte

def isOpen (p : Pattern) : Bool :=
  p.any fun m => !m.quoted && (m.byte = 0x2A || m.byte = 0x3F || m.byte = 0x5B)

def inSet (b : UInt8) : Pattern → Bool
  | [] => false
  | low :: ⟨0x2D, false⟩ :: high :: rest =>
    (low.byte ≤ b && b ≤ high.byte) || inSet b rest
  | m :: rest => m.byte = b || inSet b rest

def set? : (first : Bool) → Pattern → Option (Pattern × Pattern)
  | _, [] => none
  | first, m :: rest =>
    if m.byte = 0x5D ∧ m.quoted = false ∧ first = false then some ([], rest)
    else (set? false rest).map fun found => (m :: found.1, found.2)

def opened? (p : Pattern) : Option (Pattern × Bool × Pattern) :=
  match p with
  | ⟨b, false⟩ :: rest =>
    if b = 0x21 ∨ b = 0x5E then (set? true rest).map fun found => (found.1, true, found.2)
    else (set? true p).map fun found => (found.1, false, found.2)
  | _ => (set? true p).map fun found => (found.1, false, found.2)

def fitsWithin : (fuel : Nat) → Pattern → List UInt8 → Bool
  | 0, p, l => p.isEmpty && l.isEmpty
  | _ + 1, [], l => l.isEmpty
  | fuel + 1, m :: p, l =>
    if m = ⟨0x2A, false⟩ then
      fitsWithin fuel p l ||
        match l with
        | [] => false
        | _ :: rest => fitsWithin fuel (m :: p) rest
    else
      match l with
      | [] => false
      | b :: rest =>
        if m = ⟨0x3F, false⟩ then fitsWithin fuel p rest
        else
          match (if m = ⟨0x5B, false⟩ then opened? p else none) with
          | some (set, inverted, p) => inSet b set != inverted && fitsWithin fuel p rest
          | none => m.byte = b && fitsWithin fuel p rest

def fits (p : Pattern) (l : List UInt8) : Bool := fitsWithin (p.length + l.length) p l

def trimStart (longest : Bool) (p : Pattern) (l : List UInt8) : List UInt8 :=
  let sizes := List.range (l.length + 1)
  match (if longest then sizes.reverse else sizes).find? fun n => p.fits (l.take n) with
  | some n => l.drop n
  | none => l

def trimEnd (longest : Bool) (p : Pattern) (l : List UInt8) : List UInt8 :=
  let sizes := List.range (l.length + 1)
  match (if longest then sizes else sizes.reverse).find? fun n => p.fits (l.drop n) with
  | some n => l.take n
  | none => l

end Pattern

end KubePlugin.Machine.Shell
