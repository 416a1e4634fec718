import KubePlugin.Text.Utf8

/-!
Text as the system hands it over: any bytes, most often UTF-8. Arguments, paths and what a child
prints are of this type; `text?` reads one strictly and `lossy` for display.
-/

namespace KubePlugin

structure RawText where
  bytes : List UInt8
deriving DecidableEq, Repr, Inhabited

namespace RawText

def ofString (s : String) : RawText := ⟨Utf8.encode s.toList⟩

instance : Coe String RawText := ⟨ofString⟩

instance : Append RawText := ⟨fun a b => ⟨a.bytes ++ b.bytes⟩⟩

def empty : RawText := ⟨[]⟩

def isEmpty (t : RawText) : Bool := t.bytes.isEmpty

def text? (t : RawText) : Option String :=
  (Utf8.decode? t.bytes).map String.ofList

def lossy (t : RawText) : String :=
  String.ofList (Utf8.decodeLossy t.bytes)

def dropStart? : (p l : List UInt8) → Option (List UInt8)
  | [], l => some l
  | _ :: _, [] => none
  | a :: p, b :: l => if a = b then dropStart? p l else none

def splitBytes (b : UInt8) : List UInt8 → List (List UInt8)
  | [] => [[]]
  | x :: rest =>
    if x = b then [] :: splitBytes b rest
    else match splitBytes b rest with
      | [] => [[x]]
      | part :: parts => (x :: part) :: parts

def splitFirst (b : UInt8) : List UInt8 → List UInt8 × Option (List UInt8)
  | [] => ([], none)
  | x :: rest =>
    if x = b then ([], some rest)
    else ((x :: (splitFirst b rest).1), (splitFirst b rest).2)

def before : (a b : List UInt8) → Bool
  | _, [] => false
  | [], _ :: _ => true
  | a :: as, b :: bs => if a = b then before as bs else a < b

@[simp] theorem bytes_append (a b : RawText) : (a ++ b).bytes = a.bytes ++ b.bytes := rfl

theorem append_assoc (a b c : RawText) : a ++ b ++ c = a ++ (b ++ c) := by
  show RawText.mk (a.bytes ++ b.bytes ++ c.bytes) = RawText.mk (a.bytes ++ (b.bytes ++ c.bytes))
  rw [List.append_assoc]

@[simp] theorem bytes_ofString (s : String) : (ofString s).bytes = Utf8.encode s.toList := rfl

@[simp] theorem ofString_append (s t : String) : ofString (s ++ t) = ofString s ++ ofString t := by
  show RawText.mk _ = RawText.mk _
  simp

end RawText

end KubePlugin
