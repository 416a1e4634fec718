import KubePlugin.Text.Class
import KubePlugin.Text.Hidden
import KubePlugin.Text.Raw

namespace KubePlugin

def hexDigits (n : Nat) : List Char := Nat.toDigits 16 n

def byteDigits (b : UInt8) : List Char :=
  let digits := (Nat.toDigits 16 b.toNat).map Char.toUpper
  if digits.length < 2 then '0' :: digits else digits

def numericEscape (c : Char) : List Char :=
  ['\\', 'u', '\x7b'] ++ hexDigits c.toNat ++ ['\x7d']

def shortEscape? : Char → Option Char
  | '\t' => some 't'
  | '\r' => some 'r'
  | '\n' => some 'n'
  | '"' => some '"'
  | '\\' => some '\\'
  | _ => none

def escapeHidden (c : Char) : List Char :=
  match shortEscape? c with
  | some e => ['\\', e]
  | none =>
    if c.toNat = 0 then ['\\', '0']
    else if inRanges hiddenRanges c.toNat then numericEscape c
    else [c]

def quotedPiece : Utf8.Piece → List Char
  | .char c => escapeHidden c
  | .fault bytes => bytes.flatMap fun b => ['\\', 'x'] ++ byteDigits b

def quotedRaw (t : RawText) : String :=
  String.ofList (['"'] ++ (Utf8.decode t.bytes).flatMap quotedPiece ++ ['"'])

def quotedRawList (l : List RawText) : String :=
  "[" ++ ", ".intercalate (l.map quotedRaw) ++ "]"

def escapeAscii (c : Char) : List Char :=
  match shortEscape? c with
  | some e => ['\\', e]
  | none =>
    if c = '\x27' then ['\\', c]
    else if 0x20 ≤ c.toNat && c.toNat ≤ 0x7E then [c]
    else numericEscape c

def isAsciiBlank (c : Char) : Bool :=
  c = ' ' || c = '\t' || c = '\n' || c = '\r' || c.toNat = 0xC

def quotedWord (w : String) : String :=
  if w.toList.any isAsciiBlank then
    String.ofList (['"'] ++ w.toList.flatMap escapeAscii ++ ['"'])
  else w

end KubePlugin
