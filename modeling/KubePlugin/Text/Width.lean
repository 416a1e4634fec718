import KubePlugin.Text.Class
import KubePlugin.Text.Width.Ranges

/-!
The width of a line on a terminal. A character takes no column, one or two by itself, but some
join with what stands to their right: letters with letters of the same script, emoji with a skin
tone, with each other, or with a sign that asks for a picture. So a line is measured from its end,
with what was read last at hand. A space joins with nothing, so widths add up across it
(`lineWidth_append_space`).
-/

namespace KubePlugin

def charWidth (c : Char) : Nat :=
  if c.toNat = 0x17D8 then 3
  else if inRanges zeroWidthRanges c.toNat then 0
  else if inRanges wideRanges c.toNat then 2
  else 1

namespace Width

inductive Request where
  | picture
  | text
  | fullWidth
deriving DecidableEq, Repr

/-- What stands to the right, as far as the next character to the left can join with it. `joined`
tells whether a joiner has been read since. -/
inductive Tail where
  | plain
  | lineFeed
  | alef
  | lamed (joined : Bool)
  | ya (joined : Bool)
  | iYa
  | tifinagh (joined : Bool)
  | tifinaghJoiner
  | lisuTone
  | turkicI (joined : Bool)
  | khmer
  | kiratE
  | kiratAi
  | tone
  | emoji
  | joinedEmoji
  | joinedKey
  | flagLetter
  | flagLetters
  | joinedLetter
  | joinedFlags
  | joinedFlagsLetter
  | tagEnd
  | tagLetters (count : Nat)
  | tagDigits (count : Nat)
deriving DecidableEq, Repr

namespace Tail

def held : Tail → Nat
  | khmer => 1
  | tifinaghJoiner => 1
  | joinedLetter => 1
  | joinedFlagsLetter => 1
  | _ => 0

def isLoose : Tail → Bool
  | lamed _ => true
  | ya _ => true
  | iYa => true
  | tifinagh _ => true
  | tifinaghJoiner => true
  | lisuTone => true
  | turkicI _ => true
  | khmer => true
  | _ => false

def outlivesRequest (t : Tail) : Bool := t = alef || t.isLoose

def isJoinedPicture : Tail → Bool
  | joinedEmoji => true
  | joinedKey => true
  | _ => false

def withJoiner : Tail → Tail
  | lamed _ => lamed true
  | ya _ => ya true
  | tifinagh _ => tifinagh true
  | turkicI _ => turkicI true
  | t => t

end Tail

def isKhmerBase (n : Nat) : Bool :=
  inRanges
    [ (0x1780, 0x1782), (0x1784, 0x1787), (0x1789, 0x178C), (0x178E, 0x1793), (0x1795, 0x1798),
      (0x179B, 0x179D), (0x17A0, 0x17A0), (0x17A2, 0x17A2), (0x17A7, 0x17A7), (0x17AB, 0x17AC),
      (0x17AF, 0x17AF) ] n

def isAlef (n : Nat) : Bool :=
  inRanges
    [ (0x622, 0x623), (0x625, 0x625), (0x627, 0x627), (0x671, 0x673), (0x675, 0x675),
      (0x773, 0x774), (0x870, 0x882) ] n

def isLam (n : Nat) : Bool :=
  inRanges
    [(0x644, 0x644), (0x6B5, 0x6B8), (0x76A, 0x76A), (0x8A6, 0x8A6), (0x8C7, 0x8C7)] n

def isTifinagh (n : Nat) : Bool := inRanges [(0x2D31, 0x2D65), (0x2D6F, 0x2D6F)] n

def isFlagLetter (n : Nat) : Bool := 0x1F1E6 ≤ n && n ≤ 0x1F1FF

def isTone (n : Nat) : Bool := 0x1F3FB ≤ n && n ≤ 0x1F3FF

def isQuote (n : Nat) : Bool := n = 0x2018 || n = 0x2019 || n = 0x201C || n = 0x201D

def isNarrowAsText (n : Nat) : Bool :=
  inRanges presentableRanges n && inRanges emojiRanges n && !(0x1F200 ≤ n && n ≤ 0x1F2FF)

def isIgnorableMark (n : Nat) : Bool :=
  inRanges
    [ (0x34F, 0x34F), (0x17B4, 0x17B5), (0x180B, 0x180D), (0x180F, 0x180F), (0x200D, 0x200D),
      (0xFE00, 0xFE0F), (0xE0100, 0xE01EF) ] n

def isTransparent (n : Nat) : Bool :=
  inRanges zeroWidthRanges n && !inRanges barrierRanges n

def Tail.ofNumber (n : Nat) : Tail :=
  if n = 0x5DC then .lamed false
  else if isAlef n then .alef
  else if isKhmerBase n then .khmer
  else if n = 0x1A10 then .ya false
  else if isTifinagh n then .tifinagh false
  else if n = 0xA4FC || n = 0xA4FD then .lisuTone
  else if n = 0x10C03 then .turkicI false
  else if n = 0x16D67 then .kiratE
  else if n = 0x16D68 then .kiratAi
  else if isFlagLetter n then .flagLetter
  else if isTone n then .tone
  else if inRanges emojiRanges n then .emoji
  else .plain

structure Join where
  columns : Nat
  tail : Tail
  drops : Bool := false

def Tail.join? (t : Tail) (n : Nat) : Option Join :=
  match t with
  | .alef =>
    if isLam n then some ⟨0, .plain, false⟩
    else if isTransparent n then some ⟨0, .alef, false⟩
    else none
  | .lamed joined => if joined && n = 0x5D0 then some ⟨0, .plain, false⟩ else none
  | .ya joined => if joined && n = 0x1A17 then some ⟨0, .iYa, false⟩ else none
  | .iYa => if n = 0x1A15 then some ⟨0, .plain, false⟩ else none
  | .khmer => if n = 0x17D2 then some ⟨0, .plain, true⟩ else none
  | .tifinagh joined =>
    if n = 0x2D7F then some ⟨1, .tifinaghJoiner, false⟩
    else if joined && isTifinagh n then some ⟨0, .plain, false⟩
    else none
  | .tifinaghJoiner => if isTifinagh n then some ⟨0, .plain, true⟩ else none
  | .lisuTone => if 0xA4F8 ≤ n && n ≤ 0xA4FB then some ⟨0, .plain, false⟩ else none
  | .turkicI joined => if joined && n = 0x10C32 then some ⟨0, .plain, false⟩ else none
  | .kiratE =>
    if n = 0x16D63 || n = 0x16D69 then some ⟨0, .plain, false⟩
    else if n = 0x16D67 then some ⟨0, .kiratAi, false⟩
    else if n = 0x16D68 then some ⟨1, .kiratE, false⟩
    else none
  | .kiratAi => if n = 0x16D63 then some ⟨0, .plain, false⟩ else none
  | .tone =>
    if inRanges toneBaseRanges n then some ⟨0, .emoji, false⟩
    else if n = 0x200D then some ⟨0, .joinedEmoji, false⟩
    else none
  | .emoji => if n = 0x200D then some ⟨0, .joinedEmoji, false⟩ else none
  | .joinedEmoji =>
    if n = 0x20E3 then some ⟨0, .joinedKey, false⟩
    else if isFlagLetter n then some ⟨1, .joinedLetter, false⟩
    else if isTone n then some ⟨0, .tone, false⟩
    else if n = 0xE007F then some ⟨0, .tagEnd, false⟩
    else if inRanges emojiRanges n then some ⟨0, .emoji, false⟩
    else none
  | .flagLetter => if isFlagLetter n then some ⟨1, .flagLetters, false⟩ else none
  | .flagLetters =>
    if isFlagLetter n then some ⟨1, .flagLetters, false⟩
    else if n = 0x200D then some ⟨0, .joinedEmoji, false⟩
    else none
  | .joinedLetter => if isFlagLetter n then some ⟨0, .joinedFlags, true⟩ else none
  | .joinedFlags =>
    if isFlagLetter n then some ⟨3, .joinedFlagsLetter, false⟩
    else if n = 0x200D then some ⟨0, .joinedEmoji, false⟩
    else none
  | .joinedFlagsLetter =>
    if isFlagLetter n then some ⟨0, .joinedFlags, true⟩
    else if n = 0x200D then some ⟨0, .joinedEmoji, false⟩
    else none
  | .tagEnd => tag 0
  | .tagLetters count => tag count
  | .tagDigits count =>
    if count < 3 && isDigitTag then some ⟨0, .tagDigits (count + 1), false⟩
    else if count = 3 && n = 0x1F3F4 then some ⟨0, .emoji, false⟩
    else none
  | _ => none
where
  isDigitTag : Bool := 0xE0030 ≤ n && n ≤ 0xE0039
  tag (count : Nat) : Option Join :=
    if count < 6 && 0xE0061 ≤ n && n ≤ 0xE007A then some ⟨0, .tagLetters (count + 1), false⟩
    else if count < 5 && isDigitTag then some ⟨0, .tagDigits 1, false⟩
    else if 3 ≤ count && n = 0x1F3F4 then some ⟨0, .emoji, false⟩
    else none

structure Context where
  tail : Tail := .plain
  request : Option Request := none
deriving DecidableEq, Repr

namespace Context

def add (x : Context) (columns : Nat) (y : Context) : Nat × Context :=
  (x.tail.held + columns - y.tail.held, y)

def asking (x : Context) (r : Request) : Context :=
  if x.tail.outlivesRequest || (r = .picture && x.tail.isJoinedPicture) then
    { x with request := some r }
  else { request := some r }

def unmet (x : Context) : Context :=
  if x.tail.outlivesRequest then { x with request := none } else {}

def join (x : Context) (n columns : Nat) : Nat × Context :=
  if x.tail.isLoose && n = 0x200D then x.add 0 { x with tail := x.tail.withJoiner }
  else if x.tail.isLoose && isIgnorableMark n then x.add 0 x
  else
    match x.tail.join? n with
    | some ⟨added, tail, true⟩ => (added - tail.held, { tail := tail })
    | some ⟨added, tail, false⟩ => x.add added { tail := tail }
    | none => x.add columns { tail := .ofNumber n }

def readUnasked (x : Context) (c : Char) : Nat × Context :=
  let n := c.toNat
  if n ≤ 0xA0 then
    if n = 0xA then x.add 1 { tail := .lineFeed }
    else if n = 0xD ∧ x.tail = .lineFeed then x.add 0 {}
    else x.add 1 {}
  else if n = 0xFE0F then x.add 0 (x.asking .picture)
  else if n = 0xFE0E then x.add 0 (x.asking .text)
  else if n = 0xFE01 then x.add 0 (x.asking .fullWidth)
  else x.join n (charWidth c)

def meets (n : Nat) : Request → Bool
  | .picture => inRanges presentableRanges n
  | .text => isNarrowAsText n
  | .fullWidth => isQuote n

def met (x : Context) : Request → Nat × Context
  | .picture => x.add (if x.tail.isJoinedPicture then 0 else 2) { tail := .emoji }
  | .text => x.add 1 {}
  | .fullWidth => x.add 2 {}

/-- Reads a character: the columns that are certain then, and the context in front of it. -/
def read (x : Context) (c : Char) : Nat × Context :=
  match x.request with
  | none => x.readUnasked c
  | some r =>
    if meets c.toNat r then x.met r
    else
      let freed := x.add 0 x.unmet
      let next := freed.2.readUnasked c
      (freed.1 + next.1, next.2)

def scan (x : Context) : List Char → Nat × Context
  | [] => (0, x)
  | c :: rest =>
    let before := x.scan rest
    let next := before.2.read c
    (before.1 + next.1, next.2)

end Context

end Width

def lineWidth (l : List Char) : Nat :=
  let read := Width.Context.scan {} l
  read.1 + read.2.tail.held

namespace Width.Context

theorem scan_append (x : Context) (xs ys : List Char) :
    x.scan (xs ++ ys) =
      ((x.scan ys).1 + ((x.scan ys).2.scan xs).1, ((x.scan ys).2.scan xs).2) := by
  induction xs with
  | nil => simp [scan]
  | cons c xs ih => simp [scan, ih, Nat.add_assoc]

theorem held_unmet_le (x : Context) : x.unmet.tail.held ≤ x.tail.held := by
  unfold unmet
  split
  . exact Nat.le_refl _
  . exact Nat.zero_le _

theorem readUnasked_space (x : Context) : x.readUnasked ' ' = (x.tail.held + 1, {}) := rfl

theorem read_space (x : Context) : x.read ' ' = (x.tail.held + 1, {}) := by
  have unmet : ∀ r, meets ' '.toNat r = false := by intro r; cases r <;> decide +kernel
  unfold read
  split
  . exact x.readUnasked_space
  . next r _ =>
    have h := x.held_unmet_le
    simp only [unmet r, Bool.false_eq_true, if_false, readUnasked_space, add, Nat.add_zero]
    congr 1
    omega

end Width.Context

@[simp] theorem lineWidth_nil : lineWidth [] = 0 := rfl

theorem lineWidth_append_space (xs ys : List Char) :
    lineWidth (xs ++ ' ' :: ys) = lineWidth xs + 1 + lineWidth ys := by
  simp only [lineWidth, Width.Context.scan_append, Width.Context.scan, Width.Context.read_space]
  omega

end KubePlugin
