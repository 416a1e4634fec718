import KubePlugin.Machine.Shell.Arithmetic

namespace KubePlugin.Machine.Shell.Condition

inductive Kind where
  | unary
  | binary
  | both
  | either
  | negation
  | opening
  | closing
deriving DecidableEq, Repr

def kind? (word : RawText) : Option Kind :=
  match word.text? with
  | some "-a" => some .both
  | some "-o" => some .either
  | some "!" => some .negation
  | some "(" => some .opening
  | some ")" => some .closing
  | some text =>
    if text ∈ ["=", "!=", "<", ">", "-eq", "-ne", "-ge", "-gt", "-le", "-lt", "-nt", "-ot", "-ef"]
    then some .binary
    else if text.length = 2 ∧ text.startsWith "-" ∧
        (text.drop 1).toString.all (· ∈ "rwxefdcbpugkstznhOGLS".toList) then some .unary
    else none
  | none => none

def meaning? : List RawText → Option Kind
  | [] => none
  | word :: rest =>
    match kind? word with
    | some .unary =>
      match rest with
      | [] => none
      | [_] => some .unary
      | second :: third :: _ =>
        if kind? second = some .binary ∧ third ≠ RawText.ofString ")" then none else some .unary
    | some .opening => if rest = [] then none else some .opening
    | kind => kind

structure Witness where
  file : UInt8 → RawText → Bool
  newer : RawText → RawText → Bool

def unary (ask : Witness) (operator word : RawText) : Bool :=
  match operator.bytes with
  | [_, 0x7A] => word.isEmpty
  | [_, 0x6E] => !word.isEmpty
  | [_, kind] => ask.file kind word
  | _ => false

def number (word : RawText) : Except RawText Int :=
  match Arithmetic.ofText? (word.bytes.map fun b => Char.ofNat b.toNat) with
  | some n => .ok n
  | none => .error (RawText.ofString "Illegal number: " ++ word)

def binary (ask : Witness) (first operator second : RawText) : Except RawText Bool := do
  match operator.text? with
  | some "=" => pure (first = second)
  | some "!=" => pure (first ≠ second)
  | some "<" => pure (RawText.before first.bytes second.bytes)
  | some ">" => pure (RawText.before second.bytes first.bytes)
  | some "-nt" => pure (ask.newer first second)
  | some "-ot" => pure (ask.newer second first)
  | some "-eq" => pure ((← number first) = (← number second))
  | some "-ne" => pure ((← number first) ≠ (← number second))
  | some "-lt" => pure ((← number first) < (← number second))
  | some "-le" => pure ((← number first) ≤ (← number second))
  | some "-gt" => pure ((← number second) < (← number first))
  | some "-ge" => pure ((← number second) ≤ (← number first))
  | _ => pure false

def unexpected (word : RawText) (text : String) : Except RawText (Bool × List RawText) :=
  .error (word ++ RawText.ofString s!": {text}")

mutual

def anyOf (ask : Witness) :
    Nat → (operand : Bool) → List RawText → Except RawText (Bool × List RawText)
  | 0, _, words => .ok (false, words)
  | fuel + 1, operand, words => do
    let (holds, rest) ← allOf ask fuel operand words
    match rest with
    | word :: more =>
      if kind? word = some .either then do
        let (other, rest) ← anyOf ask fuel false more
        pure (holds || other, rest)
      else pure (holds, rest)
    | [] => pure (holds, rest)

def allOf (ask : Witness) :
    Nat → (operand : Bool) → List RawText → Except RawText (Bool × List RawText)
  | 0, _, words => .ok (false, words)
  | fuel + 1, operand, words => do
    let (holds, rest) ← negated ask fuel operand words
    match rest with
    | word :: more =>
      if kind? word = some .both then do
        let (other, rest) ← allOf ask fuel false more
        pure (holds && other, rest)
      else pure (holds, rest)
    | [] => pure (holds, rest)

def negated (ask : Witness) :
    Nat → (operand : Bool) → List RawText → Except RawText (Bool × List RawText)
  | 0, _, words => .ok (false, words)
  | fuel + 1, operand, words =>
    if !operand && meaning? words = some .negation then do
      let (holds, rest) ← negated ask fuel false words.tail
      pure (!holds, rest)
    else primary ask fuel operand words

def primary (ask : Witness) :
    Nat → (operand : Bool) → List RawText → Except RawText (Bool × List RawText)
  | 0, _, words => .ok (false, words)
  | fuel + 1, operand, words =>
    match words with
    | [] => .ok (false, [])
    | word :: rest =>
      match (if operand then none else meaning? words), rest with
      | some .opening, rest =>
        if (rest.head?.bind kind?) = some .closing then .ok (false, rest)
        else do
          let (holds, rest) ← anyOf ask fuel false rest
          match rest with
          | closing :: rest =>
            if kind? closing = some .closing then pure (holds, rest)
            else .error (RawText.ofString "closing paren expected")
          | [] => .error (RawText.ofString "closing paren expected")
      | some .unary, [] => unexpected word "argument expected"
      | some .unary, operand :: rest => .ok (unary ask word operand, rest)
      | _, operator :: more =>
        if kind? operator = some .binary then
          match more with
          | second :: rest => do pure (← binary ask word operator second, rest)
          | [] => unexpected operator "argument expected"
        else .ok (!word.isEmpty, rest)
      | _, [] => .ok (!word.isEmpty, [])

end

def ofWords (ask : Witness) (words : List RawText) : Except RawText Bool := do
  let (holds, rest) ← anyOf ask (6 * words.length + 8) false words
  if rest = [] then pure holds
  else
    let last := (words.take (words.length - rest.length)).getLast?.getD RawText.empty
    throw (last ++ RawText.ofString ": unexpected operator")

/-- Whether the condition holds that some words are, or what is said of it. Three or four words are
looked at as a whole first: an operator between two words, brackets around some, or a negation. -/
def holds (ask : Witness) : List RawText → Except RawText Bool
  | [a, operator, b] =>
    if kind? operator = some .binary then binary ask a operator b
    else if kind? a = some .opening ∧ kind? b = some .closing then ofWords ask [operator]
    else if kind? a = some .negation then (!·) <$> ofWords ask [operator, b]
    else ofWords ask [a, operator, b]
  | [a, b, c, d] =>
    if kind? a = some .opening ∧ kind? d = some .closing then ofWords ask [b, c]
    else if kind? a = some .negation then
      if kind? c = some .binary then (!·) <$> binary ask b c d
      else (!·) <$> ofWords ask [b, c, d]
    else ofWords ask [a, b, c, d]
  | words => ofWords ask words

end KubePlugin.Machine.Shell.Condition
