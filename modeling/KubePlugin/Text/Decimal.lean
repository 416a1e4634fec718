namespace KubePlugin

inductive NumberFault where
  | empty
  | invalidDigit
  | tooLarge
  | tooSmall
deriving DecidableEq, Repr

def NumberFault.message : NumberFault → String
  | .empty => "cannot parse integer from empty string"
  | .invalidDigit => "invalid digit found in string"
  | .tooLarge => "number too large to fit in target type"
  | .tooSmall => "number too small to fit in target type"

def digit? (c : Char) : Option Nat :=
  if '0' ≤ c ∧ c ≤ '9' then some (c.toNat - '0'.toNat) else none

def readDigits (limit : Nat) (beyond : NumberFault) (acc : Nat) :
    List Char → Except NumberFault Nat
  | [] => .ok acc
  | c :: rest =>
    match digit? c with
    | none => .error .invalidDigit
    | some d =>
      if limit < acc * 10 + d then .error beyond
      else readDigits limit beyond (acc * 10 + d) rest

def greatest64 : Nat := 9223372036854775807

def readInt64 : List Char → Except NumberFault Int
  | [] => .error .empty
  | ['+'] => .error .invalidDigit
  | ['-'] => .error .invalidDigit
  | '+' :: rest => (readDigits greatest64 .tooLarge 0 rest).map Int.ofNat
  | '-' :: rest => (readDigits (greatest64 + 1) .tooSmall 0 rest).map fun n => -(n : Int)
  | cs => (readDigits greatest64 .tooLarge 0 cs).map Int.ofNat

inductive CountFault where
  | notNumber (fault : NumberFault)
  | outOfRange (value : Int)
deriving DecidableEq, Repr

def CountFault.message : CountFault → String
  | .notNumber fault => fault.message
  | .outOfRange value => s!"{value} is not in 0..=4294967295"

def readCount (cs : List Char) : Except CountFault UInt32 :=
  match readInt64 cs with
  | .error fault => .error (.notNumber fault)
  | .ok value =>
    if 0 ≤ value ∧ value ≤ 4294967295 then .ok (UInt32.ofNat value.toNat)
    else .error (.outOfRange value)

end KubePlugin
