import KubePlugin.Log
import KubePlugin.Text.Class

/-!
Which events are shown. A filter is a list of words with commas between them. A word names a level
for all parts of the plugin, or a part with its level, and it can be limited to events that tell a
field. Words can also name spans, or values of fields; as the plugin has no spans, these words are
understood and have no effect. No value of a field is ever compared with a pattern here; what
matters is whether a text is one.
-/

namespace KubePlugin.Log.Pattern

structure Progress where
  groups : Nat := 0
  classes : Nat := 0
  repeatable : Bool := false
deriving DecidableEq, Repr

def escapable : List Char :=
  ['d', 'D', 's', 'S', 'w', 'W', 'a', 'f', 'n', 'r', 't', 'v', 'x', 'u', 'U', 'p', 'P', 'A', 'z']

def isEscapable (c : Char) : Bool :=
  c ∈ escapable || (c.toNat < 0x80 && !c.isAlphanum && c ≠ '<' && c ≠ '>')

def isGroupSign (c : Char) : Bool := c ∈ [':', 'P', '<', 'i', 'm', 's', 'x', 'u', 'U', 'R', '-']

def isPattern (p : Progress) : List Char → Bool
  | [] => p.groups = 0 && p.classes = 0
  | '\\' :: c :: rest => isEscapable c && isPattern { p with repeatable := true } rest
  | '\\' :: [] => false
  | '[' :: '^' :: ']' :: rest => isPattern { p with classes := p.classes + 1 } rest
  | '[' :: ']' :: rest => isPattern { p with classes := p.classes + 1 } rest
  | '[' :: rest => isPattern { p with classes := p.classes + 1 } rest
  | '(' :: '?' :: c :: rest =>
    if p.classes ≠ 0 then isPattern p rest
    else
      isGroupSign c && isPattern { p with groups := p.groups + 1, repeatable := false } rest
  | c :: rest =>
    if p.classes ≠ 0 then
      isPattern
        (if c = ']' then { p with classes := p.classes - 1, repeatable := true } else p) rest
    else
      match c with
      | '*' => p.repeatable && isPattern p rest
      | '+' => p.repeatable && isPattern p rest
      | '?' => p.repeatable && isPattern p rest
      | '\x7b' => false
      | '|' => isPattern { p with repeatable := false } rest
      | '(' => isPattern { p with groups := p.groups + 1, repeatable := false } rest
      | ')' => p.groups ≠ 0 && isPattern { p with groups := p.groups - 1, repeatable := true } rest
      | _ => isPattern { p with repeatable := true } rest

end KubePlugin.Log.Pattern

namespace KubePlugin.Log

structure Rule where
  target : String
  field : Option String := none
  rank : Nat
deriving DecidableEq, Repr

namespace Rule

def concerns (r : Rule) (e : Event) : Bool :=
  e.part.path.startsWith r.target &&
    (match r.field with
      | some name => e.names.contains name
      | none => true)

def isBelow (r s : Rule) : Bool :=
  r.target.length < s.target.length ||
    (r.target.length = s.target.length &&
      (match r.field, s.field with
        | none, some _ => true
        | some a, some b => a < b
        | _, none => false))

end Rule

structure Filter where
  rules : List Rule
deriving DecidableEq, Repr

namespace Filter

def number? : List Char → Option Nat
  | [] => none
  | digits =>
    if digits.all Char.isDigit then
      some (digits.foldl (fun n c => n * 10 + (c.toNat - '0'.toNat)) 0)
    else none

def numbered? (word : List Char) : Option Nat :=
  let digits := match word with
    | '+' :: rest => rest
    | _ => word
  (number? digits).bind fun n => if n ≤ 5 then some n else none

def rank? (word : List Char) : Option Nat :=
  match numbered? word with
  | some rank => some rank
  | none =>
    match String.ofList (word.map Char.toLower) with
    | "off" => some 0
    | "error" => some 1
    | "warn" => some 2
    | "info" => some 3
    | "debug" => some 4
    | "trace" => some 5
    | _ => none

def allRanks : Nat := 5

def levelAfter? : List Char → Option Nat
  | [] => some allRanks
  | word => rank? word

def canBegin (c : Char) : Bool := isLetterOrDigit c || c = '_' || c = ':' || c = '-'

def isValue (text : List Char) : Bool :=
  match text with
  | '+' :: rest => (number? rest).isSome
  | _ => Pattern.isPattern {} text

inductive Limit where
  | field (name : String)
  | elsewhere

def fieldLimit? (text : List Char) : Option Limit :=
  let name := text.takeWhile (· ≠ '=')
  match text.drop name.length with
  | [] => if name.isEmpty then none else some (.field (String.ofList name))
  | _ :: value => if isValue (value.takeWhile (· ≠ '=')) then some .elsewhere else none

def limit? (text : List Char) : Option (Limit × List Char) :=
  let span := text.takeWhile fun c => c ≠ ']' && c ≠ '\x7b'
  match text.drop span.length with
  | ']' :: rest => some (.elsewhere, rest)
  | _ :: more =>
    let field := more.takeWhile (· ≠ '\x7d')
    match more.drop field.length, fieldLimit? field with
    | '\x7d' :: ']' :: rest, some limit =>
      some (if span.isEmpty then limit else .elsewhere, rest)
    | _, _ => none
  | [] => none

def limited? (target text : List Char) (indented : Bool) : Option (List Rule) :=
  match limit? text with
  | none => none
  | some (limit, rest) =>
    let rank := match rest with
      | '=' :: level => if indented then none else levelAfter? level
      | _ => if rest.all isBlank then some allRanks else none
    rank.map fun rank =>
      match limit with
      | .field name => if indented then [] else [⟨String.ofList target, some name, rank⟩]
      | .elsewhere => []

/-- The rules that a word of a filter states: one at most, and none if it is about spans or begins
with a blank. A word that is not understood gives nothing. -/
def rules? (word : String) : Option (List Rule) :=
  let text := word.toList.dropWhile isBlank
  let indented := text.length < word.length
  match text with
  | [] => none
  | '[' :: rest => limited? [] rest indented
  | c :: _ =>
    if canBegin c then
      let name := text.takeWhile fun c => c ≠ '=' && c ≠ '['
      match text.drop name.length with
      | '=' :: level =>
        if indented then none
        else (levelAfter? level).map fun rank => [⟨String.ofList name, none, rank⟩]
      | '[' :: rest => limited? name rest indented
      | _ =>
        if indented then some []
        else
          match rank? name with
          | some rank => some [⟨"", none, rank⟩]
          | none => some [⟨String.ofList name, none, allRanks⟩]
    else none

def standard : Filter := ⟨[⟨"", none, 2⟩]⟩

def parse? (text : String) : Option Filter :=
  (((text.splitOn ",").filter (!·.isEmpty)).mapM rules?).map fun rules => ⟨rules.flatten⟩

def ofVariable (value : Option String) : Filter :=
  (value.bind parse?).getD standard

/-- The rule for an event: of those that concern it the one that says most, of equals the last. -/
def ruleFor (f : Filter) (e : Event) : Option Rule :=
  (f.rules.filter (·.concerns e)).foldl
    (fun best r =>
      match best with
      | some b => if r.isBelow b then some b else some r
      | none => some r)
    none

def shows (f : Filter) (e : Event) : Bool :=
  match f.ruleFor e with
  | some r => e.level.rank ≤ r.rank
  | none => false

end Filter

end KubePlugin.Log
