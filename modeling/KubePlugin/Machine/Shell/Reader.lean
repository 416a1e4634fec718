import KubePlugin.Machine.Shell.Token

/-!
From tokens to commands. A script is read line by line, as it is carried out: what cannot be read
only matters when everything before it has been done.
-/

namespace KubePlugin.Machine.Shell

namespace Reader

structure Fault where
  left : List Placed
  wanted : Option String := none
deriving Repr

def plainText? (w : WordParts) : Option String :=
  (w.mapM Part.plain?).map fun l => String.ofList l.flatten

def headText? : List Placed → Option String
  | ⟨.word w, _⟩ :: _ => plainText? w
  | _ => none

def startsWithWord (text : String) (ts : List Placed) : Bool := headText? ts = some text

def closers : List String := ["then", "else", "elif", "fi", "do", "done", "esac", "\x7d"]

def keywords : List String := ["!", "case", "for", "if", "until", "while", "\x7b"] ++ closers

def isRedirection (text : String) : Bool := text ∈ [">", ">>", ">&", "<", "<&"]

def Fault.line (f : Fault) : Nat :=
  match f.left with
  | ⟨.newline, line⟩ :: _ => line + 1
  | ⟨_, line⟩ :: _ => line
  | [] => 1

def Fault.message (f : Fault) : String :=
  let unexpected (found : String) : String :=
    match f.wanted with
    | some wanted => s!"{found} unexpected (expecting \"{wanted}\")"
    | none => s!"{found} unexpected"
  match f.left with
  | ⟨.fault text, _⟩ :: _ => text
  | ⟨.newline, _⟩ :: _ => unexpected "newline"
  | ⟨.sign text _, _⟩ :: _ =>
    unexpected (if isRedirection text then "redirection" else s!"\"{text}\"")
  | ⟨.document _, _⟩ :: _ => unexpected "redirection"
  | ⟨.word w, _⟩ :: _ =>
    match plainText? w with
    | some text => unexpected (if text ∈ keywords then s!"\"{text}\"" else "word")
    | none => unexpected "word"
  | _ => unexpected "end of file"

def skipNewlines : List Placed → List Placed
  | ⟨.newline, _⟩ :: rest => skipNewlines rest
  | ts => ts

def expectWord (text : String) (ts : List Placed) : Except Fault (List Placed) :=
  if startsWithWord text ts then .ok (ts.drop 1) else .error ⟨ts, some text⟩

def expectBracket (ts : List Placed) : Except Fault (List Placed) :=
  match ts with
  | ⟨.sign ")" _, _⟩ :: rest => .ok rest
  | _ => .error ⟨ts, some ")"⟩

def assignment? (w : WordParts) : Option (String × WordParts) :=
  let name := w.takeWhile fun p =>
    match p with
    | .literal [c] false => isNameChar c
    | _ => false
  let text := name.flatMap fun p =>
    match p with
    | .literal text _ => text
    | _ => []
  match text, w.drop name.length with
  | c :: cs, .literal ['='] false :: value =>
    if isNameStart c then some (String.ofList (c :: cs), value) else none
  | _, _ => none

def atClose (ts : List Placed) : Bool :=
  match ts with
  | [] => true
  | ⟨.ending, _⟩ :: _ => true
  | ⟨.sign ")" _, _⟩ :: _ => true
  | ⟨.sign ";;" _, _⟩ :: _ => true
  | t :: _ => (headText? [t]).any (· ∈ closers)

def atLineEnd (ts : List Placed) : Bool :=
  match ts with
  | [] => true
  | ⟨.ending, _⟩ :: _ => true
  | ⟨.newline, _⟩ :: _ => true
  | _ => false

def redirect? : List Placed → Option (Redirect × List Placed)
  | ⟨.document text, _⟩ :: rest => some (.fromText text, rest)
  | ⟨.sign s stream, _⟩ :: ⟨.word w, _⟩ :: rest =>
    match s with
    | ">" => some (.toFile (stream.getD 1) false w, rest)
    | ">>" => some (.toFile (stream.getD 1) true w, rest)
    | "<" => some (.fromFile w, rest)
    | ">&" =>
      match (plainText? w).bind String.toNat? with
      | some other => some (.duplicate (stream.getD 1) other, rest)
      | none => none
    | "<&" =>
      match (plainText? w).bind String.toNat? with
      | some other => some (.duplicate (stream.getD 0) other, rest)
      | none => none
    | _ => none
  | _ => none

def redirects : Nat → List Placed → List Redirect × List Placed
  | 0, ts => ([], ts)
  | fuel + 1, ts =>
    match redirect? ts with
    | some (r, rest) =>
      let more := redirects fuel rest
      (r :: more.1, more.2)
    | none => ([], ts)

def redirected (line : Nat) (body : Script) (ts : List Placed) : Script × List Placed :=
  match redirects ts.length ts with
  | ([], rest) => (body, rest)
  | (l, rest) => (.group line body l, rest)

structure SimpleParts where
  assignments : List (String × WordParts) := []
  words : List WordParts := []
  redirects : List Redirect := []

def simpleParts : Nat → SimpleParts → List Placed → SimpleParts × List Placed
  | 0, acc, ts => (acc, ts)
  | fuel + 1, acc, ts =>
    match redirect? ts with
    | some (r, rest) => simpleParts fuel { acc with redirects := acc.redirects ++ [r] } rest
    | none =>
      match ts with
      | ⟨.word w, _⟩ :: rest =>
        match acc.words, assignment? w with
        | [], some a => simpleParts fuel { acc with assignments := acc.assignments ++ [a] } rest
        | _, _ => simpleParts fuel { acc with words := acc.words ++ [w] } rest
      | _ => (acc, ts)

def simple (ts : List Placed) : Except Fault (Script × List Placed) :=
  let parts := simpleParts ts.length {} ts
  match parts.2 with
  | ⟨.sign text _, _⟩ :: rest =>
    if isRedirection text then .error ⟨rest, none⟩ else finish parts.1 parts.2
  | _ => finish parts.1 parts.2
where
  finish (parts : SimpleParts) (rest : List Placed) : Except Fault (Script × List Placed) :=
    match ts, parts.assignments.length + parts.words.length + parts.redirects.length with
    | t :: _, _ + 1 => .ok (.simple t.line parts.assignments parts.words parts.redirects, rest)
    | _, _ => .error ⟨ts, none⟩

def leadingWords : List Placed → List WordParts × List Placed
  | ⟨.word w, _⟩ :: rest =>
    let more := leadingWords rest
    (w :: more.1, more.2)
  | ts => ([], ts)

def skipSeparator : List Placed → List Placed
  | ⟨.sign ";" _, _⟩ :: rest => skipNewlines rest
  | ts => skipNewlines ts

def patterns : Nat → List Placed → Except Fault (List WordParts × List Placed)
  | 0, ts => .error ⟨ts, some ")"⟩
  | fuel + 1, ts =>
    match ts with
    | ⟨.word w, _⟩ :: ⟨.sign "|" _, _⟩ :: rest => do
      let (more, rest) ← patterns fuel rest
      pure (w :: more, rest)
    | ⟨.word w, _⟩ :: rest => do
      let rest ← expectBracket rest
      pure ([w], rest)
    | _ => .error ⟨ts, some ")"⟩

mutual

def list : Nat → (whole : Bool) → List Placed → Except Fault (Script × List Placed)
  | 0, _, ts => .error ⟨ts, none⟩
  | fuel + 1, whole, ts =>
    let ts := if whole then skipNewlines ts else ts
    if (if whole then atClose ts else atLineEnd ts) then .ok (.skip, ts)
    else do
      let (first, rest) ← chain fuel ts
      match rest with
      | ⟨.sign ";" _, _⟩ :: rest => do
        let (second, rest) ← list fuel whole rest
        pure (.sequence first second, rest)
      | ⟨.sign "&" _, _⟩ :: rest => do
        let (second, rest) ← list fuel whole rest
        pure (.sequence (.background first) second, rest)
      | ⟨.newline, line⟩ :: rest =>
        if whole then do
          let (second, rest) ← list fuel whole rest
          pure (.sequence first second, rest)
        else pure (first, ⟨.newline, line⟩ :: rest)
      | rest => pure (first, rest)

def chain : Nat → List Placed → Except Fault (Script × List Placed)
  | 0, ts => .error ⟨ts, none⟩
  | fuel + 1, ts => do
    let (first, rest) ← pipeline fuel ts
    links fuel first rest

def links : Nat → Script → List Placed → Except Fault (Script × List Placed)
  | 0, _, ts => .error ⟨ts, none⟩
  | fuel + 1, first, ts =>
    match ts with
    | ⟨.sign "&&" _, _⟩ :: rest => do
      let (second, rest) ← pipeline fuel (skipNewlines rest)
      links fuel (.both first second) rest
    | ⟨.sign "||" _, _⟩ :: rest => do
      let (second, rest) ← pipeline fuel (skipNewlines rest)
      links fuel (.either first second) rest
    | _ => pure (first, ts)

def pipeline : Nat → List Placed → Except Fault (Script × List Placed)
  | 0, ts => .error ⟨ts, none⟩
  | fuel + 1, ts =>
    if startsWithWord "!" ts then do
      let (body, rest) ← pipeline fuel (ts.drop 1)
      pure (.negate body, rest)
    else do
      let (first, rest) ← command fuel ts
      match rest with
      | ⟨.sign "|" _, _⟩ :: rest => do
        let (second, rest) ← pipeline fuel (skipNewlines rest)
        pure (.pipeline first second, rest)
      | _ => pure (first, rest)

def command : Nat → List Placed → Except Fault (Script × List Placed)
  | 0, ts => .error ⟨ts, none⟩
  | fuel + 1, ts =>
    match ts with
    | [] => .error ⟨[], none⟩
    | ⟨.sign "(" _, line⟩ :: rest => do
      let (body, rest) ← list fuel true rest
      let rest ← expectBracket rest
      let (body, rest) := redirected line body rest
      pure (.subshell body, rest)
    | t :: rest =>
      match headText? [t], rest with
      | some name, ⟨.sign "(" _, _⟩ :: rest =>
        if name ∈ keywords then .error ⟨rest, none⟩
        else do
          let rest ← expectBracket rest
          let (body, rest) ← command fuel (skipNewlines rest)
          pure (.define name body, rest)
      | some name, rest =>
        if name ∈ closers then .error ⟨ts, none⟩
        else
          match name with
          | "\x7b" => do
            let (body, rest) ← list fuel true rest
            let rest ← expectWord "\x7d" rest
            pure (redirected t.line body rest)
          | "for" => do
            let (body, rest) ← iteration fuel rest
            pure (redirected t.line body rest)
          | "while" => do
            let (body, rest) ← repetition fuel true rest
            pure (redirected t.line body rest)
          | "until" => do
            let (body, rest) ← repetition fuel false rest
            pure (redirected t.line body rest)
          | "if" => do
            let (body, rest) ← conditional fuel rest
            pure (redirected t.line body rest)
          | "case" => do
            let (body, rest) ← choice fuel rest
            pure (redirected t.line body rest)
          | _ => simple ts
      | none, _ => simple ts

def iteration : Nat → List Placed → Except Fault (Script × List Placed)
  | 0, ts => .error ⟨ts, none⟩
  | fuel + 1, ts =>
    match headText? ts with
    | none => .error ⟨ts, none⟩
    | some name => do
      let rest := skipNewlines (ts.drop 1)
      let (words, rest) := if startsWithWord "in" rest then
          let l := leadingWords (rest.drop 1)
          (some l.1, l.2)
        else (none, rest)
      let (body, rest) ← loopBody fuel (skipSeparator rest)
      pure (.forEach name words body, rest)

def repetition : Nat → (success : Bool) → List Placed → Except Fault (Script × List Placed)
  | 0, _, ts => .error ⟨ts, none⟩
  | fuel + 1, success, ts => do
    let (condition, rest) ← list fuel true ts
    let (body, rest) ← loopBody fuel rest
    pure (.loop success condition body, rest)

def loopBody : Nat → List Placed → Except Fault (Script × List Placed)
  | 0, ts => .error ⟨ts, none⟩
  | fuel + 1, ts => do
    let rest ← expectWord "do" ts
    let (body, rest) ← list fuel true rest
    let rest ← expectWord "done" rest
    pure (body, rest)

def conditional : Nat → List Placed → Except Fault (Script × List Placed)
  | 0, ts => .error ⟨ts, none⟩
  | fuel + 1, ts => do
    let (condition, rest) ← list fuel true ts
    let rest ← expectWord "then" rest
    let (yes, rest) ← list fuel true rest
    match headText? rest with
    | some "elif" => do
      let (no, rest) ← conditional fuel (rest.drop 1)
      pure (.ifThen condition yes no, rest)
    | some "else" => do
      let (no, rest) ← list fuel true (rest.drop 1)
      let rest ← expectWord "fi" rest
      pure (.ifThen condition yes no, rest)
    | _ => do
      let rest ← expectWord "fi" rest
      pure (.ifThen condition yes .skip, rest)

def choice : Nat → List Placed → Except Fault (Script × List Placed)
  | 0, ts => .error ⟨ts, none⟩
  | fuel + 1, ts =>
    match ts with
    | ⟨.word w, _⟩ :: rest => do
      let rest ← expectWord "in" (skipNewlines rest)
      let (clauses, rest) ← clauses fuel rest
      pure (.choice w clauses, rest)
    | _ => .error ⟨ts, none⟩

def clauses : Nat → List Placed → Except Fault (Script × List Placed)
  | 0, ts => .error ⟨ts, none⟩
  | fuel + 1, ts =>
    let ts := skipNewlines ts
    if startsWithWord "esac" ts then .ok (.skip, ts.drop 1)
    else do
      let ts := match ts with
        | ⟨.sign "(" _, _⟩ :: rest => rest
        | _ => ts
      let (l, rest) ← patterns ts.length ts
      let (body, rest) ← list fuel true rest
      match rest with
      | ⟨.sign ";;" _, _⟩ :: rest => do
        let (others, rest) ← clauses fuel rest
        pure (.clause l body others, rest)
      | _ => do
        let rest ← expectWord "esac" rest
        pure (.clause l body .skip, rest)

end

def script : Nat → List Placed → Script
  | 0, _ => .skip
  | fuel + 1, ts =>
    match skipNewlines ts with
    | [] => .skip
    | ⟨.ending, _⟩ :: _ => .skip
    | ts =>
      match list (4 * ts.length + 8) false ts with
      | .ok (first, rest) =>
        if atLineEnd rest then .sequence first (script fuel rest)
        else broken ⟨rest, none⟩
      | .error fault => broken fault
where
  broken (f : Fault) : Script := .broken f.line s!"Syntax error: {f.message}"

end Reader

def Script.ofText (line : Nat) (text : List Char) : Script :=
  let ts := Reader.tokens (text.length + 2) line 0 text
  Reader.script ts.length ts

end KubePlugin.Machine.Shell
