import KubePlugin.Machine.Shell.Syntax

namespace KubePlugin.Machine.Shell

inductive Token where
  | word (parts : WordParts)
  | sign (text : String) (stream : Option Nat)
  | document (text : WordParts)
  | newline
  | ending
  | fault (text : String)
deriving DecidableEq, Repr

structure Placed where
  token : Token
  line : Nat
deriving DecidableEq, Repr

namespace Reader

def isNameStart (c : Char) : Bool := c.isAlpha || c = '_'

def isNameChar (c : Char) : Bool := c.isAlphanum || c = '_'

def isSpecial (c : Char) : Bool :=
  c = '@' || c = '*' || c = '#' || c = '?' || c = '$' || c = '!' || c = '-' || c.isDigit

def isBlank (c : Char) : Bool := c = ' ' || c = '\t'

def endsWord (c : Char) : Bool :=
  isBlank c || c = '\n' || c = ';' || c = '&' || c = '|' || c = '(' || c = ')' || c = '<' || c = '>'

def isBackquote (c : Char) : Bool := c.toNat = 0x60

def enclosed (opening closing : Char) (depth : Nat) (quote : Option Char) :
    List Char → Option (List Char × List Char)
  | [] => none
  | c :: rest =>
    match quote with
    | some q =>
      if c = '\\' ∧ q ≠ '\x27' then
        match rest with
        | d :: rest => (enclosed opening closing depth quote rest).map fun m => (c :: d :: m.1, m.2)
        | [] => none
      else
        (enclosed opening closing depth (if c = q then none else quote) rest).map fun m =>
          (c :: m.1, m.2)
    | none =>
      if c = '\\' then
        match rest with
        | d :: rest => (enclosed opening closing depth none rest).map fun m => (c :: d :: m.1, m.2)
        | [] => none
      else if c = closing then
        match depth with
        | 0 => some ([], rest)
        | depth + 1 => (enclosed opening closing depth none rest).map fun m => (c :: m.1, m.2)
      else
        let depth := if c = opening then depth + 1 else depth
        let quote := if c = '\x27' ∨ c = '"' then some c else none
        (enclosed opening closing depth quote rest).map fun m => (c :: m.1, m.2)

def backquoted (quoted : Bool) : List Char → Option (List Char × List Char)
  | [] => none
  | '\\' :: c :: rest =>
    (backquoted quoted rest).map fun m =>
      if isBackquote c ∨ c = '\\' ∨ c = '$' ∨ (c = '"' ∧ quoted) then (c :: m.1, m.2)
      else ('\\' :: c :: m.1, m.2)
  | c :: rest =>
    if isBackquote c then some ([], rest)
    else (backquoted quoted rest).map fun m => (c :: m.1, m.2)

def operation? : List Char → Option Operation
  | ':' :: '-' :: word => some (.unless true word)
  | '-' :: word => some (.unless false word)
  | ':' :: '+' :: word => some (.when true word)
  | '+' :: word => some (.when false word)
  | ':' :: '=' :: word => some (.assign true word)
  | '=' :: word => some (.assign false word)
  | ':' :: '?' :: word => some (.demand true word)
  | '?' :: word => some (.demand false word)
  | '#' :: '#' :: pattern => some (.trimStart true pattern)
  | '#' :: pattern => some (.trimStart false pattern)
  | '%' :: '%' :: pattern => some (.trimEnd true pattern)
  | '%' :: pattern => some (.trimEnd false pattern)
  | _ => none

def parameterName : List Char → List Char
  | [] => []
  | c :: rest =>
    if isNameStart c then c :: rest.takeWhile isNameChar
    else if c.isDigit then c :: rest.takeWhile Char.isDigit
    else [c]

def braced (quoted : Bool) (inside : List Char) : Part :=
  match inside with
  | '#' :: c :: rest =>
    let name := parameterName (c :: rest)
    if (isNameStart c ∨ isSpecial c) ∧ (c :: rest).length = name.length then
      .parameter (String.ofList name) (some .length) quoted
    else .parameter "#" (operation? (c :: rest)) quoted
  | _ =>
    let name := parameterName inside
    .parameter (String.ofList name) (operation? (inside.drop name.length)) quoted

def expression? (inside : List Char) : Option (List Char) :=
  match inside with
  | '(' :: rest => if rest.getLast? = some ')' then some rest.dropLast else none
  | _ => none

def substitution (quoted : Bool) : List Char → Except String (Part × List Char)
  | '{' :: rest =>
    match enclosed '{' '}' 0 none rest with
    | some (inside, rest) => .ok (braced quoted inside, rest)
    | none => .error "Missing '\x7d'"
  | '(' :: rest =>
    match enclosed '(' ')' 0 none rest with
    | some (inside, rest) =>
      match expression? inside with
      | some text => .ok (.arithmetic text quoted, rest)
      | none => .ok (.command inside quoted, rest)
    | none => .error "end of file unexpected (expecting \")\")"
  | c :: rest =>
    if isNameStart c then
      let name := c :: rest.takeWhile isNameChar
      .ok (.parameter (String.ofList name) none quoted, rest.dropWhile isNameChar)
    else if isSpecial c then .ok (.parameter (String.singleton c) none quoted, rest)
    else .ok (.literal ['$'] quoted, c :: rest)
  | [] => .ok (.literal ['$'] quoted, [])

def oldSubstitution (quoted : Bool) (rest : List Char) : Except String (Part × List Char) :=
  match backquoted quoted rest with
  | some (inside, rest) => .ok (.command inside quoted, rest)
  | none => .error "EOF in backquote substitution"

/-- The parts of a text in which only dollar signs, backquotes and some backslashes mean anything,
and what follows it: it ends with a double quote if it is `closed` by one, else with the text. -/
def quotedText (closed : Bool) : Nat → List Char → Except String (WordParts × List Char)
  | 0, cs => .ok ([], cs)
  | _ + 1, [] => if closed then .error "Unterminated quoted string" else .ok ([], [])
  | fuel + 1, c :: rest =>
    if c = '"' ∧ closed then .ok ([], rest)
    else if c = '\\' then
      match rest with
      | d :: after => do
        let more ← quotedText closed fuel after
        if d = '\n' then pure more
        else if d = '$' || (d = '"' && closed) || d = '\\' || isBackquote d then
          pure (.literal [d] true :: more.1, more.2)
        else pure (.literal ['\\', d] true :: more.1, more.2)
      | [] =>
        if closed then .error "Unterminated quoted string" else .ok ([.literal ['\\'] true], [])
    else if c = '$' then do
      let p ← substitution true rest
      let more ← quotedText closed fuel p.2
      pure (p.1 :: more.1, more.2)
    else if isBackquote c then do
      let p ← oldSubstitution true rest
      let more ← quotedText closed fuel p.2
      pure (p.1 :: more.1, more.2)
    else do
      let more ← quotedText closed fuel rest
      pure (.literal [c] true :: more.1, more.2)

def word (whole : Bool) : Nat → List Char → Except String (WordParts × List Char)
  | 0, cs => .ok ([], cs)
  | _ + 1, [] => .ok ([], [])
  | fuel + 1, c :: rest =>
    if !whole && endsWord c then .ok ([], c :: rest)
    else if c = '\x27' then
      let inside := rest.takeWhile (· ≠ '\x27')
      if inside.length = rest.length then .error "Unterminated quoted string"
      else do
        let more ← word whole fuel (rest.drop (inside.length + 1))
        pure (.literal inside true :: more.1, more.2)
    else if c = '"' then do
      let inside ← quotedText true (rest.length + 1) rest
      let more ← word whole fuel inside.2
      pure ((if inside.1.isEmpty then [.literal [] true] else inside.1) ++ more.1, more.2)
    else if c = '\\' then
      match rest with
      | d :: after => do
        let more ← word whole fuel after
        if d = '\n' then pure more else pure (.literal [d] true :: more.1, more.2)
      | [] => .ok ([.literal ['\\'] false], [])
    else if c = '$' then do
      let p ← substitution false rest
      let more ← word whole fuel p.2
      pure (p.1 :: more.1, more.2)
    else if isBackquote c then do
      let p ← oldSubstitution false rest
      let more ← word whole fuel p.2
      pure (p.1 :: more.1, more.2)
    else do
      let more ← word whole fuel rest
      pure (.literal [c] false :: more.1, more.2)

def sign? : List Char → Option (String × List Char)
  | '&' :: '&' :: rest => some ("&&", rest)
  | '|' :: '|' :: rest => some ("||", rest)
  | ';' :: ';' :: rest => some (";;", rest)
  | '>' :: '>' :: rest => some (">>", rest)
  | '>' :: '&' :: rest => some (">&", rest)
  | '>' :: '|' :: rest => some (">", rest)
  | '<' :: '<' :: '-' :: rest => some ("<<-", rest)
  | '<' :: '<' :: rest => some ("<<", rest)
  | '<' :: '&' :: rest => some ("<&", rest)
  | '&' :: rest => some ("&", rest)
  | '|' :: rest => some ("|", rest)
  | ';' :: rest => some (";", rest)
  | '(' :: rest => some ("(", rest)
  | ')' :: rest => some (")", rest)
  | '<' :: rest => some ("<", rest)
  | '>' :: rest => some (">", rest)
  | _ => none

def splitLines : List Char → List (List Char)
  | [] => [[]]
  | c :: rest =>
    if c = '\n' then [] :: splitLines rest
    else
      match splitLines rest with
      | [] => [[c]]
      | line :: lines => (c :: line) :: lines

def document (strip : Bool) (mark : List Char) :
    List (List Char) → List (List Char) × List (List Char)
  | [] => ([], [])
  | line :: lines =>
    let line := if strip then line.dropWhile (· = '\t') else line
    if line = mark then ([], lines)
    else
      let more := document strip mark lines
      (line :: more.1, more.2)

def markText (w : WordParts) : List Char × Bool :=
  (w.flatMap fun p => match p with | .literal text _ => text | _ => [],
    w.any fun p => match p with | .literal _ quoted => quoted | _ => false)

def documentText (strip : Bool) (rest : List Char) :
    Except String (WordParts × List Char × Nat) := do
  let rest := rest.dropWhile isBlank
  let w ← word false (rest.length + 1) rest
  let mark := markText w.1
  let line := w.2.takeWhile (· ≠ '\n')
  let found := document strip mark.1 (splitLines (w.2.drop (line.length + 1)))
  let body := found.1.flatMap fun l => l ++ ['\n']
  let left := line ++ '\n' :: ['\n'].intercalate found.2
  if mark.2 then pure ([.literal body true], left, found.1.length + 1)
  else do
    let parts ← quotedText false (body.length + 1) body
    pure (parts.1, left, found.1.length + 1)

def linesBefore (cs rest : List Char) : Nat :=
  ((cs.take (cs.length - rest.length)).filter (· = '\n')).length

/-- The tokens of a script, from a line on; `below` is the number of lines after this one that are
no part of it any more. -/
def tokens : Nat → (line below : Nat) → List Char → List Placed
  | 0, line, _, _ => [⟨.ending, line⟩]
  | _ + 1, line, _, [] => [⟨.ending, line⟩]
  | fuel + 1, line, below, c :: rest =>
    if isBlank c then tokens fuel line below rest
    else if c = '\n' then ⟨.newline, line⟩ :: tokens fuel (line + 1 + below) 0 rest
    else if c = '#' then tokens fuel line below (rest.dropWhile (· ≠ '\n'))
    else if c = '\\' ∧ rest.head? = some '\n' then tokens fuel (line + 1) below (rest.drop 1)
    else
      match sign? (c :: rest) with
      | some (text, rest) => signed fuel line below text none rest
      | none =>
        match c.isDigit, rest with
        | true, '>' :: _ => numbered fuel line below (c.toNat - '0'.toNat) rest
        | true, '<' :: _ => numbered fuel line below (c.toNat - '0'.toNat) rest
        | _, _ =>
          match word false (rest.length + 2) (c :: rest) with
          | .ok w =>
            ⟨.word w.1, line⟩ :: tokens fuel (line + linesBefore (c :: rest) w.2) below w.2
          | .error text => [⟨.fault text, line + linesBefore rest []⟩]
where
  signed (fuel line below : Nat) (text : String) (stream : Option Nat) (rest : List Char) :
      List Placed :=
    if text = "<<" ∨ text = "<<-" then
      match documentText (text = "<<-") rest with
      | .ok (parts, rest, lines) => ⟨.document parts, line⟩ :: tokens fuel line (below + lines) rest
      | .error text => [⟨.fault text, line + linesBefore rest []⟩]
    else ⟨.sign text stream, line⟩ :: tokens fuel line below rest
  numbered (fuel line below stream : Nat) (rest : List Char) : List Placed :=
    match sign? rest with
    | some (text, rest) => signed fuel line below text (some stream) rest
    | none => []

end Reader

end KubePlugin.Machine.Shell
