import KubePlugin.Machine.Files
import KubePlugin.Machine.Shell.Arithmetic
import KubePlugin.Machine.Shell.Pattern
import KubePlugin.Machine.Shell.Reader

/-!
What words stand for. A script is read byte by byte, each byte as the character with its number,
so what comes out of a word is bytes again. A word becomes spans, which the separators of the shell
divide into fields.
-/

namespace KubePlugin.Machine.Shell

structure Settings where
  name : RawText
  id : Nat
  parent : Nat
  args : List RawText
  vars : List (String × RawText)
  exported : List String
  functions : List (String × Script) := []
  status : Nat := 0
  innerStatus : Nat := 0
  job : Option Nat := none
  ignored : List Nat := []
  traps : List (Nat × RawText) := []
  exitsOnFailure : Bool := false
  refusesUnset : Bool := false
  here : Location
deriving DecidableEq, Repr, Inhabited

def pathOf (loc : Location) : Path := Files.ofParts true loc

def usualPath : String := "/usr/local/sbin:/usr/local/bin:/usr/sbin:/usr/bin:/sbin:/bin"

namespace Settings

def assign (s : Settings) (name : String) (value : RawText) : Settings :=
  { s with vars := (name, value) :: s.vars.filter fun v => v.1 ≠ name }

def forget (s : Settings) (name : String) : Settings :=
  { s with vars := s.vars.filter fun v => v.1 ≠ name }

def environment (s : Settings) : List (String × RawText) :=
  s.vars.filter fun v => v.1 ∈ s.exported

def number (n : Nat) : RawText := RawText.ofString (toString n)

def joinedBy (separator : List UInt8) (l : List RawText) : RawText :=
  ⟨separator.intercalate (l.map RawText.bytes)⟩

def joined (l : List RawText) : RawText := joinedBy [0x20] l

def separators (s : Settings) : List UInt8 :=
  match s.vars.lookup "IFS" with
  | some value => value.bytes
  | none => [0x20, 0x09, 0x0A]

def flags (s : Settings) : RawText :=
  RawText.ofString ((if s.refusesUnset then "u" else "") ++ if s.exitsOnFailure then "e" else "")

def ownValue? (s : Settings) (name : String) : Option RawText :=
  match name with
  | "PPID" => some (number s.parent)
  | "PWD" => some (pathOf s.here)
  | "PATH" => some (RawText.ofString usualPath)
  | "IFS" => some (RawText.ofString " \t\n")
  | "OPTIND" => some (number 1)
  | _ => none

def value? (s : Settings) (name : String) : Option RawText :=
  match name with
  | "#" => some (number s.args.length)
  | "?" => some (number s.status)
  | "$" => some (number s.id)
  | "!" => s.job.map number
  | "-" => some s.flags
  | "@" => if s.args = [] then none else some (joined s.args)
  | "*" => if s.args = [] then none else some (joinedBy (s.separators.take 1) s.args)
  | "0" => some s.name
  | _ =>
    match name.toNat? with
    | some n => s.args[n - 1]?
    | none =>
      match s.vars.lookup name with
      | some value => some value
      | none => s.ownValue? name

end Settings

def bytesOf (text : List Char) : List UInt8 := text.map fun c => UInt8.ofNat c.toNat

def charsOf (bytes : List UInt8) : List Char := bytes.map fun b => Char.ofNat b.toNat

inductive Span where
  | kept (marks : Pattern)
  | split (bytes : List UInt8)
  | next
deriving DecidableEq, Repr

namespace Span

def apart (span : RawText → Span) : List RawText → List Span
  | [] => []
  | [v] => [span v]
  | v :: rest => span v :: next :: apart span rest

def ofValue (quoted : Bool) (value : RawText) : Span :=
  if quoted then kept (Pattern.ofBytes true value.bytes) else split value.bytes

def marks (l : List Span) : Pattern :=
  l.flatMap fun span =>
    match span with
    | kept marks => marks
    | split bytes => Pattern.ofBytes false bytes
    | next => [⟨0x20, true⟩]

end Span

structure Fields where
  complete : List Pattern := []
  current : Option Pattern := none
  afterBlank : Bool := false

namespace Fields

def add (f : Fields) (marks : Pattern) : Fields :=
  { f with current := some (f.current.getD [] ++ marks), afterBlank := false }

def close (f : Fields) : Fields :=
  match f.current with
  | some marks => { complete := f.complete ++ [marks] }
  | none => f

def isBlank (b : UInt8) : Bool := b = 0x20 || b = 0x09 || b = 0x0A

def separate (f : Fields) (b : UInt8) : Fields :=
  match f.current with
  | some _ => { f.close with afterBlank := isBlank b }
  | none =>
    if isBlank b then f
    else if f.afterBlank then { f with afterBlank := false }
    else { f with complete := f.complete ++ [[]] }

def addSpan (separators : List UInt8) (f : Fields) : Span → Fields
  | .kept marks => f.add marks
  | .next => f.close
  | .split bytes =>
    bytes.foldl (fun f b => if b ∈ separators then f.separate b else f.add [⟨b, false⟩]) f

end Fields

abbrev Expansion := StateT Settings (Except RawText)

namespace Expansion

def depth : Nat := 64

def operand (quoted : Bool) (text : List Char) : WordParts :=
  let parts := if quoted then Reader.quotedText false (text.length + 1) text
    else Reader.word true (text.length + 1) text
  match parts with
  | .ok (parts, _) =>
    parts.map fun p =>
      match p with
      | .literal text false => .written (bytesOf text) false
      | p => p
  | .error _ => []

def mistake {α : Type} (name : String) (text : RawText) : Expansion α :=
  throw (RawText.ofString (name ++ ": ") ++ text)

def arithmeticMistake (text : List Char) : Arithmetic.Fault → RawText
  | .expecting what =>
    RawText.ofString s!"arithmetic expression: expecting {what}: \"" ++ ⟨bytesOf text⟩ ++
      RawText.ofString "\""
  | .divisionByZero =>
    RawText.ofString "arithmetic expression: division by zero: \"" ++ ⟨bytesOf text⟩ ++
      RawText.ofString "\""
  | .noNumber value => RawText.ofString "Illegal number: " ++ value

def arithmetic (text : List Char) : Expansion RawText := do
  let s ← get
  match Arithmetic.evaluate s.value? text with
  | .ok (value, assigned) => do
    set (assigned.reverse.foldl
      (fun s a => s.assign a.1 (RawText.ofString (toString a.2))) s)
    pure (RawText.ofString (toString value))
  | .error fault => throw (arithmeticMistake text fault)

def parameter (name : String) (quoted : Bool) : Expansion (List Span) := do
  let s ← get
  if name = "@" ∨ (name = "*" ∧ quoted = false) then pure (Span.apart (Span.ofValue quoted) s.args)
  else
    match s.value? name with
    | some value => pure [Span.ofValue quoted value]
    | none =>
      if s.refusesUnset ∧ name ≠ "*" then mistake name (RawText.ofString "parameter not set")
      else pure [Span.ofValue quoted RawText.empty]

def isSet (name : String) (orEmpty : Bool) : Expansion Bool := do
  match (← get).value? name with
  | some value => pure !(orEmpty && value.isEmpty)
  | none => pure false

def part : Nat → Part → Expansion (List Span)
  | 0, _ => pure []
  | fuel + 1, p =>
    let spans (w : WordParts) : Expansion (List Span) := do pure (← w.mapM (part fuel)).flatten
    let marks (w : WordParts) : Expansion Pattern := do pure (Span.marks (← spans w))
    match p with
    | .literal text quoted => pure [.kept (Pattern.ofBytes quoted (bytesOf text))]
    | .written bytes quoted => pure [Span.ofValue quoted ⟨bytes⟩]
    | .command .. => pure []
    | .arithmetic text quoted => do
      let text ← marks (operand true text)
      let value ← arithmetic (charsOf text.bytes)
      pure [Span.ofValue quoted value]
    | .parameter name none quoted => parameter name quoted
    | .parameter name (some operation) quoted =>
      match operation with
      | .unless orEmpty word => do
        if ← isSet name orEmpty then parameter name quoted else spans (operand quoted word)
      | .when orEmpty word => do
        if ← isSet name orEmpty then spans (operand quoted word)
        else pure [Span.ofValue quoted RawText.empty]
      | .assign orEmpty word => do
        if ← isSet name orEmpty then parameter name quoted
        else do
          let value := (← marks (operand quoted word)).bytes
          modify fun s => s.assign name ⟨value⟩
          parameter name quoted
      | .demand orEmpty word => do
        if ← isSet name orEmpty then parameter name quoted
        else if word = [] then
          mistake name
            (RawText.ofString ("parameter not set" ++ if orEmpty then " or null" else ""))
        else do
          let text ← marks (operand quoted word)
          mistake name ⟨text.bytes⟩
      | .length => do
        let value := ((← get).value? name).getD RawText.empty
        pure [Span.ofValue quoted (Settings.number value.bytes.length)]
      | .trimStart longest pattern => do
        let value := ((← get).value? name).getD RawText.empty
        let pattern ← marks (operand false pattern)
        pure [Span.ofValue quoted ⟨pattern.trimStart longest value.bytes⟩]
      | .trimEnd longest pattern => do
        let value := ((← get).value? name).getD RawText.empty
        let pattern ← marks (operand false pattern)
        pure [Span.ofValue quoted ⟨pattern.trimEnd longest value.bytes⟩]

def spans (w : WordParts) : Expansion (List Span) := do
  pure (← w.mapM (part depth)).flatten

def fields (w : WordParts) : Expansion (List Pattern) := do
  let l ← spans w
  let separators := (← get).separators
  pure (l.foldl (Fields.addSpan separators) {}).close.complete

def allFields (words : List WordParts) : Expansion (List Pattern) := do
  pure (← words.mapM fields).flatten

def pattern (w : WordParts) : Expansion Pattern := do pure (Span.marks (← spans w))

def whole (w : WordParts) : Expansion RawText := do pure ⟨(← pattern w).bytes⟩

end Expansion

/-- The names of files that a field stands for, sorted; the field itself if it is no pattern or none
fits. A name that begins with a dot is only found by a pattern that does too. -/
def fileNames (fs : Files) (here : Location) (field : Pattern) : List RawText :=
  if field.isOpen then
    match go field.length [RawText.empty] (components field) with
    | [] => [⟨field.bytes⟩]
    | names => names
  else [⟨field.bytes⟩]
where
  components (field : Pattern) : List Pattern :=
    match field with
    | [] => [[]]
    | m :: rest =>
      if m.byte = Path.slash then [] :: components rest
      else
        match components rest with
        | [] => [[m]]
        | part :: parts => (m :: part) :: parts
  names (path : Path) : List RawText :=
    match fs.find here (if path.isEmpty then Path.dot else path) with
    | .ok (loc, ⟨.folder, _⟩) => fs.children loc
    | _ => []
  go : Nat → List RawText → List Pattern → List RawText
  | 0, paths, _ => paths
  | _, paths, [] => paths
  | fuel + 1, paths, part :: rest =>
    let next := paths.flatMap fun path =>
      if part.isOpen then
        let dotted := part.head?.any fun m => m.byte = 0x2E
        ((names path).filter fun name =>
          part.fits name.bytes && (dotted || name.bytes.head? ≠ some 0x2E)).map (path ++ ·)
      else
        let path := path ++ ⟨part.bytes⟩
        if part = [] ∨ rest ≠ [] ∨ (fs.find here path).isOk then [path] else []
    if rest = [] then next else go fuel (next.map (· ++ ⟨[Path.slash]⟩)) rest

end KubePlugin.Machine.Shell
