import KubePlugin.CommandLine.Fault
import KubePlugin.CommandLine.Usage

/-!
Reading a command line from left to right. An argument is complete when its value is there and the
next argument starts, or at once when the value is part of the same word; only then the value is
read and a repetition refused. A word can complete one argument and start another, so the faults
of the first come before those of the second.
-/

namespace KubePlugin.CommandLine

inductive Word where
  | dashes
  | long (name : List UInt8) (value : Option (List UInt8))
  | short (letters : List UInt8)
  | plain
deriving DecidableEq, Repr

namespace Word

def dash : UInt8 := 0x2D

def equals : UInt8 := 0x3D

def ofBytes : List UInt8 → Word
  | [] => plain
  | a :: rest =>
    if a = dash then
      match rest with
      | [] => plain
      | b :: more =>
        if b = dash then
          match more with
          | [] => dashes
          | _ :: _ =>
            let parts := RawText.splitFirst equals more
            long parts.1 parts.2
        else short rest
    else plain

def ofRaw (t : RawText) : Word := ofBytes t.bytes

end Word

inductive Pending where
  | option (o : Opt) (value : Option RawText)
  | positional (p : Positional) (words : List RawText)
deriving DecidableEq, Repr

structure Progress where
  used : List ArgId := []
  given : Given := []
  pending : Option Pending := none
  waiting : Bool := false
  literal : Bool := false
  begun : Bool := false
  filled : Bool := false
deriving DecidableEq, Repr

structure Matched where
  path : List String
  given : Given
deriving DecidableEq, Repr

def Opt.read (o : Opt) (raw : RawText) : Except Cause Value :=
  match o.reading with
  | .text =>
    match raw.text? with
    | some s => .ok (.text s)
    | none => .error .badText
  | .count =>
    match raw.text? with
    | some s =>
      match readCount s.toList with
      | .ok n => .ok (.count n)
      | .error fault => .error (.badCount s o.shown fault)
    | none => .error .badText
  | .choice words =>
    if raw.isEmpty then .error (.missingValue o.shown words)
    else match raw.text? with
      | some s => if s ∈ words then .ok (.text s) else .error (.badChoice s o.shown words)
      | none => .error (.badChoice raw.lossy o.shown words)

def Positional.read (p : Positional) (words : List RawText) : Except Cause Value :=
  if p.verbatim then .ok (.words words)
  else match words with
    | [w] =>
      match w.text? with
      | some s => .ok (.text s)
      | none => .error .badText
    | _ => .error .badText

namespace Progress

def complete (p : Progress) (id : ArgId) (shown : String) (value : Except Cause Value) :
    Progress × Option Cause :=
  if id ∈ p.used then ({ p with used := p.used.erase id }, some (.repeated shown))
  else
    match value with
    | .ok v => ({ p with used := p.used ++ [id], given := p.given ++ [(id, v)] }, none)
    | .error cause => ({ p with used := p.used ++ [id] }, some cause)

def completeOption (p : Progress) (o : Opt) (value : Option RawText) : Progress × Option Cause :=
  match o.takes, value with
  | .value _, none => (p, some (.missingValue o.shown o.choices))
  | _, none => p.complete (.option o.long) o.shown (.ok .on)
  | _, some raw => p.complete (.option o.long) o.shown (o.read raw)

def settle (p : Progress) : Progress × Option Cause :=
  let rest := { p with pending := none }
  match p.pending with
  | none => (rest, none)
  | some (.option o value) => rest.completeOption o value
  | some (.positional pos words) => rest.complete .positional pos.optionalForm (pos.read words)

def settleThen (p : Progress) (o : Opt) (value : Option RawText) : Progress × Option Cause :=
  match p.settle with
  | (p', none) => p'.completeOption o value
  | (p', some cause) => (p', some cause)

end Progress

namespace Scope

def failure (s : Scope) (cause : Cause) (tips : List Tip := []) : Failure where
  cause := cause
  tips := tips ++ (match cause with
    | .badChoice value _ words => ((similarWords value words).getLast?.map .similarValue).toList
    | _ => [])
  usage := if cause.showsUsage then some s.usage else none
  pointsAtHelp := s.spec.hasHelp

def refuse {α : Type} (s : Scope) (cause : Cause) (tips : List Tip := []) : Except Stop α :=
  .error (.failure (s.failure cause tips))

def orRefuse (s : Scope) : Progress × Option Cause → Except Stop Progress
  | (p, none) => .ok p
  | (_, some cause) => s.refuse cause

def usageSoFar (s : Scope) (used : List ArgId) (more : List Styled) : Styled :=
  let options := used.filterMap fun id =>
    match id with
    | .option long => (s.spec.options.find? fun o => o.long = long).map Opt.form
    | .positional => none
  s.usageOf (options ++ more.filter (· ∉ options)) (.positional ∈ used)

def valueTip (s : Scope) (literal : Bool) (shown : String) : List Tip :=
  if s.spec.positional.isSome && !literal then [.asValue shown] else []

def laterOption? (s : Scope) (name : String) (rest : List RawText) : Option (String × String) :=
  let options := s.spec.allSubs.filterMap fun sub =>
    match (similarWords name (sub.longNames.map (·.1))).getLast?,
        rest.findIdx? (· = RawText.ofString sub.name) with
    | some long, some i => some (i, sub.name, long)
    | _, _ => none
  (options.foldl
    (fun best next =>
      match best with
      | some b => if next.1 < b.1 then some next else some b
      | none => some next) none).map (·.2)

def namedShown (long : String) : Named → String
  | .declared o => o.shown
  | _ => "--" ++ long

def namedForm (long : String) : Named → Styled
  | .declared o => o.form
  | _ => Styled.literal ("--" ++ long)

def unknownLong {α : Type} (s : Scope) (p : Progress) (name : RawText) (rest : List RawText) :
    Except Stop α :=
  let used := p.settle.1.used
  let shown := "--" ++ name.lossy
  let names := s.spec.longNames
  let similar := ((similarWords name.lossy (names.map (·.1))).getLast?).bind fun long =>
    (names.lookup long).map (long, ·)
  match similar with
  | some (long, named) =>
    let verbatim := (s.spec.positional.map Positional.verbatim).getD false
    .error (.failure { s.failure (.unknownArgument shown)
        (.similarArgument ("--" ++ long) ::
          (if verbatim then s.valueTip p.literal shown else [])) with
      usage := some (s.usageSoFar used [namedForm long named]) })
  | none =>
    let tips := match s.laterOption? name.lossy rest with
      | some (command, long) => [.argumentOfCommand command ("--" ++ long)]
      | none => s.valueTip p.literal shown
    .error (.failure { s.failure (.unknownArgument shown) tips with
      usage := some (if used.isEmpty then s.usage else s.usageSoFar used []) })

def unwantedValue {α : Type} (s : Scope) (p : Progress) (long : String) (named : Named)
    (value : RawText) : Except Stop α :=
  let form := namedForm long named
  let front := match named with
    | .declared _ => []
    | _ => [form]
  .error (.failure { s.failure (.unwantedValue value.lossy (namedShown long named)) with
    usage := some
      (if p.used.isEmpty then s.usageOf [form] false else s.usageOfGroup front) })

def answer {α : Type} (s : Scope) (p : Progress) (stop : Stop) : Except Stop α := do
  let _ ← s.orRefuse p.settle
  .error stop

def readLong (s : Scope) (p : Progress) (name : List UInt8) (value : Option (List UInt8))
    (rest : List RawText) : Except Stop Progress :=
  match (RawText.mk name).text?, s.spec.long? name with
  | some long, some named =>
    let p := { p with begun := true, waiting := false }
    match named with
    | .help =>
      match value with
      | some v => s.unwantedValue p long .help ⟨v⟩
      | none => s.answer p (.help (s.helpText true))
    | .version =>
      match value with
      | some v => s.unwantedValue p long .version ⟨v⟩
      | none => s.answer p (.version (s.spec.version.getD ""))
    | .declared o =>
      match o.takes, value with
      | .nothing, some v => s.unwantedValue p long named ⟨v⟩
      | .nothing, none => s.orRefuse (p.settleThen o none)
      | .optional _, none => s.orRefuse (p.settleThen o none)
      | _, some v => s.orRefuse (p.settleThen o (some ⟨v⟩))
      | .value _, none => do
        let p ← s.orRefuse p.settle
        .ok { p with pending := some (.option o none), waiting := true }
  | _, _ => s.unknownLong p ⟨name⟩ rest

def readLetters (s : Scope) (p : Progress) : List Utf8.Piece → Except Stop Progress
  | [] => .ok p
  | .fault bytes :: more =>
    let shown := (RawText.mk (bytes ++ pieceBytes more)).lossy
    unknown ("-" ++ shown)
  | .char c :: more =>
    match s.spec.short? c with
    | none => unknown ("-" ++ String.singleton c)
    | some named =>
      let p := { p with begun := true, waiting := false }
      match named with
      | .help => s.answer p (.help (s.helpText false))
      | .version => s.answer p (.version (s.spec.version.getD ""))
      | .declared o =>
        match o.takes with
        | .nothing => do
          let p ← s.orRefuse (p.settleThen o none)
          s.readLetters p more
        | _ =>
          match pieceBytes more with
          | [] => do
            let p ← s.orRefuse p.settle
            .ok { p with pending := some (.option o none), waiting := true }
          | b :: bytes =>
            s.orRefuse
              (p.settleThen o (some ⟨if b = Word.equals then bytes else b :: bytes⟩))
where
  pieceBytes : List Utf8.Piece → List UInt8
    | [] => []
    | .char c :: more => Utf8.encode [c] ++ pieceBytes more
    | .fault bytes :: more => bytes ++ pieceBytes more
  unknown {α : Type} (shown : String) : Except Stop α :=
    s.refuse (.unknownArgument shown) (s.valueTip p.literal shown)

def takePositional (s : Scope) (p : Progress) (pos : Positional) (word : RawText) :
    Except Stop Progress :=
  match p.pending with
  | some (.positional pos' words) =>
    if pos.verbatim then
      .ok { p with pending := some (.positional pos' (words ++ [word])) }
    else begin
  | _ => begin
where
  begin : Except Stop Progress := do
    let p ← s.orRefuse p.settle
    .ok { p with
      pending := some (.positional pos [word]), waiting := false, begun := true
      literal := p.literal || pos.verbatim, filled := !pos.verbatim }

def noRoom {α : Type} (s : Scope) (p : Progress) (word : RawText) : Except Stop α :=
  let c := s.spec
  let shown := word.lossy
  let exclusive := c.positional.isSome && p.begun
  if p.literal && !exclusive && (c.sub? word).isSome then
    s.refuse (.unknownArgument shown) [.commandAfterDashes shown]
  else if c.subs.isEmpty then s.refuse (.unknownArgument shown)
  else
    match c.positional with
    | some pos =>
      if p.begun then s.refuse (.commandConflict shown pos.optionalForm)
      else s.refuse (.unknownArgument shown)
    | none =>
      let similar := similarWords shown (c.allSubs.flatMap fun sub => sub.name :: sub.aliases)
      s.refuse (.unknownCommand shown) (if similar.isEmpty then [] else [.similarCommands similar])

def readPlain (s : Scope) (p : Progress) (word : RawText) : Except Stop Progress :=
  match p.waiting, p.pending with
  | true, some (.option o _) =>
    .ok { p with pending := some (.option o (some word)), waiting := false }
  | _, _ =>
    match s.spec.positional with
    | some pos => if p.filled then s.noRoom p word else s.takePositional p pos word
    | none => s.noRoom p word

def takesOptions (s : Scope) : Word → Bool
  | .long name _ =>
    (s.spec.positional.map Positional.verbatim).getD false && (RawText.mk name).text?.isSome
  | .short _ => (s.spec.positional.map Positional.verbatim).getD false
  | _ => false

def readWord (s : Scope) (p : Progress) (word : RawText) (rest : List RawText) :
    Except Stop Progress :=
  if p.literal then s.readPlain p word
  else
    match Word.ofRaw word with
    | .dashes => .ok { p with literal := true, waiting := false }
    | .long name value =>
      if s.takesOptions (.long name value) then s.readPlain p word
      else s.readLong p name value rest
    | .short letters =>
      if s.takesOptions (.short letters) then s.readPlain p word
      else s.readLetters p (Utf8.decode letters)
    | .plain => s.readPlain p word

def helpFor {α : Type} (s : Scope) : List RawText → Except Stop α
  | [] => .error (.help (s.helpText true))
  | word :: rest =>
    match s.spec.sub? word with
    | some sub => (s.below sub).helpFor rest
    | none => s.refuse (.unknownCommand word.lossy)

def subFor? (s : Scope) (p : Progress) (word : RawText) : Option Spec :=
  if p.literal || p.waiting then none
  else if s.spec.positional.isSome && p.begun then none
  else s.spec.sub? word

def finish (s : Scope) (p : Progress) (path : List String) : Except Stop Matched := do
  let p ← s.orRefuse p.settle
  if s.spec.needsSub then .error (.helpOnMissing (s.helpText false))
  else .ok ⟨path, p.given⟩

def read (s : Scope) (path : List String) (p : Progress) : List RawText → Except Stop Matched
  | [] => s.finish p path
  | word :: rest =>
    match s.subFor? p word with
    | some sub =>
      if sub.name = helpCommand.name then s.helpFor rest
      else (s.below sub).read (path ++ [sub.name]) {} rest
    | none =>
      match s.readWord p word rest with
      | .ok p' => s.read path p' rest
      | .error stop => .error stop

end Scope

def calledName? : List RawText → Option String
  | [] => none
  | program :: _ =>
    let parts := (RawText.splitBytes 0x2F program.bytes).filter fun b =>
      b ≠ [] ∧ b ≠ Utf8.encode ['.']
    match parts.getLast? with
    | some name => if name = Utf8.encode ['.', '.'] then none else (RawText.mk name).text?
    | none => none

def Spec.parse (c : Spec) (argv : List RawText) : Except Stop Matched :=
  (Scope.top c (calledName? argv)).read [] {} (argv.drop 1)

end KubePlugin.CommandLine
