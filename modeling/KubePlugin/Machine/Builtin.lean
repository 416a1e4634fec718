import KubePlugin.Machine.Shell.Condition
import KubePlugin.Machine.Shell.Print
import KubePlugin.Machine.Turn

namespace KubePlugin.Machine

open Shell

namespace Turn

variable (t : Turn)

def giveUp (line : Nat) (text : RawText) : Turn := (t.fail line text 2).leave

def illegalNumber (command : String) (word : RawText) : RawText :=
  RawText.ofString s!"{command}: Illegal number: " ++ word

def exit (line : Nat) : List RawText → Turn
  | [] => t.leave
  | word :: _ =>
    match natOf? word with
    | some n => (t.status (n % 256)).leave
    | none => t.giveUp line (illegalNumber "exit" word)

def isReturn : Task → Bool
  | .leave .. => true
  | _ => false

def returnNow (line : Nat) : List RawText → Turn
  | [] => t.unwind isReturn
  | word :: _ =>
    match natOf? word with
    | some n => (t.status (n % 256)).unwind isReturn
    | none => t.giveUp line (illegalNumber "return" word)

def isLoop : Task → Bool
  | .forEach .. => true
  | .again .. => true
  | .loop .. => true
  | _ => false

def leaveLoops (whole : Bool) : Nat → Turn → Turn
  | 0, t => t
  | n + 1, t =>
    if t.process.tasks.any isLoop then
      let inner := t.unwind isLoop
      let outer := { inner with process :=
        { inner.process with tasks := inner.process.tasks.tail } }
      match n, inner.process.tasks with
      | 0, .loop success condition body :: _ =>
        if whole then outer else outer.push (.again success condition body)
      | 0, _ => if whole then outer else inner
      | n, _ => leaveLoops whole n outer
    else t

def leaveLoop (line : Nat) (command : String) (whole : Bool) (words : List RawText) : Turn :=
  match words with
  | [] => leaveLoops whole 1 (t.status 0)
  | word :: _ =>
    match natOf? word with
    | some n => leaveLoops whole n (t.status 0)
    | none => t.giveUp line (illegalNumber command word)

def inputLine (raw : Bool) : List UInt8 → Pattern × Option (List UInt8)
  | [] => ([], none)
  | [b] => if b = 0x0A then ([], some []) else ([⟨b, false⟩], none)
  | b :: c :: rest =>
    if b = 0x0A then ([], some (c :: rest))
    else if b = 0x5C ∧ raw = false then
      let more := inputLine raw rest
      if c = 0x0A then more else (⟨c, true⟩ :: more.1, more.2)
    else
      let more := inputLine raw (c :: rest)
      (⟨b, false⟩ :: more.1, more.2)

def assignFields (separators : List UInt8) : Settings → Pattern → List String → Settings
  | s, _, [] => s
  | s, line, [name] =>
    let isBlank (m : Mark) : Bool :=
      !m.quoted && Fields.isBlank m.byte && separators.contains m.byte
    let text := (line.dropWhile isBlank).reverse.dropWhile isBlank
    s.assign name ⟨Pattern.bytes text.reverse⟩
  | s, line, name :: names =>
    let isSeparator (m : Mark) : Bool := !m.quoted && separators.contains m.byte
    let isBlank (m : Mark) : Bool := isSeparator m && Fields.isBlank m.byte
    let text := line.dropWhile isBlank
    let field := text.takeWhile fun m => !isSeparator m
    let left := (text.drop field.length).dropWhile isBlank
    let left := match left with
      | m :: rest => if isSeparator m then rest.dropWhile isBlank else left
      | [] => []
    assignFields separators (s.assign name ⟨Pattern.bytes field⟩) left names

def isOption (word : RawText) : Bool := word.bytes.head? = some 0x2D && 1 < word.bytes.length

def readLine (line : Nat) (words : List RawText) : Turn :=
  let options := words.takeWhile isOption
  let names := (words.drop options.length).map RawText.lossy
  if names = [] then t.fail line (RawText.ofString "read: arg count") 2
  else
    t.withInput true (.builtin line (RawText.ofString "read" :: words)) fun t =>
      let read := inputLine (options.any fun w => w.bytes.contains 0x72) t.readInput.1
      ((t.leaveInput (read.2.getD [])).settle fun s =>
        assignFields s.separators s read.1 names).status (if read.2.isSome then 0 else 1)

def signalNames : List String :=
  "EXIT" :: (List.range 64).map fun i =>
    let n := i + 1
    if n = 16 then "16"
    else
      match Signal.name? n with
      | some name => name
      | none =>
        if n < 34 then toString n
        else if n = 34 then "RTMIN"
        else if n < 50 then s!"RTMIN+{n - 34}"
        else if n < 64 then s!"RTMAX-{64 - n}"
        else "RTMAX"

def signalOf? (least : Nat) (word : RawText) : Option Nat :=
  match natOf? word with
  | some n => if n < signalNames.length then some n else none
  | none =>
    word.text?.bind fun text =>
      ((List.range signalNames.length).drop least).find? fun n =>
        signalNames[n]?.any fun name => name.toUpper = text.toUpper

structure Killing where
  signal : Option Nat := none
  lists : Bool := false
  targets : List RawText
deriving Repr

def Killing.isMisuse (k : Killing) : Bool :=
  if k.lists then k.signal.isSome && k.targets ≠ [] else k.targets = []

def killUsage : RawText :=
  RawText.ofString
    "Usage: kill [-s sigspec | -signum | -sigspec] [pid | job]... or\nkill -l [exitstatus]"

def killOptions : Nat → Killing → List UInt8 → Except RawText Killing
  | 0, k, _ => .ok k
  | fuel + 1, k, [] =>
    match k.targets with
    | word :: rest =>
      if word = RawText.ofString "--" then .ok { k with targets := rest }
      else if isOption word then killOptions fuel { k with targets := rest } word.bytes.tail
      else .ok k
    | [] => .ok k
  | fuel + 1, k, 0x6C :: letters => killOptions fuel { k with lists := true } letters
  | fuel + 1, k, 0x73 :: letters =>
    let named (word : RawText) (rest : List RawText) : Except RawText Killing :=
      match signalOf? 1 word with
      | some n => killOptions fuel { k with signal := some n, targets := rest } []
      | none => .error (RawText.ofString "invalid signal number or name: " ++ word)
    match letters, k.targets with
    | [], [] => .error (RawText.ofString "No arg for -s option")
    | [], word :: rest => named word rest
    | letters, targets => named ⟨letters⟩ targets
  | _ + 1, _, letter :: _ => .error (RawText.ofString "Illegal option -" ++ ⟨[letter]⟩)

def killing (words : List RawText) : Except RawText Killing :=
  match words with
  | [] => .error killUsage
  | first :: rest =>
    match first.bytes with
    | 0x2D :: name =>
      match signalOf? 1 ⟨name⟩ with
      | some n => .ok { signal := some n, targets := rest }
      | none =>
        let total := (words.flatMap RawText.bytes).length + words.length
        killOptions (total + 1) { targets := words } []
    | _ => .ok { targets := words }

def countOf? (word : RawText) : Option Nat :=
  (natOf? (match word.bytes with | 0x2B :: digits => ⟨digits⟩ | _ => word)).filter (· < 2147483648)

def killAll (line signal : Nat) : Turn → List RawText → Turn
  | t, [] => t
  | t, target :: rest =>
    let missing := t.fail line (RawText.ofString "kill: No such process\n") 1
    match target.bytes with
    | 0x2D :: group =>
      match countOf? ⟨group⟩ with
      | some n => killAll line signal (if t.hasGroup n then t.sendGroup n signal else missing) rest
      | none => t.fail line (illegalNumber "kill" ⟨group⟩) 2
    | 0x25 :: _ => t.fail line (RawText.ofString "kill: No such job: " ++ target) 2
    | _ =>
      match countOf? target with
      | some 0 => killAll line signal (t.sendGroup t.process.group signal) rest
      | some n => killAll line signal (if t.hasProcess n then t.send n signal else missing) rest
      | none => t.fail line (illegalNumber "kill" target) 2

def listSignals (line : Nat) : List RawText → Turn
  | [] => t.sayLines (RawText.ofString "0" :: signalNames.tail.map RawText.ofString)
  | word :: _ =>
    match countOf? word with
    | none => t.fail line (illegalNumber "kill" word) 2
    | some n =>
      let n := if 128 < n then n - 128 else n
      match signalNames.tail[n - 1]?, n with
      | some name, _ + 1 => t.sayLines [RawText.ofString name]
      | _, _ =>
        t.fail line (RawText.ofString "kill: invalid signal number or exit status: " ++ word) 2

def kill (line : Nat) (words : List RawText) : Turn :=
  match killing words with
  | .error text => t.fail line (RawText.ofString "kill: " ++ text) 2
  | .ok k =>
    if k.isMisuse then t.fail line (RawText.ofString "kill: " ++ killUsage) 2
    else if k.lists then t.listSignals line k.targets
    else killAll line (k.signal.getD Signal.term) (t.status 0) k.targets

def singleQuoted (text : RawText) : RawText :=
  let quote := RawText.ofString "'"
  quote ++ ⟨text.bytes.flatMap fun b =>
    if b = 0x27 then (RawText.ofString "'\"'\"'").bytes else [b]⟩ ++ quote

def trapLines : List RawText :=
  (List.range signalNames.length).filterMap fun n =>
    let action :=
      match t.settings.traps.lookup n with
      | some action => some action
      | none => if n ∈ t.settings.ignored then some RawText.empty else none
    action.map fun action =>
      RawText.ofString "trap -- " ++ singleQuoted action ++
        RawText.ofString (" " ++ signalNames[n]?.getD "")

def setTrap (action : Option RawText) (signal : Nat) (s : Settings) : Settings :=
  let traps := s.traps.filter fun a => a.1 ≠ signal
  let ignored := s.ignored.filter (· ≠ signal)
  match action with
  | none => { s with traps := traps, ignored := ignored }
  | some action =>
    if action.isEmpty then { s with traps := traps, ignored := ignored ++ [signal] }
    else { s with traps := (signal, action) :: traps, ignored := ignored }

def setTraps (action : Option RawText) : Turn → List RawText → Turn
  | t, [] => t.status 0
  | t, word :: rest =>
    match signalOf? 0 word with
    | some n => setTraps action (t.settle (setTrap action n)) rest
    | none =>
      (t.complain (RawText.ofString "trap: " ++ word ++ RawText.ofString ": bad trap")).status 1

def trap (words : List RawText) : Turn :=
  let words := if words.head? = some (RawText.ofString "--") then words.tail else words
  match words with
  | [] => t.sayLines t.trapLines
  | [word] => setTraps none t [word]
  | action :: names =>
    if (natOf? action).isSome then setTraps none t words
    else if action = RawText.ofString "-" then setTraps none t names
    else setTraps (some action) t names

def wait (line : Nat) (words : List RawText) : Turn :=
  match words with
  | [] => (t.status 0).become (.waitingForJobs none)
  | word :: rest =>
    match natOf? word with
    | some id =>
      let t := if rest = [] then t else t.push (.builtin line (RawText.ofString "wait" :: rest))
      if (t.world.process? id).isSome then t.become (.waitingForJobs (some id)) else t.status 127
    | none => t.fail line (illegalNumber "wait" word) 2

def cd (line : Nat) (words : List RawText) : Turn :=
  let back := words.head? = some (RawText.ofString "-")
  let path :=
    if back then (t.settings.value? "OLDPWD").getD RawText.empty
    else
      match words with
      | path :: _ => path
      | [] => (t.settings.value? "HOME").getD RawText.empty
  match t.world.files.find t.settings.here path with
  | .ok (loc, ⟨.folder, _⟩) =>
    let old := pathOf t.settings.here
    let t := t.settle fun s => { s.assign "OLDPWD" old with here := loc }
    if back then t.sayLines [pathOf loc] else t.status 0
  | _ =>
    if path.isEmpty then t.status 0
    else t.fail line (RawText.ofString "cd: can't cd to " ++ path) 2

def isName (text : String) : Bool :=
  match text.toList with
  | c :: rest => Reader.isNameStart c && rest.all Reader.isNameChar
  | [] => false

def declaration (word : RawText) : String × Option RawText :=
  let parts := RawText.splitFirst 0x3D word.bytes
  ((RawText.mk parts.1).lossy, parts.2.map RawText.mk)

def declare (line : Nat) (command : String) (exported : Bool) : Turn → List RawText → Turn
  | t, [] => t.status 0
  | t, word :: rest =>
    let (name, value) := declaration word
    if isOption word then declare line command exported t rest
    else if isName name then
      let t := match value with
        | some value => t.settle fun s => s.assign name value
        | none => t
      let t := if exported then t.settle fun s => { s with exported := name :: s.exported } else t
      declare line command exported t rest
    else t.giveUp line (RawText.ofString s!"{command}: {name}: bad variable name")

def keep (name : String) (old : Option RawText) : List Task → List Task
  | [] => []
  | .leave args saved :: rest => .leave args ((name, old) :: saved) :: rest
  | task :: rest => task :: keep name old rest

def declareLocal (line : Nat) : Turn → List RawText → Turn
  | t, [] => t.status 0
  | t, word :: rest =>
    if t.process.tasks.any isReturn then
      let (name, value) := declaration word
      let old := t.settings.vars.lookup name
      let t := { t with process := { t.process with tasks := keep name old t.process.tasks } }
      declareLocal line
        (match value with
          | some value => t.settle fun s => s.assign name value
          | none => t) rest
    else t.giveUp line (RawText.ofString "local: not in a function")

def unset (words : List RawText) : Turn :=
  let functions := words.head? = some (RawText.ofString "-f")
  let names := (words.filter fun w => !isOption w).map RawText.lossy
  let t :=
    if functions then
      t.settle fun s => { s with functions := s.functions.filter fun f => f.1 ∉ names }
    else t.settle fun s => names.foldl Settings.forget s
  t.status 0

def optionLetters : List UInt8 := (RawText.ofString "aefhmnuvxCEIVb").bytes

def switch (line : Nat) (sign : UInt8) (on : Bool) : Turn → List UInt8 → Turn
  | t, [] => t
  | t, letter :: rest =>
    if letter ∈ optionLetters then
      let t :=
        if letter = 0x65 then t.settle fun s => { s with exitsOnFailure := on }
        else if letter = 0x75 then t.settle fun s => { s with refusesUnset := on }
        else t
      switch line sign on t rest
    else t.giveUp line (RawText.ofString "set: Illegal option " ++ ⟨[sign, letter]⟩)

def switchNamed (line : Nat) (sign : UInt8) (on : Bool) (name : RawText) : Turn :=
  match name.text? with
  | some "errexit" => switch line sign on t [0x65]
  | some "nounset" => switch line sign on t [0x75]
  | some text =>
    if text ∈ ["noglob", "allexport", "xtrace", "verbose", "noexec", "monitor", "noclobber"] then t
    else t.giveUp line (RawText.ofString "set: Illegal option " ++ ⟨[sign, 0x6F, 0x20]⟩ ++ name)
  | none => t.giveUp line (RawText.ofString "set: Illegal option " ++ ⟨[sign, 0x6F, 0x20]⟩ ++ name)

def set (line : Nat) : Turn → List RawText → Turn
  | t, [] => t.status 0
  | t, word :: rest =>
    match word.bytes with
    | [0x2D, 0x2D] => (t.settle fun s => { s with args := rest }).status 0
    | 0x2D :: 0x6F :: [] =>
      match rest with
      | name :: rest => set line (t.switchNamed line 0x2D true name) rest
      | [] => t.status 0
    | 0x2B :: 0x6F :: [] =>
      match rest with
      | name :: rest => set line (t.switchNamed line 0x2B false name) rest
      | [] => t.status 0
    | 0x2D :: letter :: letters => set line (switch line 0x2D true t (letter :: letters)) rest
    | 0x2B :: letter :: letters => set line (switch line 0x2B false t (letter :: letters)) rest
    | _ => (t.settle fun s => { s with args := word :: rest }).status 0

def shift (line : Nat) (words : List RawText) : Turn :=
  match words.head?.map fun w => (w, natOf? w) with
  | some (word, none) => t.giveUp line (illegalNumber "shift" word)
  | some (_, some n) => go n
  | none => go 1
where
  go (n : Nat) : Turn :=
    if n ≤ t.settings.args.length then
      (t.settle fun s => { s with args := s.args.drop n }).status 0
    else t.giveUp line (RawText.ofString "shift: can't shift that many")

def pathTest (kind : UInt8) (path : RawText) : Bool :=
  if kind = 0x4C ∨ kind = 0x68 then
    match t.world.files.resolve t.settings.here false path with
    | .ok (.found _ ⟨.link _, _⟩) => true
    | _ => false
  else
    match t.world.files.find t.settings.here path with
    | .error _ => false
    | .ok (_, entry) =>
      match kind, entry.node with
      | 0x65, _ => true
      | 0x66, .file .. => true
      | 0x66, .program _ => true
      | 0x64, .folder => true
      | 0x63, .sink => true
      | 0x72, _ => true
      | 0x77, _ => true
      | 0x73, .file content _ => content ≠ []
      | 0x73, .folder => true
      | 0x73, .program _ => true
      | 0x78, .file _ mode => Image.isProgramMode mode
      | 0x78, .folder => true
      | 0x78, .program _ => true
      | 0x70, .pipe => true
      | _, _ => false

def witness : Condition.Witness where
  file := t.pathTest
  newer a b :=
    match t.world.files.find t.settings.here a, t.world.files.find t.settings.here b with
    | .ok (_, a), .ok (_, b) => !decide (a.modified ≤ b.modified)
    | .ok _, .error _ => true
    | _, _ => false

def test (line : Nat) (command : String) (words : List RawText) : Turn :=
  match Condition.holds t.witness words with
  | .ok true => t.status 0
  | .ok false => t.status 1
  | .error text => t.fail line (RawText.ofString s!"{command}: " ++ text) 2

def scriptOfWords (words : List RawText) : Script :=
  Script.ofText 1 (charsOf (Settings.joined words).bytes)

def source (line : Nat) : List RawText → Turn
  | [] => t.status 0
  | file :: args =>
    if Image.hasSlash file then
      match t.world.files.read t.settings.here file with
      | .ok content =>
        let t := t.push (.leave (if args = [] then none else some t.settings.args) [])
        let t := if args = [] then t else t.settle fun s => { s with args := args }
        (t.push (.run (Script.ofText 1 (charsOf content)))).status 0
      | .error e =>
        t.giveUp line (RawText.ofString ".: cannot open " ++ file ++
          RawText.ofString (": " ++ openFailure "No such file" e))
    else t.giveUp line (RawText.ofString ".: " ++ file ++ RawText.ofString ": not found")

def specialNames : List String :=
  [ ":", ".", "break", "continue", "eval", "exec", "exit", "export", "readonly", "return", "set",
    "shift", "times", "trap", "unset" ]

def ordinaryNames : List String :=
  [ "alias", "cd", "command", "echo", "false", "hash", "jobs", "kill", "local", "printf", "pwd",
    "read", "test", "true", "type", "ulimit", "umask", "wait", "[" ]

def programPath? (name : RawText) : Option Path :=
  let isProgram (path : Path) : Bool :=
    match t.world.files.find t.settings.here path with
    | .ok (_, ⟨.program _, _⟩) => true
    | .ok (_, ⟨.file _ mode, _⟩) => Image.isProgramMode mode
    | _ => false
  if Image.hasSlash name then if isProgram name then some name else none
  else
    let folders := ((t.settings.value? "PATH").getD RawText.empty).bytes
    ((RawText.splitBytes 0x3A folders).map fun f => Path.join ⟨f⟩ name).find? isProgram

def describe? (name : RawText) : Option (RawText × RawText) :=
  let text := name.lossy
  let known (what : String) : Option (RawText × RawText) :=
    some (name, name ++ RawText.ofString s!" is {what}")
  if text ∈ Reader.keywords then known "a shell keyword"
  else if (t.settings.functions.lookup text).isSome then known "a shell function"
  else if text ∈ specialNames then known "a special shell builtin"
  else if text ∈ ordinaryNames then known "a shell builtin"
  else (t.programPath? name).map fun path => (path, name ++ RawText.ofString " is " ++ path)

def describe (long : Bool) : Turn → List RawText → Turn
  | t, [] => t
  | t, name :: rest =>
    match t.describe? name with
    | some (short, text) =>
      describe long (t.say ((if long then text else short).bytes ++ [0x0A])) rest
    | none =>
      let t :=
        if long then t.say ((name ++ RawText.ofString ": not found").bytes ++ [0x0A]) else t
      describe long (t.status 127) rest

def printf (line : Nat) (words : List RawText) : Turn :=
  let words := if words.head? = some (RawText.ofString "--") then words.tail else words
  match words with
  | [] => t.fail line (RawText.ofString "printf: usage: printf format [arg ...]") 2
  | format :: args =>
    let printed := Print.printf format args
    let t := t.sayWell printed.written
    printed.faults.foldl
      (fun t fault => t.fail line (RawText.ofString "printf: " ++ fault.1) fault.2) t

def inShell? (line : Nat) (name : String) (args : List RawText) : Option Turn :=
  match name with
  | ":" => some (t.status 0)
  | "true" => some (t.status 0)
  | "false" => some (t.status 1)
  | "echo" => some (t.sayWell (Print.echo args))
  | "printf" => some (t.printf line args)
  | "exit" => some (t.exit line args)
  | "return" => some (t.returnNow line args)
  | "break" => some (t.leaveLoop line name true args)
  | "continue" => some (t.leaveLoop line name false args)
  | "read" => some (t.readLine line args)
  | "kill" => some (t.kill line args)
  | "trap" => some (t.trap args)
  | "wait" => some (t.wait line args)
  | "ulimit" => some (t.status 0)
  | "alias" => some (t.status 0)
  | "hash" => some (t.status 0)
  | "jobs" => some (t.status 0)
  | "umask" =>
    match args with
    | [] => some (t.sayLines [RawText.ofString "0022"])
    | _ => some (t.status 0)
  | "times" => some (t.sayLines (List.replicate 2 (RawText.ofString "0m0.000000s 0m0.000000s")))
  | "pwd" => some (t.sayLines [pathOf t.settings.here])
  | "cd" => some (t.cd line args)
  | "shift" => some (t.shift line args)
  | "set" => some (set line t args)
  | "export" => some (declare line name true t args)
  | "readonly" => some (declare line name false t args)
  | "local" => some (declareLocal line t args)
  | "unset" => some (t.unset args)
  | "eval" => some ((t.status 0).push (.run (scriptOfWords args)))
  | "." => some (t.source line args)
  | "type" => some (describe true (t.status 0) args)
  | "test" => some (t.test line name args)
  | "[" =>
    if args.getLast? = some (RawText.ofString "]") then some (t.test line name args.dropLast)
    else some (t.fail line (RawText.ofString "[: missing ]") 2)
  | _ => none

end Turn

end KubePlugin.Machine
