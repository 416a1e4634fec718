import KubePlugin.Machine.Builtin

namespace KubePlugin.Machine

open Shell

namespace Turn

variable (t : Turn)

def object (text : RawText) : Turn :=
  (t.complain (t.settings.name ++ RawText.ofString ": " ++ text)).status 1

def misused (text : String) : Turn :=
  ((t.object (RawText.ofString text)).complain
    (RawText.ofString "Try '" ++ t.settings.name ++
      RawText.ofString " --help' for more information.")).status 1

def attempt (outcome : Except IoError Files) (complaint : String) (path : RawText) : Turn :=
  t.change outcome
    (t.settings.name ++ RawText.ofString s!": {complaint} '" ++ path ++ RawText.ofString "'")

def operands (words : List RawText) : List RawText :=
  (words.filter fun w => !isOption w)

def hasLetter (words : List RawText) (letter : UInt8) : Bool :=
  words.any fun w => isOption w && w.bytes.contains letter

def withContents (task : Task) (complaint : RawText → IoError → RawText) (files : List RawText)
    (next : Turn → List (RawText × List UInt8) → Turn) : Turn :=
  if files = [] ∨ files.contains (RawText.ofString "-") then
    t.withInput false task fun t => collect next (t.status 0) [] (if files = [] then
      [RawText.ofString "-"] else files)
  else collect next (t.status 0) [] files
where
  collect (next : Turn → List (RawText × List UInt8) → Turn) (t : Turn)
      (read : List (RawText × List UInt8)) : List RawText → Turn
  | [] =>
    let status := t.settings.status
    let t := next t read
    if status = 0 then t else t.status status
  | file :: rest =>
    if file = RawText.ofString "-" then
      collect next t.readInput.2 (read ++ [(file, t.readInput.1)]) rest
    else
      match t.world.files.read t.settings.here file with
      | .ok content => collect next t (read ++ [(file, content)]) rest
      | .error e => collect next (t.object (complaint file e)) read rest

def plainly (file : RawText) (e : IoError) : RawText :=
  file ++ RawText.ofString s!": {wording e}"

def cat (line : Nat) (words : List RawText) : Turn :=
  t.withContents (.builtin line (RawText.ofString "cat" :: words)) plainly (operands words)
    fun t read => t.say (read.flatMap (·.2))

def linesOf (bytes : List UInt8) : List (List UInt8) :=
  let lines := RawText.splitBytes 0x0A bytes
  if lines.getLast? = some [] then lines.dropLast else lines

def linesWithEnds (bytes : List UInt8) : List (List UInt8) :=
  let ended := bytes.getLast? = some 0x0A
  let lines := linesOf bytes
  if ended then lines.map (· ++ [0x0A])
  else
    match lines.getLast? with
    | some last => lines.dropLast.map (· ++ [0x0A]) ++ [last]
    | none => []

structure Extent where
  count : Nat := 10
  inBytes : Bool := false
  fromStart : Bool := false
  files : List RawText := []

def extent : Extent → List RawText → Extent
  | e, [] => e
  | e, [word] => extentOf e word
  | e, word :: value :: rest =>
    match word.bytes with
    | [0x2D, 0x6E] => extent (counted { e with inBytes := false } value.bytes) rest
    | [0x2D, 0x63] => extent (counted { e with inBytes := true } value.bytes) rest
    | _ => extent (extentOf e word) (value :: rest)
where
  counted (e : Extent) (digits : List UInt8) : Extent :=
    match digits with
    | 0x2B :: digits => { e with count := (natOf? ⟨digits⟩).getD 0, fromStart := true }
    | 0x2D :: digits => { e with count := (natOf? ⟨digits⟩).getD 0 }
    | digits => { e with count := (natOf? ⟨digits⟩).getD 0 }
  extentOf (e : Extent) (word : RawText) : Extent :=
    match word.bytes with
    | 0x2D :: 0x6E :: digits => counted { e with inBytes := false } digits
    | 0x2D :: 0x63 :: digits => counted { e with inBytes := true } digits
    | 0x2D :: d :: digits => counted e (d :: digits)
    | _ => { e with files := e.files ++ [word] }

def forReading (file : RawText) (e : IoError) : RawText :=
  RawText.ofString "cannot open '" ++ file ++ RawText.ofString s!"' for reading: {wording e}"

def head (line : Nat) (words : List RawText) : Turn :=
  let e := extent {} words
  t.withContents (.builtin line (RawText.ofString "head" :: words)) forReading e.files
    fun t read => t.say (read.flatMap fun file =>
      if e.inBytes then file.2.take e.count else ((linesWithEnds file.2).take e.count).flatten)

def tail (line : Nat) (words : List RawText) : Turn :=
  let e := extent {} words
  let last {α : Type} (l : List α) : List α :=
    if e.fromStart then l.drop (e.count - 1) else l.drop (l.length - e.count)
  t.withContents (.builtin line (RawText.ofString "tail" :: words)) forReading e.files
    fun t read => t.say (read.flatMap fun file =>
      if e.inBytes then last file.2 else (last (linesWithEnds file.2)).flatten)

def wordCount : (inWord : Bool) → List UInt8 → Nat
  | _, [] => 0
  | inWord, b :: rest =>
    let blank := b = 0x20 || (0x09 ≤ b && b ≤ 0x0D)
    (if !blank && !inWord then 1 else 0) + wordCount (!blank) rest

def column (width n : Nat) : List UInt8 :=
  let digits := (RawText.ofString (toString n)).bytes
  List.replicate (width - digits.length) 0x20 ++ digits

def count (line : Nat) (words : List RawText) : Turn :=
  let chosen (letter : UInt8) : Bool :=
    hasLetter words letter || !words.any fun w => isOption w
  let numbers (content : List UInt8) : List Nat :=
    (if chosen 0x6C then [content.count 0x0A] else []) ++
      (if chosen 0x77 then [wordCount false content] else []) ++
      (if chosen 0x63 || hasLetter words 0x6D then [content.length] else [])
  t.withContents (.builtin line (RawText.ofString "wc" :: words)) plainly (operands words)
    fun t read =>
      let all := read.flatMap (·.2)
      let isNamed := operands words ≠ []
      let width :=
        if (numbers []).length ≤ 1 ∧ read.length ≤ 1 then 1
        else if isNamed then (toString all.length).length
        else 7
      let row (name : RawText) (content : List UInt8) : List UInt8 :=
        [0x20].intercalate ((numbers content).map (column width)) ++
          (if name.isEmpty then [] else 0x20 :: name.bytes) ++ [0x0A]
      let rows := read.flatMap fun file => row (if isNamed then file.1 else RawText.empty) file.2
      t.say (if 1 < read.length then rows ++ row (RawText.ofString "total") all else rows)

def sortLines (before : List UInt8 → List UInt8 → Bool) (lines : List (List UInt8)) :
    List (List UInt8) :=
  lines.mergeSort fun a b => !before b a

def leadingNumber (line : List UInt8) : Int :=
  match line.dropWhile fun b => b = 0x20 || b = 0x09 with
  | 0x2D :: digits => -((Print.number 0 digits).1 : Int)
  | digits => (Print.number 0 digits).1

def sort (line : Nat) (words : List RawText) : Turn :=
  let numeric := hasLetter words 0x6E
  let before (a b : List UInt8) : Bool :=
    if numeric ∧ leadingNumber a ≠ leadingNumber b then leadingNumber a < leadingNumber b
    else RawText.before a b
  let complaint (file : RawText) (e : IoError) : RawText :=
    RawText.ofString "cannot read: " ++ plainly file e
  t.withContents (.builtin line (RawText.ofString "sort" :: words)) complaint (operands words)
    fun t read =>
      let sorted := sortLines before (read.flatMap fun file => linesOf file.2)
      let sorted := if hasLetter words 0x75 then sorted.eraseReps else sorted
      let sorted := if hasLetter words 0x72 then sorted.reverse else sorted
      t.say (sorted.flatMap (· ++ [0x0A]))

def sequence (words : List RawText) : Turn :=
  let number (w : RawText) : Option Int := w.text?.bind String.toInt?
  match words.mapM number with
  | some [last] => go 1 1 last
  | some [first, last] => go first 1 last
  | some [first, step, last] => go first step last
  | some [] => t.misused "missing operand"
  | _ =>
    let word := (words.find? fun w => (number w).isNone).getD RawText.empty
    t.misused s!"invalid floating point argument: '{word.lossy}'"
where
  go (first step last : Int) : Turn :=
    let size := if step = 0 then 0 else ((last - first) / step + 1).toNat
    t.sayLines ((List.range size).map fun (i : Nat) =>
      RawText.ofString (toString (first + step * i)))

def lastName (path : RawText) : RawText :=
  match (RawText.splitBytes Path.slash path.bytes).filter (· ≠ []) with
  | [] => if path.isEmpty then path else ⟨[Path.slash]⟩
  | names => ⟨names.getLast?.getD []⟩

def basename (words : List RawText) : Turn :=
  match words with
  | [] => t.misused "missing operand"
  | [path] => t.sayLines [lastName path]
  | path :: ending :: _ =>
    let name := lastName path
    let start := name.bytes.take (name.bytes.length - ending.bytes.length)
    let cut := start ≠ [] ∧ start ++ ending.bytes = name.bytes
    t.sayLines [if cut then ⟨start⟩ else name]

def folderOf (path : RawText) : RawText :=
  let isSlash (b : UInt8) : Bool := b = Path.slash
  let whole := path.bytes.reverse.dropWhile isSlash
  let above := (whole.dropWhile fun b => !isSlash b).dropWhile isSlash
  if above = [] then
    if path.bytes.head? = some Path.slash then ⟨[Path.slash]⟩ else Path.dot
  else ⟨above.reverse⟩

def dirname (words : List RawText) : Turn :=
  match words with
  | [] => t.misused "missing operand"
  | paths => t.sayLines (paths.map folderOf)

def mkdir (words : List RawText) : Turn :=
  match operands words with
  | [] => t.misused "missing operand"
  | paths =>
    paths.foldl
      (fun t path =>
        let files := t.world.files
        let outcome :=
          if hasLetter words 0x70 then files.makeFolderPath t.settings.here t.world.now path
          else files.makeFolder t.settings.here t.world.now path
        t.attempt outcome "cannot create directory" path)
      (t.status 0)

def touch (words : List RawText) : Turn :=
  match operands words with
  | [] => t.misused "missing file operand"
  | paths =>
    paths.foldl
      (fun t path =>
        let files := t.world.files
        let outcome := match files.find t.settings.here path with
          | .ok (loc, entry) => .ok (files.put loc { entry with modified := t.world.now })
          | .error _ =>
            (files.openForWriting t.settings.here t.world.now Files.plainMode path).map (·.2)
        t.attempt outcome "cannot touch" path)
      (t.status 0)

def rm (words : List RawText) : Turn :=
  let forced := hasLetter words 0x66
  match operands words with
  | [] => if forced then t.status 0 else t.misused "missing operand"
  | paths =>
    paths.foldl
      (fun t path =>
        let files := t.world.files
        let outcome := match files.resolve t.settings.here false path with
          | .ok (.found loc ⟨.folder, _⟩) =>
            if hasLetter words 0x72 || hasLetter words 0x52 then .ok (files.removeAt loc)
            else .error .isFolder
          | .ok (.found loc _) => .ok (files.removeAt loc)
          | .ok (.vacant _) => if forced then .ok files else .error .notFound
          | .error e => if forced then .ok files else .error e
        t.attempt outcome "cannot remove" path)
      (t.status 0)

def rmdir (words : List RawText) : Turn :=
  match operands words with
  | [] => t.misused "missing operand"
  | paths =>
    paths.foldl
      (fun t path =>
        let files := t.world.files
        let outcome := match files.resolve t.settings.here false path with
          | .ok (.found loc ⟨.folder, _⟩) =>
            if files.children loc = [] then .ok (files.removeAt loc) else .error (.os 39)
          | .ok (.found ..) => .error .notFolder
          | .ok (.vacant _) => .error .notFound
          | .error e => .error e
        t.attempt outcome "failed to remove" path)
      (t.status 0)

def octalOf? (word : RawText) : Option Nat :=
  let n := Print.octal word.bytes.length 0 word.bytes
  if word.isEmpty || !n.2.isEmpty then none else some n.1

def chmod (words : List RawText) : Turn :=
  match words with
  | mode :: paths =>
    let bits :=
      if mode ∈ ["+x", "a+x", "u+x"].map RawText.ofString then some Files.programMode
      else if mode ∈ ["-x", "a-x"].map RawText.ofString then some Files.plainMode
      else octalOf? mode
    match bits with
    | none => t.misused s!"invalid mode: '{mode.lossy}'"
    | some n =>
      paths.foldl
        (fun t path =>
          t.attempt (t.world.files.setMode t.settings.here path n) "cannot access" path)
        (t.status 0)
  | [] => t.misused "missing operand"

def destination (source target : RawText) : RawText :=
  if t.world.files.isFolder t.settings.here target then Path.join target (lastName source)
  else target

def transfer (moves : Bool) (words : List RawText) : Turn :=
  match operands words with
  | [] => t.misused "missing file operand"
  | [source] => t.misused s!"missing destination file operand after '{source.lossy}'"
  | source :: target :: _ =>
    let files := t.world.files
    let target := t.destination source target
    match files.resolve t.settings.here (!moves) source with
    | .ok (.found loc entry) =>
      if moves then
        match files.resolve t.settings.here false target with
        | .ok (.found dest _) => (t.change (.ok (files.moveAt loc dest)) RawText.empty).status 0
        | .ok (.vacant dest) => (t.change (.ok (files.moveAt loc dest)) RawText.empty).status 0
        | .error e => t.attempt (.error e) "cannot create regular file" target
      else if entry.node = .folder then
        t.object (RawText.ofString "-r not specified; omitting directory '" ++ source ++
          RawText.ofString "'")
      else
        (t.status 0).attempt (files.copy t.settings.here t.world.now source target)
          "cannot create regular file" target
    | .ok (.vacant _) => t.attempt (.error .notFound) "cannot stat" source
    | .error e => t.attempt (.error e) "cannot stat" source

def link (words : List RawText) : Turn :=
  match operands words with
  | [] => t.misused "missing file operand"
  | target :: rest =>
    let path := t.destination target (rest.headD Path.dot)
    let files := t.world.files
    let outcome := match files.resolve t.settings.here false path with
      | .ok (.vacant loc) => .ok (files.put loc ⟨.link target, t.world.now⟩)
      | .ok (.found loc _) =>
        if hasLetter words 0x66 then .ok (files.put loc ⟨.link target, t.world.now⟩)
        else .error .alreadyExists
      | .error e => .error e
    (t.status 0).attempt outcome "failed to create symbolic link" path

def list (words : List RawText) : Turn :=
  let paths := match operands words with
    | [] => [Path.dot]
    | paths => paths
  let missing := paths.filter fun p => (t.world.files.find t.settings.here p).isOk = false
  let folders := paths.filter (t.world.files.isFolder t.settings.here)
  let files := paths.filter fun p => p ∉ missing ∧ p ∉ folders
  let names (path : RawText) : List RawText :=
    match t.world.files.find t.settings.here path with
    | .ok (loc, _) =>
      let all := t.world.files.children loc
      let shown := all.filter fun n => n.bytes.head? ≠ some 0x2E
      if hasLetter words 0x61 then Path.dot :: RawText.ofString ".." :: all
      else if hasLetter words 0x41 then all
      else shown
    | .error _ => []
  let block (path : RawText) : List RawText := (path ++ RawText.ofString ":") :: names path
  let blocks := (if files = [] then [] else [files]) ++
    folders.map fun p => if paths.length = 1 then names p else block p
  let t := missing.foldl
    (fun t p => t.attempt (.error .notFound) "cannot access" p) (t.status 0)
  let status := if missing = [] then 0 else 2
  (t.sayLines ([RawText.empty].intercalate blocks)).status status

def tar (words : List RawText) : Turn :=
  match words with
  | _ :: archive :: rest =>
    let folder := match rest with
      | _ :: folder :: _ => folder
      | _ => RawText.empty
    let files := t.world.files
    let content := (rest.drop 2).mapM fun name =>
      files.read t.settings.here (Path.join folder name)
    match content, files.openForWriting t.settings.here t.world.now Files.plainMode archive with
    | .ok bytes, .ok (loc, files) =>
      ({ t with world :=
          { t.world with
            files := files.append t.world.now loc ([0x1F, 0x8B] ++ bytes.flatten) } }).status 0
    | _, _ => (t.complain (RawText.ofString "tar: Error is not recoverable: exiting now")).status 2
  | _ => t.status 2

def thousandths (digits : List UInt8) : Nat :=
  (Print.number 0 ((digits ++ [0x30, 0x30, 0x30]).take 3)).1

def secondsIn? : List UInt8 → Option Nat
  | [] => some 1
  | [0x73] => some 1
  | [0x6D] => some 60
  | [0x68] => some 3600
  | [0x64] => some 86400
  | _ => none

def millisOf? (word : RawText) : Option Nat :=
  let seconds := Print.number 0 word.bytes
  match seconds.2 with
  | 0x2E :: digits =>
    let unit := (Print.number 0 digits).2
    (secondsIn? unit).map fun n =>
      (seconds.1 * 1000 + thousandths (digits.take (digits.length - unit.length))) * n
  | unit => if word.bytes = unit then none else (secondsIn? unit).map (seconds.1 * 1000 * ·)

def sleep (words : List RawText) : Turn :=
  match words, words.mapM millisOf? with
  | [], _ => t.misused "missing operand"
  | _, some times => (t.status 0).become (.asleep (times.foldl (· + ·) t.world.clock))
  | _, none =>
    let word := (words.find? fun w => (millisOf? w).isNone).getD RawText.empty
    t.misused s!"invalid time interval '{word.lossy}'"

def echoOptions (ended escapes : Bool) : List RawText → List RawText × Bool × Bool
  | [] => ([], ended, escapes)
  | word :: rest =>
    match word.bytes with
    | 0x2D :: letter :: letters =>
      if (letter :: letters).all fun b => b = 0x6E || b = 0x65 || b = 0x45 then
        let last := ((letter :: letters).reverse.find? fun b => b = 0x65 || b = 0x45)
        echoOptions (ended && !(letter :: letters).contains 0x6E)
          (match last with | some b => b = 0x65 | none => escapes) rest
      else (word :: rest, ended, escapes)
    | _ => (word :: rest, ended, escapes)

def echoProgram (words : List RawText) : Turn :=
  let (words, ended, escapes) := echoOptions true false words
  let ending := if ended then [0x0A] else []
  if escapes then t.sayWell (Print.spaced ending (words.map RawText.bytes))
  else t.sayWell ((Settings.joined words).bytes ++ ending)

def readlink (words : List RawText) : Turn :=
  match operands words with
  | [] => t.misused "missing operand"
  | path :: _ =>
    match t.world.files.resolve t.settings.here false path with
    | .ok (.found _ ⟨.link target, _⟩) => t.sayLines [target]
    | _ => t.status 1

def uname (words : List RawText) : Turn :=
  let parts :=
    (if words = [] || hasLetter words 0x73 then ["Linux"] else []) ++
      if hasLetter words 0x6D then ["x86_64"] else []
  t.sayLines [Settings.joined (parts.map RawText.ofString)]

def isAssignment (word : RawText) : Bool := word.bytes.contains 0x3D

def environment (t : Turn) : List RawText → Turn
  | [] =>
    let rows := t.settings.environment.map fun v =>
      RawText.ofString v.1 ++ RawText.ofString "=" ++ v.2
    t.sayLines ((sortLines RawText.before (rows.map RawText.bytes)).map RawText.mk)
  | word :: rest =>
    if word = RawText.ofString "-i" ∨ word = RawText.ofString "-" then
      environment (t.settle fun s => { s with vars := [], exported := [] }) rest
    else if isAssignment word then
      let (name, value) := declaration word
      environment
        (t.settle fun s =>
          { s.assign name (value.getD RawText.empty) with exported := name :: s.exported }) rest
    else
      match t.program (word :: rest) with
      | .ok image => t.replace image []
      | .error e =>
        (t.object (RawText.ofString "'" ++ word ++ RawText.ofString s!"': {wording e}")).status
          (if e = .notFound then 127 else 126)

def shellOfInput : Turn :=
  t.withInput false (.builtin 0 [RawText.ofString "sh"]) fun t =>
    t.readInput.2.push (.run (Script.ofText 1 (charsOf t.readInput.1)))

def system (line : Nat) (name : String) (args : List RawText) : Turn :=
  match name with
  | "basename" => t.basename args
  | "cat" => t.cat line args
  | "chmod" => t.chmod args
  | "cp" => t.transfer false args
  | "dirname" => t.dirname args
  | "echo" => t.echoProgram args
  | "env" => environment t args
  | "head" => t.head line args
  | "ln" => t.link args
  | "ls" => t.list args
  | "mkdir" => t.mkdir args
  | "mv" => t.transfer true args
  | "readlink" => t.readlink args
  | "rm" => t.rm args
  | "rmdir" => t.rmdir args
  | "seq" => t.sequence args
  | "sh" => t.shellOfInput
  | "sleep" => t.sleep args
  | "sort" => t.sort line args
  | "tail" => t.tail line args
  | "tar" => t.tar args
  | "touch" => t.touch args
  | "uname" => t.uname args
  | "wc" => t.count line args
  | _ => (t.inShell? line name args).getD (t.status 1)

end Turn

end KubePlugin.Machine
