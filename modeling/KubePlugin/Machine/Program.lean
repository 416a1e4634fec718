import KubePlugin.Machine.Process
import KubePlugin.Machine.Shell.Reader

namespace KubePlugin.Machine

open Shell

structure Image where
  name : RawText
  args : List RawText
  tasks : List Task
  exitsOnFailure : Bool := false
  refusesUnset : Bool := false
deriving DecidableEq, Repr

namespace Image

def systemPrograms : List String :=
  [ "basename", "bash", "cat", "chmod", "cp", "dash", "dirname", "echo", "env", "false", "head",
    "kill", "ln", "ls", "mkdir", "mv", "printf", "pwd", "readlink", "rm", "rmdir", "seq", "sh",
    "sleep", "sort", "tail", "tar", "test", "touch", "true", "uname", "wc", "[" ]

def shells : List String := ["bash", "dash", "sh"]

def scriptTasks (text : List UInt8) : List Task := [.run (Script.ofText 1 (charsOf text))]

def literalWord (text : RawText) : WordParts := [.literal (charsOf text.bytes) true]

def unreadable (called file : RawText) : Image where
  name := called
  args := []
  tasks := [.run (.simple 0 [] [] [.fromFile (literalWord file)])]

def shellOfText (called : RawText) : List RawText → Image
  | [] => ⟨called, [], [.run (.broken 0 "-c requires an argument")], false, false⟩
  | [text] => ⟨called, [], scriptTasks text.bytes, false, false⟩
  | text :: name :: args => ⟨name, args, scriptTasks text.bytes, false, false⟩

def shell (fs : Files) (here : Location) (called : RawText) : List RawText → Image
  | [] => ⟨called, [], [.builtin 0 [RawText.ofString "sh"]], false, false⟩
  | first :: rest =>
    match first.bytes with
    | 0x2D :: letters =>
      let image :=
        if letters.contains 0x63 then shellOfText called rest else shell fs here called rest
      { image with
        exitsOnFailure := image.exitsOnFailure || letters.contains 0x65
        refusesUnset := image.refusesUnset || letters.contains 0x75 }
    | _ =>
      match fs.read here first with
      | .ok content => ⟨first, rest, scriptTasks content, false, false⟩
      | .error _ => unreadable called first

def system (fs : Files) (here : Location) (name : String) (called : RawText)
    (args : List RawText) : Image :=
  if name ∈ shells then shell fs here called args
  else ⟨called, args, [.builtin 1 (RawText.ofString name :: args)], false, false⟩

def isBlankByte (b : UInt8) : Bool := b = 0x20 || b = 0x09

def interpreter? (content : List UInt8) : Option (Path × List RawText) :=
  match content with
  | 0x23 :: 0x21 :: rest =>
    let line := (rest.takeWhile (· ≠ 0x0A)).dropWhile isBlankByte
    let path := line.takeWhile fun b => !isBlankByte b
    let argument :=
      (((line.dropWhile fun b => !isBlankByte b).dropWhile isBlankByte).reverse.dropWhile
        isBlankByte).reverse
    if path = [] then none else some (⟨path⟩, if argument = [] then [] else [⟨argument⟩])
  | _ => none

def interpreterLimit : Nat := 4

def isProgramMode (mode : Nat) : Bool := mode / 64 % 2 = 1 || mode / 8 % 2 = 1 || mode % 2 = 1

/-- The program at a path, called by a name, with arguments, through so many interpreters less one.
An interpreter is called by its own path, and the first thing it is told is that of the script. -/
def load (fs : Files) (here : Location) :
    Nat → RawText → Path → List RawText → Except IoError Image
  | 0, _, _, _ => .error .linkLoop
  | limit + 1, called, path, args =>
    match fs.find here path with
    | .error e => .error e
    | .ok (_, ⟨.program name, _⟩) => .ok (system fs here name called args)
    | .ok (_, ⟨.file content mode, _⟩) =>
      if isProgramMode mode then
        match interpreter? content with
        | some (program, argument) => load fs here limit program program (argument ++ path :: args)
        | none => .error .notExecutable
      else .error .denied
    | .ok _ => .error .denied

def hasSlash (name : RawText) : Bool := name.bytes.contains Path.slash

def isPassing (e : IoError) : Bool := e = .notFound || e = .notFolder || e = .denied

def loadOrRead (fs : Files) (here : Location) (fallback : Bool) (called : RawText) (path : Path)
    (args : List RawText) : Except IoError Image :=
  match load fs here interpreterLimit called path args with
  | .error e =>
    if fallback ∧ e = .notExecutable then
      .ok (shell fs here (RawText.ofString "/bin/sh") (path :: args))
    else .error e
  | outcome => outcome

def searchIn (fs : Files) (here : Location) (fallback : Bool) (name : RawText)
    (args : List RawText) : IoError → List Path → Except IoError Image
  | failure, [] => .error failure
  | failure, folder :: rest =>
    match loadOrRead fs here fallback name (Path.join folder name) args with
    | .ok image => .ok image
    | .error e =>
      if isPassing e then
        searchIn fs here fallback name args (if failure = .denied then failure else e) rest
      else .error e

def standardPath : RawText := RawText.ofString "/bin:/usr/bin"

def search (fs : Files) (here : Location) (fallback : Bool) (folders : RawText) (name : RawText)
    (args : List RawText) : Except IoError Image :=
  if name.isEmpty then .error .notFound
  else if hasSlash name then loadOrRead fs here fallback name name args
  else if Files.nameLimit < name.bytes.length then .error .nameTooLong
  else
    searchIn fs here fallback name args .notFound
      ((RawText.splitBytes 0x3A folders.bytes).map RawText.mk)

def hasZero (t : RawText) : Bool := t.bytes.contains 0

def start (fs : Files) (here : Location) (fallback : Bool)
    (environment : List (String × RawText)) (name : RawText) (args : List RawText) :
    Except IoError Image :=
  if hasZero name || args.any hasZero then .error .zeroByte
  else search fs here fallback ((environment.lookup "PATH").getD standardPath) name args

def process (image : Image) (id parent group : Nat) (environment : List (String × RawText))
    (here : Location) (streams : Streams) : Process where
  id := id
  parent := parent
  group := group
  settings :=
    { name := image.name
      id := id
      parent := parent
      args := image.args
      vars := environment
      exported := environment.map (·.1)
      exitsOnFailure := image.exitsOnFailure
      refusesUnset := image.refusesUnset
      here := here }
  streams := streams
  tasks := image.tasks

end Image

end KubePlugin.Machine
