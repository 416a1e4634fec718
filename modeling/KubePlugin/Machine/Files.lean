import KubePlugin.IoError
import KubePlugin.Locator.Candidate
import KubePlugin.Path

/-!
A tree of files. What is in it is kept by location, the names from the root down; a path is
followed to a location through the links on its way. Failures are those of the system: a missing
part, a part that is no folder, a name too long, or links without an end.
-/

namespace KubePlugin.Machine

abbrev Location := List RawText

inductive Node where
  | file (content : List UInt8) (mode : Nat)
  | folder
  | link (target : Path)
  | pipe
  | sink
  | program (name : String)
deriving DecidableEq, Repr

structure Entry where
  node : Node
  modified : Time
deriving DecidableEq, Repr

structure Files where
  entries : List (Location × Entry) := []
deriving DecidableEq, Repr, Inhabited

inductive Spot where
  | found (loc : Location) (entry : Entry)
  | vacant (loc : Location)
deriving DecidableEq, Repr

namespace Files

def get? (fs : Files) (loc : Location) : Option Entry :=
  if loc = [] then some ⟨.folder, ⟨0, 0⟩⟩ else fs.entries.lookup loc

def put (fs : Files) (loc : Location) (entry : Entry) : Files :=
  ⟨(loc, entry) :: fs.entries.filter fun e => e.1 ≠ loc⟩

def isWithin : (folder loc : Location) → Bool
  | [], _ => true
  | _ :: _, [] => false
  | a :: folder, b :: loc => a = b && isWithin folder loc

def removeAt (fs : Files) (loc : Location) : Files :=
  ⟨fs.entries.filter fun e => !isWithin loc e.1⟩

def moveAt (fs : Files) (source target : Location) : Files :=
  ⟨(fs.removeAt target).entries.map fun e =>
    if isWithin source e.1 then (target ++ e.1.drop source.length, e.2) else e⟩

def linkLimit : Nat := 40

def nameLimit : Nat := 255

def upName : RawText := RawText.ofString ".."

def steps (path : Path) : List RawText :=
  Path.parts path ++ (if Path.endsInDot path then [Path.dot] else [])

/-- Follows names from a folder. `followLink` goes on from the folder of a link with the path of its
target and what is left; `last` tells whether a link at the end is followed too. -/
def walkWith (fs : Files) (last : Bool)
    (followLink : Location → Path → List RawText → Except IoError Spot) :
    Location → List RawText → Except IoError Spot
  | loc, [] =>
    match fs.get? loc with
    | some entry => .ok (.found loc entry)
    | none => .error .notFound
  | loc, name :: rest =>
    if name = upName then walkWith fs last followLink loc.dropLast rest
    else if name = Path.dot then walkWith fs last followLink loc rest
    else if nameLimit < name.bytes.length then .error .nameTooLong
    else
      match fs.get? (loc ++ [name]) with
      | none => if rest = [] then .ok (.vacant (loc ++ [name])) else .error .notFound
      | some ⟨.link target, time⟩ =>
        if rest = [] ∧ last = false then .ok (.found (loc ++ [name]) ⟨.link target, time⟩)
        else followLink loc target rest
      | some ⟨.folder, _⟩ => walkWith fs last followLink (loc ++ [name]) rest
      | some entry =>
        if rest = [] then .ok (.found (loc ++ [name]) entry) else .error .notFolder

def walk (fs : Files) (last : Bool) : Nat → Location → List RawText → Except IoError Spot
  | 0 => walkWith fs last fun _ _ _ => .error .linkLoop
  | n + 1 =>
    walkWith fs last fun loc target rest =>
      if target.isEmpty then .error .notFound
      else
        let must := if Path.endsInSlash target then [Path.dot] else []
        walk fs last n (if Path.isAbsolute target then [] else loc) (steps target ++ must ++ rest)

def resolve (fs : Files) (here : Location) (last : Bool) (path : Path) : Except IoError Spot :=
  if path.isEmpty then .error .notFound
  else if 4096 ≤ path.bytes.length then .error .nameTooLong
  else
    let must := Path.endsInSlash path
    let start := if Path.isAbsolute path then [] else here
    match walk fs (last || must) linkLimit start (steps path) with
    | .ok (.found loc entry) =>
      if must ∧ entry.node ≠ .folder then .error .notFolder else .ok (.found loc entry)
    | outcome => outcome

def find (fs : Files) (here : Location) (path : Path) : Except IoError (Location × Entry) :=
  match fs.resolve here true path with
  | .ok (.found loc entry) => .ok (loc, entry)
  | .ok (.vacant _) => .error .notFound
  | .error e => .error e

def isFolder (fs : Files) (here : Location) (path : Path) : Bool :=
  match fs.find here path with
  | .ok (_, entry) => entry.node = .folder
  | .error _ => false

def status (fs : Files) (here : Location) (path : Path) : Option FileStatus :=
  match fs.find here path with
  | .ok (_, entry) => some ⟨entry.node = .folder, entry.modified⟩
  | .error _ => none

def read (fs : Files) (here : Location) (path : Path) : Except IoError (List UInt8) :=
  match fs.find here path with
  | .ok (_, ⟨.file content _, _⟩) => .ok content
  | .ok (_, ⟨.folder, _⟩) => .error .isFolder
  | .ok _ => .ok []
  | .error e => .error e

def plainMode : Nat := 0o644

def programMode : Nat := 0o755

/-- Opens a file for writing from its start: one that exists keeps its mode and loses its content,
one that does not exist is made with `mode`. -/
def openForWriting (fs : Files) (here : Location) (now : Time) (mode : Nat) (path : Path) :
    Except IoError (Location × Files) :=
  match fs.resolve here true path with
  | .error e => .error e
  | .ok (.vacant loc) =>
    if Path.endsInSlash path then .error .isFolder
    else .ok (loc, fs.put loc ⟨.file [] mode, now⟩)
  | .ok (.found loc ⟨.file _ old, _⟩) => .ok (loc, fs.put loc ⟨.file [] old, now⟩)
  | .ok (.found _ ⟨.folder, _⟩) => .error .isFolder
  | .ok (.found loc _) => .ok (loc, fs)

def append (fs : Files) (now : Time) (loc : Location) (bytes : List UInt8) : Files :=
  match fs.get? loc with
  | some ⟨.file content mode, _⟩ => fs.put loc ⟨.file (content ++ bytes) mode, now⟩
  | _ => fs

def setModeAt (fs : Files) (loc : Location) (mode : Nat) : Files :=
  match fs.get? loc with
  | some ⟨.file content _, time⟩ => fs.put loc ⟨.file content mode, time⟩
  | _ => fs

def setMode (fs : Files) (here : Location) (path : Path) (mode : Nat) : Except IoError Files :=
  match fs.find here path with
  | .ok (loc, _) => .ok (fs.setModeAt loc mode)
  | .error e => .error e

def makeFolder (fs : Files) (here : Location) (now : Time) (path : Path) :
    Except IoError Files :=
  match fs.resolve here false path with
  | .ok (.vacant loc) => .ok (fs.put loc ⟨.folder, now⟩)
  | .ok (.found ..) => .error .alreadyExists
  | .error e => .error e

def ofParts (absolute : Bool) (parts : List RawText) : Path :=
  ⟨(if absolute then [Path.slash] else []) ++
    [Path.slash].intercalate (parts.map RawText.bytes)⟩

def makeFolderOrKeep (fs : Files) (here : Location) (now : Time) (path : Path) :
    Except IoError Files :=
  match fs.makeFolder here now path with
  | .ok fs' => .ok fs'
  | .error e => if fs.isFolder here path then .ok fs else .error e

def makeFolders (fs : Files) (here : Location) (now : Time) (absolute : Bool) :
    List RawText → Except IoError Files
  | [] => .ok fs
  | name :: above =>
    let path := ofParts absolute (above.reverse ++ [name])
    match fs.makeFolder here now path with
    | .ok fs' => .ok fs'
    | .error e =>
      if e = .notFound then
        match fs.makeFolders here now absolute above with
        | .ok fs' => fs'.makeFolderOrKeep here now path
        | .error e => .error e
      else if fs.isFolder here path then .ok fs
      else .error e

def makeFolderPath (fs : Files) (here : Location) (now : Time) (path : Path) :
    Except IoError Files :=
  fs.makeFolders here now (Path.isAbsolute path) (Path.parts path).reverse

def notCopyable : IoError :=
  .other "the source path is neither a regular file nor a symlink to a regular file"

/-- Copies content and mode of a file. The target is emptied before the content is read, so a file
copied to itself is lost. -/
def copy (fs : Files) (here : Location) (now : Time) (source target : Path) :
    Except IoError Files :=
  match fs.find here source with
  | .error e => .error e
  | .ok (loc, ⟨.file _ mode, _⟩) =>
    match fs.openForWriting here now mode target with
    | .error e => .error e
    | .ok (dest, opened) =>
      let content := match opened.get? loc with
        | some ⟨.file content _, _⟩ => content
        | _ => []
      .ok ((opened.setModeAt dest mode).append now dest content)
  | .ok _ => .error notCopyable

def insertName (name : RawText) : List RawText → List RawText
  | [] => [name]
  | n :: rest => if RawText.before n.bytes name.bytes then n :: insertName name rest
      else name :: n :: rest

def children (fs : Files) (folder : Location) : List RawText :=
  (fs.entries.filterMap fun e =>
    match e.1.reverse with
    | name :: above => if above.reverse = folder then some name else none
    | [] => none).foldr insertName []

inductive Row where
  | folder (path : Path)
  | file (path : Path) (mode : Nat) (content : List UInt8)
deriving DecidableEq, Repr

def rows (fs : Files) : Nat → Location → Path → List Row
  | 0, _, _ => []
  | depth + 1, folder, shown =>
    (fs.children folder).flatMap fun name =>
      let path := if shown.isEmpty then name else Path.join shown name
      match fs.walk true linkLimit folder [name] with
      | .ok (.found loc ⟨.folder, _⟩) => .folder path :: fs.rows depth loc path
      | .ok (.found _ ⟨.file content mode, _⟩) => [.file path mode content]
      | .ok (.found _ _) => [.file path plainMode []]
      | _ => []

def listing (fs : Files) (here : Location) (path : Path) : List Row :=
  match fs.find here path with
  | .ok (loc, ⟨.folder, _⟩) => fs.rows (fs.entries.length + 1) loc RawText.empty
  | _ => []

end Files

end KubePlugin.Machine
