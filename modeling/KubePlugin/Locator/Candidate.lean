import KubePlugin.Error

/-!
The files below a checkout that may be the neon-cli built last. A build puts its output in one of
three places; of those that hold a file the most recent is taken, and of equals the first.
-/

namespace KubePlugin

structure Time where
  seconds : Int
  nanos : Nat
deriving DecidableEq, Repr, Inhabited

namespace Time

instance : LE Time where
  le s t := s.seconds < t.seconds ∨ (s.seconds = t.seconds ∧ s.nanos ≤ t.nanos)

instance (s t : Time) : Decidable (s ≤ t) :=
  inferInstanceAs (Decidable (s.seconds < t.seconds ∨ (s.seconds = t.seconds ∧ s.nanos ≤ t.nanos)))

theorem le_def {s t : Time} :
    s ≤ t ↔ s.seconds < t.seconds ∨ (s.seconds = t.seconds ∧ s.nanos ≤ t.nanos) := Iff.rfl

def addMillis (t : Time) (ms : Nat) : Time :=
  let nanos := t.nanos + ms * 1000000
  { seconds := t.seconds + (nanos / 1000000000 : Nat), nanos := nanos % 1000000000 }

def civil (days : Int) : Int × Nat × Nat :=
  let shifted := days + 719468
  let era := shifted / 146097
  let dayOfEra := (shifted % 146097).toNat
  let yearOfEra := (dayOfEra - dayOfEra / 1460 + dayOfEra / 36524 - dayOfEra / 146096) / 365
  let dayOfYear := dayOfEra - (365 * yearOfEra + yearOfEra / 4 - yearOfEra / 100)
  let marchMonth := (5 * dayOfYear + 2) / 153
  let day := dayOfYear - (153 * marchMonth + 2) / 5 + 1
  let month := if marchMonth < 10 then marchMonth + 3 else marchMonth - 9
  (yearOfEra + era * 400 + (if month ≤ 2 then 1 else 0), month, day)

def padded (width n : Nat) : String :=
  let digits := toString n
  String.ofList (List.replicate (width - digits.length) '0') ++ digits

def stamp (t : Time) : String :=
  let date := civil (t.seconds / 86400)
  let second := (t.seconds % 86400).toNat
  padded 4 date.1.toNat ++ "-" ++ padded 2 date.2.1 ++ "-" ++ padded 2 date.2.2 ++ "T" ++
    padded 2 (second / 3600) ++ ":" ++ padded 2 (second / 60 % 60) ++ ":" ++
    padded 2 (second % 60) ++ "." ++ padded 6 (t.nanos / 1000) ++ "Z"

end Time

structure LocatorConfig where
  installFolder : Option Path := none
  sourceRoots : List Path := []
deriving DecidableEq, Repr, Inhabited

namespace LocatorConfig

def installVariable : String := "NEON_INSTALL_FOLDER"

def rootVariables : List String := ["NC_ROOT", "NK_ROOT"]

def nonEmpty? (lookup : String → Option RawText) (name : String) : Option Path :=
  (lookup name).filter fun value => !value.isEmpty

def ofLookup (lookup : String → Option RawText) : LocatorConfig where
  installFolder := nonEmpty? lookup installVariable
  sourceRoots := rootVariables.filterMap (nonEmpty? lookup)

end LocatorConfig

structure FileStatus where
  isFolder : Bool
  modified : Time
deriving DecidableEq, Repr

abbrev FileView := Path → Option FileStatus

structure Candidate where
  path : Path
  modified : Time
deriving DecidableEq, Repr

namespace Candidate

def targetFramework : String := "net7.0"

def runtimeId : String := "linux-x64"

def buildKinds : List String := ["Debug", "Release"]

def layouts (root : Path) : List Path :=
  let file := Tool.neonCli.fileName
  Path.joinAll root ["Build", Tool.neonCli.name, file] ::
    buildKinds.map fun kind =>
      Path.joinAll root ["Tools", "neon-cli", "bin", kind, targetFramework, runtimeId, file]

/-- The candidate at a path: anything that exists there and is no folder. -/
def probe (files : FileView) (path : Path) : Option Candidate :=
  match files path with
  | some status => if status.isFolder then none else some ⟨path, status.modified⟩
  | none => none

def newer (best : Option Candidate) (next : Candidate) : Option Candidate :=
  match best with
  | some b => if next.modified ≤ b.modified then some b else some next
  | none => some next

def mostRecent (candidates : List Candidate) : Option Candidate :=
  candidates.foldl newer none

end Candidate

end KubePlugin
