import KubePlugin.Machine.Shell.Expand
import KubePlugin.Proofs.Automation.Course

namespace KubePlugin.Automation

open Machine Stateful

inductive Act where
  | said (line : String)
  | noted (line : String)
  | ran (words : CommandWords)
deriving DecidableEq, Repr

structure Site where
  workspace : Location
  here : Location
  now : Time
  run : CommandWords → Files → Except IoError WaitStatus × Files

namespace Site

structure State where
  files : Files
  acts : List Act := []
deriving DecidableEq, Repr

def State.act (st : State) (a : Act) : State := { st with acts := st.acts ++ [a] }

def changeFiles (change : Files → Except IoError Files) : StateM State (Except IoError Unit) :=
  fun st =>
    match change st.files with
    | .ok files => (.ok (), { st with files := files })
    | .error e => (.error e, st)

def workshop (s : Site) : Workshop (StateM State) where
  root := Shell.pathOf s.workspace
  say line := fun st => ((), st.act (.said line))
  note line := fun st => ((), st.act (.noted line))
  run words := fun st =>
    let (outcome, files) := s.run words st.files
    (outcome, { st with files := files }.act (.ran words))
  isThere path := fun st => ((st.files.status s.workspace path).isSome, st)
  isFolder path := fun st => (st.files.isFolder s.workspace path, st)
  makeFolder path := changeFiles fun files => files.makeFolderPath s.workspace s.now path
  copy source target := changeFiles fun files => files.copy s.workspace s.now source target
  setMode path mode := changeFiles fun files => files.setMode s.here path mode

variable {s : Site} {st st' : State} {α : Type} {a : α}

theorem does_orFail_iff {failure : IoError → Failure} {outcome : Except IoError α} :
    Does (Workshop.orFail failure outcome) st a st' ↔ outcome = .ok a ∧ st = st' := by
  unfold Workshop.orFail
  cases outcome with
  | ok b => simp [does_pure_iff, eq_comm]
  | error e => simp [does_throw_iff]

theorem does_request_iff {failure : IoError → Failure} {x : StateM State (Except IoError α)} :
    Does (do Workshop.orFail failure (← ExceptT.lift x)) st a st' ↔ after x st = (.ok a, st') := by
  rw [does_lift_bind_iff, does_orFail_iff, Prod.ext_iff]

theorem does_check_iff {condition : Bool} {failure : Failure} :
    Does (if condition then pure () else throw failure : Work (StateM State) Unit) st () st'
      ↔
    condition = true ∧ st = st' := by
  split
  . next h => simp [h, does_pure_iff]
  . next h => simp [h, does_throw_iff]

theorem does_tell_iff {line : String} :
    Does (s.workshop.tell line) st () st' ↔ st' = st.act (.said line) := by
  have hafter : after (s.workshop.say line) st = ((), st.act (.said line)) := rfl
  unfold Workshop.tell
  rw [does_lift_iff, hafter]
  simp [eq_comm]

theorem does_command_iff {words : CommandWords} :
    Does (s.workshop.command words) st () st'
      ↔
    ∃ status files, s.run words st.files = (.ok status, files) ∧ status.succeeded = true
      ∧ st' = { (st.act (.noted ("$ " ++ shownCommand words))).act (.ran words)
        with files := files } := by
  have hnote : after (s.workshop.note ("$ " ++ shownCommand words)) st
      = ((), st.act (.noted ("$ " ++ shownCommand words))) := rfl
  have hrun (st : State) : after (s.workshop.run words) st
      = ((s.run words st.files).1,
          { st with files := (s.run words st.files).2 }.act (.ran words)) := rfl
  unfold Workshop.command
  rw [does_lift_bind_iff, hnote, does_lift_bind_iff, hrun, does_bind_iff]
  constructor
  . rintro ⟨status, middle, hstatus, h⟩
    obtain ⟨houtcome, rfl⟩ := does_orFail_iff.mp hstatus
    obtain ⟨hsucceeded, rfl⟩ := does_check_iff.mp h
    exact ⟨status, _, Prod.ext houtcome rfl, hsucceeded, rfl⟩
  . rintro ⟨status, files, hrun, hsucceeded, rfl⟩
    refine ⟨status, _, does_orFail_iff.mpr ⟨?_, rfl⟩, does_check_iff.mpr ⟨hsucceeded, ?_⟩⟩
    . exact congrArg Prod.fst hrun
    . exact congrArg (fun files => State.mk files _) (congrArg Prod.snd hrun)

theorem after_changeFiles_iff (change : Files → Except IoError Files) :
    after (changeFiles change) st = (.ok (), st')
      ↔
    ∃ files, change st.files = .ok files ∧ st' = { st with files := files } := by
  have hafter : after (changeFiles change) st
      = match change st.files with
        | .ok files => (.ok (), { st with files := files })
        | .error e => (.error e, st) := rfl
  rw [hafter]
  cases change st.files with
  | ok files => simp [eq_comm]
  | error e => simp

theorem does_folder_iff {path : Path} :
    Does (s.workshop.folder path) st () st'
      ↔
    ∃ files, st.files.makeFolderPath s.workspace s.now (s.workshop.inRoot path) = .ok files
      ∧ st' = { st with files := files } := by
  unfold Workshop.folder
  rw [does_request_iff]
  exact after_changeFiles_iff fun files =>
    files.makeFolderPath s.workspace s.now (s.workshop.inRoot path)

def copyTarget (s : Site) (fs : Files) (source target : Path) : Path :=
  Workshop.copyPlace (fs.isFolder s.workspace target) source target

theorem does_copyFile_iff {source target : Path} :
    Does (s.workshop.copyFile source target) st () st'
      ↔
    ∃ files, st.files.copy s.workspace s.now (s.workshop.inRoot source)
        (s.copyTarget st.files (s.workshop.inRoot source) (s.workshop.inRoot target)) = .ok files
      ∧ st' = { st with files := files } := by
  unfold Workshop.copyFile
  dsimp only
  rw [does_lift_bind_iff, Workshop.after_copyTarget rfl, does_request_iff]
  exact after_changeFiles_iff fun files => files.copy s.workspace s.now (s.workshop.inRoot source) _

theorem does_makeProgram_iff {path : Path} :
    Does (s.workshop.makeProgram path) st () st'
      ↔
    ∃ files, st.files.setMode s.here path 0o755 = .ok files
      ∧ st' = { st with files := files } := by
  unfold Workshop.makeProgram
  rw [does_request_iff]
  exact after_changeFiles_iff fun files => files.setMode s.here path 0o755

def Leaves (work : Work (StateM State) Unit) (R : Files → Files → Prop) : Prop :=
  ∀ st fs', (∃ st', Does work st () st' ∧ st'.files = fs') ↔ R st.files fs'

namespace Leaves

variable {work next : Work (StateM State) Unit} {R R' : Files → Files → Prop}

theorem bind (h : Leaves work R) (h' : Leaves next R') :
    Leaves (do work; next) fun fs fs' => ∃ middle, R fs middle ∧ R' middle fs' := by
  intro st fs'
  constructor
  . rintro ⟨st', hdoes, hfiles⟩
    obtain ⟨_, middle, hwork, hnext⟩ := does_bind_iff.mp hdoes
    exact ⟨middle.files, (h _ _).mp ⟨middle, hwork, rfl⟩, (h' _ _).mp ⟨st', hnext, hfiles⟩⟩
  . rintro ⟨_, hR, hR'⟩
    obtain ⟨middle, hwork, rfl⟩ := (h _ _).mpr hR
    obtain ⟨st', hnext, hfiles⟩ := (h' _ _).mpr hR'
    exact ⟨st', does_bind_iff.mpr ⟨(), middle, hwork, hnext⟩, hfiles⟩

theorem tell (s : Site) (line : String) : Leaves (s.workshop.tell line) fun fs fs' => fs = fs' := by
  intro st fs'
  simp only [does_tell_iff]
  constructor
  . rintro ⟨_, rfl, rfl⟩
    rfl
  . intro h
    exact ⟨_, rfl, h⟩

theorem tell_bind (s : Site) (line : String) (h : Leaves work R) :
    Leaves (do s.workshop.tell line; work) R := by
  intro st fs'
  rw [(tell s line).bind h st fs']
  simp

theorem bind_tell (s : Site) (line : String) (h : Leaves work R) :
    Leaves (do work; s.workshop.tell line) R := by
  intro st fs'
  rw [h.bind (tell s line) st fs']
  simp

theorem of_change {change : Files → Except IoError Files}
    (h : ∀ st st', Does work st () st'
      ↔ ∃ files, change st.files = .ok files ∧ st' = { st with files := files }) :
    Leaves work fun fs fs' => change fs = .ok fs' := by
  intro st fs'
  simp only [h]
  constructor
  . rintro ⟨_, ⟨files, hchange, rfl⟩, rfl⟩
    exact hchange
  . intro hchange
    exact ⟨_, ⟨fs', hchange, rfl⟩, rfl⟩

theorem folder (s : Site) (path : Path) :
    Leaves (s.workshop.folder path) fun fs fs' =>
      fs.makeFolderPath s.workspace s.now (s.workshop.inRoot path) = .ok fs' :=
  of_change fun _ _ => does_folder_iff

theorem copyFile (s : Site) (source target : Path) :
    Leaves (s.workshop.copyFile source target) fun fs fs' =>
      fs.copy s.workspace s.now (s.workshop.inRoot source)
        (s.copyTarget fs (s.workshop.inRoot source) (s.workshop.inRoot target)) = .ok fs' :=
  of_change fun _ _ => does_copyFile_iff

theorem makeProgram (s : Site) (path : Path) :
    Leaves (s.workshop.makeProgram path) fun fs fs' => fs.setMode s.here path 0o755 = .ok fs' :=
  of_change fun _ _ => does_makeProgram_iff

theorem command (s : Site) (words : CommandWords) :
    Leaves (s.workshop.command words) fun fs fs' =>
      ∃ status, s.run words fs = (.ok status, fs') ∧ status.succeeded = true := by
  intro st fs'
  simp only [does_command_iff]
  constructor
  . rintro ⟨_, ⟨status, files, hrun, hstatus, rfl⟩, rfl⟩
    exact ⟨status, hrun, hstatus⟩
  . rintro ⟨status, hrun, hstatus⟩
    exact ⟨_, ⟨status, fs', hrun, hstatus, rfl⟩, rfl⟩

end Leaves

end Site

end KubePlugin.Automation
