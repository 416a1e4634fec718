import Mathlib.Data.List.Induction
import KubePlugin.Proofs.Automation.Staging

namespace KubePlugin.Automation

open BuildTask Machine Stateful

structure DistRun where
  setting : Setting Files
  color : Bool
  argv : List RawText
  target : Option String

namespace DistRun

def ended (r : DistRun) (fs : Files) : Ending × Setting.State Files :=
  after (runTask r.setting.workshop r.color r.argv) ⟨fs, []⟩

def leaves (r : DistRun) (fs : Files) : Files := (r.ended fs).2.files

def Succeeds (r : DistRun) (fs : Files) : Prop := (r.ended fs).1.code = some 0

instance (r : DistRun) (fs : Files) : Decidable (r.Succeeds fs) :=
  inferInstanceAs (Decidable (_ = _))

/-- The command line asks for a distribution for the target, whose name is not a path, in a system
that keeps the files of the workspace. -/
structure IsValid (r : DistRun) (ws : Location)
    (member? : List UInt8 → String → Option (List UInt8)) : Prop where
  parses : parseTask r.argv = .ok (.dist r.target)
  plain : ∀ t, r.target = some t → '/' ∉ t.toList
  keeps : r.setting.KeepsFiles ws member?

def staged (r : DistRun) (fs : Files) : Files :=
  (r.setting.course (stageSteps r.setting.root r.target) fs).files

end DistRun

def HoldsPrograms (ws : Location) (member? : List UInt8 → String → Option (List UInt8))
    (fs : Files) (target : Option String) (first second : List UInt8) : Prop :=
  ∃ bytes, fs.HasFile (archiveAt ws target) bytes ∧ member? bytes binary = some first
    ∧ member? bytes pluginBinary = some second

variable {ws : Location} {fs : Files} {r : DistRun} {target : Option String}
  {member? : List UInt8 → String → Option (List UInt8)}

theorem archiveAt_inj {target' : Option String} :
    archiveAt ws target = archiveAt ws target' ↔ target = target' := by
  unfold archiveAt
  rw [List.append_cancel_left_eq, List.singleton_inj, RawText.ofString_inj, archiveName_inj]

namespace DistRun.IsValid

theorem ended_eq (hr : r.IsValid ws member?) (fs : Files) :
    let course := r.setting.course
      (distSteps r.setting.root r.target ++ [.say (packedLine r.target)]) fs
    (r.Succeeds fs ↔ course.isComplete = true) ∧ r.leaves fs = course.files := by
  intro course
  obtain ⟨outcome, hok, hwork⟩ := r.setting.carries_work fs (.dist r.target) []
  have hended : r.ended fs = (endingOf outcome, ⟨course.files, [] ++ course.attempts⟩) :=
    (Setting.after_runTask hr.parses _).trans (by rw [hwork]; rfl)
  have hcomplete : outcome.isOk = course.isComplete := hok
  unfold Succeeds leaves
  rw [hended, Setting.code_endingOf, hcomplete]
  cases course.isComplete with
  | true => simp
  | false => simp

theorem leaves_cases (hr : r.IsValid ws member?) (fs : Files) :
    ¬ r.Succeeds fs ∧ r.leaves fs = r.staged fs
      ∨ (r.setting.course (stageSteps r.setting.root r.target) fs).isComplete = true
        ∧ (r.Succeeds fs
          ↔ Setting.isSuccess (r.setting.run (packCommand r.target) (r.staged fs)).1 = true)
        ∧ r.leaves fs = (r.setting.run (packCommand r.target) (r.staged fs)).2 := by
  obtain ⟨hsucceeds, hleaves⟩ := hr.ended_eq fs
  have hplan : distSteps r.setting.root r.target ++ [.say (packedLine r.target)]
      = stageSteps r.setting.root r.target
        ++ (Setting.commandDeeds (packCommand r.target) ++ [.say (packedLine r.target)]) :=
    List.append_assoc _ _ _
  rw [hplan] at hsucceeds hleaves
  cases hstage : (r.setting.course (stageSteps r.setting.root r.target) fs).isComplete with
  | false =>
    rw [Setting.course_append_of_not_isComplete hstage] at hsucceeds hleaves
    exact .inl ⟨by rw [hsucceeds, hstage]; simp, hleaves⟩
  | true =>
    obtain ⟨hcomplete, hfiles⟩ := r.setting.course_command_say (packCommand r.target)
      (packedLine r.target) (r.staged fs)
    rw [Setting.course_append_of_isComplete hstage] at hsucceeds hleaves
    exact .inr ⟨rfl, hsucceeds.trans (by rw [← hcomplete]; rfl), hleaves.trans hfiles⟩

theorem hasStaged (hr : r.IsValid ws member?) (h : IsInOrder ws fs) :
    HasStaged ws fs (r.staged fs) :=
  hr.keeps.hasStaged_stage h r.target

theorem get?_pack (hr : r.IsValid ws member?) {loc : Location}
    (h : Setting.isSuccess (r.setting.run (packCommand r.target) fs).1 = false
      ∨ loc ≠ archiveAt ws r.target) :
    (r.setting.run (packCommand r.target) fs).2.get? loc = fs.get? loc :=
  hr.keeps.tar_else _ copyNames fs loc (slash_notMem_archiveName hr.plain) h

theorem isInOrder_leaves (hr : r.IsValid ws member?) (h : IsInOrder ws fs) :
    IsInOrder ws (r.leaves fs) := by
  have hstaged := (hr.hasStaged h).isInOrder
  rcases hr.leaves_cases fs with ⟨_, hleaves⟩ | ⟨_, _, hleaves⟩
  . rw [hleaves]
    exact hstaged
  . rw [hleaves]
    apply hstaged.of_eq
    intro loc hloc
    apply hr.get?_pack
    right
    rintro rfl
    rcases hloc with hloc | hloc
    . exact not_below_of_prefix hloc List.prefix_rfl
    . exact not_below_archiveAt (by decide) hloc

theorem archive_unchanged (hr : r.IsValid ws member?) (h : IsInOrder ws fs)
    (hother : ¬ (r.target = target ∧ r.Succeeds fs)) :
    (r.leaves fs).get? (archiveAt ws target) = fs.get? (archiveAt ws target) := by
  have hstaged : (r.staged fs).get? (archiveAt ws target) = fs.get? (archiveAt ws target) :=
    (hr.hasStaged h).others _ (not_below_archiveAt (by decide)) (not_below_archiveAt (by decide))
  rcases hr.leaves_cases fs with ⟨_, hleaves⟩ | ⟨_, hsucceeds, hleaves⟩
  . rw [hleaves, hstaged]
  . rw [hleaves, ← hstaged]
    apply hr.get?_pack
    by_cases htarget : r.target = target
    . left
      rw [← Bool.not_eq_true, ← hsucceeds]
      exact fun hs => hother ⟨htarget, hs⟩
    . right
      intro heq
      exact htarget (archiveAt_inj.mp heq).symm

theorem exists_holdsPrograms (hr : r.IsValid ws member?) (h : IsInOrder ws fs)
    (hs : r.Succeeds fs) :
    ∃ loc content, FindsBinary ws r.target (r.setting.prepared r.target fs) loc content
      ∧ HoldsPrograms ws member? (r.leaves fs) r.target (firstCopy ws loc content)
        (secondCopy ws loc content) := by
  rcases hr.leaves_cases fs with ⟨hfailed, _⟩ | ⟨hcomplete, hsucceeds, hleaves⟩
  . exact absurd hs hfailed
  obtain ⟨loc, content, hfound, hfirst, hsecond⟩ := hr.keeps.exists_copies h hcomplete
  have hcopies : ∀ name ∈ copyNames, (r.staged fs).HasFile (copyAt ws name)
      (if name = binary then firstCopy ws loc content else secondCopy ws loc content) := by
    intro name hname
    rcases List.mem_pair.mp hname with rfl | rfl
    . exact hfirst
    . exact hsecond
  obtain ⟨bytes, harchive, hmembers⟩ := hr.keeps.tar_ok (archiveName r.target) copyNames _
    (fun name => if name = binary then firstCopy ws loc content else secondCopy ws loc content)
    (slash_notMem_archiveName hr.plain) hcopies (hsucceeds.mp hs)
  refine ⟨loc, content, hfound, bytes, ?_, ?_, ?_⟩
  . rw [hleaves]
    exact harchive
  . exact hmembers binary binary_mem_copyNames
  . exact hmembers pluginBinary pluginBinary_mem_copyNames

end DistRun.IsValid

def leavesAll (runs : List DistRun) (fs : Files) : Files := runs.foldl (fun fs r => r.leaves fs) fs

def history : List DistRun → Files → List (DistRun × Files)
  | [], _ => []
  | r :: runs, fs => (r, fs) :: history runs (r.leaves fs)

def lastFor? (target : Option String) (runs : List DistRun) (fs : Files) :
    Option (DistRun × Files) :=
  (history runs fs).reverse.find? fun e => e.1.target = target ∧ e.1.Succeeds e.2

variable {runs : List DistRun}

theorem leavesAll_concat (runs : List DistRun) (r : DistRun) (fs : Files) :
    leavesAll (runs ++ [r]) fs = r.leaves (leavesAll runs fs) :=
  List.foldl_concat _ _ _ _

theorem history_concat (runs : List DistRun) (r : DistRun) (fs : Files) :
    history (runs ++ [r]) fs = history runs fs ++ [(r, leavesAll runs fs)] := by
  induction runs generalizing fs with
  | nil => rfl
  | cons first runs ih =>
    rw [List.cons_append, history, history, ih]
    rfl

theorem lastFor?_concat (target : Option String) (runs : List DistRun) (r : DistRun) (fs : Files) :
    lastFor? target (runs ++ [r]) fs
      =
    if r.target = target ∧ r.Succeeds (leavesAll runs fs) then some (r, leavesAll runs fs)
    else lastFor? target runs fs := by
  unfold lastFor?
  rw [history_concat, List.reverse_concat, List.find?_cons]
  split <;> simp_all

theorem HoldsPrograms.unique {first second first' second' : List UInt8}
    (h : HoldsPrograms ws member? fs target first second)
    (h' : HoldsPrograms ws member? fs target first' second') :
    first = first' ∧ second = second' := by
  obtain ⟨bytes, hfile, hfirst, hsecond⟩ := h
  obtain ⟨bytes', hfile', hfirst', hsecond'⟩ := h'
  obtain rfl := hfile.unique hfile'
  rw [hfirst] at hfirst'
  rw [hsecond] at hsecond'
  cases hfirst'
  cases hsecond'
  exact ⟨rfl, rfl⟩

theorem copies_eq_iff {loc : Location} {content : List UInt8} :
    firstCopy ws loc content = content ∧ secondCopy ws loc content = content
      ↔
    content = [] ∨ ∀ name ∈ copyNames, loc ≠ copyAt ws name := by
  unfold secondCopy firstCopy copyNames
  rw [List.forall_mem_cons, List.forall_mem_singleton]
  by_cases hfirst : loc = copyAt ws binary
  . have hsecond : loc ≠ copyAt ws pluginBinary := hfirst ▸ copyAt_binary_ne
    simp only [if_pos hfirst, if_neg hsecond]
    simp [hfirst, eq_comm]
  . by_cases hsecond : loc = copyAt ws pluginBinary
    . simp only [if_neg hfirst, if_pos hsecond]
      simp [hsecond, eq_comm]
    . simp [hfirst, hsecond]

theorem isInOrder_leavesAll (h : IsInOrder ws fs) (hruns : ∀ r ∈ runs, r.IsValid ws member?) :
    IsInOrder ws (leavesAll runs fs) := by
  induction runs generalizing fs with
  | nil => exact h
  | cons r runs ih =>
    rw [List.forall_mem_cons] at hruns
    exact ih (hruns.1.isInOrder_leaves h) hruns.2

theorem of_mem_history (h : IsInOrder ws fs) (hruns : ∀ r ∈ runs, r.IsValid ws member?) :
    ∀ e ∈ history runs fs, e.1.IsValid ws member? ∧ IsInOrder ws e.2 := by
  induction runs generalizing fs with
  | nil => exact List.forall_mem_nil _
  | cons r runs ih =>
    rw [List.forall_mem_cons] at hruns
    rw [history, List.forall_mem_cons]
    exact ⟨⟨hruns.1, h⟩, ih (hruns.1.isInOrder_leaves h) hruns.2⟩

theorem holdsPrograms_of_eq {fs' : Files} {first second : List UInt8}
    (h : fs'.get? (archiveAt ws target) = fs.get? (archiveAt ws target)) :
    HoldsPrograms ws member? fs' target first second
      ↔
    HoldsPrograms ws member? fs target first second := by
  unfold HoldsPrograms Files.HasFile
  rw [h]

theorem HoldsPrograms.holds_same_iff {loc : Location} {content : List UInt8}
    (h : HoldsPrograms ws member? fs target (firstCopy ws loc content)
      (secondCopy ws loc content)) :
    HoldsPrograms ws member? fs target content content
      ↔
    content = [] ∨ ∀ name ∈ copyNames, loc ≠ copyAt ws name := by
  rw [← copies_eq_iff]
  constructor
  . exact h.unique
  . rintro ⟨hfirst, hsecond⟩
    rw [hfirst, hsecond] at h
    exact h

/-- What runs leave of the archive of a target: what it was, if none for the target ended with
success, and otherwise the copies that the last one made of the binary that it found. They are the
binary itself unless that is not empty and its path led to one of the copies. -/
def IsOfLast (ws : Location) (member? : List UInt8 → String → Option (List UInt8))
    (target : Option String) (fs fs' : Files) : Option (DistRun × Files) → Prop
  | none => fs'.get? (archiveAt ws target) = fs.get? (archiveAt ws target)
  | some (r, found) =>
    ∃ loc content, FindsBinary ws target (r.setting.prepared target found) loc content
      ∧ HoldsPrograms ws member? fs' target (firstCopy ws loc content) (secondCopy ws loc content)
      ∧ (HoldsPrograms ws member? fs' target content content
        ↔ content = [] ∨ ∀ name ∈ copyNames, loc ≠ copyAt ws name)

theorem IsOfLast.of_eq {fs' fs'' : Files} {last : Option (DistRun × Files)}
    (h : IsOfLast ws member? target fs fs' last)
    (hsame : fs''.get? (archiveAt ws target) = fs'.get? (archiveAt ws target)) :
    IsOfLast ws member? target fs fs'' last := by
  cases last with
  | none => exact hsame.trans h
  | some e =>
    obtain ⟨loc, content, hfound, hholds, hiff⟩ := h
    refine ⟨loc, content, hfound, (holdsPrograms_of_eq hsame).mpr hholds, ?_⟩
    rw [holdsPrograms_of_eq hsame]
    exact hiff

theorem isOfLast_leavesAll (h : IsInOrder ws fs) (hruns : ∀ r ∈ runs, r.IsValid ws member?)
    (target : Option String) :
    IsOfLast ws member? target fs (leavesAll runs fs) (lastFor? target runs fs) := by
  induction runs using List.reverseRecOn with
  | nil => exact rfl
  | append_singleton runs r ih =>
    rw [List.forall_mem_append, List.forall_mem_singleton] at hruns
    have horder := isInOrder_leavesAll h hruns.1
    rw [leavesAll_concat, lastFor?_concat]
    split
    . next hlast =>
      obtain ⟨rfl, hsucceeds⟩ := hlast
      obtain ⟨loc, content, hfound, hholds⟩ := hruns.2.exists_holdsPrograms horder hsucceeds
      exact ⟨loc, content, hfound, hholds, hholds.holds_same_iff⟩
    . next hother => exact (ih hruns.1).of_eq (hruns.2.archive_unchanged horder hother)

theorem isInOrder_of_none (hrooted : fs.IsRooted ws)
    (hnone : ∀ loc, Below ws distFolder loc → fs.get? loc = none) : IsInOrder ws fs where
  rooted := hrooted
  folder entry hentry := by
    rw [hnone _ List.prefix_rfl] at hentry
    contradiction
  copies name _ entry hentry := by
    rw [hnone _ (below_copyAt_iff.mpr rfl)] at hentry
    contradiction

/-- However runs that share the folder for distribution end, the archive of each target is that of
the last run for the target that ended with success. No other run changes it, and it is the archive
of no other target. -/
theorem archives_unmixed (hrooted : fs.IsRooted ws)
    (hnone : ∀ loc, Below ws distFolder loc → fs.get? loc = none)
    (hruns : ∀ r ∈ runs, r.IsValid ws member?) :
    (∀ target, IsOfLast ws member? target fs (leavesAll runs fs) (lastFor? target runs fs))
      ∧ (∀ e ∈ history runs fs, ∀ target, ¬ (e.1.target = target ∧ e.1.Succeeds e.2) →
        (e.1.leaves e.2).get? (archiveAt ws target) = e.2.get? (archiveAt ws target))
      ∧ ∀ target target', archiveName target = archiveName target' → target = target' := by
  have horder := isInOrder_of_none hrooted hnone
  refine ⟨isOfLast_leavesAll horder hruns, ?_, fun _ _ => archiveName_inj.mp⟩
  intro e he target hother
  obtain ⟨hvalid, hfound⟩ := of_mem_history horder hruns e he
  exact hvalid.archive_unchanged hfound hother

def Setting.full (w : Setting Files) (path : Path) : Setting Files where
  __ := w
  copy source target fs :=
    if target = path then (.error (.os 28), fs) else w.copy source target fs

theorem Setting.full_copy (w : Setting Files) (path source target : Path) (fs : Files) :
    (w.full path).copy source target fs
      =
    if target = path then (.error (.os 28), fs) else w.copy source target fs := rfl

theorem Setting.KeepsFiles.full {w : Setting Files} (hw : w.KeepsFiles ws member?) (path : Path) :
    (w.full path).KeepsFiles ws member? where
  __ := hw
  copy_ok source target fs hok := by
    rw [full_copy] at hok ⊢
    split at hok
    . contradiction
    . next hne =>
      rw [if_neg hne]
      exact hw.copy_ok source target fs hok
  copy_fails source target fs hfails := by
    rw [full_copy] at hfails ⊢
    split at hfails
    . next heq =>
      rw [if_pos heq]
      exact .inl rfl
    . next hne =>
      rw [if_neg hne]
      exact hw.copy_fails source target fs hfails

def packedBytes (first second : List UInt8) : List UInt8 :=
  List.replicate first.length 1 ++ 0 :: (first ++ second)

def packedMember? (bytes : List UInt8) (name : String) : Option (List UInt8) :=
  let count := (bytes.takeWhile (· = 1)).length
  let contents := bytes.drop (count + 1)
  if name = binary then some (contents.take count)
  else if name = pluginBinary then some (contents.drop count)
  else none

theorem packedMember?_packedBytes (first second : List UInt8) :
    packedMember? (packedBytes first second) binary = some first
      ∧ packedMember? (packedBytes first second) pluginBinary = some second := by
  have hcount : ((packedBytes first second).takeWhile (· = 1)).length = first.length := by
    unfold packedBytes
    rw [List.takeWhile_append_of_pos (by simp)]
    simp
  have hcontents : (packedBytes first second).drop (first.length + 1) = first ++ second := by
    unfold packedBytes
    rw [← List.singleton_append, ← List.append_assoc]
    exact List.drop_left' (by simp)
  unfold packedMember?
  dsimp only
  rw [hcount, hcontents, if_pos rfl, if_neg (by decide), if_pos rfl, List.take_left,
    List.drop_left]
  exact ⟨rfl, rfl⟩

def yard : Site where
  workspace := ["w"]
  here := ["w"]
  now := ⟨1, 0⟩
  run words files :=
    if words.head? = some "tar" then pack words files else (.ok (.exited 0), files)
where
  pack (words : CommandWords) (files : Files) : Except IoError WaitStatus × Files :=
    match words[2]?, files.get? (copyAt ["w"] binary), files.get? (copyAt ["w"] pluginBinary) with
    | some archive, some ⟨.file first _, _⟩, some ⟨.file second _, _⟩ =>
      if words = packing archive copyNames then
        (.ok (.exited 0), files.put ["w", RawText.ofString archive]
          ⟨.file (packedBytes first second) Files.plainMode, ⟨1, 0⟩⟩)
      else (.ok (.exited 2), files)
    | _, _, _ => (.ok (.exited 2), files)

theorem run_packing_cases (archive : String) (names : List String) (files : Files) :
    (Setting.ofSite yard).run (packing archive names) files = (.ok (.exited 2), files)
      ∨ names = copyNames ∧ ∃ first second,
        files.HasFile (copyAt ["w"] binary) first ∧ files.HasFile (copyAt ["w"] pluginBinary) second
        ∧ (Setting.ofSite yard).run (packing archive names) files
          = (.ok (.exited 0), files.put ["w", RawText.ofString archive]
            ⟨.file (packedBytes first second) Files.plainMode, ⟨1, 0⟩⟩) := by
  have hrun : (Setting.ofSite yard).run (packing archive names) files
    = yard.pack (packing archive names) files := rfl
  have hword : (packing archive names)[2]? = some archive := rfl
  rw [hrun, yard.pack, hword]
  split
  . next archive' first mode time second mode' time' harchive hfirst hsecond =>
    cases harchive
    split
    . next hwords =>
      exact .inr ⟨List.append_cancel_left hwords, first, second, ⟨mode, time, hfirst⟩,
        ⟨mode', time', hsecond⟩, rfl⟩
    . exact .inl rfl
  . exact .inl rfl

theorem isOk_change {request : Files → Except IoError Files} {files : Files}
    (h : (Setting.ofSite.change request files).1.isOk = true) :
    request files = .ok (Setting.ofSite.change request files).2 := by
  unfold Setting.ofSite.change at h ⊢
  split
  . next heq => exact heq
  . next heq =>
    rw [heq] at h
    contradiction

theorem change_fails {request : Files → Except IoError Files} {files : Files}
    (h : (Setting.ofSite.change request files).1.isOk = false) :
    (Setting.ofSite.change request files).2 = files := by
  unfold Setting.ofSite.change at h ⊢
  split
  . next heq =>
    rw [heq] at h
    contradiction
  . rfl

theorem keepsFiles_yard : (Setting.ofSite yard).KeepsFiles ["w"] packedMember? where
  root_eq := rfl
  isFolder_eq _ _ := rfl
  makeFolder_ok _ _ hok := ⟨⟨1, 0⟩, isOk_change hok⟩
  makeFolder_fails _ _ hfails := change_fails hfails
  copy_ok _ _ _ hok := ⟨⟨1, 0⟩, isOk_change hok⟩
  copy_fails _ _ _ hfails := .inl (change_fails hfails)
  cargo _ _ _ _ := rfl
  tar_ok archive names fs content _ hfiles hok := by
    rcases run_packing_cases archive names fs with heq | ⟨rfl, first, second, hfirst, hsecond, heq⟩
    . rw [heq] at hok
      contradiction
    . rw [hfirst.unique (hfiles binary binary_mem_copyNames),
        hsecond.unique (hfiles pluginBinary pluginBinary_mem_copyNames)] at heq
      rw [heq]
      obtain ⟨hbinary, hplugin⟩ :=
        packedMember?_packedBytes (content binary) (content pluginBinary)
      refine ⟨_, ⟨_, _, Files.get?_put (by simp)⟩, ?_⟩
      unfold copyNames
      rw [List.forall_mem_cons, List.forall_mem_singleton]
      exact ⟨hbinary, hplugin⟩
  tar_else archive names fs loc _ h := by
    rcases run_packing_cases archive names fs with heq | ⟨rfl, first, second, hfirst, hsecond, heq⟩
    . rw [heq]
    . rw [heq] at h ⊢
      exact Files.get?_put_of_ne (h.resolve_left nofun)

def yardFiles (other : Node) : Files where
  entries := [
    (["w"], ⟨.folder, ⟨0, 0⟩⟩),
    (["w", "target"], ⟨.folder, ⟨0, 0⟩⟩),
    (["w", "target", "release"], ⟨.folder, ⟨0, 0⟩⟩),
    (["w", "target", "release", "neon"], ⟨.file [65] Files.programMode, ⟨0, 0⟩⟩),
    (["w", "target", "x"], ⟨.folder, ⟨0, 0⟩⟩),
    (["w", "target", "x", "release"], ⟨.folder, ⟨0, 0⟩⟩),
    (["w", "target", "x", "release", "neon"], ⟨other, ⟨0, 0⟩⟩)]

theorem isRooted_yardFiles (other : Node) : (yardFiles other).IsRooted ["w"] where
  names := by
    rw [List.forall_mem_singleton]
    exact ⟨⟨by decide, by decide, by decide⟩, by decide, by decide⟩
  folders front hfront := by
    rcases List.prefix_cons_iff.mp hfront with rfl | ⟨rest, rfl, hrest⟩
    . exact ⟨⟨0, 0⟩, rfl⟩
    . rw [List.prefix_nil.mp hrest]
      exact ⟨⟨0, 0⟩, rfl⟩

theorem get?_yardFiles_eq_none {other : Node} {loc : Location} (h : Below ["w"] distFolder loc) :
    (yardFiles other).get? loc = none := by
  have hne : loc ≠ [] := by
    rintro rfl
    exact absurd h (by simp [Below])
  -- What is at a location does not matter here, so any node will do.
  have hkeys : ∀ key ∈ (yardFiles .folder).entries.map Prod.fst, ¬ Below ["w"] distFolder key := by
    unfold Below
    decide +kernel
  unfold Files.get?
  rw [if_neg hne, List.lookup_eq_none_iff]
  rintro entry hentry
  rw [bne_iff_ne]
  rintro rfl
  have hkey : entry.1 ∈ (yardFiles other).entries.map Prod.fst := List.mem_map_of_mem hentry
  exact hkeys _ hkey h

def yardRun (w : Setting Files) : Option String → DistRun
  | none => ⟨w, false, ["xtask", "dist"], none⟩
  | some t => ⟨w, false, ["xtask", "dist", "--target", RawText.ofString t], some t⟩

theorem isValid_yardRun {w : Setting Files} (hw : w.KeepsFiles ["w"] packedMember?) :
    (yardRun w none).IsValid ["w"] packedMember?
      ∧ (yardRun w (some "x")).IsValid ["w"] packedMember? where
  left := ⟨rfl, nofun, hw⟩
  right := ⟨rfl, by rintro t ⟨⟩; decide, hw⟩

/-- The third run breaks off between its copies, and leaves those of two targets. -/
theorem archives_unmixed_three :
    let fs := yardFiles (.file [66] Files.programMode)
    let runs := [yardRun (.ofSite yard) none, yardRun (.ofSite yard) (some "x"),
      yardRun ((Setting.ofSite yard).full "/w/dist/kubectl-neon") none]
    let left := leavesAll runs fs
    fs.IsRooted ["w"]
      ∧ (∀ loc, Below ["w"] distFolder loc → fs.get? loc = none)
      ∧ (∀ r ∈ runs, r.IsValid ["w"] packedMember?)
      ∧ ((∀ target, IsOfLast ["w"] packedMember? target fs left (lastFor? target runs fs))
        ∧ (∀ e ∈ history runs fs, ∀ target, ¬ (e.1.target = target ∧ e.1.Succeeds e.2) →
          (e.1.leaves e.2).get? (archiveAt ["w"] target) = e.2.get? (archiveAt ["w"] target))
        ∧ ∀ target target', archiveName target = archiveName target' → target = target')
      ∧ (history runs fs).map (fun e => decide (e.1.Succeeds e.2)) = [true, true, false]
      ∧ HoldsPrograms ["w"] packedMember? left none [65] [65]
      ∧ HoldsPrograms ["w"] packedMember? left (some "x") [66] [66]
      ∧ left.HasFile (copyAt ["w"] binary) [65]
      ∧ left.HasFile (copyAt ["w"] pluginBinary) [66] := by
  intro fs runs left
  have hrooted : fs.IsRooted ["w"] := isRooted_yardFiles _
  have hnone : ∀ loc, Below ["w"] distFolder loc → fs.get? loc = none :=
    fun _ => get?_yardFiles_eq_none
  have hruns : ∀ r ∈ runs, r.IsValid ["w"] packedMember? := by
    have hyard := isValid_yardRun keepsFiles_yard
    have hfull := isValid_yardRun (keepsFiles_yard.full "/w/dist/kubectl-neon")
    simp only [runs, List.forall_mem_cons]
    exact ⟨hyard.1, hyard.2, hfull.1, List.forall_mem_nil _⟩
  have hleft : left.get? (archiveAt ["w"] none)
        = some ⟨.file (packedBytes [65] [65]) Files.plainMode, ⟨1, 0⟩⟩
      ∧ left.get? (archiveAt ["w"] (some "x"))
        = some ⟨.file (packedBytes [66] [66]) Files.plainMode, ⟨1, 0⟩⟩
      ∧ left.get? (copyAt ["w"] binary) = some ⟨.file [65] Files.programMode, ⟨1, 0⟩⟩
      ∧ left.get? (copyAt ["w"] pluginBinary) = some ⟨.file [66] Files.programMode, ⟨1, 0⟩⟩ := by
    decide +kernel
  obtain ⟨harchive, hother, hfirst, hsecond⟩ := hleft
  exact ⟨hrooted, hnone, hruns, archives_unmixed hrooted hnone hruns, by decide +kernel,
    ⟨_, ⟨_, _, harchive⟩, rfl, rfl⟩, ⟨_, ⟨_, _, hother⟩, rfl, rfl⟩, ⟨_, _, hfirst⟩,
    ⟨_, _, hsecond⟩⟩

/-- The binary for a target is a link to the second copy. It leads to the binary of the run before,
which the second copy empties. -/
theorem archives_mixed_linked :
    let fs := yardFiles (.link "../../../dist/kubectl-neon")
    let first := yardRun (.ofSite yard) none
    let second := yardRun (.ofSite yard) (some "x")
    let left := leavesAll [first, second] fs
    fs.IsRooted ["w"]
      ∧ (∀ loc, Below ["w"] distFolder loc → fs.get? loc = none)
      ∧ (∀ r ∈ [first, second], r.IsValid ["w"] packedMember?)
      ∧ lastFor? (some "x") [first, second] fs = some (second, first.leaves fs)
      ∧ FindsBinary ["w"] (some "x") (second.setting.prepared (some "x") (first.leaves fs))
        (copyAt ["w"] pluginBinary) [65]
      ∧ HoldsPrograms ["w"] packedMember? left (some "x") [65] []
      ∧ ∀ content, ¬ HoldsPrograms ["w"] packedMember? left (some "x") content content := by
  intro fs first second left
  have hyard := isValid_yardRun keepsFiles_yard
  have hsecond : second.Succeeds (leavesAll [first] fs) := by decide +kernel
  have hholds : HoldsPrograms ["w"] packedMember? left (some "x") [65] [] :=
    ⟨packedBytes [65] [], ⟨Files.plainMode, ⟨1, 0⟩, by decide +kernel⟩, rfl, rfl⟩
  refine ⟨isRooted_yardFiles _, fun _ => get?_yardFiles_eq_none, ?_, ?_, ?_, hholds, ?_⟩
  . rw [List.forall_mem_cons, List.forall_mem_singleton]
    exact hyard
  . exact (lastFor?_concat (some "x") [first] second fs).trans (if_pos ⟨rfl, hsecond⟩)
  . exact ⟨Files.programMode, ⟨1, 0⟩, by decide +kernel⟩
  . intro content hsame
    obtain ⟨hfirst, hsecond⟩ := hholds.unique hsame
    exact List.cons_ne_nil _ _ (hfirst.trans hsecond.symm)

end KubePlugin.Automation
