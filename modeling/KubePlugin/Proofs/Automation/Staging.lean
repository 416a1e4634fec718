import KubePlugin.Proofs.Automation.FirstFailure
import KubePlugin.Proofs.Machine.Beneath
import KubePlugin.Proofs.Text.Utf8

/-!
This module contains one run that makes a distribution, in a tree of files where every step may
fail. Up to the copies it changes files of the build and the folder for distribution alone. If both
copies are made they hold the binary; a copy is empty if the path of the binary leads to it.
-/

namespace KubePlugin

namespace Machine.Files

def HasFile (fs : Files) (loc : Location) (content : List UInt8) : Prop :=
  ∃ mode time, fs.get? loc = some ⟨.file content mode, time⟩

theorem HasFile.unique {fs : Files} {loc : Location} {content content' : List UInt8}
    (h : fs.HasFile loc content) (h' : fs.HasFile loc content') : content = content' := by
  obtain ⟨mode, time, hentry⟩ := h
  obtain ⟨mode', time', hentry'⟩ := h'
  rw [hentry] at hentry'
  cases hentry'
  rfl

end Machine.Files

namespace Automation

open BuildTask Machine

def targetFolder : String := "target"

def Below (ws : Location) (name : String) (loc : Location) : Prop :=
  ws ++ [RawText.ofString name] <+: loc

def copyNames : List String := [binary, pluginBinary]

def copyAt (ws : Location) (name : String) : Location :=
  ws ++ [RawText.ofString distFolder, RawText.ofString name]

def archiveAt (ws : Location) (target : Option String) : Location :=
  ws ++ [RawText.ofString (archiveName target)]

def packing (archive : String) (names : List String) : CommandWords :=
  ["tar", "-czf", archive, "-C", distFolder] ++ names

/-- The requests of a system do to the files of a workspace what they are made for, or fail. What a
failed build leaves is not known, except that it is below `target`; a copy that breaks off leaves
its target with any content; and an archive that could not be made is as it was. The content that a
file has in an archive is read by `member?`. -/
structure Setting.KeepsFiles (w : Setting Files) (ws : Location)
    (member? : List UInt8 → String → Option (List UInt8)) : Prop where
  root_eq : w.root = Shell.pathOf ws
  isFolder_eq : ∀ path fs, w.isFolder path fs = fs.isFolder ws path
  makeFolder_ok : ∀ path fs, (w.makeFolder path fs).1.isOk = true →
    ∃ now, fs.makeFolderPath ws now path = .ok (w.makeFolder path fs).2
  makeFolder_fails : ∀ path fs, (w.makeFolder path fs).1.isOk = false →
    (w.makeFolder path fs).2 = fs
  copy_ok : ∀ source target fs, (w.copy source target fs).1.isOk = true →
    ∃ now, fs.copy ws now source target = .ok (w.copy source target fs).2
  copy_fails : ∀ source target fs, (w.copy source target fs).1.isOk = false →
    (w.copy source target fs).2 = fs
      ∨ ∃ dest content mode time, fs.resolve ws true target = .ok (fs.spotAt dest)
        ∧ fs.IsOpen dest
        ∧ (w.copy source target fs).2 = fs.put dest ⟨.file content mode, time⟩
  cargo : ∀ args fs loc, ¬ Below ws targetFolder loc →
    (w.run ("cargo" :: args) fs).2.get? loc = fs.get? loc
  tar_ok : ∀ archive names fs (content : String → List UInt8), '/' ∉ archive.toList →
    (∀ name ∈ names, fs.HasFile (copyAt ws name) (content name)) →
    isSuccess (w.run (packing archive names) fs).1 = true →
    ∃ bytes, (w.run (packing archive names) fs).2.HasFile (ws ++ [RawText.ofString archive]) bytes
      ∧ ∀ name ∈ names, member? bytes name = some (content name)
  tar_else : ∀ archive names fs loc, '/' ∉ archive.toList →
    isSuccess (w.run (packing archive names) fs).1 = false
      ∨ loc ≠ ws ++ [RawText.ofString archive] →
    (w.run (packing archive names) fs).2.get? loc = fs.get? loc

structure IsInOrder (ws : Location) (fs : Files) : Prop where
  rooted : fs.IsRooted ws
  folder : fs.IsFolderIfAny (ws ++ [RawText.ofString distFolder])
  copies : ∀ name ∈ copyNames, fs.IsOpen (copyAt ws name)

structure HasStaged (ws : Location) (fs fs' : Files) : Prop where
  isInOrder : IsInOrder ws fs'
  others : ∀ loc, ¬ Below ws targetFolder loc → ¬ Below ws distFolder loc →
    fs'.get? loc = fs.get? loc

variable {ws loc : Location} {fs fs' : Files} {name : String} {target : Option String}
  {w : Setting Files} {member? : List UInt8 → String → Option (List UInt8)}

theorem binary_mem_copyNames : binary ∈ copyNames := List.mem_cons_self

theorem pluginBinary_mem_copyNames : pluginBinary ∈ copyNames :=
  List.mem_cons_of_mem _ List.mem_cons_self

theorem isPathName_distFolder : Files.IsPathName (RawText.ofString distFolder) :=
  ⟨⟨by decide, by decide, by decide⟩, by decide, by decide⟩

theorem isPathName_of_mem_copyNames (h : name ∈ copyNames) :
    Files.IsPathName (RawText.ofString name) := by
  rcases List.mem_pair.mp h with rfl | rfl
  . exact ⟨⟨by decide, by decide, by decide⟩, by decide, by decide⟩
  . exact ⟨⟨by decide, by decide, by decide⟩, by decide, by decide⟩

theorem below_append_iff {part : RawText} {rest : Location} :
    Below ws name (ws ++ part :: rest) ↔ RawText.ofString name = part := by
  unfold Below
  rw [List.prefix_append_right_inj, List.cons_prefix_cons]
  simp

theorem not_below_of_prefix (h : loc <+: ws) : ¬ Below ws name loc := by
  intro hbelow
  have hlength := (hbelow.trans h).length_le
  rw [List.length_append, List.length_singleton] at hlength
  omega

theorem eq_of_below {name' : String} (h : Below ws name loc) (h' : Below ws name' loc) :
    name = name' := by
  have hlength : (ws ++ [RawText.ofString name]).length
      = (ws ++ [RawText.ofString name']).length := by simp
  have heq := (List.prefix_of_prefix_length_le h h' (Nat.le_of_eq hlength)).eq_of_length hlength
  exact RawText.ofString_inj.mp (List.singleton_inj.mp (List.append_cancel_left heq))

theorem below_copyAt_iff {folder : String} :
    Below ws folder (copyAt ws name) ↔ folder = distFolder := by
  unfold copyAt
  rw [below_append_iff, RawText.ofString_inj]

theorem archiveName_none : archiveName none = "neon-kubectl-" ++ archiveVersion ++ ".tar.gz" := rfl

theorem archiveName_some (t : String) :
    archiveName (some t) = "neon-kubectl-" ++ archiveVersion ++ "-" ++ t ++ ".tar.gz" := rfl

theorem ne_archiveName (h : name.toList.head? ≠ some 'n') : name ≠ archiveName target := by
  have hhead : (archiveName target).toList.head? = some 'n' := by
    cases target with
    | none => rfl
    | some t =>
      rw [archiveName_some, String.toList_append, String.toList_append]
      rfl
  rintro rfl
  exact h hhead

theorem slash_notMem_archiveName (h : ∀ t, target = some t → '/' ∉ t.toList) :
    '/' ∉ (archiveName target).toList := by
  have hversion : '/' ∉ archiveVersion.toList := by decide
  cases target with
  | none => simp [archiveName_none, hversion]
  | some t => simp [archiveName_some, hversion, h t rfl]

theorem archiveName_inj {target' : Option String} :
    archiveName target = archiveName target' ↔ target = target' := by
  constructor
  . intro h
    have hlist := congrArg String.toList h
    rcases target with _ | t
    . rcases target' with _ | t'
      . rfl
      . simp [archiveName_none, archiveName_some] at hlist
    . rcases target' with _ | t'
      . simp [archiveName_none, archiveName_some] at hlist
      . simp only [archiveName_some, String.toList_append] at hlist
        have hmiddle := List.append_cancel_left (List.append_cancel_right hlist)
        rw [String.toList_injective hmiddle]
  . rintro rfl
    rfl

theorem not_below_archiveAt (h : name.toList.head? ≠ some 'n') :
    ¬ Below ws name (archiveAt ws target) := by
  unfold archiveAt
  rw [below_append_iff, RawText.ofString_inj]
  exact ne_archiveName h

theorem copyAt_ne_nil : copyAt ws name ≠ [] := by simp [copyAt]

theorem isRooted_of_eq (h : fs.IsRooted ws)
    (hsame : ∀ loc, loc <+: ws → fs'.get? loc = fs.get? loc) : fs'.IsRooted ws where
  names := h.names
  folders front hfront := by
    rw [hsame front hfront]
    exact h.folders front hfront

namespace IsInOrder

theorem of_eq (h : IsInOrder ws fs)
    (hsame : ∀ loc, loc <+: ws ∨ Below ws distFolder loc → fs'.get? loc = fs.get? loc) :
    IsInOrder ws fs' where
  rooted := isRooted_of_eq h.rooted fun loc hloc => hsame loc (.inl hloc)
  folder entry hentry := by
    rw [hsame _ (.inr List.prefix_rfl)] at hentry
    exact h.folder entry hentry
  copies name hname entry hentry := by
    rw [hsame _ (.inr (below_copyAt_iff.mpr rfl))] at hentry
    exact h.copies name hname entry hentry

theorem of_makeFolder (h : IsInOrder ws fs)
    (hfolder : fs'.IsFolderIfAny (ws ++ [RawText.ofString distFolder]))
    (hsame : ∀ loc, loc ≠ ws ++ [RawText.ofString distFolder] → fs'.get? loc = fs.get? loc) :
    IsInOrder ws fs' where
  rooted := by
    apply isRooted_of_eq h.rooted
    intro loc hloc
    apply hsame
    rintro rfl
    exact not_below_of_prefix hloc List.prefix_rfl
  folder := hfolder
  copies name hname entry hentry := by
    rw [hsame _ (by simp [copyAt])] at hentry
    exact h.copies name hname entry hentry

theorem put_copy {content : List UInt8} {mode : Nat} {time : Time} (h : IsInOrder ws fs) :
    IsInOrder ws (fs.put (copyAt ws name) ⟨.file content mode, time⟩) where
  rooted := by
    apply isRooted_of_eq h.rooted
    intro loc hloc
    apply Files.get?_put_of_ne
    rintro rfl
    exact not_below_of_prefix hloc (below_copyAt_iff.mpr rfl)
  folder entry hentry := by
    rw [Files.get?_put_of_ne (by simp [copyAt])] at hentry
    exact h.folder entry hentry
  copies name' hname' := (h.copies name' hname').put copyAt_ne_nil

theorem eq_spotAt_of_resolve (h : IsInOrder ws fs) (hname : name ∈ copyNames) {here : Location}
    {last : Bool} {spot : Spot}
    (hresolve : fs.resolve here last (Path.join (Shell.pathOf ws) (inDist name)) = .ok spot) :
    spot = fs.spotAt (copyAt ws name) :=
  Files.resolve_in_folder h.rooted isPathName_distFolder (isPathName_of_mem_copyNames hname)
    h.folder (h.copies name hname) hresolve

theorem isFolder_copy (h : IsInOrder ws fs) (hname : name ∈ copyNames) {here : Location} :
    fs.isFolder here (Path.join (Shell.pathOf ws) (inDist name)) = false := by
  cases hresolve : fs.resolve here true (Path.join (Shell.pathOf ws) (inDist name)) with
  | ok spot =>
    rw [h.eq_spotAt_of_resolve hname hresolve] at hresolve
    exact Files.isFolder_eq_false hresolve (h.copies name hname)
  | error e =>
    unfold Files.isFolder Files.find
    rw [hresolve]

end IsInOrder

theorem HasStaged.trans {fs'' : Files} (h : HasStaged ws fs fs') (h' : HasStaged ws fs' fs'') :
    HasStaged ws fs fs'' where
  isInOrder := h'.isInOrder
  others loc htarget hdist := (h'.others loc htarget hdist).trans (h.others loc htarget hdist)

theorem endsInSlash_copy (hname : name ∈ copyNames) (root : Path) :
    Path.endsInSlash (Path.join root (inDist name)) = false := by
  have hpart := isPathName_of_mem_copyNames hname
  unfold inDist
  rw [Path.endsInSlash_join (Path.bytes_join_ne_nil hpart.ne_nil),
    Path.endsInSlash_join hpart.ne_nil, hpart.endsInSlash_eq]

def Setting.prepared (w : Setting Files) (target : Option String) (fs : Files) : Files :=
  (w.makeFolder (Path.join w.root (RawText.ofString distFolder))
    (w.run (releaseCommand target) fs).2).2

def Setting.copiedOnce (w : Setting Files) (target : Option String) (fs : Files) : Files :=
  (w.copy (Path.join w.root (releaseBinary target)) (Path.join w.root (inDist binary))
    (w.prepared target fs)).2

theorem releaseBinary_some (t : String) :
    releaseBinary (some t) = RawText.ofString ("target/" ++ t ++ "/release/" ++ binary) := rfl

theorem endsInSlash_releaseBinary (root : Path) (target : Option String) :
    Path.endsInSlash (Path.join root (releaseBinary target)) = false := by
  have hbinary : (RawText.ofString binary).bytes ≠ [] := by decide
  have hslash : Path.endsInSlash (RawText.ofString binary) = false := by decide
  cases target with
  | none =>
    rw [Path.endsInSlash_join (by decide)]
    decide
  | some t =>
    rw [releaseBinary_some, RawText.ofString_append, Path.endsInSlash_join,
      Path.endsInSlash_append hbinary, hslash]
    exact List.append_ne_nil_of_right_ne_nil _ hbinary

/-- What the first copy holds of a binary: nothing if it was made onto the binary, which is emptied
before it is read. -/
def firstCopy (ws source : Location) (content : List UInt8) : List UInt8 :=
  if source = copyAt ws binary then [] else content

def secondCopy (ws source : Location) (content : List UInt8) : List UInt8 :=
  if source = copyAt ws pluginBinary then [] else firstCopy ws source content

def FindsBinary (ws : Location) (target : Option String) (fs : Files) (loc : Location)
    (content : List UInt8) : Prop :=
  ∃ mode time, fs.find ws (Path.join (Shell.pathOf ws) (releaseBinary target))
    = .ok (loc, ⟨.file content mode, time⟩)

theorem copyAt_binary_ne : copyAt ws binary ≠ copyAt ws pluginBinary := by
  unfold copyAt
  intro h
  have hnames := List.append_cancel_left h
  revert hnames
  decide

namespace Setting.KeepsFiles

theorem resolved_copy (hw : w.KeepsFiles ws member?) (h : IsInOrder ws fs)
    (hname : name ∈ copyNames) (source : Path) :
    w.resolved fs (.copy source (Path.join w.root (inDist name)))
      =
    .copy source (Path.join w.root (inDist name)) := by
  unfold Setting.resolved Setting.copyTarget
  dsimp only
  rw [hw.isFolder_eq, hw.root_eq, h.isFolder_copy hname]
  rfl

theorem copy_of_isOk (hw : w.KeepsFiles ws member?) (h : IsInOrder ws fs)
    (hname : name ∈ copyNames) {source : Path}
    (hok : (w.copy source (Path.join w.root (inDist name)) fs).1.isOk = true) :
    ∃ loc content mode time now, fs.find ws source = .ok (loc, ⟨.file content mode, time⟩)
      ∧ (w.copy source (Path.join w.root (inDist name)) fs).2
        = fs.put (copyAt ws name)
          ⟨.file (if loc = copyAt ws name then [] else content) mode, now⟩ := by
  obtain ⟨now, hcopy⟩ := hw.copy_ok source _ fs hok
  obtain ⟨loc, content, mode, time, hsource, hput⟩ :=
    Files.copy_open (endsInSlash_copy hname w.root) (h.copies name hname)
      (fun spot hresolve => h.eq_spotAt_of_resolve hname (by rw [← hw.root_eq]; exact hresolve))
      hcopy
  exact ⟨loc, content, mode, time, now, hsource, hput⟩

theorem copy_cases (hw : w.KeepsFiles ws member?) (h : IsInOrder ws fs)
    (hname : name ∈ copyNames) (source : Path) :
    (w.copy source (Path.join w.root (inDist name)) fs).2 = fs
      ∨ ∃ content mode time, (w.copy source (Path.join w.root (inDist name)) fs).2
        = fs.put (copyAt ws name) ⟨.file content mode, time⟩ := by
  cases hok : (w.copy source (Path.join w.root (inDist name)) fs).1.isOk with
  | true =>
    obtain ⟨loc, content, mode, time, now, _, hput⟩ := hw.copy_of_isOk h hname hok
    exact .inr ⟨_, _, _, hput⟩
  | false =>
    rcases hw.copy_fails _ _ _ hok with hsame | ⟨dest, content, mode, time, hresolve, _, hput⟩
    . exact .inl hsame
    . rw [hw.root_eq] at hresolve
      have hdest : dest = copyAt ws name := by
        rw [← Files.loc_spotAt fs dest, h.eq_spotAt_of_resolve hname hresolve, Files.loc_spotAt]
      rw [hdest] at hput
      exact .inr ⟨content, mode, time, hput⟩

theorem hasStaged_refl (h : IsInOrder ws fs) : HasStaged ws fs fs := ⟨h, fun _ _ _ => rfl⟩

theorem hasStaged_build (hw : w.KeepsFiles ws member?) (h : IsInOrder ws fs)
    (target : Option String) : HasStaged ws fs (w.run (releaseCommand target) fs).2 := by
  have hsame : ∀ loc, ¬ Below ws targetFolder loc →
      (w.run (releaseCommand target) fs).2.get? loc = fs.get? loc := by
    cases target with
    | none => exact hw.cargo _ fs
    | some target => exact hw.cargo _ fs
  refine ⟨h.of_eq fun loc hloc => hsame loc ?_, fun loc htarget _ => hsame loc htarget⟩
  intro htarget
  rcases hloc with hloc | hloc
  . exact not_below_of_prefix hloc htarget
  . exact absurd (eq_of_below hloc htarget) (by decide)

theorem hasStaged_makeFolder (hw : w.KeepsFiles ws member?) (h : IsInOrder ws fs) :
    HasStaged ws fs (w.makeFolder (Path.join w.root (RawText.ofString distFolder)) fs).2 := by
  cases hok : (w.makeFolder (Path.join w.root (RawText.ofString distFolder)) fs).1.isOk with
  | true =>
    obtain ⟨now, hmade⟩ := hw.makeFolder_ok _ _ hok
    rw [hw.root_eq] at hmade
    obtain ⟨⟨time, hfolder⟩, hsame⟩ :=
      Files.makeFolderPath_name h.rooted isPathName_distFolder h.folder hmade
    rw [← hw.root_eq] at hfolder hsame
    constructor
    . apply h.of_makeFolder _ hsame
      intro entry hentry
      rw [hfolder] at hentry
      cases hentry
      rfl
    . intro loc _ hdist
      apply hsame
      rintro rfl
      exact hdist List.prefix_rfl
  | false =>
    rw [hw.makeFolder_fails _ _ hok]
    exact hasStaged_refl h

theorem hasStaged_copy (hw : w.KeepsFiles ws member?) (h : IsInOrder ws fs)
    (hname : name ∈ copyNames) (source : Path) :
    HasStaged ws fs (w.copy source (Path.join w.root (inDist name)) fs).2 := by
  rcases hw.copy_cases h hname source with hsame | ⟨content, mode, time, hput⟩
  . rw [hsame]
    exact hasStaged_refl h
  . rw [hput]
    constructor
    . exact h.put_copy
    . intro loc _ hdist
      apply Files.get?_put_of_ne
      rintro rfl
      exact hdist (below_copyAt_iff.mpr rfl)

theorem hasStaged_attempt (hw : w.KeepsFiles ws member?) (h : IsInOrder ws fs) {d : Deed}
    (hd : d ∈ stageSteps w.root target) :
    HasStaged ws fs (w.attempt (w.resolved fs d) fs).2 := by
  have hcopy {source : Path} {name : String} (hname : name ∈ copyNames)
      (hd : d = .copy source (Path.join w.root (inDist name))) :
      HasStaged ws fs (w.attempt (w.resolved fs d) fs).2 := by
    rw [hd, hw.resolved_copy h hname]
    exact hw.hasStaged_copy h hname source
  simp only [stageSteps, Setting.commandDeeds, List.mem_append, List.mem_cons, List.not_mem_nil,
    or_false] at hd
  rcases hd with (((rfl | rfl | rfl) | rfl) | hd) | hd
  . exact hasStaged_refl h
  . exact hasStaged_refl h
  . exact hw.hasStaged_build h target
  . exact hw.hasStaged_makeFolder h
  . exact hcopy binary_mem_copyNames hd
  . exact hcopy pluginBinary_mem_copyNames hd

theorem hasStaged_stage (hw : w.KeepsFiles ws member?) (h : IsInOrder ws fs)
    (target : Option String) :
    HasStaged ws fs (w.course (stageSteps w.root target) fs).files := by
  apply Setting.course_induction (P := HasStaged ws fs) _ (hasStaged_refl h)
  intro d hd files hstaged
  exact hstaged.trans (hw.hasStaged_attempt hstaged.isInOrder hd)

theorem isInOrder_prepared (hw : w.KeepsFiles ws member?) (h : IsInOrder ws fs) :
    IsInOrder ws (w.prepared target fs) :=
  (hw.hasStaged_makeFolder (hw.hasStaged_build h target).isInOrder).isInOrder

theorem isInOrder_copiedOnce (hw : w.KeepsFiles ws member?) (h : IsInOrder ws fs) :
    IsInOrder ws (w.copiedOnce target fs) :=
  (hw.hasStaged_copy (hw.isInOrder_prepared h) binary_mem_copyNames _).isInOrder

theorem copies_of_isComplete (hw : w.KeepsFiles ws member?) (h : IsInOrder ws fs)
    (hcomplete : (w.course (stageSteps w.root target) fs).isComplete = true) :
    let source := Path.join w.root (releaseBinary target)
    (w.copy source (Path.join w.root (inDist binary)) (w.prepared target fs)).1.isOk = true
      ∧ (w.copy source (Path.join w.root (inDist pluginBinary))
          (w.copiedOnce target fs)).1.isOk = true
      ∧ (w.course (stageSteps w.root target) fs).files
        = (w.copy source (Path.join w.root (inDist pluginBinary)) (w.copiedOnce target fs)).2 := by
  intro source
  -- From the last step backwards: each found what the steps before it left.
  obtain ⟨hcomplete, hsecond, hfiles⟩ := Setting.of_isComplete_concat hcomplete
  obtain ⟨hcomplete, hfirst, honce⟩ := Setting.of_isComplete_concat hcomplete
  obtain ⟨hcomplete, _, hmade⟩ := Setting.of_isComplete_concat hcomplete
  have hrun : (w.course ([.say "📦 Creating distribution package...",
      .note ("$ " ++ shownCommand (releaseCommand target))] ++ [.run (releaseCommand target)])
      fs).isComplete = true := hcomplete
  obtain ⟨_, _, hbuilt⟩ := Setting.of_isComplete_concat hrun
  replace hmade := hmade.trans (congrArg (fun built => (w.makeFolder _ built).2) hbuilt)
  change _ = w.prepared target fs at hmade
  rw [hmade, hw.resolved_copy (hw.isInOrder_prepared h) binary_mem_copyNames] at hfirst honce
  change _ = w.copiedOnce target fs at honce
  rw [honce, hw.resolved_copy (hw.isInOrder_copiedOnce h) pluginBinary_mem_copyNames]
    at hsecond hfiles
  exact ⟨hfirst, hsecond, hfiles⟩

theorem exists_copies (hw : w.KeepsFiles ws member?) (h : IsInOrder ws fs)
    (hcomplete : (w.course (stageSteps w.root target) fs).isComplete = true) :
    ∃ loc content, FindsBinary ws target (w.prepared target fs) loc content
      ∧ (w.course (stageSteps w.root target) fs).files.HasFile (copyAt ws binary)
        (firstCopy ws loc content)
      ∧ (w.course (stageSteps w.root target) fs).files.HasFile (copyAt ws pluginBinary)
        (secondCopy ws loc content) := by
  obtain ⟨hfirst, hsecond, hfiles⟩ := hw.copies_of_isComplete h hcomplete
  have hopen : (w.prepared target fs).IsOpen (copyAt ws binary) :=
    (hw.isInOrder_prepared h).copies binary binary_mem_copyNames
  obtain ⟨loc, content, mode, time, now, hfound, honce⟩ :=
    hw.copy_of_isOk (hw.isInOrder_prepared h) binary_mem_copyNames hfirst
  obtain ⟨loc', content', mode', time', now', hfound', htwice⟩ :=
    hw.copy_of_isOk (hw.isInOrder_copiedOnce h) pluginBinary_mem_copyNames hsecond
  rw [htwice] at hfiles
  change w.copiedOnce target fs = _ at honce
  -- The second copy finds the binary where the first did.
  have hagain : (w.copiedOnce target fs).find ws (Path.join w.root (releaseBinary target))
      = .ok (loc, ⟨.file (firstCopy ws loc content) mode,
          if loc = copyAt ws binary then now else time⟩) := by
    rw [honce]
    apply (hopen.grows _ _ _).find (endsInSlash_releaseBinary _ _) hfound
    unfold firstCopy
    split
    . next heq =>
      rw [heq]
      exact Files.get?_put copyAt_ne_nil
    . next hne =>
      rw [Files.get?_put_of_ne hne]
      exact Files.get?_of_find hfound
  rw [hfound'] at hagain
  cases hagain
  refine ⟨loc, content, ⟨mode, time, by rw [← hw.root_eq]; exact hfound⟩, ?_, ?_⟩
  . rw [hfiles]
    refine ⟨mode, now, ?_⟩
    rw [Files.get?_put_of_ne copyAt_binary_ne, honce]
    exact Files.get?_put copyAt_ne_nil
  . rw [hfiles]
    exact ⟨_, _, Files.get?_put copyAt_ne_nil⟩

end Setting.KeepsFiles

end Automation

end KubePlugin
