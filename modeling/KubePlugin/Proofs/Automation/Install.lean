import KubePlugin.Proofs.Automation.Site
import KubePlugin.Proofs.CommandLine.Reading
import KubePlugin.Proofs.Locator.MostRecent
import KubePlugin.Proofs.Machine.Rooted

/-!
This module contains what an installation leaves in the tree of files. The copies are made where
their paths lead from the workspace, but their modes are set where the same paths lead from the
folder in which the program itself works.
-/

namespace KubePlugin.Automation

open CommandLine Machine Stateful

theorem parseTask_install (program : RawText) (place : String) :
    parseTask [program, "install", RawText.ofString (ArgVector.valueFlag "prefix" place)]
      =
    .ok (.install place) := by
  have hleads : surface.Leads ["install"] (.leaf "install" "Install to system" [placeOption]) :=
    .single rfl rfl (by decide)
  obtain ⟨s, hs, hparse⟩ :=
    hleads.exists_parse program (entryWords [(.option "prefix", .text place)])
  have hordinary : s.spec.IsOrdinary := by
    rw [hs]
    decide
  have hread : s.read ["install"] {} (entryWords [(.option "prefix", .text place)])
      = .ok ⟨["install"], [] ++ [(.option "prefix", .text place)]⟩ := by
    apply Scope.read_entryWords hordinary (by rw [hs]; rfl)
    . rw [List.forall_mem_singleton, hs]
      exact ⟨placeOption, List.mem_singleton_self _, rfl, nofun, rfl⟩
    . intro e _
      rw [hs]
      exact Spec.sub?_of_leaf rfl _
    . exact List.nodup_singleton _
    . exact Progress.hasRead_nil
  have hsurface : surface.parse
      [program, "install", RawText.ofString (ArgVector.valueFlag "prefix" place)]
      = .ok ⟨["install"], [(.option "prefix", .text place)]⟩ := hparse.trans hread
  rw [parseTask, hsurface]
  rfl

def installPath (place name : String) : Path :=
  Path.join (installFolder place) (RawText.ofString name)

theorem isAbsolute_installPath {name : String} (hname : Path.IsPart name) (place : String) :
    Path.isAbsolute (installPath place name) = Path.isAbsolute (RawText.ofString place) := by
  have hbin : Path.isAbsolute (RawText.ofString "bin") = false := by decide
  rw [installPath, Path.isAbsolute_join, Bool.eq_false_iff.mpr hname.2.1, installFolder,
    Path.isAbsolute_join, hbin, Bool.or_false, Bool.or_false]

theorem endsInSlash_installPath {name : String} (hname : Path.IsPart name) (place : String) :
    Path.endsInSlash (installPath place name) = false := by
  rw [installPath, Path.endsInSlash_join hname.1, Bool.eq_false_iff.mpr hname.2.2]

namespace Site

def source (s : Site) : Path := s.workshop.inRoot (releaseBinary none)

def destination (s : Site) (place name : String) : Path :=
  s.workshop.inRoot (installPath place name)

inductive Built (s : Site) (fs : Files) : Files → Prop where
  | isThere : (fs.status s.workspace s.source).isSome = true → Built s fs fs
  | wasRun {status : WaitStatus} {built : Files} : (fs.status s.workspace s.source).isSome = false →
    s.run (releaseCommand none) fs = (.ok status, built) → status.succeeded = true →
    Built s fs built

def InstallsAs (s : Site) (place name : String) (fs fs' : Files) : Prop :=
  ∃ copied, fs.copy s.workspace s.now s.source
      (s.copyTarget fs s.source (s.destination place name)) = .ok copied
    ∧ copied.setMode s.here (installPath place name) 0o755 = .ok fs'

def Installs (s : Site) (place : String) (fs fs' : Files) : Prop :=
  ∃ built made middle, s.Built fs built
    ∧ built.makeFolderPath s.workspace s.now (s.workshop.inRoot (installFolder place)) = .ok made
    ∧ s.InstallsAs place binary made middle ∧ s.InstallsAs place pluginBinary middle fs'

variable {s : Site} {fs fs' built : Files} {place name : String} {content : List UInt8}
  {mode : Nat} {time : Time} {source loc : Location}

theorem leaves_buildIfMissing (s : Site) : Leaves (buildIfMissing s.workshop) s.Built := by
  intro st fs'
  have hisThere : after (s.workshop.isThere s.source) st
      = ((st.files.status s.workspace s.source).isSome, st) := rfl
  unfold buildIfMissing
  simp only [does_lift_bind_iff]
  show (∃ st', Does (if (after (s.workshop.isThere s.source) st).1 then _ else _)
    (after (s.workshop.isThere s.source) st).2 () st' ∧ _) ↔ _
  rw [hisThere]
  dsimp only
  split
  . next h =>
    constructor
    . rintro ⟨st', hdoes, rfl⟩
      obtain ⟨_, rfl⟩ := does_pure_iff.mp hdoes
      exact .isThere h
    . intro hbuilt
      cases hbuilt with
      | isThere => exact ⟨st, does_pure_iff.mpr ⟨rfl, rfl⟩, rfl⟩
      | wasRun hmissing => simp [h] at hmissing
  . next h =>
    rw [((Leaves.command s (releaseCommand none)).tell_bind s _) st fs']
    constructor
    . rintro ⟨status, hrun, hsucceeded⟩
      exact .wasRun (by simpa using h) hrun hsucceeded
    . intro hbuilt
      cases hbuilt with
      | isThere hthere => exact absurd hthere h
      | wasRun _ hrun hsucceeded => exact ⟨_, hrun, hsucceeded⟩

theorem leaves_installAs (s : Site) (place name : String) :
    Leaves (installAs s.workshop place name) (s.InstallsAs place name) := by
  unfold installAs
  dsimp only
  exact (Leaves.copyFile s _ _).bind ((Leaves.makeProgram s _).bind_tell s _)

theorem leaves_install (s : Site) (place : String) :
    Leaves (install s.workshop place) (s.Installs place) := by
  have h := ((leaves_buildIfMissing s).bind ((Leaves.folder s (installFolder place)).bind
    ((leaves_installAs s place binary).bind ((leaves_installAs s place pluginBinary).bind_tell s
      "Run \x60kubectl neon --help\x60 to verify the plugin is picked up")))).tell_bind s
        s!"📥 Installing {binary} to {place}..."
  intro st fs'
  unfold install
  rw [h st fs']
  simp [Installs]

theorem Built.unique {built' : Files} (h : s.Built fs built) (h' : s.Built fs built') :
    built = built' := by
  cases h with
  | isThere hthere =>
    cases h' with
    | isThere => rfl
    | wasRun hmissing => simp [hthere] at hmissing
  | wasRun hmissing hrun =>
    cases h' with
    | isThere hthere => simp [hthere] at hmissing
    | wasRun _ hrun' =>
      rw [hrun] at hrun'
      cases hrun'
      rfl

structure IsFree (s : Site) (fs : Files) (place name : String) (source loc : Location) : Prop where
  resolve_eq : fs.resolve s.workspace true (s.destination place name) = .ok (fs.spotAt loc)
  isOpen : fs.IsOpen loc
  ne_source : loc ≠ source

theorem endsInSlash_destination (hname : Path.IsPart name) (s : Site) (place : String) :
    Path.endsInSlash (s.destination place name) = false := by
  have hne : (installPath place name).bytes ≠ [] := Path.bytes_join_ne_nil hname.1
  unfold destination Workshop.inRoot
  rw [Path.endsInSlash_join hne, endsInSlash_installPath hname]

theorem endsInSlash_source (s : Site) : Path.endsInSlash s.source = false := by
  unfold source Workshop.inRoot
  rw [Path.endsInSlash_join (by decide)]
  decide

theorem IsFree.resolve_of_grows (h : s.IsFree fs place name source loc)
    (hname : Path.IsPart name) (hgrows : fs.Grows fs') :
    fs'.resolve s.workspace true (s.destination place name) = .ok (fs'.spotAt loc) := by
  have hresolve := hgrows.resolve (endsInSlash_destination hname s place) h.resolve_eq
  rwa [Files.loc_spotAt] at hresolve

theorem IsFree.of_grows (h : s.IsFree fs place name source loc) (hname : Path.IsPart name)
    (hgrows : fs.Grows fs') (hopen : fs'.IsOpen loc) : s.IsFree fs' place name source loc where
  resolve_eq := h.resolve_of_grows hname hgrows
  isOpen := hopen
  ne_source := h.ne_source

theorem IsFree.installsAs_iff (h : s.IsFree fs place name source loc) (hname : Path.IsPart name)
    (hsource : fs.find s.workspace s.source = .ok (source, ⟨.file content mode, time⟩)) :
    s.InstallsAs place name fs fs'
      ↔
    ∃ found entry, (fs.put loc ⟨.file content mode, s.now⟩).find s.here (installPath place name)
        = .ok (found, entry)
      ∧ fs' = (fs.put loc ⟨.file content mode, s.now⟩).setModeAt found 0o755 := by
  have htarget : s.copyTarget fs s.source (s.destination place name)
      = s.destination place name := by
    unfold copyTarget
    rw [Files.isFolder_eq_false h.resolve_eq h.isOpen]
    rfl
  unfold InstallsAs
  rw [htarget, Files.copy_eq hsource (endsInSlash_destination hname s place) h.resolve_eq h.isOpen
    h.ne_source]
  simp only [Except.ok.injEq, exists_eq_left', Files.setMode_eq_ok_iff]

/-- What an installation works with: the files when the binary is there, and when the folder for the
copies is made, too; the binary; and the locations of the copies. -/
structure Plan where
  built : Files
  made : Files
  source : Location
  content : List UInt8
  mode : Nat
  first : Location
  second : Location

namespace Plan

variable (p : Plan) (now : Time)

def copied (mode : Nat) : Entry := ⟨.file p.content mode, now⟩

def once : Files := p.made.put p.first (p.copied now p.mode)

def modeAfter (found : Location) : Nat := if p.source = found then 0o755 else p.mode

def twice (found : Location) : Files :=
  ((p.once now).setModeAt found 0o755).put p.second (p.copied now (p.modeAfter found))

def done : Files := (p.made.put p.first (p.copied now 0o755)).put p.second (p.copied now 0o755)

end Plan

structure Ready (s : Site) (place : String) (fs : Files) (p : Plan) : Prop where
  built : s.Built fs p.built
  made : p.built.makeFolderPath s.workspace s.now (s.workshop.inRoot (installFolder place))
    = .ok p.made
  found : ∃ time, p.built.find s.workspace s.source
    = .ok (p.source, ⟨.file p.content p.mode, time⟩)
  first : s.IsFree p.made place binary p.source p.first
  second : s.IsFree p.made place pluginBinary p.source p.second

/-- Both programs are there, with the content of the binary and the mode of a program, and all else
that was there when the binary was is as it was. -/
structure Installed (s : Site) (place : String) (p : Plan) (fs' : Files) : Prop where
  first : fs'.find s.workspace (s.destination place binary)
    = .ok (p.first, p.copied s.now 0o755)
  second : fs'.find s.workspace (s.destination place pluginBinary)
    = .ok (p.second, p.copied s.now 0o755)
  others : ∀ loc entry, loc ≠ p.first → loc ≠ p.second → p.built.get? loc = some entry →
    fs'.get? loc = some entry

def Reaches (s : Site) (fs : Files) (place name : String) (loc : Location) : Prop :=
  ∃ entry, fs.find s.here (installPath place name) = .ok (loc, entry)

structure ReachesCopies (s : Site) (place : String) (p : Plan) : Prop where
  first : s.Reaches (p.once s.now) place binary p.first
  second : s.Reaches (p.twice s.now p.first) place pluginBinary p.second

theorem isPart_binary : Path.IsPart binary := by decide

theorem isPart_pluginBinary : Path.IsPart pluginBinary := by decide

variable {p : Plan}

theorem Ready.extends_made (h : s.Ready place fs p) : p.built.Extends p.made :=
  Files.extends_of_makeFolderPath h.made

theorem Ready.grows_once (h : s.Ready place fs p) : p.made.Grows (p.once s.now) :=
  h.first.isOpen.grows _ _ _

theorem Ready.grows_setModeAt_once (h : s.Ready place fs p) (found : Location) :
    p.made.Grows ((p.once s.now).setModeAt found 0o755) :=
  h.grows_once.trans (Files.grows_setModeAt found 0o755)

theorem Ready.second_free (h : s.Ready place fs p) (found : Location) :
    s.IsFree ((p.once s.now).setModeAt found 0o755) place pluginBinary p.source p.second :=
  h.second.of_grows isPart_pluginBinary (h.grows_setModeAt_once found)
    (h.second.isOpen.put h.first.isOpen.ne_nil).setModeAt

theorem Ready.grows_twice (h : s.Ready place fs p) (found : Location) :
    p.made.Grows (p.twice s.now found) :=
  (h.grows_setModeAt_once found).trans ((h.second_free found).isOpen.grows _ _ _)

theorem Ready.grows_done (h : s.Ready place fs p) : p.made.Grows (p.done s.now) :=
  (h.first.isOpen.grows _ _ _).trans
    ((h.second.isOpen.put h.first.isOpen.ne_nil).grows _ _ _)

theorem Ready.get?_setModeAt_once_source (h : s.Ready place fs p) (found : Location)
    (hsource : p.built.get? p.source = some ⟨.file p.content p.mode, time⟩) :
    ((p.once s.now).setModeAt found 0o755).get? p.source
      =
    some ⟨.file p.content (p.modeAfter found), time⟩ := by
  unfold Plan.once Plan.modeAfter
  rw [Files.get?_setModeAt, Files.get?_put_of_ne h.first.ne_source.symm,
    h.extends_made.keeps hsource]
  split
  . rfl
  . rfl

theorem Ready.twice_first (h : s.Ready place fs p) :
    p.twice s.now p.first
      =
    (p.made.put p.first (p.copied s.now 0o755)).put p.second (p.copied s.now p.mode) := by
  have hmode : p.modeAfter p.first = p.mode := if_neg h.first.ne_source.symm
  have hfirst : (p.once s.now).setModeAt p.first 0o755
      = p.made.put p.first (p.copied s.now 0o755) := Files.setModeAt_put h.first.isOpen.ne_nil
  rw [Plan.twice, hmode, hfirst]

theorem Ready.installs_iff (h : s.Ready place fs p) :
    s.Installs place fs fs'
      ↔
    ∃ found entry found' entry',
      (p.once s.now).find s.here (installPath place binary) = .ok (found, entry)
      ∧ (p.twice s.now found).find s.here (installPath place pluginBinary) = .ok (found', entry')
      ∧ fs' = (p.twice s.now found).setModeAt found' 0o755 := by
  obtain ⟨time, hbuilt⟩ := h.found
  have hsource := h.extends_made.find (endsInSlash_source s) hbuilt
  have hsecond (found : Location) :
      s.InstallsAs place pluginBinary ((p.once s.now).setModeAt found 0o755) fs' ↔ _ :=
    (h.second_free found).installsAs_iff isPart_pluginBinary
      ((h.grows_setModeAt_once found).find (endsInSlash_source s) hsource
        (h.get?_setModeAt_once_source found (Files.get?_of_find hbuilt)))
  constructor
  . rintro ⟨built, made, middle, hbuilt', hmade, hfirst, hlast⟩
    obtain rfl := hbuilt'.unique h.built
    rw [h.made] at hmade
    cases hmade
    obtain ⟨found, entry, hfound, rfl⟩ := (h.first.installsAs_iff isPart_binary hsource).mp hfirst
    obtain ⟨found', entry', hfound', hfs'⟩ := (hsecond found).mp hlast
    exact ⟨found, entry, found', entry', hfound, hfound', hfs'⟩
  . rintro ⟨found, entry, found', entry', hfound, hfound', hfs'⟩
    exact ⟨p.built, p.made, _, h.built, h.made,
      (h.first.installsAs_iff isPart_binary hsource).mpr ⟨found, entry, hfound, rfl⟩,
      (hsecond found).mpr ⟨found', entry', hfound', hfs'⟩⟩

theorem Ready.installs_of_reachesCopies (h : s.Ready place fs p)
    (hreaches : s.ReachesCopies place p) :
    s.Installs place fs (p.done s.now) := by
  obtain ⟨entry, hfirst⟩ := hreaches.first
  obtain ⟨entry', hsecond⟩ := hreaches.second
  refine h.installs_iff.mpr ⟨p.first, entry, p.second, entry', hfirst, hsecond, ?_⟩
  rw [h.twice_first]
  exact (Files.setModeAt_put h.second.isOpen.ne_nil).symm

theorem Ready.get?_done_second (h : s.Ready place fs p) :
    (p.done s.now).get? p.second = some (p.copied s.now 0o755) :=
  Files.get?_put h.second.isOpen.ne_nil

theorem Ready.get?_done_first (h : s.Ready place fs p) :
    (p.done s.now).get? p.first = some (p.copied s.now 0o755) := by
  by_cases heq : p.first = p.second
  . rw [heq]
    exact h.get?_done_second
  . unfold Plan.done
    rw [Files.get?_put_of_ne heq, Files.get?_put h.first.isOpen.ne_nil]

theorem IsFree.find (h : s.IsFree fs place name source loc) (hname : Path.IsPart name)
    (hgrows : fs.Grows fs') {entry : Entry} (hentry : fs'.get? loc = some entry) :
    fs'.find s.workspace (s.destination place name) = .ok (loc, entry) :=
  Files.find_of_resolve (h.resolve_of_grows hname hgrows) hentry

theorem Ready.installed_done (h : s.Ready place fs p) : s.Installed place p (p.done s.now) where
  first := h.first.find isPart_binary h.grows_done h.get?_done_first
  second := h.second.find isPart_pluginBinary h.grows_done h.get?_done_second
  others loc entry hfirst hsecond hentry := by
    unfold Plan.done
    rw [Files.get?_put_of_ne hsecond, Files.get?_put_of_ne hfirst]
    exact h.extends_made.keeps hentry

def Agrees (s : Site) (place : String) (p : Plan) : Prop :=
  Path.isAbsolute (RawText.ofString place) = true
    ∨ s.here = s.workspace ∧ p.built.IsRooted s.workspace

theorem Ready.resolve_of_agrees (h : s.Ready place fs p) (hagrees : s.Agrees place p)
    (hname : Path.IsPart name) (hfree : s.IsFree p.made place name p.source loc) :
    p.made.resolve s.here true (installPath place name) = .ok (p.made.spotAt loc) := by
  by_cases habsolute : Path.isAbsolute (installPath place name) = true
  . have hdestination : s.destination place name = installPath place name := if_pos habsolute
    rw [Files.resolve_of_isAbsolute s.workspace habsolute, ← hdestination]
    exact hfree.resolve_eq
  . rw [isAbsolute_installPath hname] at habsolute
    obtain ⟨hhere, hrooted⟩ := hagrees.resolve_left habsolute
    rw [hhere]
    apply Files.resolve_of_join_pathOf (h.extends_made.isRooted hrooted)
    . rw [isAbsolute_installPath hname, Bool.eq_false_iff.mpr habsolute]
    . have hne : (installPath place name).bytes ≠ [] := Path.bytes_join_ne_nil hname.1
      simpa [RawText.isEmpty] using hne
    . exact endsInSlash_installPath hname place
    . exact hfree.resolve_eq

theorem reaches_of_resolve (hname : Path.IsPart name)
    (hresolve : fs.resolve s.here true (installPath place name) = .ok (fs.spotAt loc))
    (hgrows : fs.Grows fs') {entry : Entry} (hentry : fs'.get? loc = some entry) :
    s.Reaches fs' place name loc := by
  have hgrown := hgrows.resolve (endsInSlash_installPath hname place) hresolve
  rw [Files.loc_spotAt] at hgrown
  exact ⟨entry, Files.find_of_resolve hgrown hentry⟩

theorem Ready.reachesCopies (h : s.Ready place fs p) (hagrees : s.Agrees place p) :
    s.ReachesCopies place p where
  first := reaches_of_resolve isPart_binary (h.resolve_of_agrees hagrees isPart_binary h.first)
    h.grows_once (Files.get?_put h.first.isOpen.ne_nil)
  second := reaches_of_resolve isPart_pluginBinary
    (h.resolve_of_agrees hagrees isPart_pluginBinary h.second)
    (h.grows_twice p.first) (Files.get?_put h.second.isOpen.ne_nil)

theorem Ready.reachesCopies_of_installed (h : s.Ready place fs p) (hmode : p.mode ≠ 0o755)
    (hne : p.first ≠ p.second) (hinstalls : s.Installs place fs fs')
    (hinstalled : s.Installed place p fs') : s.ReachesCopies place p := by
  obtain ⟨found, entry, found', entry', hfound, hfound', rfl⟩ := h.installs_iff.mp hinstalls
  -- The first mode was not set on the binary, which is as it was.
  have hafter : p.modeAfter found = p.mode := by
    obtain ⟨time, hbuilt⟩ := h.found
    have hsource := Files.get?_of_find hbuilt
    have hkept := hinstalled.others _ _ h.first.ne_source.symm h.second.ne_source.symm hsource
    by_cases heq : p.source = found
    . have hprogram : (p.twice s.now found).get? p.source
          = some ⟨.file p.content 0o755, time⟩ := by
        rw [Plan.twice, Files.get?_put_of_ne h.second.ne_source.symm,
          h.get?_setModeAt_once_source found hsource, Plan.modeAfter, if_pos heq]
      rw [Files.get?_setModeAt_same hprogram] at hkept
      have hmode' : 0o755 = p.mode := by simpa using hkept
      exact absurd hmode'.symm hmode
    . exact if_neg heq
  -- So both copies were made with its mode, and are programs only if theirs was set.
  have hsecond : p.second = found' := by
    have hcopied : (p.twice s.now found).get? p.second = some (p.copied s.now p.mode) := by
      rw [Plan.twice, hafter]
      exact Files.get?_put h.second.isOpen.ne_nil
    exact Files.eq_of_get?_setModeAt hcopied (Files.get?_of_find hinstalled.second) hmode
  have hfirst : p.first = found := by
    have hcopied : (p.once s.now).get? p.first = some (p.copied s.now p.mode) :=
      Files.get?_put h.first.isOpen.ne_nil
    have hprogram := Files.get?_of_find hinstalled.first
    rw [← hsecond, Files.get?_setModeAt, if_neg hne, Plan.twice, Files.get?_put_of_ne hne]
      at hprogram
    exact Files.eq_of_get?_setModeAt hcopied hprogram hmode
  subst hsecond hfirst
  exact ⟨⟨entry, hfound⟩, ⟨entry', hfound'⟩⟩

theorem installs_iff_of_parseTask {argv : List RawText}
    (hargv : parseTask argv = .ok (.install place)) (s : Site) (color : Bool) (st : State) :
    s.Installs place st.files fs'
      ↔
    (after (runTask s.workshop color argv) st).1.code = some 0
      ∧ (after (runTask s.workshop color argv) st).2.files = fs' := by
  have hafter : after (runTask s.workshop color argv) st
      = (endingOf (after (install s.workshop place).run st).1,
          (after (install s.workshop place).run st).2) := by
    unfold runTask
    rw [hargv]
    rfl
  rw [hafter, ← leaves_install s place st fs']
  unfold Does
  rcases after (install s.workshop place).run st with ⟨outcome, st'⟩
  cases outcome with
  | ok a => simp [endingOf]
  | error e => simp [endingOf]

/-- An installation that ends with success has made its folder and found the binary. If it is ready,
it succeeds exactly if the paths of the copies lead somewhere from the folder of the program, and
sets the modes there. With an absolute prefix, or in the workspace, both programs are installed and
nothing else is changed; from elsewhere only if the paths lead to the copies from there, too. -/
theorem runTask_install (s : Site) (color : Bool) {argv : List RawText} {place : String}
    (hargv : parseTask argv = .ok (.install place)) (st : State) :
    let ended := after (runTask s.workshop color argv) st
    (ended.1.code = some 0 →
      ∃ built made loc content mode time, s.Built st.files built
        ∧ built.makeFolderPath s.workspace s.now (s.workshop.inRoot (installFolder place))
          = .ok made
        ∧ made.find s.workspace s.source = .ok (loc, ⟨.file content mode, time⟩))
    ∧ ∀ p, s.Ready place st.files p →
      (ended.1.code = some 0 ↔ ∃ found found', s.Reaches (p.once s.now) place binary found
        ∧ s.Reaches (p.twice s.now found) place pluginBinary found')
      ∧ (∀ found found', s.Reaches (p.once s.now) place binary found →
        s.Reaches (p.twice s.now found) place pluginBinary found' →
        ended.2.files = (p.twice s.now found).setModeAt found' 0o755)
      ∧ (s.Agrees place p → ended.1.code = some 0 ∧ s.Installed place p ended.2.files)
      ∧ (p.mode ≠ 0o755 → p.first ≠ p.second →
        (ended.1.code = some 0 ∧ s.Installed place p ended.2.files ↔ s.ReachesCopies place p)) := by
  intro ended
  have hended {fs' : Files} : s.Installs place st.files fs'
      ↔ ended.1.code = some 0 ∧ ended.2.files = fs' := installs_iff_of_parseTask hargv s color st
  have hinstalled {p : Plan} (hready : s.Ready place st.files p)
      (hreaches : s.ReachesCopies place p) :
      ended.1.code = some 0 ∧ s.Installed place p ended.2.files := by
    obtain ⟨hcode, hfiles⟩ := hended.mp (hready.installs_of_reachesCopies hreaches)
    rw [hfiles]
    exact ⟨hcode, hready.installed_done⟩
  have hsteps {p : Plan} (hready : s.Ready place st.files p) {found found' : Location}
      (hfirst : s.Reaches (p.once s.now) place binary found)
      (hsecond : s.Reaches (p.twice s.now found) place pluginBinary found') :
      ended.1.code = some 0 ∧ ended.2.files = (p.twice s.now found).setModeAt found' 0o755 := by
    obtain ⟨entry, hfound⟩ := hfirst
    obtain ⟨entry', hfound'⟩ := hsecond
    exact hended.mp (hready.installs_iff.mpr ⟨found, entry, found', entry', hfound, hfound', rfl⟩)
  refine ⟨?_, fun p hready => ⟨⟨?_, ?_⟩, ?_, ?_, ?_⟩⟩
  . intro hcode
    obtain ⟨built, made, middle, hbuilt, hmade, hfirst, _⟩ := hended.mpr ⟨hcode, rfl⟩
    obtain ⟨copied, hcopied, _⟩ := hfirst
    obtain ⟨loc, content, mode, time, hfind⟩ := Files.exists_file_of_copy hcopied
    exact ⟨built, made, loc, content, mode, time, hbuilt, hmade, hfind⟩
  . intro hcode
    obtain ⟨found, entry, found', entry', hfound, hfound', _⟩ :=
      hready.installs_iff.mp (hended.mpr ⟨hcode, rfl⟩)
    exact ⟨found, found', ⟨entry, hfound⟩, ⟨entry', hfound'⟩⟩
  . rintro ⟨found, found', hfirst, hsecond⟩
    exact (hsteps hready hfirst hsecond).1
  . intro found found' hfirst hsecond
    exact (hsteps hready hfirst hsecond).2
  . intro hagrees
    exact hinstalled hready (hready.reachesCopies hagrees)
  . intro hmode hne
    constructor
    . rintro ⟨hcode, hkept⟩
      exact hready.reachesCopies_of_installed hmode hne (hended.mpr ⟨hcode, rfl⟩) hkept
    . exact hinstalled hready

def elsewhere : Site where
  workspace := ["w"]
  here := ["h"]
  now := ⟨1, 0⟩
  run _ files := (.ok (.exited 0), files)

def elsewhereFiles : Files where
  entries :=
    [ (["w"], ⟨.folder, ⟨0, 0⟩⟩), (["w", "target"], ⟨.folder, ⟨0, 0⟩⟩),
      (["w", "target", "release"], ⟨.folder, ⟨0, 0⟩⟩),
      (["w", "target", "release", "neon"], ⟨.file [0x6E] 0o644, ⟨0, 0⟩⟩),
      (["h"], ⟨.folder, ⟨0, 0⟩⟩), (["h", "p"], ⟨.folder, ⟨0, 0⟩⟩),
      (["h", "p", "bin"], ⟨.folder, ⟨0, 0⟩⟩),
      (["h", "p", "bin", "neon"], ⟨.file [0x6F] 0o644, ⟨0, 0⟩⟩),
      (["h", "p", "bin", "kubectl-neon"], ⟨.file [0x6F] 0o644, ⟨0, 0⟩⟩) ]

def elsewherePlan : Plan where
  built := elsewhereFiles
  made := (elsewhereFiles.put ["opt"] ⟨.folder, ⟨1, 0⟩⟩).put ["opt", "bin"] ⟨.folder, ⟨1, 0⟩⟩
  source := ["w", "target", "release", "neon"]
  content := [0x6E]
  mode := 0o644
  first := ["opt", "bin", "neon"]
  second := ["opt", "bin", "kubectl-neon"]

theorem runTask_install_absolute :
    let ended := after (runTask elsewhere.workshop false ["xtask", "install", "--prefix=/opt"])
      ⟨elsewhereFiles, []⟩
    parseTask ["xtask", "install", "--prefix=/opt"] = .ok (.install "/opt")
      ∧ elsewhere.Ready "/opt" elsewhereFiles elsewherePlan
      ∧ elsewhere.Agrees "/opt" elsewherePlan ∧ ended.1.code = some 0
      ∧ elsewhere.Installed "/opt" elsewherePlan ended.2.files
      ∧ elsewhere.ReachesCopies "/opt" elsewherePlan := by
  have hargv : parseTask ["xtask", "install", "--prefix=/opt"] = .ok (.install "/opt") :=
    parseTask_install "xtask" "/opt"
  have hfirst : elsewherePlan.made.get? elsewherePlan.first = none := by decide +kernel
  have hsecond : elsewherePlan.made.get? elsewherePlan.second = none := by decide +kernel
  have hready : elsewhere.Ready "/opt" elsewhereFiles elsewherePlan :=
    { built := .isThere (by decide +kernel)
      made := by decide +kernel
      found := ⟨⟨0, 0⟩, by decide +kernel⟩
      first := ⟨by decide +kernel, Files.isOpen_of_none hfirst, by decide +kernel⟩
      second := ⟨by decide +kernel, Files.isOpen_of_none hsecond, by decide +kernel⟩ }
  have hagrees : elsewhere.Agrees "/opt" elsewherePlan := .inl (by decide +kernel)
  obtain ⟨_, hplan⟩ := runTask_install elsewhere false hargv ⟨elsewhereFiles, []⟩
  obtain ⟨_, _, hinstalled, hiff⟩ := hplan elsewherePlan hready
  obtain ⟨hcode, hinstalled⟩ := hinstalled hagrees
  exact ⟨hargv, hready, hagrees, hcode, hinstalled,
    (hiff (by decide +kernel) (by decide +kernel)).mp ⟨hcode, hinstalled⟩⟩

/-- With a relative prefix the copies are no programs, and other files are. -/
theorem runTask_install_astray :
    let ended := after (runTask elsewhere.workshop false ["xtask", "install", "--prefix", "p"])
      ⟨elsewhereFiles, []⟩
    ended.1.code = some 0
      ∧ ended.2.files.get? ["w", "p", "bin", "neon"] = some ⟨.file [0x6E] 0o644, ⟨1, 0⟩⟩
      ∧ ended.2.files.get? ["w", "p", "bin", "kubectl-neon"] = some ⟨.file [0x6E] 0o644, ⟨1, 0⟩⟩
      ∧ ended.2.files.get? ["h", "p", "bin", "neon"] = some ⟨.file [0x6F] 0o755, ⟨0, 0⟩⟩
      ∧ ended.2.files.get? ["h", "p", "bin", "kubectl-neon"]
        = some ⟨.file [0x6F] 0o755, ⟨0, 0⟩⟩ := by
  decide +kernel

end Site

end KubePlugin.Automation
