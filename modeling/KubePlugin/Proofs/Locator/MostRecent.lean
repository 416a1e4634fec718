import Mathlib.Data.List.Basic
import Mathlib.Data.List.Induction
import KubePlugin.Proofs.Command.Execution

/-!
This module contains which neon-cli is found where no installation is named: of the builds below the
checkouts that variables name, in the order of the search, the first of the most recent ones. The
places of builds are stated here as paths below a checkout, and the search is shown to look there.
-/

namespace KubePlugin

open Stateful

def Time.IsBefore (s t : Time) : Prop :=
  s.seconds < t.seconds ∨ (s.seconds = t.seconds ∧ s.nanos < t.nanos)

instance (s t : Time) : Decidable (s.IsBefore t) := inferInstanceAs (Decidable (_ ∨ _))

theorem Time.not_isBefore_iff {s t : Time} : ¬ s.IsBefore t ↔ t ≤ s := by
  unfold IsBefore
  rw [le_def]
  omega

theorem Time.not_isBefore_self {t : Time} : ¬ t.IsBefore t := by
  unfold IsBefore
  omega

theorem Time.IsBefore.trans {s t u : Time} (h : s.IsBefore t) (h' : t.IsBefore u) :
    s.IsBefore u := by
  unfold IsBefore at *
  omega

theorem Time.IsBefore.of_le {s t u : Time} (h : s ≤ t) (h' : t.IsBefore u) : s.IsBefore u := by
  rw [le_def] at h
  unfold IsBefore at *
  omega

namespace Candidate

def IsFirstNewest (candidates : List Candidate) (c : Candidate) : Prop :=
  ∃ front rest, candidates = front ++ c :: rest
    ∧ (∀ d ∈ front, d.modified.IsBefore c.modified)
    ∧ ∀ d ∈ rest, d.modified ≤ c.modified

theorem IsFirstNewest.not_isBefore {candidates : List Candidate} {c d : Candidate}
    (h : IsFirstNewest candidates c) (hd : d ∈ candidates) :
    ¬ c.modified.IsBefore d.modified := by
  obtain ⟨front, rest, rfl, hfront, hrest⟩ := h
  intro hnewer
  rcases List.mem_append.mp hd with hd | hd
  . exact Time.not_isBefore_self (hnewer.trans (hfront d hd))
  . rcases List.mem_cons.mp hd with rfl | hd
    . exact Time.not_isBefore_self hnewer
    . exact Time.not_isBefore_iff.mpr (hrest d hd) hnewer

theorem mostRecent_concat (candidates : List Candidate) (next : Candidate) :
    mostRecent (candidates ++ [next]) = newer (mostRecent candidates) next := by
  unfold mostRecent
  rw [List.foldl_append]
  rfl

theorem mostRecent_eq_none_iff {candidates : List Candidate} :
    mostRecent candidates = none ↔ candidates = [] := by
  induction candidates using List.reverseRecOn with
  | nil => simp [mostRecent]
  | append_singleton candidates next _ =>
    rw [mostRecent_concat]
    unfold newer
    split
    . split <;> simp
    . simp

theorem isFirstNewest_of_mostRecent {candidates : List Candidate} {c : Candidate}
    (h : mostRecent candidates = some c) : IsFirstNewest candidates c := by
  -- The list grows at its end, as the search goes on; what was found is kept or replaced.
  induction candidates using List.reverseRecOn generalizing c with
  | nil => contradiction
  | append_singleton candidates next ih =>
    rw [mostRecent_concat] at h
    unfold newer at h
    split at h
    . next b hbest =>
      obtain ⟨front, rest, rfl, hfront, hrest⟩ := ih hbest
      split at h
      . next hle =>
        cases h
        refine ⟨front, rest ++ [next], by simp, hfront, ?_⟩
        intro d hd
        rcases List.mem_append.mp hd with hd | hd
        . exact hrest d hd
        . rw [List.mem_singleton.mp hd]
          exact hle
      . next hnot =>
        cases h
        rw [← Time.not_isBefore_iff, not_not] at hnot
        refine ⟨front ++ b :: rest, [], by simp, ?_, by simp⟩
        intro d hd
        rcases List.mem_append.mp hd with hd | hd
        . exact (hfront d hd).trans hnot
        . rcases List.mem_cons.mp hd with rfl | hd
          . exact hnot
          . exact .of_le (hrest d hd) hnot
    . next hbest =>
      cases h
      rw [mostRecent_eq_none_iff.mp hbest]
      exact ⟨[], [], rfl, by simp, by simp⟩

theorem IsFirstNewest.unique {candidates : List Candidate} {c d : Candidate}
    (hc : IsFirstNewest candidates c) (hd : IsFirstNewest candidates d) : c = d := by
  obtain ⟨front, rest, rfl, hfront, hrest⟩ := hc
  obtain ⟨front', rest', heq, hfront', hrest'⟩ := hd
  -- Of two different ones the first would be both older than the second and not older.
  rcases List.append_eq_append_iff.mp heq with ⟨between, rfl, hbetween⟩ | ⟨between, rfl, hbetween⟩
  . cases between with
    | nil =>
      injection hbetween
    | cons x between =>
      injection hbetween with hx hbetween
      subst hx
      have hnewer := hfront' c (by simp)
      exact absurd hnewer (Time.not_isBefore_iff.mpr (hrest d (by simp [hbetween])))
  . cases between with
    | nil =>
      injection hbetween with hx
      exact hx.symm
    | cons x between =>
      injection hbetween with hx hbetween
      subst hx
      have hnewer := hfront d (by simp)
      exact absurd hnewer (Time.not_isBefore_iff.mpr (hrest' c (by simp [hbetween])))

theorem mostRecent_eq_some_iff {candidates : List Candidate} {c : Candidate} :
    mostRecent candidates = some c ↔ IsFirstNewest candidates c := by
  constructor
  . exact isFirstNewest_of_mostRecent
  . intro h
    cases hbest : mostRecent candidates with
    | none =>
      obtain ⟨front, rest, heq, _⟩ := h
      rw [mostRecent_eq_none_iff.mp hbest] at heq
      simp at heq
    | some d => rw [h.unique (isFirstNewest_of_mostRecent hbest)]

end Candidate

namespace Path

def below (folder : Path) (rest : String) : Path :=
  if folder.endsInSlash then folder ++ RawText.ofString rest
  else folder ++ RawText.ofString ("/" ++ rest)

theorem bytes_isPrefix_below (folder : Path) (rest : String) :
    folder.bytes <+: (below folder rest).bytes := by
  unfold below
  split
  . exact List.prefix_append _ _
  . exact List.prefix_append _ _

def IsPart (part : String) : Prop :=
  (RawText.ofString part).bytes ≠ [] ∧ ¬ isAbsolute (RawText.ofString part)
    ∧ ¬ endsInSlash (RawText.ofString part)

instance (part : String) : Decidable (IsPart part) := inferInstanceAs (Decidable (_ ∧ _))

theorem join_part {base : Path} (hbase : base.bytes ≠ []) {part : String} (hpart : IsPart part) :
    join base (RawText.ofString part) = below base part := by
  have hempty : base.isEmpty = false := by simpa [RawText.isEmpty] using hbase
  unfold join below
  rw [if_neg hpart.2.1, hempty, Bool.false_or]
  split
  . rfl
  . rw [RawText.ofString_append, RawText.append_assoc]

theorem ofString_ne_nil_of_append {s t : String} (h : (RawText.ofString t).bytes ≠ []) :
    (RawText.ofString (s ++ t)).bytes ≠ [] := by
  rw [RawText.ofString_append, RawText.bytes_append]
  exact List.append_ne_nil_of_right_ne_nil _ h

theorem endsInSlash_below {base : Path} {rest : String}
    (hrest : (RawText.ofString rest).bytes ≠ []) :
    endsInSlash (below base rest) = endsInSlash (RawText.ofString rest) := by
  unfold below
  split
  . exact endsInSlash_append hrest
  . rw [endsInSlash_append (ofString_ne_nil_of_append hrest), RawText.ofString_append,
      endsInSlash_append hrest]

theorem below_below {base : Path} {first second : String}
    (hfirst : endsInSlash (below base first) = false) :
    below (below base first) second = below base (first ++ "/" ++ second) := by
  rw [below, if_neg (by simp [hfirst])]
  unfold below
  split
  all_goals simp only [RawText.ofString_append, RawText.append_assoc]

theorem joinAll_below {base : Path} (hbase : base.bytes ≠ []) {first : String}
    (hbytes : (RawText.ofString first).bytes ≠ [])
    (hend : endsInSlash (RawText.ofString first) = false) {parts : List String}
    (hparts : ∀ part ∈ parts, IsPart part) :
    joinAll (below base first) parts
      =
    below base (parts.foldl (fun before part => before ++ "/" ++ part) first) := by
  induction parts generalizing first with
  | nil => rfl
  | cons part parts ih =>
    have hpart : IsPart part := hparts part (by simp)
    have hopen : endsInSlash (below base first) = false := by
      rw [endsInSlash_below hbytes, hend]
    have hjoined : (below base first).bytes ≠ [] := (bytes_isPrefix_below base first).ne_nil hbase
    show joinAll (join (below base first) (RawText.ofString part)) parts = _
    rw [join_part hjoined hpart, below_below hopen]
    apply ih
    . exact ofString_ne_nil_of_append hpart.1
    . rw [RawText.ofString_append, endsInSlash_append hpart.1]
      simpa using hpart.2.2
    . intro p hp
      exact hparts p (List.mem_cons_of_mem _ hp)

theorem joinAll_parts {root : Path} (hroot : root.bytes ≠ []) {first : String}
    {parts : List String} (hparts : ∀ part ∈ first :: parts, IsPart part) :
    joinAll root (first :: parts)
      =
    below root (parts.foldl (fun before part => before ++ "/" ++ part) first) := by
  have hfirst := hparts first (by simp)
  show joinAll (join root (RawText.ofString first)) parts = _
  rw [join_part hroot hfirst]
  apply joinAll_below hroot hfirst.1
  . simpa using hfirst.2.2
  . intro part hpart
    exact hparts part (List.mem_cons_of_mem _ hpart)

end Path

namespace Candidate

def places : List String :=
  ["Build/neon-cli/neon-cli",
    "Tools/neon-cli/bin/Debug/" ++ targetFramework ++ "/" ++ runtimeId ++ "/neon-cli",
    "Tools/neon-cli/bin/Release/" ++ targetFramework ++ "/" ++ runtimeId ++ "/neon-cli"]

theorem layouts_eq {root : Path} (hroot : root.bytes ≠ []) :
    layouts root = places.map (Path.below root) := by
  unfold layouts places
  simp only [buildKinds, List.map_cons, List.map_nil]
  rw [Path.joinAll_parts hroot (by decide), Path.joinAll_parts hroot (by decide),
    Path.joinAll_parts hroot (by decide)]
  rfl

def builds (roots : List Path) (files : FileView) : List Candidate :=
  roots.flatMap fun root => places.filterMap fun place =>
    match files (Path.below root place) with
    | some ⟨false, modified⟩ => some ⟨Path.below root place, modified⟩
    | _ => none

variable {roots : List Path} {files : FileView} {c d : Candidate}

theorem mem_builds_iff :
    c ∈ builds roots files ↔ files c.path = some ⟨false, c.modified⟩
      ∧ ∃ root ∈ roots, ∃ place ∈ places, c.path = Path.below root place := by
  unfold builds
  simp only [List.mem_flatMap, List.mem_filterMap]
  constructor
  . rintro ⟨root, hroot, place, hplace, h⟩
    split at h
    . next modified hfile =>
      cases h
      exact ⟨hfile, root, hroot, place, hplace, rfl⟩
    . contradiction
  . rintro ⟨hfile, root, hroot, place, hplace, hpath⟩
    refine ⟨root, hroot, place, hplace, ?_⟩
    rw [← hpath, hfile]

theorem modified_eq_of_mem_builds (hc : c ∈ builds roots files) (hd : d ∈ builds roots files)
    (hpath : d.path = c.path) : d.modified = c.modified := by
  have hfile := (mem_builds_iff.mp hd).1
  rw [hpath, (mem_builds_iff.mp hc).1] at hfile
  injection hfile with hfile
  injection hfile with _ hmodified
  exact hmodified.symm

theorem probe_eq (path : Path) :
    probe files path
      =
    match files path with
    | some ⟨false, modified⟩ => some ⟨path, modified⟩
    | _ => none := by
  unfold probe
  split
  . next status hfile =>
    rw [hfile]
    obtain ⟨isFolder, modified⟩ := status
    cases isFolder <;> rfl
  . next hfile => rw [hfile]

theorem candidates_eq_builds {config : LocatorConfig}
    (hroots : ∀ root ∈ config.sourceRoots, root.bytes ≠ []) :
    Locator.candidates config files = builds config.sourceRoots files := by
  unfold Locator.candidates builds
  rw [List.filterMap_flatMap]
  apply List.flatMap_congr
  intro root hroot
  rw [layouts_eq (hroots root hroot), List.filterMap_map]
  apply List.filterMap_congr
  intro place _
  exact probe_eq _

theorem isFirstNewest_builds_iff :
    IsFirstNewest (builds roots files) c
      ↔
    ∃ front rest, builds roots files = front ++ c :: rest
      ∧ (∀ d ∈ front, d.path ≠ c.path ∧ d.modified.IsBefore c.modified)
      ∧ ∀ d ∈ builds roots files, ¬ c.modified.IsBefore d.modified := by
  constructor
  . rintro ⟨front, rest, heq, hfront, hrest⟩
    have hc : c ∈ builds roots files := by simp [heq]
    refine ⟨front, rest, heq, ?_, ?_⟩
    . intro d hd
      refine ⟨?_, hfront d hd⟩
      intro hpath
      have hbefore := hfront d hd
      rw [modified_eq_of_mem_builds hc (by simp [heq, hd]) hpath] at hbefore
      exact Time.not_isBefore_self hbefore
    . intro d hd
      exact IsFirstNewest.not_isBefore ⟨front, rest, heq, hfront, hrest⟩ hd
  . rintro ⟨front, rest, heq, hfront, hnewest⟩
    refine ⟨front, rest, heq, fun d hd => (hfront d hd).2, ?_⟩
    intro d hd
    exact Time.not_isBefore_iff.mp (hnewest d (by simp [heq, hd]))

end Candidate

namespace LocatorConfig

variable {lookup : String → Option RawText}

def checkouts (lookup : String → Option RawText) : List Path :=
  [lookup "NC_ROOT", lookup "NK_ROOT"].filterMap fun value =>
    value.filter fun root => root.bytes ≠ []

theorem mem_checkouts_iff {root : Path} :
    root ∈ checkouts lookup
      ↔ root.bytes ≠ [] ∧ (lookup "NC_ROOT" = some root ∨ lookup "NK_ROOT" = some root) := by
  unfold checkouts
  simp only [List.mem_filterMap, List.mem_cons, List.not_mem_nil, or_false,
    Option.filter_eq_some_iff, decide_eq_true_eq]
  constructor
  . rintro ⟨value, hvalue, rfl, hbytes⟩
    exact ⟨hbytes, hvalue.imp Eq.symm Eq.symm⟩
  . rintro ⟨hbytes, hvalue⟩
    exact ⟨some root, hvalue.imp Eq.symm Eq.symm, rfl, hbytes⟩

theorem nonEmpty?_eq (name : String) :
    nonEmpty? lookup name = (lookup name).filter fun value => value.bytes ≠ [] := by
  unfold nonEmpty?
  congr 1
  funext value
  rw [Bool.eq_iff_iff]
  simp [RawText.isEmpty]

theorem sourceRoots_ofLookup : (ofLookup lookup).sourceRoots = checkouts lookup := by
  show rootVariables.filterMap (nonEmpty? lookup) = _
  rw [funext nonEmpty?_eq]
  rfl

theorem installFolder_ofLookup
    (h : ∀ folder, lookup "NEON_INSTALL_FOLDER" = some folder → folder.bytes = []) :
    (ofLookup lookup).installFolder = none := by
  show nonEmpty? lookup installVariable = none
  rw [nonEmpty?_eq, Option.filter_eq_none_iff]
  intro folder hfolder
  simp [h folder hfolder]

end LocatorConfig

namespace Locator

variable {s : System} {past : List Request}

theorem locate_neonCli_eq {config : LocatorConfig} :
    (after (locate s.host config .neonCli) past).1 = neonCli config (s.files past) := by
  rw [locate_eq, after_bind, after_bind]
  rfl

theorem neonCli_eq_ok_iff {config : LocatorConfig} {files : FileView} {found : Resolved}
    (h : config.installFolder = none) :
    neonCli config files = .ok found
      ↔
    ∃ c, Candidate.mostRecent (candidates config files) = some c
      ∧ found = ⟨.neonCli, c.path, .sourceRoot⟩ := by
  unfold neonCli
  rw [h]
  dsimp only
  split
  . next c hc => simp [hc, eq_comm]
  . next hc => simp [hc]

theorem neonCli_eq_error_iff {config : LocatorConfig} {files : FileView}
    (h : config.installFolder = none) :
    neonCli config files = .error (.cannotLocate .neonCli) ↔ candidates config files = [] := by
  rw [← Candidate.mostRecent_eq_none_iff]
  unfold neonCli
  rw [h]
  dsimp only
  split
  . next hc => simp [hc]
  . next hc => simp [hc]

theorem candidates_ofLookup {lookup : String → Option RawText} {files : FileView} :
    candidates (.ofLookup lookup) files
      =
    Candidate.builds (LocatorConfig.checkouts lookup) files := by
  rw [Candidate.candidates_eq_builds]
  . rw [LocatorConfig.sourceRoots_ofLookup]
  . intro root hroot
    rw [LocatorConfig.sourceRoots_ofLookup, LocatorConfig.mem_checkouts_iff] at hroot
    exact hroot.1

/-- Where no installation is named, the neon-cli that is found is the first of the most recent
builds below the checkouts that are named, and none is found only if there is no build. What is
found lies below a checkout whose name is not empty. -/
theorem locate_neonCli_mostRecent (s : System) (lookup : String → Option RawText)
    (past : List Request)
    (hfolder : ∀ folder, lookup "NEON_INSTALL_FOLDER" = some folder → folder.bytes = []) :
    let outcome := (after (locate s.host (.ofLookup lookup) .neonCli) past).1
    let builds := Candidate.builds (LocatorConfig.checkouts lookup) (s.files past)
    (∀ p, outcome = .ok ⟨.neonCli, p, .sourceRoot⟩ ↔
      ∃ front c rest, builds = front ++ c :: rest ∧ c.path = p
        ∧ (∀ d ∈ front, d.path ≠ p ∧ d.modified.IsBefore c.modified)
        ∧ ∀ d ∈ builds, ¬ c.modified.IsBefore d.modified)
      ∧ (outcome = .error (.cannotLocate .neonCli) ↔ builds = [])
      ∧ (∀ found, outcome = .ok found → found.tool = .neonCli ∧ found.source = .sourceRoot
        ∧ ∃ root, (lookup "NC_ROOT" = some root ∨ lookup "NK_ROOT" = some root)
          ∧ root.bytes ≠ [] ∧ root.bytes <+: found.path.bytes) := by
  intro outcome builds
  have hnone := LocatorConfig.installFolder_ofLookup hfolder
  have houtcome : outcome = neonCli (.ofLookup lookup) (s.files past) := locate_neonCli_eq
  have hok : ∀ found, outcome = .ok found
      ↔ ∃ c, Candidate.IsFirstNewest builds c ∧ found = ⟨.neonCli, c.path, .sourceRoot⟩ := by
    intro found
    rw [houtcome, neonCli_eq_ok_iff hnone, candidates_ofLookup]
    simp only [Candidate.mostRecent_eq_some_iff]
    rfl
  refine ⟨?_, ?_, ?_⟩
  . intro p
    rw [hok]
    constructor
    . rintro ⟨c, hc, hfound⟩
      injection hfound with _ hpath
      subst hpath
      obtain ⟨front, rest, heq, hfront, hnewest⟩ := Candidate.isFirstNewest_builds_iff.mp hc
      exact ⟨front, c, rest, heq, rfl, hfront, hnewest⟩
    . rintro ⟨front, c, rest, heq, rfl, hfront, hnewest⟩
      exact ⟨c, Candidate.isFirstNewest_builds_iff.mpr ⟨front, rest, heq, hfront, hnewest⟩, rfl⟩
  . rw [houtcome, neonCli_eq_error_iff hnone, candidates_ofLookup]
  . intro found hfound
    obtain ⟨c, ⟨front, rest, heq, _⟩, rfl⟩ := (hok found).mp hfound
    have hc : c ∈ builds := by simp [heq]
    obtain ⟨_, root, hroot, place, _, hpath⟩ := Candidate.mem_builds_iff.mp hc
    obtain ⟨hbytes, hvalue⟩ := LocatorConfig.mem_checkouts_iff.mp hroot
    refine ⟨rfl, rfl, root, hvalue, hbytes, ?_⟩
    rw [hpath]
    exact Path.bytes_isPrefix_below root place

def oldBuilds : FileView := fun path =>
  if path = "/nc/Build/neon-cli/neon-cli" then some ⟨false, ⟨-20, 0⟩⟩
  else if path = "/nc/Tools/neon-cli/bin/Debug/net7.0/linux-x64/neon-cli" then some ⟨true, ⟨9, 0⟩⟩
  else if path = "/nk/Build/neon-cli/neon-cli" then some ⟨false, ⟨-10, 0⟩⟩
  else if path = "/nk/Tools/neon-cli/bin/Release/net7.0/linux-x64/neon-cli" then
    some ⟨false, ⟨-10, 0⟩⟩
  else none

def twoCheckouts : String → Option RawText
  | "NEON_INSTALL_FOLDER" => some ""
  | "NC_ROOT" => some "/nc"
  | "NK_ROOT" => some "/nk"
  | _ => none

theorem locate_neonCli_mostRecent_equallyOld :
    (∀ folder, twoCheckouts "NEON_INSTALL_FOLDER" = some folder → folder.bytes = [])
      ∧ (after (locate (System.host ⟨fun _ => oldBuilds, fun _ _ _ => .ended (.exited 0) "",
          fun _ _ => .ok 0⟩) (.ofLookup twoCheckouts) .neonCli) []).1
        = .ok ⟨.neonCli, "/nk/Build/neon-cli/neon-cli", .sourceRoot⟩ := by
  have hfolder : ∀ folder,
      twoCheckouts "NEON_INSTALL_FOLDER" = some folder → folder.bytes = [] := by
    rintro folder ⟨⟩
    rfl
  have hbuilds : Candidate.builds (LocatorConfig.checkouts twoCheckouts) oldBuilds
      = [⟨"/nc/Build/neon-cli/neon-cli", ⟨-20, 0⟩⟩, ⟨"/nk/Build/neon-cli/neon-cli", ⟨-10, 0⟩⟩,
        ⟨"/nk/Tools/neon-cli/bin/Release/net7.0/linux-x64/neon-cli", ⟨-10, 0⟩⟩] := by
    decide +kernel
  refine ⟨hfolder, ?_⟩
  refine ((locate_neonCli_mostRecent _ _ [] hfolder).1 _).mpr ⟨[_], _, [_], hbuilds, rfl, ?_, ?_⟩
  . decide
  . dsimp only [System.host]
    rw [hbuilds]
    decide

end Locator

end KubePlugin
