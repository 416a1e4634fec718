import KubePlugin.Proofs.Locator.MostRecent

namespace KubePlugin

open Stateful

namespace Locator

def HasFile (files : FileView) (path : Path) : Prop :=
  ∃ modified, files path = some ⟨false, modified⟩

theorem isFile_iff {files : FileView} {path : Path} :
    isFile files path = true ↔ HasFile files path := by
  unfold isFile HasFile
  split
  . next status hfile =>
    rcases status with ⟨isFolder, modified⟩
    simp [hfile]
  . next hfile => simp [hfile]

instance (files : FileView) (path : Path) : Decidable (HasFile files path) :=
  decidable_of_iff (isFile files path = true) isFile_iff

def installed (folder : Path) (files : FileView) : Tool → Path
  | .neonCli => Path.below folder "neon-cli"
  | .helm =>
    if HasFile files (Path.below folder "helm") ∧ ¬ HasFile files (Path.below folder "tools/helm")
    then Path.below folder "helm"
    else Path.below folder "tools/helm"

variable {s s' : System} {past past' : List Request} {config : LocatorConfig} {folder : Path}
  {files files' : FileView}

theorem helmInTools_eq (hfolder : folder.bytes ≠ []) :
    helmInTools folder = Path.below folder "tools/helm" := by
  unfold helmInTools
  rw [Path.joinAll_parts hfolder (by decide)]
  rfl

theorem helmAtRoot_eq (hfolder : folder.bytes ≠ []) :
    helmAtRoot folder = Path.below folder "helm" := by
  unfold helmAtRoot
  rw [Path.join_part hfolder (by decide)]
  rfl

theorem installedHelm_eq (hfolder : folder.bytes ≠ []) :
    installedHelm folder files = installed folder files .helm := by
  unfold installedHelm installed
  rw [helmInTools_eq hfolder, helmAtRoot_eq hfolder]
  simp only [isFile_iff]
  split
  . next htools => rw [if_neg (by simp [htools])]
  . next htools =>
    split
    . next hroot => rw [if_pos ⟨hroot, htools⟩]
    . next hroot => rw [if_neg (by simp [hroot])]

theorem plan_of_installFolder (h : config.installFolder = some folder) (hfolder : folder.bytes ≠ [])
    (tool : Tool) :
    plan config files tool
      = .settled (.ok ⟨tool, installed folder files tool, .installFolder⟩) := by
  cases tool with
  | neonCli =>
    unfold plan neonCli
    rw [h]
    dsimp only
    rw [Path.join_part hfolder (by decide)]
    rfl
  | helm =>
    unfold plan
    rw [h]
    dsimp only
    rw [installedHelm_eq hfolder]

theorem locate_of_installFolder (h : config.installFolder = some folder)
    (hfolder : folder.bytes ≠ []) (tool : Tool) :
    let found : Resolved := ⟨tool, installed folder (s.files past) tool, .installFolder⟩
    after (locate s.host config tool) past
      =
    (.ok found, past ++ [.files, .log (resolvedEvent found)]) := by
  intro found
  rw [locate_of_settled (plan_of_installFolder h hfolder tool)]
  simp [searchEvents, h, resolvedEvents, found]

theorem installFolder_ofLookup_eq {lookup : String → Option RawText}
    (h : lookup "NEON_INSTALL_FOLDER" = some folder) (hfolder : folder.bytes ≠ []) :
    (LocatorConfig.ofLookup lookup).installFolder = some folder := by
  show LocatorConfig.nonEmpty? lookup LocatorConfig.installVariable = some folder
  rw [LocatorConfig.nonEmpty?_eq,
    show LocatorConfig.installVariable = "NEON_INSTALL_FOLDER" from rfl,
    h]
  simp [Option.filter, hfolder]

theorem installed_congr
    (h : ∀ place ∈ ["tools/helm", "helm"],
      HasFile files (Path.below folder place) ↔ HasFile files' (Path.below folder place))
    (tool : Tool) : installed folder files tool = installed folder files' tool := by
  cases tool with
  | neonCli => rfl
  | helm =>
    have htools := h "tools/helm" (by simp)
    have hroot := h "helm" (by simp)
    unfold installed
    simp only [htools, hroot]

/-- Where the folder of an installation is named, each tool is found in it, from one look at the
files and without a process: neon-cli whether it is there or not, and helm at the root only if it is
there and not among the tools. Nothing else that can differ between two systems has an influence. -/
theorem locate_installed_agree (s s' : System) (lookup lookup' : String → Option RawText)
    (past past' : List Request) {folder : Path}
    (hlookup : lookup "NEON_INSTALL_FOLDER" = some folder)
    (hlookup' : lookup' "NEON_INSTALL_FOLDER" = some folder) (hfolder : folder.bytes ≠ [])
    (hfiles : ∀ place ∈ ["tools/helm", "helm"],
      HasFile (s.files past) (Path.below folder place)
        ↔ HasFile (s'.files past') (Path.below folder place))
    (tool : Tool) :
    ∃ found : Resolved,
      after (locate s.host (.ofLookup lookup) tool) past
        = (.ok found, past ++ [.files, .log (resolvedEvent found)])
      ∧ after (locate s'.host (.ofLookup lookup') tool) past'
        = (.ok found, past' ++ [.files, .log (resolvedEvent found)])
      ∧ found.tool = tool ∧ found.source = .installFolder
      ∧ found.path = match tool with
        | .neonCli => Path.below folder "neon-cli"
        | .helm =>
          if HasFile (s.files past) (Path.below folder "helm")
              ∧ ¬ HasFile (s.files past) (Path.below folder "tools/helm")
          then Path.below folder "helm"
          else Path.below folder "tools/helm" := by
  refine ⟨⟨tool, installed folder (s.files past) tool, .installFolder⟩, ?_, ?_, rfl, rfl, ?_⟩
  . exact locate_of_installFolder (installFolder_ofLookup_eq hlookup hfolder) hfolder tool
  . rw [installed_congr hfiles]
    exact locate_of_installFolder (installFolder_ofLookup_eq hlookup' hfolder) hfolder tool
  . cases tool <;> rfl

def installedWith (checkout : Option RawText) : String → Option RawText
  | "NEON_INSTALL_FOLDER" => some "/opt/neon/"
  | "NC_ROOT" => checkout
  | _ => none

def helmOnlyAtRoot : FileView := fun path =>
  if path = "/opt/neon/tools/helm" then some ⟨true, ⟨7, 0⟩⟩
  else if path = "/opt/neon/helm" then some ⟨false, ⟨8, 0⟩⟩
  else none

def helmBesideBuild : FileView := fun path =>
  if path = "/opt/neon/helm" then some ⟨false, ⟨-8, 0⟩⟩
  else if path = "/nc/Build/neon-cli/neon-cli" then some ⟨false, ⟨9, 0⟩⟩
  else none

theorem locate_installed_agree_atRoot :
    ∃ found : Resolved, found.path = "/opt/neon/helm"
      ∧ (after (locate (System.host ⟨fun _ => helmOnlyAtRoot,
          fun _ _ _ => .notStarted (.os 2), fun _ _ => .ok 0⟩)
            (.ofLookup (installedWith none)) .helm) []).1 = .ok found
      ∧ (after (locate (System.host ⟨fun _ => helmBesideBuild,
          fun _ _ _ => .ended (.exited 0) "/usr/bin/helm", fun _ _ => .ok 0⟩)
            (.ofLookup (installedWith (some "/nc"))) .helm) []).1 = .ok found := by
  have hfiles : ∀ place ∈ ["tools/helm", "helm"],
      HasFile helmOnlyAtRoot (Path.below "/opt/neon/" place)
        ↔ HasFile helmBesideBuild (Path.below "/opt/neon/" place) := by decide +kernel
  obtain ⟨found, hfound, hfound', _, _, hpath⟩ := locate_installed_agree
    ⟨fun _ => helmOnlyAtRoot, fun _ _ _ => .notStarted (.os 2), fun _ _ => .ok 0⟩
    ⟨fun _ => helmBesideBuild, fun _ _ _ => .ended (.exited 0) "/usr/bin/helm", fun _ _ => .ok 0⟩
    (installedWith none) (installedWith (some "/nc")) [] [] rfl rfl (by decide) hfiles .helm
  refine ⟨found, ?_, ?_, ?_⟩
  . rw [hpath]
    decide +kernel
  . rw [hfound]
  . rw [hfound']

end Locator

end KubePlugin
