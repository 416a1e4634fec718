import KubePlugin.Proofs.Locator.MostRecent
import KubePlugin.Proofs.Text.Blank

namespace KubePlugin

open Stateful

def Request.captures (requests : List Request) : List (Path × List String) :=
  requests.filterMap fun r =>
    match r with
    | .capture program args => some (program, args)
    | _ => none

open Request

theorem Request.captures_map_log (events : List Log.Event) : captures (events.map .log) = [] := by
  unfold captures
  rw [List.filterMap_map, List.filterMap_eq_nil_iff]
  intro e _
  rfl

theorem Request.captures_append (first second : List Request) :
    captures (first ++ second) = captures first ++ captures second :=
  List.filterMap_append

theorem Traced.after_log {s : System} (e : Log.Event) (past : List Request) :
    after (s.host.log e) past = ((), past ++ [.log e]) := rfl

theorem Traced.after_capture {s : System} (program : Path) (args : List String)
    (past : List Request) :
    after (s.host.capture program args) past
      =
    (s.capture past program args, past ++ [.capture program args]) := rfl

namespace Locator

/-- What a neon-cli that was asked for helm leads to, by what became of it. What it wrote counts
only if it ended with success. -/
inductive Told (neonCli : Path) : Capture → Except PluginError Resolved → Prop where
  | notStarted (cause : IoError) :
    Told neonCli (.notStarted cause)
      (.error (.toolPath .helm neonCli ("failed to launch: " ++ cause.message)))
  | failed {status : WaitStatus} (output : RawText) : status.code? ≠ some 0 →
    Told neonCli (.ended status output)
      (.error (.toolPath .helm neonCli ("neon-cli " ++ status.describe)))
  | blank {status : WaitStatus} {output : RawText} : status.code? = some 0 →
    (∀ c ∈ output.lossy.toList, isBlank c) →
    Told neonCli (.ended status output) (.error (.cannotLocate .helm))
  | answered {status : WaitStatus} {output : RawText} : status.code? = some 0 →
    (∃ c ∈ output.lossy.toList, ¬ isBlank c) →
    Told neonCli (.ended status output)
      (.ok ⟨.helm, RawText.ofString (trimmed output.lossy), .toolPath⟩)

theorem isEmpty_readPath_iff (output : RawText) :
    (readPath output).isEmpty = true ↔ ∀ c ∈ output.lossy.toList, isBlank c := by
  unfold readPath trimmed
  rw [String.isEmpty_iff, ← String.toList_inj, String.toList_ofList]
  exact trim_eq_nil_iff

theorem told_answer (neonCli : Path) (captured : Capture) :
    Told neonCli captured (answer .helm neonCli captured) := by
  unfold answer
  split
  . next cause => exact .notStarted cause
  . next status output =>
    unfold WaitStatus.succeeded
    split
    . next hstatus =>
      have hcode : status.code? = some 0 := by simpa using hstatus
      split
      . next hempty => exact .blank hcode ((isEmpty_readPath_iff output).mp hempty)
      . next hempty =>
        apply Told.answered hcode
        rw [isEmpty_readPath_iff] at hempty
        simpa using hempty
    . next hstatus => exact .failed output (by simpa using hstatus)

variable {s : System} {config : LocatorConfig} {past : List Request}

theorem plan_helm (h : config.installFolder = none) (files : FileView) :
    plan config files .helm
      =
    match neonCli config files with
    | .ok found => .ask found.path
    | .error e => .settled (.error e) := by
  cases hfound : neonCli config files with
  | ok found => simp [plan, h, hfound]
  | error e => simp [plan, h, hfound]

def untilAsking (config : LocatorConfig) (files : FileView) (neonCli : Path) : List Request :=
  .files :: (searchEvents config files ++ [asking .helm neonCli]).map .log

theorem locate_of_ask {neonCli : Path} (h : plan config (s.files past) .helm = .ask neonCli) :
    let before := untilAsking config (s.files past) neonCli
    let outcome := answer .helm neonCli (s.capture (past ++ before) neonCli (question .helm))
    after (locate s.host config .helm) past
      =
    (outcome, past ++ (before ++
      .capture neonCli (question .helm) :: (resolvedEvents outcome).map .log)) := by
  intro before outcome
  have hpast : past ++ [.files] ++ (searchEvents config (s.files past)).map .log
      ++ [.log (asking .helm neonCli)] = past ++ before := by
    simp [before, untilAsking]
  rw [locate_eq, after_bind, Traced.after_files]
  dsimp only
  rw [after_bind, Traced.after_logAll, h]
  dsimp only
  rw [after_bind, Traced.after_log]
  dsimp only
  rw [hpast, after_bind, Traced.after_capture]
  dsimp only
  rw [after_bind, Traced.after_logAll, after_pure]
  simp [outcome]

theorem captures_untilAsking (files : FileView) (neonCli : Path) :
    captures (untilAsking config files neonCli) = [] := captures_map_log _

theorem exists_candidate_of_neonCli {files : FileView} {found : Resolved}
    (h : config.installFolder = none) (hfound : neonCli config files = .ok found) :
    ∃ c ∈ candidates config files, c.path = found.path := by
  obtain ⟨c, hc, rfl⟩ := (neonCli_eq_ok_iff h).mp hfound
  obtain ⟨front, rest, heq, _⟩ := Candidate.isFirstNewest_of_mostRecent hc
  exact ⟨c, by simp [heq], rfl⟩

theorem eq_cannotLocate_of_neonCli {files : FileView} {e : PluginError}
    (h : config.installFolder = none) (he : neonCli config files = .error e) :
    e = .cannotLocate .neonCli ∧ candidates config files = [] := by
  have heq : e = .cannotLocate .neonCli := by
    unfold neonCli at he
    rw [h] at he
    dsimp only at he
    split at he
    . contradiction
    . injection he with he
      exact he.symm
  subst heq
  exact ⟨rfl, (neonCli_eq_error_iff h).mp he⟩

theorem run_of_locate {tool : Tool} {outcome : Except PluginError Resolved} {new : List Request}
    (h : after (locate s.host config tool) past = (outcome, past ++ new))
    (args : List RawText) (mode : LaunchMode) :
    ∃ result launched,
      after (Command.run s.host config tool args mode) past
        = (result, past ++ new ++ launched)
      ∧ (∀ e, outcome = .error e → result = .error e ∧ launched = [])
      ∧ ∀ found, outcome = .ok found →
        launched = [.launch ⟨tool, found.path, args, mode⟩]
          ∧ result = s.launch (past ++ new) ⟨tool, found.path, args, mode⟩ := by
  cases outcome with
  | error e =>
    refine ⟨.error e, [], ?_, ?_, ?_⟩
    . rw [Command.run_of_not_located h, List.append_nil]
    . rintro e' ⟨⟩
      exact ⟨rfl, rfl⟩
    . intro found hfound
      contradiction
  | ok found =>
    refine ⟨_, _, Command.run_of_located h, ?_, ?_⟩
    . intro e he
      contradiction
    . rintro found' ⟨⟩
      exact ⟨rfl, rfl⟩

theorem launches_of_locate {tool : Tool} {outcome : Except PluginError Resolved}
    {new : List Request}
    (h : after (locate s.host config tool) past = (outcome, past ++ new)) :
    launches new = [] := by
  obtain ⟨search, hsearch, hquiet⟩ := locate_launchless s config tool past
  rw [h] at hsearch
  rwa [List.append_cancel_left hsearch]

/-- Where no installation is named, the search for helm runs at most one program: the neon-cli that
is found in the same files, with the question for helm. It runs none if no neon-cli is found, which
is its outcome then; else the outcome is what that neon-cli leads to. Helm itself is launched after
a search that found it, and after no other. -/
theorem locate_helm_delegates (s : System) {config : LocatorConfig}
    (h : config.installFolder = none) (past : List Request) :
    ∃ outcome new, after (locate s.host config .helm) past = (outcome, past ++ new)
      ∧ launches new = []
      ∧ (match (after (locate s.host config .neonCli) past).1 with
        | .error e => candidates config (s.files past) = [] ∧ e = .cannotLocate .neonCli
          ∧ captures new = [] ∧ outcome = .error (.cannotLocate .neonCli)
        | .ok found => (∃ c ∈ candidates config (s.files past), c.path = found.path)
          ∧ captures new = [(found.path, ["toolpath", "helm"])]
          ∧ ∃ before after, new = before ++ .capture found.path ["toolpath", "helm"] :: after
            ∧ Told found.path (s.capture (past ++ before) found.path ["toolpath", "helm"]) outcome)
      ∧ ∀ args mode, ∃ result launched,
        after (Command.run s.host config .helm args mode) past
          = (result, past ++ new ++ launched)
        ∧ (∀ e, outcome = .error e → result = .error e ∧ launched = [])
        ∧ ∀ found, outcome = .ok found →
          launched = [.launch ⟨.helm, found.path, args, mode⟩]
            ∧ result = s.launch (past ++ new) ⟨.helm, found.path, args, mode⟩ := by
  rw [locate_neonCli_eq]
  cases hneonCli : neonCli config (s.files past) with
  | error e =>
    obtain ⟨rfl, hnone⟩ := eq_cannotLocate_of_neonCli h hneonCli
    have hplan : plan config (s.files past) .helm = .settled (.error (.cannotLocate .neonCli)) := by
      rw [plan_helm h, hneonCli]
    have hlocate := locate_of_settled hplan
    refine ⟨_, _, hlocate, launches_of_locate hlocate, ⟨hnone, rfl, ?_, rfl⟩, run_of_locate hlocate⟩
    exact captures_map_log _
  | ok found =>
    have hplan : plan config (s.files past) .helm = .ask found.path := by
      rw [plan_helm h, hneonCli]
    have hlocate := locate_of_ask hplan
    refine ⟨_, _, hlocate, launches_of_locate hlocate, ⟨?_, ?_, ?_⟩, run_of_locate hlocate⟩
    . exact exists_candidate_of_neonCli h hneonCli
    . rw [captures_append, captures_untilAsking, List.nil_append]
      exact congrArg (List.cons _) (captures_map_log _)
    . exact ⟨_, _, rfl, told_answer _ _⟩

def oneCheckout : LocatorConfig := ⟨none, ["/nc"]⟩

def oneBuild : FileView := fun path =>
  if path = "/nc/Build/neon-cli/neon-cli" then some ⟨false, ⟨5, 0⟩⟩ else none

def killedNeonCli : System :=
  ⟨fun _ => oneBuild, fun _ _ _ => .ended (.killed 9) "/opt/helm", fun _ _ => .ok 0⟩

theorem locate_helm_delegates_killed :
    oneCheckout.installFolder = none
      ∧ ∃ new, after (locate killedNeonCli.host oneCheckout .helm) []
          = (.error (.toolPath .helm "/nc/Build/neon-cli/neon-cli" "neon-cli signal: 9 (SIGKILL)"),
            new)
        ∧ captures new
          = [(RawText.ofString "/nc/Build/neon-cli/neon-cli", ["toolpath", "helm"])] := by
  obtain ⟨outcome, new, hlocate, _, hasked, _⟩ :=
    locate_helm_delegates killedNeonCli (show oneCheckout.installFolder = none from rfl) []
  have hneonCli : (after (locate killedNeonCli.host oneCheckout .neonCli) []).1
      = .ok ⟨.neonCli, "/nc/Build/neon-cli/neon-cli", .sourceRoot⟩ := by
    decide +kernel
  rw [hneonCli] at hasked
  obtain ⟨_, hcaptures, before, after, _, htold⟩ := hasked
  refine ⟨rfl, new, ?_, hcaptures⟩
  cases htold with
  | failed output hstatus => exact hlocate
  | blank hstatus hblank => contradiction
  | answered hstatus hshown => contradiction

end Locator
end KubePlugin
