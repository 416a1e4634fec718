import KubePlugin.Proofs.Automation.Plan
import KubePlugin.Proofs.Automation.Site

namespace KubePlugin.Automation

open BuildTask Stateful

namespace Setting

variable {σ : Type} (w : Setting σ) (files : σ)

def State.commands (st : State σ) : List CommandWords := st.attempts.filterMap (·.deed.command?)

structure HasOnlyRun (words : CommandWords) (st : State σ) : Prop where
  commands_eq : st.commands = [words]
  files_eq : st.files = (w.run words files).2
  changes_nothing : ∀ a ∈ st.attempts, a.deed.changesFiles = false

structure StopsAtFailure (task : BuildTask) (ending : Ending) (st : State σ) : Prop where
  commands_prefix : st.commands <+: task.commands (w.hasBinary files)
  nothing_later : ∀ before a later, st.attempts = before ++ a :: later → a.succeeded = false →
    later = []
  code_cases : ending.code = some 0 ∨ ending.code = some 1
  code_eq_zero_iff : ending.code = some 0 ↔ ∀ a ∈ st.attempts, a.succeeded = true
  whole_plan : ending.code = some 0 → List.Forall₂ (fun d a => d.IsDoneAs a.deed)
    (task.plan w.root (w.hasBinary files)) st.attempts
  lastLine_said_iff : .say task.lastLine ∈ st.attempts.map (·.deed) ↔ ending.code = some 0
  dist_of_not_built : ∀ target, task = .dist target →
    isSuccess (w.run (releaseCommand target) files).1 = false →
      w.HasOnlyRun files (releaseCommand target) st
  install_of_not_built : ∀ place, task = .install place → w.hasBinary files = false →
    isSuccess (w.run (releaseCommand none) files).1 = false →
      w.HasOnlyRun files (releaseCommand none) st
  not_packed : ∀ source path target, ⟨.copy source path, false⟩ ∈ st.attempts →
    packCommand target ∉ st.commands

variable {w files} {task : BuildTask}

theorem hasOnlyRun_of_failed {words : CommandWords} (lines : List String) (rest : List Deed)
    (h : isSuccess (w.run words files).1 = false) {c : Course σ}
    (hc : c = w.course (lines.map .say ++ (commandDeeds words ++ rest)) files) :
    w.HasOnlyRun files words ⟨c.files, c.attempts⟩ := by
  rw [hc, course_says, course_of_failed_command h]
  refine ⟨?_, rfl, ?_⟩
  . simp [State.commands, Deed.command?, List.filterMap_append]
  . intro a ha
    simp only [List.mem_append, List.mem_map, List.mem_cons, List.not_mem_nil, or_false] at ha
    rcases ha with ⟨line, _, rfl⟩ | rfl | rfl
    . rfl
    . rfl
    . rfl

theorem after_runTask {color : Bool} {argv : List RawText} (h : parseTask argv = .ok task)
    (st : State σ) :
    after (runTask w.workshop color argv) st
      =
    (endingOf (after (task.work w.workshop).run st).1,
      (after (task.work w.workshop).run st).2) := by
  unfold runTask
  rw [h]
  rfl

theorem code_endingOf (outcome : Except Failure Unit) :
    (endingOf outcome).code = if outcome.isOk then some 0 else some 1 := by
  cases outcome with
  | ok => rfl
  | error => rfl

theorem packCommand_ne_of_head?_eq {words : CommandWords} (h : words.head? = some "cargo")
    (target : Option String) : packCommand target ≠ words := by
  rintro rfl
  have htar : some "tar" = some "cargo" := h
  simp at htar

theorem head?_releaseCommand (target : Option String) :
    (releaseCommand target).head? = some "cargo" := by
  cases target with
  | none => rfl
  | some => rfl

theorem head?_of_mem_commands {words : CommandWords} {there : Bool}
    (hdist : ∀ target, task ≠ .dist target) (h : words ∈ task.commands there) :
    words.head? = some "cargo" := by
  cases task with
  | dist target => exact absurd rfl (hdist target)
  | build release =>
    cases release <;> rw [List.mem_singleton.mp h] <;> rfl
  | test integration =>
    cases integration <;> rw [List.mem_singleton.mp h] <;> rfl
  | install place =>
    cases there with
    | true => contradiction
    | false =>
      rw [List.mem_singleton.mp h]
      rfl
  | ci =>
    simp only [BuildTask.commands, List.mem_cons, List.not_mem_nil, or_false] at h
    rcases h with rfl | rfl | rfl
    . rfl
    . rfl
    . rfl
  | format check =>
    cases check <;> rw [List.mem_singleton.mp h] <;> rfl
  | clippy =>
    rw [List.mem_singleton.mp h]
    rfl

theorem packCommand_notMem_of_failed_copy {source path : Path} {target : Option String}
    (h : ⟨.copy source path, false⟩
      ∈ (w.course (task.plan w.root (w.hasBinary files)) files).attempts) :
    packCommand target
      ∉ (w.course (task.plan w.root (w.hasBinary files)) files).attempts.filterMap
        (·.deed.command?) := by
  by_cases hdist : ∃ target, task = .dist target
  . obtain ⟨target, rfl⟩ := hdist
    have hplan : (BuildTask.dist target).plan w.root (w.hasBinary files)
        = stageSteps w.root target
          ++ (commandDeeds (packCommand target) ++ [.say (packedLine target)]) :=
      List.append_assoc _ _ _
    rw [hplan] at h ⊢
    -- No copy is planned behind the stage, so the one that failed ends it.
    have hrest : ∀ d ∈ commandDeeds (packCommand target) ++ [.say (packedLine target)],
        ¬ d.IsDoneAs (.copy source path) := by
      intro d hd hdone
      obtain ⟨path', rfl⟩ := hdone.exists_eq_copy
      simp [commandDeeds] at hd
    rw [course_append_of_failed h hrest]
    intro hmem
    have hcommands := (w.command?_prefix _ files).subset hmem
    rw [filterMap_command?_stageSteps, List.mem_singleton] at hcommands
    exact packCommand_ne_of_head?_eq (head?_releaseCommand _) _ hcommands
  -- The other tasks run nothing but cargo.
  . intro hmem
    have hcommands := (w.command?_prefix _ files).subset hmem
    rw [task.filterMap_command?_plan] at hcommands
    have hcargo := head?_of_mem_commands (fun target heq => hdist ⟨target, heq⟩) hcommands
    exact packCommand_ne_of_head?_eq hcargo target rfl

/-- Every task stops at its first failure, wherever it is done and however its steps end. -/
theorem runTask_stopsAtFailure (w : Setting σ) (files : σ) (color : Bool) {argv : List RawText}
    {task : BuildTask} (h : parseTask argv = .ok task) :
    let ended := after (runTask w.workshop color argv) ⟨files, []⟩
    w.StopsAtFailure files task ended.1 ended.2 := by
  obtain ⟨outcome, hok, hwork⟩ := w.carries_work files task []
  rw [after_runTask h, hwork, List.nil_append]
  have hcode : (endingOf outcome).code = some 0
      ↔ (w.course (task.plan w.root (w.hasBinary files)) files).isComplete = true := by
    rw [code_endingOf, hok]
    split
    . next hcomplete => simp [hcomplete]
    . next hcomplete => simp [hcomplete]
  refine ⟨?_, ?_, ?_, ?_, ?_, ?_, ?_, ?_, ?_⟩
  . rw [← task.filterMap_command?_plan w.root]
    exact w.command?_prefix _ files
  . exact fun before a later heq hfailed => eq_nil_of_failed heq hfailed
  . rw [code_endingOf]
    split
    . exact .inl rfl
    . exact .inr rfl
  . exact hcode.trans (w.isComplete_iff _ files)
  . exact fun hzero => forall₂_of_isComplete (hcode.mp hzero)
  . exact (say_mem_iff (task.lastLine_notMem_steps _ _)).trans hcode.symm
  . rintro target rfl hfailed
    exact hasOnlyRun_of_failed ["📦 Creating distribution package..."] _ hfailed rfl
  . rintro place rfl hmissing hfailed
    rw [hmissing]
    exact hasOnlyRun_of_failed
      [s!"📥 Installing {binary} to {place}...", "Building release binary first..."] _ hfailed rfl
  . exact fun source path target => packCommand_notMem_of_failed_copy

def ofSite (s : Site) : Setting Machine.Files where
  root := Machine.Shell.pathOf s.workspace
  run := s.run
  isThere path files := (files.status s.workspace path).isSome
  isFolder path files := files.isFolder s.workspace path
  makeFolder path := change fun files => files.makeFolderPath s.workspace s.now path
  copy source target := change fun files => files.copy s.workspace s.now source target
  setMode path mode := change fun files => files.setMode s.here path mode
where
  change (request : Machine.Files → Except IoError Machine.Files) (files : Machine.Files) :
      Except IoError Unit × Machine.Files :=
    match request files with
    | .ok files => (.ok (), files)
    | .error e => (.error e, files)

def idle : Site where
  workspace := ["w"]
  here := ["w"]
  now := ⟨1, 0⟩
  run _ files := (.ok (.exited 0), files)

theorem runTask_stopsAtFailure_dist :
    let files : Machine.Files := ⟨[(["w"], ⟨.folder, ⟨0, 0⟩⟩)]⟩
    let ended := after (runTask (ofSite idle).workshop false ["xtask", "dist"]) ⟨files, []⟩
    parseTask ["xtask", "dist"] = .ok (.dist none)
      ∧ (ofSite idle).StopsAtFailure files (.dist none) ended.1 ended.2
      ∧ ended.1.code = some 1
      ∧ ended.2.commands = [["cargo", "build", "--release"]]
      ∧ ⟨.copy "/w/target/release/neon" "/w/dist/neon", false⟩ ∈ ended.2.attempts := by
  have hargv : parseTask ["xtask", "dist"] = .ok (.dist none) := rfl
  exact ⟨hargv, runTask_stopsAtFailure (ofSite idle) _ false hargv, by decide +kernel,
    by decide +kernel, by decide +kernel⟩

end Setting

end KubePlugin.Automation
