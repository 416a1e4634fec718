import KubePlugin.Proofs.Automation.Course

namespace KubePlugin.Automation

open Setting Stateful

namespace BuildTask

/-- The commands of a task, word by word; `there` tells whether the binary is there that is
installed. -/
def commands (there : Bool) : BuildTask → List CommandWords
  | .build true => [["cargo", "build", "--release"]]
  | .build false => [["cargo", "build"]]
  | .test true => [["cargo", "test", "--test", "cli_test"]]
  | .test false => [["cargo", "test", "--all"]]
  | .dist none =>
    [["cargo", "build", "--release"],
      ["tar", "-czf", "neon-kubectl-0.1.0.tar.gz", "-C", "dist", "neon", "kubectl-neon"]]
  | .dist (some target) =>
    [["cargo", "build", "--release", "--target", target],
      ["tar", "-czf", "neon-kubectl-0.1.0-" ++ target ++ ".tar.gz", "-C", "dist", "neon",
        "kubectl-neon"]]
  | .install _ => if there then [] else [["cargo", "build", "--release"]]
  | .ci =>
    [["cargo", "fmt", "--all", "--", "--check"],
      ["cargo", "clippy", "--all-targets", "--all-features", "--", "-D", "warnings"],
      ["cargo", "test", "--all"]]
  | .format true => [["cargo", "fmt", "--all", "--", "--check"]]
  | .format false => [["cargo", "fmt", "--all"]]
  | .clippy => [["cargo", "clippy", "--all-targets", "--all-features", "--", "-D", "warnings"]]

def builtLine (release : Bool) : String :=
  if release then s!"✅ Release build completed: target/release/{binary}"
  else s!"✅ Debug build completed: target/debug/{binary}"

def packedLine (target : Option String) : String :=
  "✅ Distribution package created: " ++ archiveName target

def lastLine : BuildTask → String
  | .build release => builtLine release
  | .test _ => "✅ All tests passed"
  | .dist target => packedLine target
  | .install _ => "Run \x60kubectl neon --help\x60 to verify the plugin is picked up"
  | .ci => "\n✅ All CI checks passed!"
  | .format check => if check then "✅ Code formatting is correct" else "✅ Code formatted"
  | .clippy => "✅ Clippy checks passed"

def stageSteps (root : Path) (target : Option String) : List Deed :=
  [.say "📦 Creating distribution package..."] ++ commandDeeds (releaseCommand target)
    ++ [.makeFolder (Path.join root (RawText.ofString distFolder))]
    ++ [.copy (Path.join root (releaseBinary target)) (Path.join root (inDist binary))]
    ++ [.copy (Path.join root (releaseBinary target)) (Path.join root (inDist pluginBinary))]

def buildIfMissingSteps (there : Bool) : List Deed :=
  if there then []
  else [.say "Building release binary first..."] ++ commandDeeds (releaseCommand none)

def installAsSteps (root : Path) (place name : String) : List Deed :=
  let path := Path.join (installFolder place) (RawText.ofString name)
  [.copy (Path.join root (releaseBinary none)) (Path.join root path)] ++ [.setMode path 0o755]
    ++ [.say s!"✅ Installed to: {path.lossy}"]

def installSteps (root : Path) (there : Bool) (place : String) : List Deed :=
  [.say s!"📥 Installing {binary} to {place}..."] ++ buildIfMissingSteps there
    ++ [.makeFolder (Path.join root (installFolder place))] ++ installAsSteps root place binary
    ++ installAsSteps root place pluginBinary

def buildSteps (release : Bool) : List Deed :=
  [.say s!"🔨 Building {binary}..."] ++ commandDeeds (buildCommand release)

def distSteps (root : Path) (target : Option String) : List Deed :=
  stageSteps root target ++ commandDeeds (packCommand target)

def testSteps (integration : Bool) : List Deed :=
  [.say "🧪 Running tests..."] ++ commandDeeds (testCommand integration)

def ciSteps : List Deed :=
  [.say "🔍 Running CI checks..."] ++ [.say "\n📝 Checking formatting..."]
    ++ (commandDeeds (formatCommand true) ++ [.say (lastLine (.format true))])
    ++ [.say "\n🔧 Running clippy..."] ++ (commandDeeds clippyCommand ++ [.say (lastLine .clippy)])
    ++ [.say "\n🧪 Running tests..."] ++ (testSteps false ++ [.say (lastLine (.test false))])

def steps (root : Path) (there : Bool) : BuildTask → List Deed
  | .build release => buildSteps release
  | .test integration => testSteps integration
  | .dist target => distSteps root target
  | .install place => installSteps root there place
  | .ci => ciSteps
  | .format check => commandDeeds (formatCommand check)
  | .clippy => commandDeeds clippyCommand

def plan (root : Path) (there : Bool) (task : BuildTask) : List Deed :=
  task.steps root there ++ [.say task.lastLine]

theorem filterMap_command?_plan (task : BuildTask) (root : Path) (there : Bool) :
    (task.plan root there).filterMap Deed.command? = task.commands there := by
  cases task with
  | build release => cases release <;> rfl
  | test integration => cases integration <;> rfl
  | dist target => cases target <;> rfl
  | install place => cases there <;> rfl
  | format check => cases check <;> rfl
  | _ => rfl

theorem filterMap_command?_stageSteps (root : Path) (target : Option String) :
    (stageSteps root target).filterMap Deed.command? = [releaseCommand target] := rfl

theorem ne_of_head?_ne {s t : String} (h : s.toList.head? ≠ t.toList.head?) : s ≠ t :=
  fun heq => h (by rw [heq])

theorem say_mem_commandDeeds_iff {line : String} {words : CommandWords} :
    .say line ∈ commandDeeds words ↔ False := by
  unfold commandDeeds
  simp

theorem say_mem_stageSteps_iff {line : String} {root : Path} {target : Option String} :
    .say line ∈ stageSteps root target ↔ line = "📦 Creating distribution package..." := by
  simp only [stageSteps, List.mem_append, say_mem_commandDeeds_iff, List.mem_singleton,
    Deed.say.injEq, reduceCtorEq, or_false]

theorem say_mem_installAsSteps_iff {line : String} {root : Path} {place name : String} :
    let path := Path.join (installFolder place) (RawText.ofString name)
    .say line ∈ installAsSteps root place name ↔ line = s!"✅ Installed to: {path.lossy}" := by
  simp only [installAsSteps, List.mem_append, List.mem_singleton, Deed.say.injEq, reduceCtorEq,
    false_or]

theorem eq_of_say_mem_buildIfMissingSteps {line : String} {there : Bool}
    (h : .say line ∈ buildIfMissingSteps there) : line = "Building release binary first..." := by
  cases there with
  | true => contradiction
  | false =>
    simpa only [buildIfMissingSteps, Bool.false_eq_true, if_false, List.mem_append,
      say_mem_commandDeeds_iff, List.mem_singleton, Deed.say.injEq, or_false] using h

theorem lastLine_notMem_installSteps (root : Path) (there : Bool) (place : String) :
    .say (lastLine (.install place)) ∉ installSteps root there place := by
  have hinstalled (path : Path) : lastLine (.install place) ≠ s!"✅ Installed to: {path.lossy}" :=
    ne_of_head?_ne (by simp [lastLine, toString])
  have hinstalling : lastLine (.install place) ≠ s!"📥 Installing {binary} to {place}..." :=
    ne_of_head?_ne (by simp [lastLine, toString])
  have hbuilding : lastLine (.install place) ≠ "Building release binary first..." :=
    ne_of_head?_ne (by simp [lastLine])
  simp only [installSteps, List.mem_append, say_mem_installAsSteps_iff, List.mem_singleton,
    Deed.say.injEq, reduceCtorEq, or_false, hinstalled, hinstalling, false_or]
  exact fun h => hbuilding (eq_of_say_mem_buildIfMissingSteps h)

theorem builtLine_notMem_buildSteps (release : Bool) :
    .say (builtLine release) ∉ buildSteps release := by
  have hbuilding : builtLine release ≠ s!"🔨 Building {binary}..." := by
    cases release with
    | true => exact ne_of_head?_ne (by decide)
    | false => exact ne_of_head?_ne (by decide)
  simp only [buildSteps, List.mem_append, say_mem_commandDeeds_iff, List.mem_singleton,
    Deed.say.injEq, or_false]
  exact hbuilding

theorem packedLine_notMem_distSteps (root : Path) (target : Option String) :
    .say (packedLine target) ∉ distSteps root target := by
  have hcreating (name : String) :
      "✅ Distribution package created: " ++ name ≠ "📦 Creating distribution package..." :=
    ne_of_head?_ne (by simp)
  simp only [distSteps, List.mem_append, say_mem_stageSteps_iff, say_mem_commandDeeds_iff, or_false]
  exact hcreating (archiveName target)

theorem say_mem_testSteps_iff {line : String} {integration : Bool} :
    .say line ∈ testSteps integration ↔ line = "🧪 Running tests..." := by
  simp only [testSteps, List.mem_append, say_mem_commandDeeds_iff, List.mem_singleton,
    Deed.say.injEq, or_false]

theorem lastLine_notMem_ciSteps : .say (lastLine .ci) ∉ ciSteps := by
  simp only [ciSteps, List.mem_append, say_mem_testSteps_iff, say_mem_commandDeeds_iff,
    List.mem_singleton, Deed.say.injEq, false_or]
  simp [lastLine]

theorem lastLine_notMem_steps (task : BuildTask) (root : Path) (there : Bool) :
    .say task.lastLine ∉ task.steps root there := by
  cases task with
  | build release => exact builtLine_notMem_buildSteps release
  | test integration =>
    have hrunning : "✅ All tests passed" ≠ "🧪 Running tests..." := ne_of_head?_ne (by decide)
    exact fun h => hrunning (say_mem_testSteps_iff.mp h)
  | dist target => exact packedLine_notMem_distSteps root target
  | install place => exact lastLine_notMem_installSteps root there place
  | ci => exact lastLine_notMem_ciSteps
  | format _ => exact say_mem_commandDeeds_iff.mp
  | clippy => exact say_mem_commandDeeds_iff.mp

end BuildTask

namespace Setting

open BuildTask

variable {σ : Type} (w : Setting σ) (files : σ)

def hasBinary : Bool := w.isThere (Path.join w.root (releaseBinary none)) files

theorem carries_build (release : Bool) :
    w.Carries files (buildSteps release ++ [.say (builtLine release)])
      (build w.workshop release) := by
  unfold buildSteps
  rw [List.append_assoc]
  exact (w.carries_tell _ _).bind ((w.carries_command _ _).bind (w.carries_tell _ _))

theorem carries_test (integration : Bool) :
    w.Carries files (testSteps integration ++ [.say "✅ All tests passed"])
      (test w.workshop integration) := by
  unfold testSteps
  rw [List.append_assoc]
  exact (w.carries_tell _ _).bind ((w.carries_command _ _).bind (w.carries_tell _ _))

theorem carries_format (check : Bool) :
    w.Carries files
      (commandDeeds (formatCommand check)
        ++ [.say (if check then "✅ Code formatting is correct" else "✅ Code formatted")])
      (format w.workshop check) :=
  (w.carries_command _ _).bind (w.carries_tell _ _)

theorem carries_clippy :
    w.Carries files (commandDeeds clippyCommand ++ [.say "✅ Clippy checks passed"])
      (clippy w.workshop) :=
  (w.carries_command _ _).bind (w.carries_tell _ _)

theorem carries_ci : w.Carries files (ciSteps ++ [.say (lastLine .ci)]) (ci w.workshop) := by
  have h := (w.carries_tell files "🔍 Running CI checks...").bind
    ((w.carries_tell _ "\n📝 Checking formatting...").bind ((w.carries_format _ true).bind
    ((w.carries_tell _ "\n🔧 Running clippy...").bind ((w.carries_clippy _).bind
    ((w.carries_tell _ "\n🧪 Running tests...").bind ((w.carries_test _ false).bind
    (w.carries_tell _ (lastLine .ci))))))))
  unfold ciSteps
  simp only [List.append_assoc] at h ⊢
  exact h

theorem carries_dist (target : Option String) :
    w.Carries files (distSteps w.root target ++ [.say (packedLine target)])
      (dist w.workshop target) := by
  have h := (w.carries_tell files "📦 Creating distribution package...").bind
    ((w.carries_command _ (releaseCommand target)).bind
    ((w.carries_folder _ (RawText.ofString distFolder)).bind
    ((w.carries_copyFile _ (releaseBinary target) (inDist binary)).bind
    ((w.carries_copyFile _ (releaseBinary target) (inDist pluginBinary)).bind
    (((w.carries_command _ (packCommand target)).retold .noArchive).bind
    (w.carries_tell _ (packedLine target)))))))
  unfold distSteps stageSteps
  simp only [List.append_assoc] at h ⊢
  exact h

theorem carries_installAs (place name : String) :
    w.Carries files (installAsSteps w.root place name) (installAs w.workshop place name) := by
  unfold installAsSteps
  dsimp only
  rw [List.append_assoc]
  exact (w.carries_copyFile _ _ _).bind ((w.carries_makeProgram _ _).bind (w.carries_tell _ _))

theorem carries_buildIfMissing :
    w.Carries files (buildIfMissingSteps (w.hasBinary files)) (buildIfMissing w.workshop) := by
  intro attempts
  have hisThere : after (w.workshop.isThere (w.workshop.inRoot (releaseBinary none)))
      ⟨files, attempts⟩ = (w.hasBinary files, ⟨files, attempts⟩) := rfl
  unfold buildIfMissing
  rw [after_lift_bind, hisThere]
  dsimp only
  cases w.hasBinary files with
  | true => exact w.carries_pure files attempts
  | false => exact (w.carries_tell files _).bind (w.carries_command _ _) attempts

theorem carries_install (place : String) :
    w.Carries files
      (installSteps w.root (w.hasBinary files) place ++ [.say (lastLine (.install place))])
      (install w.workshop place) := by
  -- The first line leaves the files as they are, so it is the files of the start that are asked.
  have h := (w.carries_tell files s!"📥 Installing {binary} to {place}...").bind
    ((w.carries_buildIfMissing files).bind ((w.carries_folder _ (installFolder place)).bind
    ((w.carries_installAs _ place binary).bind ((w.carries_installAs _ place pluginBinary).bind
    (w.carries_tell _ (lastLine (.install place)))))))
  unfold installSteps
  simp only [List.append_assoc] at h ⊢
  exact h

theorem carries_work (task : BuildTask) :
    w.Carries files (task.plan w.root (w.hasBinary files)) (task.work w.workshop) := by
  cases task with
  | build release => exact w.carries_build files release
  | test integration => exact w.carries_test files integration
  | dist target => exact w.carries_dist files target
  | install place => exact w.carries_install files place
  | ci => exact w.carries_ci files
  | format check => exact w.carries_format files check
  | clippy => exact w.carries_clippy files

end Setting

end KubePlugin.Automation
