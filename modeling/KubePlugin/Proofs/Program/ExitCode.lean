import KubePlugin.Program
import KubePlugin.Proofs.Command.Execution
import KubePlugin.Proofs.CommandLine.Bare
import KubePlugin.Proofs.Supervision.Outcome
import KubePlugin.Proofs.WaitStatus

namespace KubePlugin

open Stateful

structure System.Runs (s : System) where
  moves : List Request → Invocation → List Supervision.Move
  state : List Request → Invocation → Supervision.State
  run_eq : ∀ past i, i.mode = .supervised →
    Supervision.run i {} (moves past i) = some (state past i)
  flow_eq : ∀ past i, i.mode = .supervised →
    (state past i).flow = .returned (s.launch past i)

def System.Runs.Exited {s : System} (r : s.Runs) (past new : List Request) (tool : Tool)
    (code : Nat) : Prop :=
  ∃ before i after status, new = before ++ .launch i :: after ∧ i.tool = tool
    ∧ i.mode = .supervised ∧ (r.state (past ++ before) i).child = .reaped status
    ∧ status.code? = some code

namespace Ending

theorem code?_ofStop (color : Bool) (stop : CommandLine.Stop) :
    (ofStop color stop).status.code? = some stop.exitCode := by
  unfold ofStop status CommandLine.Stop.exitCode
  cases stop.isAnswer <;> simp

theorem code?_ofOutcome_error (color : Bool) (e : PluginError) :
    (ofOutcome color (.error e)).status.code?
      =
    e.exitCode?.map fun code => (code % 256).toNat := by
  unfold ofOutcome status
  dsimp only
  cases e.exitCode? with
  | none => rfl
  | some code =>
    rw [Option.map_some, WaitStatus.code?_exited]
    congr 1
    omega

theorem status_ofOutcome_ok (color : Bool) (code : Int) :
    (ofOutcome color (.ok code)).status = .exited (code % 256).toNat := rfl

end Ending

theorem System.Runs.code?_launch_iff {s : System} (r : s.Runs) (color : Bool) (past : List Request)
    {i : Invocation} (hmode : i.mode = .supervised) {code : Nat} (hlt : code < 128) :
    (Ending.ofOutcome color (s.launch past i)).status.code? = some code
      ↔
    ∃ status, (r.state past i).child = .reaped status ∧ status.code? = some code := by
  have haccounts := Supervision.State.Accounts.of_run (r.run_eq past i hmode)
  rcases haccounts.result_cases (r.flow_eq past i hmode)
    with ⟨habsent, cause, he⟩ | ⟨hunreaped, cause, he⟩ | ⟨status, hchild, hok⟩
  . rw [he, Ending.code?_ofOutcome_error, habsent]
    constructor
    . intro h
      cases h
      contradiction
    . rintro ⟨status, hchild, _⟩
      contradiction
  . rw [he, Ending.code?_ofOutcome_error]
    constructor
    . intro h
      contradiction
    . rintro ⟨status, hchild, _⟩
      rw [hchild] at hunreaped
      contradiction
  . rw [hok, Ending.status_ofOutcome_ok, WaitStatus.code?_exited_relay_iff hlt, hchild]
    simp

theorem Command.Execution.code?_eq_iff {s : System} {config : LocatorConfig} {color : Bool}
    {c : Command} {past new : List Request} {result : Except PluginError Int}
    (h : Execution s config color past c result new) (r : s.Runs) {tool : Tool}
    (htool : c.tool? = some tool) (hmode : c.launchMode = .supervised)
    (hcomplete : c.missing? = none) {code : Nat} (hlt : code < 128) :
    (Ending.ofOutcome color result).status.code? = some code ↔ r.Exited past new tool code := by
  constructor
  . intro hcode
    cases h with
    | printed output => contradiction
    | missing hmissing =>
      rw [hmissing] at hcomplete
      contradiction
    | notLocated events _ _ hlocate _ =>
      have he := Locator.exitCode?_of_locate (by rw [hlocate])
      rw [Ending.code?_ofOutcome_error, he] at hcode
      cases hcode
      contradiction
    | @launched _ launched found args search events hlaunched _ _ _ _ =>
      rw [htool] at hlaunched
      injection hlaunched with hlaunched
      subst hlaunched
      rw [hmode] at hcode ⊢
      obtain ⟨status, hchild, hown⟩ := (r.code?_launch_iff color _ rfl hlt).mp hcode
      exact ⟨search, _, events.map .log, status, rfl, rfl, rfl, hchild, hown⟩
  . rintro ⟨before, i, after, status, hnew, _, hsupervised, hchild, hown⟩
    rw [h.eq_of_launch hnew, r.code?_launch_iff color _ hsupervised hlt]
    exact ⟨status, hchild, hown⟩

namespace Surface

open CommandLine

theorem isLocked_isBare : isLocked.IsBare := ⟨rfl, rfl, rfl, rfl, rfl, rfl⟩

theorem plugin_leads_isLocked : plugin.Leads ["cluster", "islocked"] isLocked := by
  apply Spec.Leads.sub (s := cluster) (by rw [Spec.sub?_ofString]; rfl) rfl (by decide)
  exact .single rfl rfl (by decide)

theorem read_eq_parse {program word : RawText} (hword : word ≠ RawText.ofString "helm")
    (words : List RawText) :
    read (program :: word :: words) = parse (program :: word :: words) := by
  unfold read
  dsimp only
  rw [if_neg hword]

theorem exists_parse_isLocked (program : RawText) (words : List RawText) :
    ∃ s : Scope, s.spec.IsBare
      ∧ plugin.parse (program :: RawText.ofString "cluster" :: RawText.ofString "islocked" :: words)
        = s.read ["cluster", "islocked"] {} words := by
  obtain ⟨s, hs, hread⟩ := plugin_leads_isLocked.exists_parse program words
  refine ⟨s, ?_, hread⟩
  rw [hs]
  exact isLocked_isBare

theorem read_isLocked (program : RawText) {words : List RawText}
    (hwords : words = [] ∨ words = [RawText.ofString "--"]) :
    read (program :: RawText.ofString "cluster" :: RawText.ofString "islocked" :: words)
      =
    .ok (.cluster .isLocked) := by
  obtain ⟨s, hs, hparse⟩ := exists_parse_isLocked program words
  rw [read_eq_parse (by decide)]
  unfold parse
  rw [hparse, Scope.read_of_isBare hs hwords]
  rfl

theorem isRefused_read_isLocked (program : RawText) {words : List RawText} (hwords : words ≠ [])
    (hdashes : words ≠ [RawText.ofString "--"]) (hhelp : ¬ AsksForHelp words) :
    IsRefused
      (read (program :: RawText.ofString "cluster" :: RawText.ofString "islocked" :: words)) := by
  obtain ⟨s, hs, hparse⟩ := exists_parse_isLocked program words
  have hrefused : IsRefused (s.read ["cluster", "islocked"] {} words) :=
    Scope.isRefused_read hs hwords hdashes hhelp
  obtain ⟨f, hf⟩ := hrefused
  rw [read_eq_parse (by decide)]
  unfold parse
  rw [hparse, hf]
  exact ⟨f, rfl⟩

end Surface

open CommandLine

theorem after_runProgram_of_isRefused (s : System) (preferences : Preferences)
    {argv : List RawText} (past : List Request) (h : IsRefused (Surface.read argv)) :
    ∃ ending, after (runProgram s.host preferences argv) past = (ending, past)
      ∧ ending.status.code? = some 2 := by
  obtain ⟨f, hf⟩ := h
  refine ⟨.ofStop preferences.messageColor (.failure f), ?_, ?_⟩
  . unfold runProgram
    rw [hf, after_pure]
  . apply Ending.code?_ofStop

theorem after_runProgram_of_read_eq_ok (s : System) (preferences : Preferences)
    {argv : List RawText} {c : Command} (past : List Request) (h : Surface.read argv = .ok c) :
    ∃ result new, Command.Execution s preferences.config preferences.color past c result new
      ∧ after (runProgram s.host preferences argv) past
        = (.ofOutcome preferences.color result, past ++ new) := by
  obtain ⟨result, new, hexecute, hexecution⟩ :=
    Command.exists_execution s preferences.config preferences.color c past
  refine ⟨result, new, hexecution, ?_⟩
  unfold runProgram
  rw [h]
  dsimp only
  rw [after_bind, hexecute, after_pure]

/-- A query of the lock ends with a code below 128 if neon-cli was launched and exited with that
code, and not else, as long as no word follows that it does not take. After such a word it ends with
2, which is the code of an unlocked cluster, and nothing was launched. -/
theorem runProgram_isLocked (s : System) (r : s.Runs) (preferences : Preferences)
    (program : RawText) {words : List RawText} (hhelp : ¬ AsksForHelp words)
    (past : List Request) :
    ∃ ending new,
      after (runProgram s.host preferences
        (program :: RawText.ofString "cluster" :: RawText.ofString "islocked" :: words)) past
          = (ending, past ++ new)
      ∧ (words = [] ∨ words = [RawText.ofString "--"] → ∀ code < 128,
        (ending.status.code? = some code ↔ r.Exited past new .neonCli code))
      ∧ (words ≠ [] → words ≠ [RawText.ofString "--"] →
        ending.status.code? = some 2 ∧ new = []) := by
  by_cases hwords : words = [] ∨ words = [RawText.ofString "--"]
  . obtain ⟨result, new, hexecution, hrun⟩ :=
      after_runProgram_of_read_eq_ok s preferences past (Surface.read_isLocked program hwords)
    refine ⟨_, new, hrun, ?_, ?_⟩
    . intro _ code hlt
      exact hexecution.code?_eq_iff r rfl rfl rfl hlt
    . intro hnil hdashes
      exact absurd hwords (by simp [hnil, hdashes])
  . obtain ⟨hnil, hdashes⟩ := not_or.mp hwords
    obtain ⟨ending, hrun, hcode⟩ := after_runProgram_of_isRefused s preferences past
      (Surface.isRefused_read_isLocked program hnil hdashes hhelp)
    refine ⟨ending, [], ?_, ?_, ?_⟩
    . rw [hrun, List.append_nil]
    . intro h
      contradiction
    . intro _ _
      exact ⟨hcode, rfl⟩

def System.answering (status : WaitStatus) : System where
  files _ _ := none
  capture _ _ _ := .ended status ""
  launch _ _ := .ok status.relay

def System.Runs.answering (status : WaitStatus) : (System.answering status).Runs where
  moves _ _ :=
    [ .register true, .spawn (.ok 42), .startListener, .exit status, .reap, .abort, .join,
      .dispose, .finish ]
  state _ _ :=
    { flow := .returned (.ok status.relay), catching := true, listener := .stopped
      child := .reaped status, group := 42, disposals := 1 }
  run_eq := by
    intro _ _ _
    rfl
  flow_eq := by
    intro _ _ _
    rfl

def Preferences.installedIn (folder : Path) : Preferences :=
  ⟨⟨some folder, []⟩, false, false, false, ⟨[]⟩⟩

theorem runProgram_isLocked_unlocked :
    ∃ ending new, after (runProgram (System.answering (.exited 2)).host
        (.installedIn "/opt/neon") ["neon", "cluster", "islocked"]) [] = (ending, new)
      ∧ ending.status.code? = some 2
      ∧ (System.Runs.answering (.exited 2)).Exited [] new .neonCli 2 := by
  have hhelp : ¬ AsksForHelp [] := by
    rintro ⟨word, hword, _⟩
    contradiction
  have hcode : (after (runProgram (System.answering (.exited 2)).host
      (.installedIn "/opt/neon") ["neon", "cluster", "islocked"]) []).1.status.code? = some 2 := by
    decide +kernel
  obtain ⟨ending, new, hrun, hown, _⟩ := runProgram_isLocked (System.answering (.exited 2))
    (.answering (.exited 2)) (.installedIn "/opt/neon") "neon" hhelp []
  rw [show after _ _ = _ from hrun] at hcode
  exact ⟨ending, new, hrun, hcode, (hown (.inl rfl) 2 (by decide)).mp hcode⟩

/-- A word too many looks like an unlocked cluster, even where neon-cli would find it locked. -/
theorem runProgram_isLocked_refused :
    ¬ AsksForHelp ["now"]
      ∧ ∃ ending new, after (runProgram (System.answering (.exited 0)).host
          (.installedIn "/opt/neon") ["neon", "cluster", "islocked", "now"]) [] = (ending, new)
        ∧ ending.status.code? = some 2 ∧ Request.launches new = []
        ∧ ¬ (System.Runs.answering (.exited 0)).Exited [] new .neonCli 2 := by
  have hhelp : ¬ AsksForHelp ["now"] := by
    rintro ⟨word, hword, h⟩
    injection hword with hword
    subst hword
    exact absurd h (by decide)
  obtain ⟨ending, hrun, hcode⟩ := after_runProgram_of_isRefused (System.answering (.exited 0))
    (.installedIn "/opt/neon") []
    (Surface.isRefused_read_isLocked "neon" (List.cons_ne_nil _ _) (by decide) hhelp)
  refine ⟨hhelp, ending, [], hrun, hcode, rfl, ?_⟩
  rintro ⟨before, i, after, status, hnew, _⟩
  simp at hnew

end KubePlugin
