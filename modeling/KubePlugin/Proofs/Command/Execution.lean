import KubePlugin.Proofs.Command.Given
import KubePlugin.Proofs.Stateful

/-!
This module contains what a command asks of the system that it is carried out on, whatever the
system answers: when it launches a tool, which one and how, and what it ends with.
-/

namespace KubePlugin

open Stateful

inductive Request where
  | files
  | capture (program : Path) (args : List String)
  | launch (invocation : Invocation)
  | print (text : String)
  | log (event : Log.Event)

def Request.launches (requests : List Request) : List Invocation :=
  requests.filterMap fun r =>
    match r with
    | .launch i => some i
    | _ => none

/-- The answers of a system. They may depend on all that it was asked before. -/
structure System where
  files : List Request → FileView
  capture : List Request → Path → List String → Capture
  launch : List Request → Invocation → Except PluginError Int

abbrev Traced := StateM (List Request)

def System.host (s : System) : Host Traced where
  files := fun past => (s.files past, past ++ [.files])
  capture program args :=
    fun past => (s.capture past program args, past ++ [.capture program args])
  launch i := fun past => (s.launch past i, past ++ [.launch i])
  print text := fun past => ((), past ++ [.print text])
  log e := fun past => ((), past ++ [.log e])

open Request

namespace Traced

variable {α β : Type} {s : System}

def Launchless (x : Traced α) : Prop :=
  ∀ past, ∃ new, (after x past).2 = past ++ new ∧ launches new = []

theorem Launchless.pure (a : α) : Launchless (Pure.pure a : Traced α) := by
  intro past
  refine ⟨[], ?_, rfl⟩
  rw [after_pure, List.append_nil]

theorem Launchless.bind {x : Traced α} {f : α → Traced β} (hx : x.Launchless)
    (hf : ∀ a, Launchless (f a)) : Launchless (x >>= f) := by
  intro past
  obtain ⟨new, hnew, hlaunches⟩ := hx past
  obtain ⟨more, hmore, hlaunches'⟩ := hf (after x past).1 (after x past).2
  refine ⟨new ++ more, ?_, ?_⟩
  . rw [after_bind, hmore, hnew, List.append_assoc]
  . unfold launches at *
    rw [List.filterMap_append, hlaunches, hlaunches']
    rfl

theorem Launchless.files : Launchless s.host.files := fun _ => ⟨_, rfl, rfl⟩

theorem Launchless.capture (program : Path) (args : List String) :
    Launchless (s.host.capture program args) := fun _ => ⟨_, rfl, rfl⟩

theorem Launchless.log (e : Log.Event) : Launchless (s.host.log e) := fun _ => ⟨_, rfl, rfl⟩

theorem after_files (past : List Request) :
    after s.host.files past = (s.files past, past ++ [.files]) := rfl

theorem after_logAll (events : List Log.Event) (past : List Request) :
    after (s.host.logAll events) past = ((), past ++ events.map .log) := by
  induction events generalizing past with
  | nil =>
    rw [List.map_nil, List.append_nil]
    rfl
  | cons e events ih =>
    unfold Host.logAll
    rw [after_bind, ih, List.map_cons]
    simp [System.host, after]

theorem launches_map_log (events : List Log.Event) : launches (events.map .log) = [] := by
  unfold launches
  rw [List.filterMap_map, List.filterMap_eq_nil_iff]
  intro e _
  rfl

theorem Launchless.logAll (events : List Log.Event) : Launchless (s.host.logAll events) := by
  intro past
  refine ⟨events.map .log, ?_, launches_map_log events⟩
  rw [after_logAll]

end Traced

open Traced

namespace Locator

theorem tool_of_plan {config : LocatorConfig} {files : FileView} {tool : Tool} {found : Resolved}
    (h : plan config files tool = .settled (.ok found)) : found.tool = tool := by
  -- The neon-cli that is found on the way to helm is asked, it does not settle the search.
  cases tool with
  | neonCli =>
    injection h with h
    unfold neonCli at h
    split at h
    . injection h with h
      rw [← h]
    . split at h
      . injection h with h
        rw [← h]
      . contradiction
  | helm =>
    unfold plan at h
    dsimp only at h
    split at h
    . injection h with h
      injection h with h
      rw [← h]
    . split at h
      . contradiction
      . injection h with h
        contradiction

theorem tool_of_answer {tool : Tool} {path : Path} {captured : Capture} {found : Resolved}
    (h : answer tool path captured = .ok found) : found.tool = tool := by
  unfold answer at h
  split at h
  . cases h
  . split at h
    . split at h
      . cases h
      . injection h with h
        rw [← h]
    . cases h

theorem exitCode?_of_neonCli {config : LocatorConfig} {files : FileView} {e : PluginError}
    (h : neonCli config files = .error e) : e.exitCode? = some (-1) := by
  unfold neonCli at h
  split at h
  . contradiction
  . split at h
    . contradiction
    . injection h with h
      rw [← h]
      rfl

theorem exitCode?_of_plan {config : LocatorConfig} {files : FileView} {tool : Tool}
    {e : PluginError} (h : plan config files tool = .settled (.error e)) :
    e.exitCode? = some (-1) := by
  cases tool with
  | neonCli =>
    injection h with h
    exact exitCode?_of_neonCli h
  | helm =>
    unfold plan at h
    dsimp only at h
    split at h
    . injection h with h
      contradiction
    . split at h
      . contradiction
      . next hneonCli =>
        injection h with h
        injection h with h
        subst h
        exact exitCode?_of_neonCli hneonCli

theorem exitCode?_of_answer {tool : Tool} {path : Path} {captured : Capture} {e : PluginError}
    (h : answer tool path captured = .error e) : e.exitCode? = some (-1) := by
  unfold answer at h
  split at h
  . rw [← Except.error.inj h]
    rfl
  . split at h
    . split at h
      . rw [← Except.error.inj h]
        rfl
      . cases h
    . rw [← Except.error.inj h]
      rfl

theorem locate_eq (s : System) (config : LocatorConfig) (tool : Tool) :
    locate s.host config tool
      =
    (do
      let files ← s.host.files
      s.host.logAll (searchEvents config files)
      match plan config files tool with
      | .settled outcome => do
        s.host.logAll (resolvedEvents outcome)
        pure outcome
      | .ask neonCli => do
        s.host.log (asking tool neonCli)
        let captured ← s.host.capture neonCli (question tool)
        s.host.logAll (resolvedEvents (answer tool neonCli captured))
        pure (answer tool neonCli captured)) := by
  unfold locate
  rfl

theorem locate_of_settled {s : System} {config : LocatorConfig} {tool : Tool} {past : List Request}
    {outcome : Except PluginError Resolved}
    (h : plan config (s.files past) tool = .settled outcome) :
    after (locate s.host config tool) past
      =
    (outcome, past ++ .files ::
      (searchEvents config (s.files past) ++ resolvedEvents outcome).map .log) := by
  rw [locate_eq, after_bind, after_files]
  dsimp only
  rw [after_bind, after_logAll, h]
  dsimp only
  rw [after_bind, after_logAll, after_pure]
  simp

theorem locate_launchless (s : System) (config : LocatorConfig) (tool : Tool) :
    Launchless (locate s.host config tool) := by
  rw [locate_eq]
  apply Launchless.bind .files
  intro files
  apply Launchless.bind (.logAll _)
  intro _
  split
  . exact .bind (.logAll _) fun _ => .pure _
  . apply Launchless.bind (.log _)
    intro _
    apply Launchless.bind (.capture _ _)
    intro _
    exact .bind (.logAll _) fun _ => .pure _

theorem tool_of_locate {s : System} {config : LocatorConfig} {tool : Tool} {past : List Request}
    {found : Resolved} (h : (after (locate s.host config tool) past).1 = .ok found) :
    found.tool = tool := by
  rw [locate_eq, after_bind, after_bind] at h
  split at h
  . next outcome hplan =>
    rw [show outcome = .ok found from h] at hplan
    exact tool_of_plan hplan
  . exact tool_of_answer h

theorem exitCode?_of_locate {s : System} {config : LocatorConfig} {tool : Tool}
    {past : List Request} {e : PluginError}
    (h : (after (locate s.host config tool) past).1 = .error e) :
    e.exitCode? = some (-1) := by
  rw [locate_eq, after_bind, after_bind] at h
  split at h
  . next outcome hplan =>
    rw [show outcome = .error e from h] at hplan
    exact exitCode?_of_plan hplan
  . exact exitCode?_of_answer h

end Locator

namespace Command

def tool? : Command → Option Tool
  | helm _ => some .helm
  | version _ => none
  | _ => some .neonCli

def toolArgs? : Command → Option (List RawText)
  | helm args => some args
  | c =>
    match c.neonCliArgs? with
    | some (.ok v) => some (v.toList.map RawText.ofString)
    | _ => none

variable {s : System} {config : LocatorConfig} {color : Bool} {c : Command} {past : List Request}

theorem run_of_located {tool : Tool} {args : List RawText} {mode : LaunchMode} {found : Resolved}
    {between : List Request}
    (h : after (Locator.locate s.host config tool) past = (.ok found, between)) :
    after (run s.host config tool args mode) past
      =
    (s.launch between ⟨tool, found.path, args, mode⟩,
      between ++ [.launch ⟨tool, found.path, args, mode⟩]) := by
  have htool : found.tool = tool := Locator.tool_of_locate (by rw [h])
  unfold run
  rw [after_bind, h]
  subst htool
  rfl

theorem run_of_not_located {tool : Tool} {args : List RawText} {mode : LaunchMode} {e : PluginError}
    {between : List Request}
    (h : after (Locator.locate s.host config tool) past = (.error e, between)) :
    after (run s.host config tool args mode) past = (.error e, between) := by
  unfold run
  rw [after_bind, h]
  rfl

theorem clusterEvents_error (c : ClusterCommand) (e : PluginError) :
    clusterEvents c (.error e) = [] := by
  cases c <;> rfl

theorem execute_of_missing {name : String} (h : c.missing? = some name) :
    after (c.execute s.host config color) past = (.error (.missingArgument name), past) := by
  have hcollected : c.collected = .error (.missingArgument name) := by
    unfold collected
    rw [h]
  cases c with
  | cluster c =>
    unfold execute
    dsimp only
    rw [ClusterCommand.neonCliArgs_eq, hcollected]
    dsimp only [runNeonCli]
    rw [after_bind, after_pure, clusterEvents_error]
    rfl
  | login c =>
    unfold execute
    dsimp only
    rw [LoginCommand.neonCliArgs_eq, hcollected]
    rfl
  | logout => contradiction
  | helm args => contradiction
  | version output => contradiction

theorem execute_of_tool (s : System) (config : LocatorConfig) (color : Bool) (past : List Request)
    {tool : Tool} (htool : c.tool? = some tool) (hcomplete : c.missing? = none) :
    ∃ args, c.toolArgs? = some args ∧ ∃ events : List Log.Event,
      after (c.execute s.host config color) past
        =
      ((after (run s.host config tool args c.launchMode) past).1,
        (after (run s.host config tool args c.launchMode) past).2 ++ events.map .log) := by
  -- Only a cluster command has something to log once its tool has ended.
  cases c with
  | cluster c =>
    injection htool with htool
    subst htool
    have hcollected : c.neonCliArgs = .ok ⟨(cluster c).written⟩ := by
      rw [ClusterCommand.neonCliArgs_eq]
      exact collected_eq hcomplete rfl
    let args := (cluster c).written.map RawText.ofString
    refine ⟨args, ?_,
      clusterEvents c (after (run s.host config .neonCli args .supervised) past).1, ?_⟩
    . dsimp only [toolArgs?, neonCliArgs?]
      rw [hcollected]
    . unfold execute
      dsimp only
      rw [hcollected, after_bind, after_bind, after_logAll]
      rfl
  | login c =>
    injection htool with htool
    subst htool
    have hcollected : c.neonCliArgs = .ok ⟨(login c).written⟩ := by
      rw [LoginCommand.neonCliArgs_eq]
      exact collected_eq hcomplete rfl
    refine ⟨(login c).written.map RawText.ofString, ?_, [], ?_⟩
    . dsimp only [toolArgs?, neonCliArgs?]
      rw [hcollected]
    . unfold execute
      dsimp only
      rw [hcollected, List.map_nil, List.append_nil]
      rfl
  | logout =>
    injection htool with htool
    subst htool
    refine ⟨_, rfl, [], ?_⟩
    rw [List.map_nil, List.append_nil]
    rfl
  | helm args =>
    injection htool with htool
    subst htool
    refine ⟨args, rfl, [], ?_⟩
    rw [List.map_nil, List.append_nil]
    rfl
  | version output => contradiction

inductive Execution (s : System) (config : LocatorConfig) (color : Bool) (past : List Request) :
    Command → Except PluginError Int → List Request → Prop where
  | printed (output : OutputFormat) :
    Execution s config color past (.version output) (.ok 0)
      [.print (trimmedEnd (Versions.render color output))]
  | missing {c : Command} {name : String} : c.missing? = some name →
    Execution s config color past c (.error (.missingArgument name)) []
  | notLocated {c : Command} {tool : Tool} {e : PluginError} {search : List Request}
    (events : List Log.Event) : c.tool? = some tool → c.missing? = none →
      after (Locator.locate s.host config tool) past = (.error e, past ++ search) →
      launches search = [] →
      Execution s config color past c (.error e) (search ++ events.map .log)
  | launched {c : Command} {tool : Tool} {found : Resolved} {args : List RawText}
    {search : List Request} (events : List Log.Event) : c.tool? = some tool → c.missing? = none →
      after (Locator.locate s.host config tool) past = (.ok found, past ++ search) →
      launches search = [] → c.toolArgs? = some args →
      Execution s config color past c
        (s.launch (past ++ search) ⟨tool, found.path, args, c.launchMode⟩)
        (search ++ .launch ⟨tool, found.path, args, c.launchMode⟩ :: events.map .log)

theorem eq_version_of_tool?_eq_none (h : c.tool? = none) : ∃ output, c = .version output := by
  cases c with
  | version output => exact ⟨output, rfl⟩
  | _ => contradiction

theorem exists_execution (s : System) (config : LocatorConfig) (color : Bool) (c : Command)
    (past : List Request) :
    ∃ result new, after (c.execute s.host config color) past = (result, past ++ new)
      ∧ Execution s config color past c result new := by
  -- The arguments come first, then the search, then the launch.
  cases hmissing : c.missing? with
  | some name =>
    refine ⟨_, [], ?_, .missing hmissing⟩
    rw [execute_of_missing hmissing, List.append_nil]
  | none =>
    cases htool : c.tool? with
    | none =>
      obtain ⟨output, rfl⟩ := eq_version_of_tool?_eq_none htool
      exact ⟨_, _, rfl, .printed output⟩
    | some tool =>
      obtain ⟨args, hargs, events, hexecute⟩ := execute_of_tool s config color past htool hmissing
      obtain ⟨search, hsearch, hquiet⟩ := Locator.locate_launchless s config tool past
      cases houtcome : (after (Locator.locate s.host config tool) past).1 with
      | error e =>
        have hlocate : after (Locator.locate s.host config tool) past
            = (.error e, past ++ search) := by
          rw [← houtcome, ← hsearch]
        refine ⟨_, _, ?_, .notLocated events htool hmissing hlocate hquiet⟩
        rw [hexecute, run_of_not_located hlocate, List.append_assoc]
      | ok found =>
        have hlocate : after (Locator.locate s.host config tool) past
            = (.ok found, past ++ search) := by
          rw [← houtcome, ← hsearch]
        refine ⟨_, _, ?_, .launched events htool hmissing hlocate hquiet hargs⟩
        rw [hexecute, run_of_located hlocate]
        simp

theorem launchMode_eq_replace_iff (c : Command) :
    c.launchMode = .replace ↔ (∃ args, c = .helm args) ∨ ∃ name, c = .login (.enter name) := by
  cases c with
  | login c => cases c <;> simp [launchMode, LoginCommand.launchMode]
  | _ => simp [launchMode]

theorem launches_search {search : List Request} (h : launches search = [])
    (events : List Log.Event) : launches (search ++ events.map .log) = [] := by
  have hevents := launches_map_log events
  unfold launches at *
  rw [List.filterMap_append, h, hevents]
  rfl

theorem launches_launch {search : List Request} (h : launches search = []) (i : Invocation)
    (events : List Log.Event) : launches (search ++ .launch i :: events.map .log) = [i] := by
  have hevents := launches_map_log events
  unfold launches at *
  rw [List.filterMap_append, h, List.filterMap_cons, hevents]
  rfl

theorem notMem_of_launches {requests : List Request} (h : launches requests = [])
    (i : Invocation) : Request.launch i ∉ requests := by
  intro hmem
  unfold launches at h
  rw [List.filterMap_eq_nil_iff] at h
  have := h _ hmem
  contradiction

namespace Execution

variable {result : Except PluginError Int} {new : List Request}

theorem length_launches_le (h : Execution s config color past c result new) :
    (launches new).length ≤ 1 := by
  cases h with
  | printed output => simp [launches]
  | missing _ => simp [launches]
  | notLocated events _ _ _ hquiet => simp [launches_search hquiet]
  | launched events _ _ _ hquiet _ => simp [launches_launch hquiet]

theorem length_launches_eq_one_iff (h : Execution s config color past c result new) :
    (launches new).length = 1 ↔ c.missing? = none ∧ ∃ tool found, c.tool? = some tool
      ∧ (after (Locator.locate s.host config tool) past).1 = .ok found := by
  cases h with
  | printed output => simp [launches, tool?]
  | missing hmissing => simp [launches, hmissing]
  | notLocated events htool _ hlocate hquiet => simp [launches_search hquiet, htool, hlocate]
  | launched events htool hcomplete hlocate hquiet _ =>
    simp [launches_launch hquiet, htool, hcomplete, hlocate]

theorem of_mem_launches (h : Execution s config color past c result new) {i : Invocation}
    (hi : i ∈ launches new) :
    ∃ tool found between args, c.tool? = some tool
      ∧ after (Locator.locate s.host config tool) past = (.ok found, between)
      ∧ c.toolArgs? = some args
      ∧ i = ⟨tool, found.path, args, c.launchMode⟩
      ∧ result = s.launch between i := by
  cases h with
  | printed output => simp [launches] at hi
  | missing _ => simp [launches] at hi
  | notLocated events _ _ _ hquiet => simp [launches_search hquiet] at hi
  | @launched _ tool found args search events htool _ hlocate hquiet hargs =>
    rw [launches_launch hquiet, List.mem_singleton] at hi
    subst hi
    exact ⟨tool, found, past ++ search, args, htool, hlocate, hargs, rfl, rfl⟩

theorem eq_of_launch (h : Execution s config color past c result new) {before after : List Request}
    {i : Invocation} (hnew : new = before ++ .launch i :: after) :
    result = s.launch (past ++ before) i := by
  have hmem : Request.launch i ∈ new := by simp [hnew]
  cases h with
  | printed output => simp at hmem
  | missing _ => simp at hmem
  | notLocated events _ _ _ hquiet =>
    exact absurd hmem (notMem_of_launches (launches_search hquiet events) i)
  | launched events _ _ _ hquiet _ =>
    rw [List.append_cons_inj_of_notMem (notMem_of_launches hquiet i)
      (notMem_of_launches (launches_map_log events) i)] at hnew
    obtain ⟨rfl, hi, _⟩ := hnew
    injection hi with hi
    rw [hi]

theorem of_version {output : OutputFormat}
    (h : Execution s config color past (.version output) result new) : result = .ok 0 := by
  cases h with
  | printed output => rfl
  | missing hmissing => cases hmissing
  | notLocated _ htool _ _ _ => cases htool
  | launched _ htool _ _ _ _ => cases htool

theorem of_missing (h : Execution s config color past c result new) {name : String}
    (hname : c.missing? = some name) : result = .error (.missingArgument name) ∧ new = [] := by
  cases h with
  | printed output => cases hname
  | missing hmissing =>
    rw [hmissing] at hname
    injection hname with hname
    rw [hname]
    exact ⟨rfl, rfl⟩
  | notLocated _ _ hcomplete _ _ =>
    rw [hcomplete] at hname
    cases hname
  | launched _ _ hcomplete _ _ _ =>
    rw [hcomplete] at hname
    cases hname

theorem of_not_located (h : Execution s config color past c result new) {tool : Tool}
    {e : PluginError} (htool : c.tool? = some tool) (hcomplete : c.missing? = none)
    (he : (after (Locator.locate s.host config tool) past).1 = .error e) :
    result = .error e := by
  cases h with
  | printed output => cases htool
  | missing hmissing =>
    rw [hmissing] at hcomplete
    cases hcomplete
  | notLocated _ htool' _ hlocate _ =>
    rw [htool] at htool'
    injection htool' with htool'
    rw [htool', hlocate] at he
    injection he with he
    rw [he]
  | launched _ htool' _ hlocate _ _ =>
    rw [htool] at htool'
    injection htool' with htool'
    rw [htool', hlocate] at he
    cases he

end Execution

/-- A command launches nothing or one tool: this is the tool that was found for it, with the
arguments of the command, and what its launch gives is what the command ends with. Without a launch
it ends with what stood in the way: nothing for the versions, then a missing argument, and the
search only after that. -/
theorem execute_launches (s : System) (config : LocatorConfig) (color : Bool) (c : Command)
    (past : List Request) :
    ∃ result new, after (c.execute s.host config color) past = (result, past ++ new)
      ∧ (launches new).length ≤ 1
      ∧ ((launches new).length = 1 ↔ c.missing? = none ∧ ∃ tool found, c.tool? = some tool
        ∧ (after (Locator.locate s.host config tool) past).1 = .ok found)
      ∧ (∀ i ∈ launches new, ∃ tool found between args, c.tool? = some tool
        ∧ after (Locator.locate s.host config tool) past = (.ok found, between)
        ∧ c.toolArgs? = some args
        ∧ i = ⟨tool, found.path, args, c.launchMode⟩
        ∧ result = s.launch between i)
      ∧ (c.launchMode = .replace ↔ (∃ args, c = .helm args) ∨ ∃ name, c = .login (.enter name))
      ∧ (∀ output, c = .version output → result = .ok 0)
      ∧ (∀ name, c.missing? = some name → result = .error (.missingArgument name) ∧ new = [])
      ∧ ∀ tool e, c.tool? = some tool → c.missing? = none →
        (after (Locator.locate s.host config tool) past).1 = .error e →
          result = .error e := by
  obtain ⟨result, new, hexecute, h⟩ := exists_execution s config color c past
  refine ⟨result, new, hexecute, h.length_launches_le, h.length_launches_eq_one_iff, ?_,
    launchMode_eq_replace_iff c, ?_, ?_, ?_⟩
  . intro i hi
    exact h.of_mem_launches hi
  . intro output hc
    subst hc
    exact h.of_version
  . intro name hname
    exact h.of_missing hname
  . intro tool e htool hcomplete he
    exact h.of_not_located htool hcomplete he

end Command

end KubePlugin
