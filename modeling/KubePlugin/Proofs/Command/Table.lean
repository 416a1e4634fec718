import KubePlugin.Proofs.Command.Given

namespace KubePlugin

open CommandLine CommandLine.Given

inductive FlagForm where
  | bare
  | number
  | value
  | branch

inductive Slot where
  | absent
  | optional (name : String)
  | required (name : String)

structure FlagColumn where
  long : String
  form : FlagForm

structure Row where
  words : List String
  slot : Slot
  flags : List FlagColumn

namespace FlagForm

def write (form : FlagForm) (long : String) (v : Value) : Option String :=
  match form, v with
  | bare, .on => some ("--" ++ long)
  | number, .count n => some ("--" ++ long ++ "=" ++ toString n.toNat)
  | value, .text s => some ("--" ++ long ++ "=" ++ s)
  | branch, .on => some ("--" ++ long)
  | branch, .text s => some ("--" ++ long ++ "=" ++ s)
  | _, _ => none

end FlagForm

def FlagColumn.words (f : FlagColumn) (g : Given) : List String :=
  ((g.get? (.option f.long)).bind (f.form.write f.long)).toList

namespace Slot

def required? : Slot → Option String
  | required name => some name
  | _ => none

def words (slot : Slot) (positional : Option String) : List String :=
  match slot with
  | absent => []
  | _ => positional.toList

end Slot

def Row.render (r : Row) (c : Command) : Except PluginError (List String) :=
  match r.slot.required?, c.positional? with
  | some name, none => .error (.missingArgument name)
  | _, positional =>
    .ok (r.words ++ r.slot.words positional ++ r.flags.flatMap fun f => f.words c.given)

def commandTable : List Row :=
  [ ⟨["cluster", "check"], .absent,
      [ ⟨"all", .bare⟩, ⟨"container-images", .bare⟩, ⟨"priority-class", .bare⟩,
        ⟨"resources", .bare⟩, ⟨"details", .bare⟩ ]⟩,
    ⟨["cluster", "dashboard"], .optional "DASHBOARD", []⟩,
    ⟨["cluster", "delete"], .optional "CLUSTERNAME", [⟨"force", .bare⟩]⟩,
    ⟨["cluster", "deploy"], .required "CLUSTERDEF",
      [ ⟨"check", .bare⟩, ⟨"force", .bare⟩, ⟨"max-parallel", .number⟩, ⟨"no-telemetry", .bare⟩,
        ⟨"package-cache", .value⟩, ⟨"quiet", .bare⟩, ⟨"upload-charts", .bare⟩,
        ⟨"use-preview", .bare⟩, ⟨"use-staged", .branch⟩ ]⟩,
    ⟨["cluster", "health"], .absent, []⟩,
    ⟨["cluster", "info"], .absent, []⟩,
    ⟨["cluster", "islocked"], .absent, []⟩,
    ⟨["cluster", "lock"], .absent, []⟩,
    ⟨["cluster", "pause"], .absent, []⟩,
    ⟨["cluster", "prepare"], .required "CLUSTERDEF",
      [ ⟨"base-image-name", .value⟩, ⟨"debug", .bare⟩, ⟨"disable-pending", .bare⟩,
        ⟨"insecure", .bare⟩, ⟨"max-parallel", .number⟩, ⟨"node-image-path", .value⟩,
        ⟨"node-image-uri", .value⟩, ⟨"no-telemetry", .bare⟩, ⟨"package-cache", .value⟩,
        ⟨"quiet", .bare⟩, ⟨"unredacted", .bare⟩, ⟨"use-staged", .branch⟩ ]⟩,
    ⟨["cluster", "purpose"], .optional "NEWPURPOSE", []⟩,
    ⟨["cluster", "reset"], .absent,
      [ ⟨"auth", .bare⟩, ⟨"crio", .bare⟩, ⟨"force", .bare⟩, ⟨"harbor", .bare⟩,
        ⟨"keep-namespaces", .value⟩, ⟨"minio", .bare⟩, ⟨"monitoring", .bare⟩ ]⟩,
    ⟨["cluster", "setup"], .required "CONTEXTNAME",
      [ ⟨"check", .bare⟩, ⟨"debug", .bare⟩, ⟨"disable-pending", .bare⟩, ⟨"force", .bare⟩,
        ⟨"max-parallel", .number⟩, ⟨"no-telemetry", .bare⟩, ⟨"quiet", .bare⟩,
        ⟨"upload-charts", .bare⟩, ⟨"unredacted", .bare⟩, ⟨"use-staged", .branch⟩ ]⟩,
    ⟨["cluster", "start"], .absent, []⟩,
    ⟨["cluster", "stop"], .absent, [⟨"force", .bare⟩, ⟨"turnoff", .bare⟩]⟩,
    ⟨["cluster", "unlock"], .absent, []⟩,
    ⟨["cluster", "validate"], .required "CLUSTERDEF", []⟩,
    ⟨["login"], .optional "CONTEXTNAME", []⟩,
    ⟨["login", "delete"], .optional "CONTEXTNAME", [⟨"force", .bare⟩]⟩,
    ⟨["login", "export"], .optional "PATH", [⟨"context", .value⟩]⟩,
    ⟨["login", "import"], .required "PATH", [⟨"force", .bare⟩, ⟨"no-login", .bare⟩]⟩,
    ⟨["login", "list"], .absent, [⟨"output", .value⟩]⟩,
    ⟨["logout"], .absent, []⟩ ]

namespace Command

def tabulated? (c : Command) : Option (Except PluginError (List String)) :=
  (commandTable.find? fun r => r.words = c.path).map fun r => r.render c

def forwarded? (c : Command) : Option (Except PluginError (List String)) :=
  c.neonCliArgs?.map fun args => args.map ArgVector.toList

end Command

@[simp]
theorem FlagForm.write_switchValue (long : String) (on : Bool) :
    ((switchValue on).bind (bare.write long)).toList
      =
    (ofOption long (switchValue on)).map entryWord := by
  cases on <;> rfl

@[simp]
theorem FlagForm.write_textValue (long : String) (v : Option String) :
    ((textValue v).bind (value.write long)).toList
      =
    (ofOption long (textValue v)).map entryWord := by
  unfold textValue
  cases dropEmpty v <;> rfl

@[simp]
theorem FlagForm.write_countValue (long : String) (n : UInt32) :
    ((countValue n).bind (number.write long)).toList
      =
    (ofOption long (countValue n)).map entryWord := by
  unfold countValue
  split <;> rfl

@[simp]
theorem FlagForm.write_optionalValue (long : String) (v : Option (Option String)) :
    ((Given.optionalValue v).bind (branch.write long)).toList
      =
    (ofOption long (Given.optionalValue v)).map entryWord := by
  unfold Given.optionalValue
  rcases dropEmptyBranch v with _ | _ | s <;> rfl

structure Row.Follows (r : Row) (c : Command) : Prop where
  words_eq : r.words = c.path
  required_eq : r.slot.required? = c.required?
  slot_eq : r.slot.words c.positional? = c.positional?.toList
  flags_eq : r.flags.flatMap (fun f => f.words c.given) = c.flags.map entryWord

theorem Row.Follows.render_eq {r : Row} {c : Command} (h : r.Follows c) :
    r.render c = c.collected.map ArgVector.toList := by
  have hwritten : c.written = r.words ++ r.slot.words c.positional?
      ++ r.flags.flatMap fun f => f.words c.given := by
    rw [h.words_eq, h.slot_eq, h.flags_eq]
    simp [Command.written, Command.given]
  unfold render Command.collected Command.missing?
  rw [h.required_eq, hwritten]
  cases c.required? <;> cases c.positional? <;> rfl

namespace Command

def UploadsUnredacted (c : Command) : Prop :=
  ∃ o : SetupOptions, c = .cluster (.setup o) ∧ o.contextName.isSome
    ∧ o.unredacted = true ∧ o.uploadCharts = true

theorem tabulated?_eq {c : Command} {r : Row}
    (h : commandTable.find? (fun r => r.words = c.path) = some r) :
    c.tabulated? = some (r.render c) := by
  unfold tabulated?
  rw [h]
  rfl

theorem forwarded?_eq {c : Command} (h : c.neonCliArgs?.isSome) :
    c.forwarded? = some (c.collected.map ArgVector.toList) := by
  unfold forwarded?
  rw [neonCliArgs?_eq h]
  rfl

theorem forwarded?_eq_tabulated? {c : Command} {r : Row} (hc : c.neonCliArgs?.isSome)
    (hr : commandTable.find? (fun r => r.words = c.path) = some r) (h : r.Follows c) :
    c.forwarded? = c.tabulated? := by
  rw [forwarded?_eq hc, tabulated?_eq hr, h.render_eq]

theorem forwarded?_cluster (c : ClusterCommand) (h : ∀ o, c ≠ .setup o) :
    (cluster c).forwarded? = (cluster c).tabulated? := by
  cases c with
  | setup o =>
    exfalso
    exact h o rfl
  | _ =>
    apply forwarded?_eq_tabulated? rfl rfl
    constructor
    . rfl
    . rfl
    . rfl
    . simp [FlagColumn.words, given, flags, ClusterCommand.flags]

theorem forwarded?_login (c : LoginCommand) : (login c).forwarded? = (login c).tabulated? := by
  cases c with
  | _ =>
    apply forwarded?_eq_tabulated? rfl rfl
    constructor
    . rfl
    . rfl
    . rfl
    . simp [FlagColumn.words, given, flags, LoginCommand.flags]

theorem forwarded?_logout : logout.forwarded? = logout.tabulated? := by
  apply forwarded?_eq_tabulated? rfl rfl
  constructor <;> rfl

theorem setup_eq {o : SetupOptions} {s : String} (h : o.contextName = some s) :
    ∃ front back,
      (cluster (.setup o)).forwarded?
          = some (.ok (front
              ++ (ofOption "unredacted" (switchValue o.unredacted)).map entryWord
              ++ (ofOption "upload-charts" (switchValue o.uploadCharts)).map entryWord ++ back))
        ∧ (cluster (.setup o)).tabulated?
          = some (.ok (front
              ++ (ofOption "upload-charts" (switchValue o.uploadCharts)).map entryWord
              ++ (ofOption "unredacted" (switchValue o.unredacted)).map entryWord ++ back)) := by
  have hpositional : (cluster (.setup o)).positional? = some s := h
  refine ⟨["cluster", "setup", s]
      ++ (ofOption "check" (switchValue o.check)).map entryWord
      ++ (ofOption "debug" (switchValue o.debug)).map entryWord
      ++ (ofOption "disable-pending" (switchValue o.disablePending)).map entryWord
      ++ (ofOption "force" (switchValue o.force)).map entryWord
      ++ (ofOption "max-parallel" (countValue o.maxParallel)).map entryWord
      ++ (ofOption "no-telemetry" (switchValue o.noTelemetry)).map entryWord
      ++ (ofOption "quiet" (switchValue o.quiet)).map entryWord,
    (ofOption "use-staged" (Given.optionalValue o.useStaged)).map entryWord, ?_, ?_⟩
  . rw [forwarded?_eq rfl]
    unfold collected missing?
    rw [hpositional]
    simp [written, path, given, hpositional, ClusterCommand.name, flags, ClusterCommand.flags,
      Except.map]
  . rw [tabulated?_eq rfl]
    simp [Row.render, hpositional, Slot.required?, Slot.words, FlagColumn.words, given, flags,
      ClusterCommand.flags]

theorem forwarded?_setup {o : SetupOptions} (h : ¬ (cluster (.setup o)).UploadsUnredacted) :
    (cluster (.setup o)).forwarded? = (cluster (.setup o)).tabulated? := by
  cases hname : o.contextName with
  | none =>
    have hpositional : (cluster (.setup o)).positional? = none := hname
    rw [forwarded?_eq rfl, tabulated?_eq rfl]
    unfold collected missing? Row.render
    rw [hpositional]
    rfl
  | some s =>
    obtain ⟨front, back, hforwarded, htabulated⟩ := setup_eq hname
    rw [hforwarded, htabulated]
    -- One of the two flags is off, so their order cannot be seen.
    cases hunredacted : o.unredacted with
    | false => simp [switchValue, ofOption]
    | true =>
      cases hupload : o.uploadCharts with
      | false => simp [switchValue, ofOption]
      | true =>
        exfalso
        exact h ⟨o, rfl, by rw [hname]; rfl, hunredacted, hupload⟩

theorem forwarded?_of_not_uploadsUnredacted {c : Command} (h : ¬ c.UploadsUnredacted) :
    c.forwarded? = c.tabulated? := by
  cases c with
  | cluster c =>
    by_cases hsetup : ∃ o, c = .setup o
    . obtain ⟨o, rfl⟩ := hsetup
      exact forwarded?_setup h
    . apply forwarded?_cluster
      intro o ho
      exact hsetup ⟨o, ho⟩
  | login c => exact forwarded?_login c
  | logout => exact forwarded?_logout
  | helm args => rfl
  | version output => rfl

theorem UploadsUnredacted.eq {c : Command} (h : c.UploadsUnredacted) :
    ∃ front back,
      c.forwarded? = some (.ok (front ++ ["--unredacted", "--upload-charts"] ++ back))
        ∧ c.tabulated? = some (.ok (front ++ ["--upload-charts", "--unredacted"] ++ back)) := by
  obtain ⟨o, rfl, hname, hunredacted, hupload⟩ := h
  obtain ⟨s, hname⟩ := Option.isSome_iff_exists.mp hname
  obtain ⟨front, back, hforwarded, htabulated⟩ := setup_eq hname
  refine ⟨front, back, ?_, ?_⟩
  . rw [hforwarded, hunredacted, hupload]
    simp [switchValue, ofOption, entryWord, ArgVector.bareFlag]
  . rw [htabulated, hunredacted, hupload]
    simp [switchValue, ofOption, entryWord, ArgVector.bareFlag]

/-- Exactly the setups that both log secrets and upload charts leave the table, by the order of
these two flags. Nothing but a missing argument that the table requires is an error. -/
theorem forwarded?_eq_tabulated?_iff (c : Command) :
    (c.forwarded? = c.tabulated? ↔ ¬ c.UploadsUnredacted)
      ∧ (c.UploadsUnredacted →
          ∃ front back,
            c.forwarded?
                = some (.ok (front ++ ["--unredacted", "--upload-charts"] ++ back))
              ∧ c.tabulated?
                = some (.ok (front ++ ["--upload-charts", "--unredacted"] ++ back)))
      ∧ ∀ e, c.forwarded? = some (.error e) ↔ c.tabulated? = some (.error e) := by
  refine ⟨⟨?_, forwarded?_of_not_uploadsUnredacted⟩, UploadsUnredacted.eq, ?_⟩
  . intro h hswaps
    obtain ⟨front, back, hforwarded, htabulated⟩ := hswaps.eq
    rw [hforwarded, htabulated] at h
    simp at h
  . intro e
    by_cases h : c.UploadsUnredacted
    . obtain ⟨front, back, hforwarded, htabulated⟩ := h.eq
      simp [hforwarded, htabulated]
    . rw [forwarded?_of_not_uploadsUnredacted h]

theorem forwarded?_setup_unredacted_uploadCharts :
    let options : SetupOptions :=
      { contextName := some "root@c", unredacted := true, uploadCharts := true }
    (cluster (.setup options)).forwarded?
        = some (.ok ["cluster", "setup", "root@c", "--unredacted", "--upload-charts"])
      ∧ (cluster (.setup options)).tabulated?
        = some (.ok ["cluster", "setup", "root@c", "--upload-charts", "--unredacted"])
      ∧ (cluster (.setup options)).forwarded? ≠ (cluster (.setup options)).tabulated? := by
  refine ⟨rfl, rfl, ?_⟩
  intro h
  injection h with h
  injection h with h
  contradiction

end Command

end KubePlugin
