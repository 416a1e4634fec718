import KubePlugin.Command.Surface
import KubePlugin.Proofs.CommandLine.Reading

/-!
This module contains the commands for neon-cli as lists of the arguments that are given to it: the
words of the command, its positional argument, and its flags in order. The vector that a command
builds step by step is the words written for this list.
-/

namespace KubePlugin

open CommandLine

namespace CommandLine.Given

def dropEmpty (v : Option String) : Option String := v.filter fun s => !s.isEmpty

def dropEmptyBranch (v : Option (Option String)) : Option (Option String) :=
  v.filter fun branch => branch ≠ some ""

def switchValue (on : Bool) : Option Value := if on then some .on else none

def textValue (v : Option String) : Option Value := (dropEmpty v).map .text

def optionalValue (v : Option (Option String)) : Option Value :=
  (dropEmptyBranch v).map fun branch =>
    match branch with
    | some s => .text s
    | none => .on

def countValue (n : UInt32) : Option Value :=
  if n = ArgVector.defaultParallel then none else some (.count n)

def ofOption (long : String) (v : Option Value) : Given := v.toList.map fun v => (.option long, v)

def ofPositional (v : Option String) : Given := v.toList.map fun s => (.positional, .text s)

@[simp]
theorem get?_nil (id : ArgId) : get? [] id = none := rfl

@[simp]
theorem get?_append (g h : Given) (id : ArgId) : get? (g ++ h) id = (g.get? id).or (h.get? id) :=
  List.lookup_append

@[simp]
theorem get?_ofOption (long : String) (v : Option Value) (id : ArgId) :
    (ofOption long v).get? id = if id = .option long then v else none := by
  cases v with
  | none => simp [ofOption]
  | some v =>
    by_cases h : id = .option long
    . simp [ofOption, get?, h]
    . simp [ofOption, get?, List.lookup_cons, h, beq_false_of_ne h]

@[simp]
theorem get?_ofPositional (v : Option String) (id : ArgId) :
    (ofPositional v).get? id = if id = .positional then v.map .text else none := by
  cases v with
  | none => simp [ofPositional]
  | some v =>
    by_cases h : id = .positional
    . simp [ofPositional, get?, h]
    . simp [ofPositional, get?, List.lookup_cons, h, beq_false_of_ne h]

@[simp]
theorem map_ofPositional (v : Option String) : (ofPositional v).map entryWord = v.toList := by
  cases v <;> rfl

end CommandLine.Given

open CommandLine.Given

namespace ClusterCommand

def name : ClusterCommand → String
  | check _ => "check"
  | dashboard _ => "dashboard"
  | delete _ => "delete"
  | deploy _ => "deploy"
  | health => "health"
  | info => "info"
  | isLocked => "islocked"
  | lock => "lock"
  | pause => "pause"
  | prepare _ => "prepare"
  | purpose _ => "purpose"
  | reset _ => "reset"
  | setup _ => "setup"
  | start => "start"
  | stop _ => "stop"
  | unlock => "unlock"
  | validate _ => "validate"

def positional? : ClusterCommand → Option String
  | dashboard name => name
  | delete o => o.clusterName
  | deploy o => o.clusterDef
  | prepare o => o.clusterDef
  | purpose value => value
  | setup o => o.contextName
  | validate clusterDef => clusterDef
  | _ => none

def required? : ClusterCommand → Option String
  | deploy _ => some "CLUSTERDEF"
  | prepare _ => some "CLUSTERDEF"
  | setup _ => some "CONTEXTNAME"
  | validate _ => some "CLUSTERDEF"
  | _ => none

def flags : ClusterCommand → Given
  | check o =>
    ofOption "all" (switchValue o.all) ++
      ofOption "container-images" (switchValue o.containerImages) ++
      ofOption "priority-class" (switchValue o.priorityClass) ++
      ofOption "resources" (switchValue o.resources) ++
      ofOption "details" (switchValue o.details)
  | delete o => ofOption "force" (switchValue o.force)
  | deploy o =>
    ofOption "check" (switchValue o.check) ++
      ofOption "force" (switchValue o.force) ++
      ofOption "max-parallel" (countValue o.maxParallel) ++
      ofOption "no-telemetry" (switchValue o.noTelemetry) ++
      ofOption "package-cache" (textValue o.packageCache) ++
      ofOption "quiet" (switchValue o.quiet) ++
      ofOption "upload-charts" (switchValue o.uploadCharts) ++
      ofOption "use-preview" (switchValue o.usePreview) ++
      ofOption "use-staged" (optionalValue o.useStaged)
  | prepare o =>
    ofOption "base-image-name" (textValue o.baseImageName) ++
      ofOption "debug" (switchValue o.debug) ++
      ofOption "disable-pending" (switchValue o.disablePending) ++
      ofOption "insecure" (switchValue o.insecure) ++
      ofOption "max-parallel" (countValue o.maxParallel) ++
      ofOption "node-image-path" (textValue o.nodeImagePath) ++
      ofOption "node-image-uri" (textValue o.nodeImageUri) ++
      ofOption "no-telemetry" (switchValue o.noTelemetry) ++
      ofOption "package-cache" (textValue o.packageCache) ++
      ofOption "quiet" (switchValue o.quiet) ++
      ofOption "unredacted" (switchValue o.unredacted) ++
      ofOption "use-staged" (optionalValue o.useStaged)
  | reset o =>
    ofOption "auth" (switchValue o.auth) ++
      ofOption "crio" (switchValue o.crio) ++
      ofOption "force" (switchValue o.force) ++
      ofOption "harbor" (switchValue o.harbor) ++
      ofOption "keep-namespaces" (textValue o.keepNamespaces) ++
      ofOption "minio" (switchValue o.minio) ++
      ofOption "monitoring" (switchValue o.monitoring)
  | setup o =>
    ofOption "check" (switchValue o.check) ++
      ofOption "debug" (switchValue o.debug) ++
      ofOption "disable-pending" (switchValue o.disablePending) ++
      ofOption "force" (switchValue o.force) ++
      ofOption "max-parallel" (countValue o.maxParallel) ++
      ofOption "no-telemetry" (switchValue o.noTelemetry) ++
      ofOption "quiet" (switchValue o.quiet) ++
      ofOption "unredacted" (switchValue o.unredacted) ++
      ofOption "upload-charts" (switchValue o.uploadCharts) ++
      ofOption "use-staged" (optionalValue o.useStaged)
  | stop o =>
    ofOption "force" (switchValue o.force) ++
      ofOption "turnoff" (switchValue o.turnoff)
  | _ => []

def normalize : ClusterCommand → ClusterCommand
  | deploy o =>
    .deploy
      { o with
        packageCache := dropEmpty o.packageCache, useStaged := dropEmptyBranch o.useStaged }
  | prepare o =>
    .prepare
      { o with
        baseImageName := dropEmpty o.baseImageName, nodeImagePath := dropEmpty o.nodeImagePath
        nodeImageUri := dropEmpty o.nodeImageUri, packageCache := dropEmpty o.packageCache
        useStaged := dropEmptyBranch o.useStaged }
  | reset o => .reset { o with keepNamespaces := dropEmpty o.keepNamespaces }
  | setup o => .setup { o with useStaged := dropEmptyBranch o.useStaged }
  | c => c

end ClusterCommand

namespace LoginCommand

def name? : LoginCommand → Option String
  | enter _ => none
  | delete _ => some "delete"
  | exportContext _ => some "export"
  | importContext _ => some "import"
  | list _ => some "list"

def positional? : LoginCommand → Option String
  | enter name => name
  | delete o => o.contextName
  | exportContext o => o.path
  | importContext o => o.path
  | list _ => none

def required? : LoginCommand → Option String
  | importContext _ => some "PATH"
  | _ => none

def flags : LoginCommand → Given
  | enter _ => []
  | delete o => ofOption "force" (switchValue o.force)
  | exportContext o => ofOption "context" (textValue o.context)
  | importContext o =>
    ofOption "force" (switchValue o.force) ++
      ofOption "no-login" (switchValue o.noLogin)
  | list output => ofOption "output" (textValue output)

def normalize : LoginCommand → LoginCommand
  | exportContext o => .exportContext { o with context := dropEmpty o.context }
  | list output => .list (dropEmpty output)
  | c => c

end LoginCommand

namespace Command

def path : Command → List String
  | cluster c => ["cluster", c.name]
  | login c => "login" :: c.name?.toList
  | logout => ["logout"]
  | helm _ => ["helm"]
  | version _ => ["version"]

def positional? : Command → Option String
  | cluster c => c.positional?
  | login c => c.positional?
  | _ => none

def required? : Command → Option String
  | cluster c => c.required?
  | login c => c.required?
  | _ => none

def flags : Command → Given
  | cluster c => c.flags
  | login c => c.flags
  | _ => []

def given (c : Command) : Given := ofPositional c.positional? ++ c.flags

def normalize : Command → Command
  | cluster c => .cluster c.normalize
  | login c => .login c.normalize
  | c => c

def launchMode : Command → LaunchMode
  | login c => c.launchMode
  | helm _ => .replace
  | _ => .supervised

def written (c : Command) : List String := c.path ++ c.given.map entryWord

def missing? (c : Command) : Option String :=
  if c.positional?.isNone then c.required? else none

def neonCliArgs? : Command → Option (Except PluginError ArgVector)
  | cluster c => some c.neonCliArgs
  | login c => some c.neonCliArgs
  | logout => some (.ok logoutArgs)
  | helm _ => none
  | version _ => none

end Command

namespace ArgVector

@[simp]
theorem toList_positional (v : ArgVector) (value : Option String) :
    (v.positional value).toList = v.toList ++ value.toList := by
  cases value with
  | none => simp [positional]
  | some s => rfl

@[simp]
theorem toList_switch (v : ArgVector) (name : String) (enabled : Bool) :
    (v.switch name enabled).toList
      =
    v.toList ++ (ofOption name (switchValue enabled)).map entryWord := by
  cases enabled with
  | false => simp [switch, ofOption, switchValue]
  | true => rfl

@[simp]
theorem toList_value (v : ArgVector) (name : String) (value : Option String) :
    (v.value name value).toList = v.toList ++ (ofOption name (textValue value)).map entryWord := by
  cases value with
  | none => simp [ArgVector.value, ofOption, textValue, dropEmpty]
  | some s =>
    unfold ArgVector.value
    dsimp only
    split
    . next h =>
      simp at h
      simp [ofOption, textValue, dropEmpty, Option.filter, h]
    . next h =>
      simp at h
      simp [ofOption, textValue, dropEmpty, Option.filter, h, entryWord]

@[simp]
theorem toList_optionalValue (v : ArgVector) (name : String) (value : Option (Option String)) :
    (v.optionalValue name value).toList
      =
    v.toList ++ (ofOption name (Given.optionalValue value)).map entryWord := by
  rcases value with _ | _ | s
  . simp [ArgVector.optionalValue, ofOption, Given.optionalValue, dropEmptyBranch]
  . simp [ArgVector.optionalValue, ofOption, Given.optionalValue, dropEmptyBranch, Option.filter,
      entryWord]
  . unfold ArgVector.optionalValue
    dsimp only
    split
    . next h =>
      simp at h
      simp [ofOption, Given.optionalValue, dropEmptyBranch, Option.filter, h]
    . next h =>
      simp at h
      simp [ofOption, Given.optionalValue, dropEmptyBranch, Option.filter, h, entryWord]

@[simp]
theorem toList_maxParallel (v : ArgVector) (n : UInt32) :
    (v.maxParallel n).toList
      =
    v.toList ++ (ofOption "max-parallel" (countValue n)).map entryWord := by
  unfold maxParallel countValue
  split
  . simp [ofOption]
  . rfl

theorem eq_mk_of_toList {v : ArgVector} {l : List String} (h : v.toList = l) : v = ⟨l⟩ := by
  rw [← h]

end ArgVector

def Command.collected (c : Command) : Except PluginError ArgVector :=
  match c.missing? with
  | some name => .error (.missingArgument name)
  | none => .ok ⟨c.written⟩

theorem Command.missing?_of_not_required {c : Command} (h : c.required? = none) :
    c.missing? = none := by
  unfold missing?
  rw [h]
  split <;> rfl

theorem Command.collected_eq {c : Command} (h : c.missing? = none) {v : ArgVector}
    (hv : v.toList = c.written) : c.collected = .ok v := by
  unfold collected
  rw [h, ArgVector.eq_mk_of_toList hv]

namespace ClusterCommand

theorem written_eq (c : ClusterCommand) :
    (Command.cluster c).written
      =
    ["cluster", c.name] ++ c.positional?.toList ++ c.flags.map entryWord := by
  simp [Command.written, Command.path, Command.given, Command.positional?, Command.flags]

theorem neonCliArgs_eq (c : ClusterCommand) : c.neonCliArgs = (Command.cluster c).collected := by
  symm
  cases c with
  | deploy o =>
    rcases o with ⟨_ | s, _⟩
    . rfl
    . apply Command.collected_eq rfl
      simp [written_eq, name, positional?, flags, words]
  | prepare o =>
    rcases o with ⟨_ | s, _⟩
    . rfl
    . apply Command.collected_eq rfl
      simp [written_eq, name, positional?, flags, words]
  | setup o =>
    rcases o with ⟨_ | s, _⟩
    . rfl
    . apply Command.collected_eq rfl
      simp [written_eq, name, positional?, flags, words]
  | validate clusterDef => cases clusterDef <;> rfl
  | _ =>
    apply Command.collected_eq (Command.missing?_of_not_required rfl)
    simp [written_eq, name, positional?, flags, words, checkArgs, deleteArgs, resetArgs,
      stopArgs]

end ClusterCommand

namespace LoginCommand

theorem written_eq (c : LoginCommand) :
    (Command.login c).written
      =
    "login" :: (c.name?.toList ++ c.positional?.toList ++ c.flags.map entryWord) := by
  simp [Command.written, Command.path, Command.given, Command.positional?, Command.flags]

theorem neonCliArgs_eq (c : LoginCommand) : c.neonCliArgs = (Command.login c).collected := by
  symm
  cases c with
  | importContext o =>
    rcases o with ⟨_ | s, _⟩
    . rfl
    . apply Command.collected_eq rfl
      simp [written_eq, name?, positional?, flags, words]
  | _ =>
    apply Command.collected_eq (Command.missing?_of_not_required rfl)
    simp [written_eq, name?, positional?, flags, words]

end LoginCommand

namespace Command

theorem neonCliArgs?_eq {c : Command} (h : c.neonCliArgs?.isSome) :
    c.neonCliArgs? = some c.collected := by
  cases c with
  | cluster c => exact congrArg some c.neonCliArgs_eq
  | login c => exact congrArg some c.neonCliArgs_eq
  | logout => rfl
  | helm args => contradiction
  | version output => contradiction

theorem collected_eq_ok_iff {c : Command} {v : ArgVector} :
    c.collected = .ok v ↔ c.missing? = none ∧ v.toList = c.written := by
  constructor
  . intro h
    unfold collected at h
    split at h
    . contradiction
    . next hmissing =>
      injection h with hv
      exact ⟨hmissing, by rw [← hv]⟩
  . intro ⟨hmissing, hv⟩
    exact collected_eq hmissing hv

end Command

end KubePlugin
