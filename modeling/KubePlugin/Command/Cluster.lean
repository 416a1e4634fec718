import KubePlugin.ArgVector

namespace KubePlugin

structure CheckOptions where
  all : Bool := false
  containerImages : Bool := false
  priorityClass : Bool := false
  resources : Bool := false
  details : Bool := false
deriving DecidableEq, Repr, Inhabited

structure DeleteOptions where
  clusterName : Option String := none
  force : Bool := false
deriving DecidableEq, Repr, Inhabited

structure DeployOptions where
  clusterDef : Option String := none
  check : Bool := false
  force : Bool := false
  maxParallel : UInt32 := ArgVector.defaultParallel
  noTelemetry : Bool := false
  packageCache : Option String := none
  quiet : Bool := false
  uploadCharts : Bool := false
  usePreview : Bool := false
  useStaged : Option (Option String) := none
deriving DecidableEq, Repr, Inhabited

structure PrepareOptions where
  clusterDef : Option String := none
  baseImageName : Option String := none
  debug : Bool := false
  disablePending : Bool := false
  insecure : Bool := false
  maxParallel : UInt32 := ArgVector.defaultParallel
  nodeImagePath : Option String := none
  nodeImageUri : Option String := none
  noTelemetry : Bool := false
  packageCache : Option String := none
  quiet : Bool := false
  unredacted : Bool := false
  useStaged : Option (Option String) := none
deriving DecidableEq, Repr, Inhabited

structure ResetOptions where
  auth : Bool := false
  crio : Bool := false
  force : Bool := false
  harbor : Bool := false
  keepNamespaces : Option String := none
  minio : Bool := false
  monitoring : Bool := false
deriving DecidableEq, Repr, Inhabited

structure SetupOptions where
  contextName : Option String := none
  check : Bool := false
  debug : Bool := false
  disablePending : Bool := false
  force : Bool := false
  maxParallel : UInt32 := ArgVector.defaultParallel
  noTelemetry : Bool := false
  quiet : Bool := false
  unredacted : Bool := false
  uploadCharts : Bool := false
  useStaged : Option (Option String) := none
deriving DecidableEq, Repr, Inhabited

structure StopOptions where
  force : Bool := false
  turnoff : Bool := false
deriving DecidableEq, Repr, Inhabited

inductive ClusterCommand where
  | check (options : CheckOptions)
  | dashboard (name : Option String)
  | delete (options : DeleteOptions)
  | deploy (options : DeployOptions)
  | health
  | info
  | isLocked
  | lock
  | pause
  | prepare (options : PrepareOptions)
  | purpose (value : Option String)
  | reset (options : ResetOptions)
  | setup (options : SetupOptions)
  | start
  | stop (options : StopOptions)
  | unlock
  | validate (clusterDef : Option String)
deriving DecidableEq, Repr

namespace ClusterCommand

def words (name : String) : ArgVector := ArgVector.command ["cluster", name]

def checkArgs (o : CheckOptions) : ArgVector :=
  (words "check")
    |>.switch "all" o.all
    |>.switch "container-images" o.containerImages
    |>.switch "priority-class" o.priorityClass
    |>.switch "resources" o.resources
    |>.switch "details" o.details

def deleteArgs (o : DeleteOptions) : ArgVector :=
  (words "delete")
    |>.positional o.clusterName
    |>.switch "force" o.force

def deployArgs (o : DeployOptions) : Except PluginError ArgVector := do
  let v ← (words "deploy").required o.clusterDef "CLUSTERDEF"
  return v
    |>.switch "check" o.check
    |>.switch "force" o.force
    |>.maxParallel o.maxParallel
    |>.switch "no-telemetry" o.noTelemetry
    |>.value "package-cache" o.packageCache
    |>.switch "quiet" o.quiet
    |>.switch "upload-charts" o.uploadCharts
    |>.switch "use-preview" o.usePreview
    |>.optionalValue "use-staged" o.useStaged

def prepareArgs (o : PrepareOptions) : Except PluginError ArgVector := do
  let v ← (words "prepare").required o.clusterDef "CLUSTERDEF"
  return v
    |>.value "base-image-name" o.baseImageName
    |>.switch "debug" o.debug
    |>.switch "disable-pending" o.disablePending
    |>.switch "insecure" o.insecure
    |>.maxParallel o.maxParallel
    |>.value "node-image-path" o.nodeImagePath
    |>.value "node-image-uri" o.nodeImageUri
    |>.switch "no-telemetry" o.noTelemetry
    |>.value "package-cache" o.packageCache
    |>.switch "quiet" o.quiet
    |>.switch "unredacted" o.unredacted
    |>.optionalValue "use-staged" o.useStaged

def resetArgs (o : ResetOptions) : ArgVector :=
  (words "reset")
    |>.switch "auth" o.auth
    |>.switch "crio" o.crio
    |>.switch "force" o.force
    |>.switch "harbor" o.harbor
    |>.value "keep-namespaces" o.keepNamespaces
    |>.switch "minio" o.minio
    |>.switch "monitoring" o.monitoring

def setupArgs (o : SetupOptions) : Except PluginError ArgVector := do
  let v ← (words "setup").required o.contextName "CONTEXTNAME"
  return v
    |>.switch "check" o.check
    |>.switch "debug" o.debug
    |>.switch "disable-pending" o.disablePending
    |>.switch "force" o.force
    |>.maxParallel o.maxParallel
    |>.switch "no-telemetry" o.noTelemetry
    |>.switch "quiet" o.quiet
    |>.switch "unredacted" o.unredacted
    |>.switch "upload-charts" o.uploadCharts
    |>.optionalValue "use-staged" o.useStaged

def stopArgs (o : StopOptions) : ArgVector :=
  (words "stop")
    |>.switch "force" o.force
    |>.switch "turnoff" o.turnoff

def neonCliArgs : ClusterCommand → Except PluginError ArgVector
  | check o => .ok (checkArgs o)
  | dashboard name => .ok ((words "dashboard").positional name)
  | delete o => .ok (deleteArgs o)
  | deploy o => deployArgs o
  | health => .ok (words "health")
  | info => .ok (words "info")
  | isLocked => .ok (words "islocked")
  | lock => .ok (words "lock")
  | pause => .ok (words "pause")
  | prepare o => prepareArgs o
  | purpose value => .ok ((words "purpose").positional value)
  | reset o => .ok (resetArgs o)
  | setup o => setupArgs o
  | start => .ok (words "start")
  | stop o => .ok (stopArgs o)
  | unlock => .ok (words "unlock")
  | validate clusterDef => (words "validate").required clusterDef "CLUSTERDEF"

end ClusterCommand

end KubePlugin
