import KubePlugin.Command.Basic
import KubePlugin.CommandLine.Parser

namespace KubePlugin.Surface

open CommandLine

def maxParallel : Opt where
  long := "max-parallel"
  takes := .value "MAX_PARALLEL"
  reading := .count
  about := "Maximum number of node related operations to perform in parallel"
  usual := some "6"

def packageCache : Opt :=
  valued "package-cache" "SERVERS" "APT package cache servers (HOST:PORT), separated by commas"

def useStaged (about : String) : Opt where
  long := "use-staged"
  takes := .optional "BRANCH"
  about := about

def check : Spec :=
  .leaf "check" "Performs some checks against the current NEONKUBE cluster"
    [ flag "all" "Performs all checks (implied when no other options are present)",
      flag "container-images"
        "Verifies that all running container images are included in the cluster manifest",
      flag "priority-class" "Verifies that all running pods have a non-zero PriorityClass",
      flag "resources" "Verifies that all pod containers specify resource requests and limits",
      flag "details" ("Includes additional information for some of the checks even when there " ++
        "are no errors") ]

def dashboard : Spec :=
  .leaf "dashboard" "Opens a NEONKUBE dashboard in a browser" []
    (some ⟨"DASHBOARD", "Dashboard to open; lists the available dashboards when omitted", false⟩)

def delete : Spec :=
  .leaf "delete" "Permanently deletes the current NEONKUBE cluster or a specific cluster"
    [ flag "force" ("Don't prompt for permission or require the cluster be unlocked before " ++
        "removal") ]
    (some ⟨"CLUSTERNAME", "Cluster to delete; defaults to the current cluster", false⟩)
    ["rm"]

def clusterDef : Positional :=
  ⟨"CLUSTERDEF", "Path to the cluster definition YAML file", false⟩

def deploy : Spec :=
  .leaf "deploy" "Deploys a NEONKUBE cluster, based on a cluster definition"
    [ flag "check" ("Performs development related checks against the cluster after it's been " ++
        "deployed"),
      flag "force" ("Don't prompt for permission to remove existing contexts that reference " ++
        "the target cluster"),
      maxParallel,
      flag "no-telemetry" "Disables telemetry uploads for failed cluster deployments",
      packageCache,
      flag "quiet" "Only print the currently executing step rather than detailed setup status",
      flag "upload-charts" ("MAINTAINER ONLY: Upload Helm charts from your workstation rather " ++
        "than using the node image charts"),
      flag "use-preview" "MAINTAINER ONLY: Deploy using a preview node image",
      useStaged ("MAINTAINER ONLY: Deploy from an internal build, optionally from a GitHub " ++
        "source branch") ]
    (some clusterDef)

def isLocked : Spec :=
  .leaf "islocked" "Determines whether the current NEONKUBE cluster is locked" [] none []
    (some ("Determines whether the current NEONKUBE cluster is locked\n\nExits with 0 when the " ++
      "cluster is locked, 2 when it's unlocked and 1 when the lock status can't be determined."))

def prepare : Spec :=
  .leaf "prepare"
    "MAINTAINERS ONLY: Provisions infrastructure required to host a NEONKUBE cluster"
    [ valued "base-image-name" "NAME" "Base image name to use when preparing the nodes",
      flag "debug" "Prepares the cluster in debug mode (slower, no node image required)",
      flag "disable-pending" "Disables parallel node preparation",
      flag "insecure" "Uses insecure connections while preparing the cluster",
      maxParallel,
      valued "node-image-path" "PATH" "Path to a local node image file",
      valued "node-image-uri" "URI" "URI of the node image to download",
      flag "no-telemetry" "Disables telemetry uploads for failed cluster preparation",
      packageCache,
      flag "quiet" "Only print the currently executing step rather than detailed setup status",
      flag "unredacted" "Doesn't redact sensitive information in logs",
      useStaged "Prepare from an internal build, optionally from a GitHub source branch" ]
    (some clusterDef)

def purpose : Spec :=
  .leaf "purpose" "Prints or sets information about the cluster purpose" []
    (some ⟨"NEWPURPOSE", "New cluster purpose; prints the current purpose when omitted", false⟩)

def reset : Spec :=
  .leaf "reset" "Resets the current NEONKUBE cluster to its factory new condition"
    [ flag "auth" "Resets authentication (Dex, Glauth)",
      flag "crio" "Resets container registries and removes non-system container images",
      flag "force" ("Don't prompt for permission or require the cluster be unlocked before " ++
        "reset"),
      flag "harbor" "Resets Harbor components",
      valued "keep-namespaces" "NAMESPACES"
        "Comma separated non-system namespaces to retain, or \"*\" to retain them all",
      flag "minio" "Resets Minio",
      flag "monitoring" ("Clears monitoring data as well as non-system dashboards and alerts") ]

def setup : Spec :=
  .leaf "setup" "MAINTAINERS ONLY: Sets up a NEONKUBE cluster on prepared infrastructure"
    [ flag "check" ("Performs development related checks against the cluster after it's been " ++
        "set up"),
      flag "debug" "Sets up the cluster in debug mode",
      flag "disable-pending" "Disables parallel node setup",
      flag "force" ("Don't prompt for permission to remove existing contexts that reference " ++
        "the cluster"),
      maxParallel,
      flag "no-telemetry" "Disables telemetry uploads for failed cluster setup",
      flag "quiet" "Only print the currently executing step rather than detailed setup status",
      flag "unredacted" "Doesn't redact sensitive information in logs",
      flag "upload-charts" ("Upload Helm charts from your workstation rather than using the " ++
        "node image charts"),
      useStaged "Set up from an internal build, optionally from a GitHub source branch" ]
    (some ⟨"CONTEXTNAME", "Context of the prepared cluster (root@CLUSTER-NAME)", false⟩)

def stop : Spec :=
  .leaf "stop" "Stops the current NEONKUBE cluster"
    [ flag "force" ("Don't prompt for permission or require the cluster be unlocked before " ++
        "stopping"),
      flag "turnoff" ("Turns the nodes off immediately without a graceful shutdown (may lose " ++
        "data)") ]

def validate : Spec :=
  .leaf "validate" "Validates a NEONKUBE cluster definition YAML file" [] (some clusterDef)

def cluster : Spec :=
  .group "cluster" "Deploy and manage NEONKUBE clusters"
    [ check, dashboard, delete, deploy,
      .leaf "health" "Prints health information for the current cluster",
      .leaf "info" "Prints information about the current cluster",
      isLocked,
      .leaf "lock" "Locks the current NEONKUBE cluster",
      .leaf "pause" "Pauses the current NEONKUBE cluster",
      prepare, purpose, reset, setup,
      .leaf "start" "Starts the current stopped or paused NEONKUBE cluster",
      stop,
      .leaf "unlock" "Unlocks the current NEONKUBE cluster",
      validate ]

def loginDelete : Spec :=
  .leaf "delete" "Removes the current NEONKUBE context or a context by name"
    [flag "force" "Don't prompt for permission and also ignore missing contexts"]
    (some ⟨"CONTEXTNAME", "Context to remove; defaults to the current context", false⟩)

def loginExport : Spec :=
  .leaf "export" "Exports the current context or a context by name to STDOUT or a file"
    [valued "context" "CONTEXT" "Identifies the context to export by name"]
    (some ⟨"PATH", "File to write the context to; defaults to STDOUT", false⟩)

def loginImport : Spec :=
  .leaf "import" "Imports a NEONKUBE cluster context"
    [ flag "force" "Don't prompt for permission to replace an existing context",
      flag "no-login" "Don't login to the new context" ]
    (some ⟨"PATH", "Path to the exported context file", false⟩)

def loginList : Spec :=
  .leaf "list" "Lists the NEONKUBE contexts"
    [valued "output" "FORMAT" "Output format (json|yaml)" (some 'o')] none ["ls"]

def login : Spec :=
  .mk "login" [] "Log into a NEONKUBE cluster or manage cluster contexts" none []
    (some ⟨"CONTEXTNAME", "Context to log into; prompts for SSO login when omitted", false⟩)
    [loginDelete, loginExport, loginImport, loginList] false true none

def helm : Spec :=
  .leaf "helm" "Run the Helm release NEONKUBE ships with" []
    (some ⟨"ARGS", "Arguments passed to Helm as-is", true⟩) [] none false

def versionOutput : Opt where
  long := "output"
  short := some 'o'
  takes := .value "OUTPUT"
  reading := .choice (OutputFormat.all.map OutputFormat.name)
  about := "Output format"
  usual := some "table"

def version : Spec :=
  .leaf "version" "Print the plugin and bundled tool versions" [versionOutput]

def plugin : Spec :=
  .group "neon" "Manage NEONKUBE clusters from kubectl"
    [ cluster, login, .leaf "logout" "Logs out of the current NEONKUBE context", helm, version ]
    (some ("kubectl plugin for NEONKUBE. Cluster and login commands are forwarded to neon-cli; " ++
      "helm runs the Helm release NEONKUBE ships with."))
    (some ("neon " ++ Versions.current.plugin ++ "\n"))

def clusterCommand? (name : String) (g : Given) : Option ClusterCommand :=
  match name with
  | "check" =>
    some (.check
      { all := g.has "all", containerImages := g.has "container-images"
        priorityClass := g.has "priority-class", resources := g.has "resources"
        details := g.has "details" })
  | "dashboard" => some (.dashboard g.positional?)
  | "delete" => some (.delete { clusterName := g.positional?, force := g.has "force" })
  | "deploy" =>
    some (.deploy
      { clusterDef := g.positional?, check := g.has "check", force := g.has "force"
        maxParallel := (g.count? "max-parallel").getD ArgVector.defaultParallel
        noTelemetry := g.has "no-telemetry", packageCache := g.text? "package-cache"
        quiet := g.has "quiet", uploadCharts := g.has "upload-charts"
        usePreview := g.has "use-preview", useStaged := g.optional? "use-staged" })
  | "health" => some .health
  | "info" => some .info
  | "islocked" => some .isLocked
  | "lock" => some .lock
  | "pause" => some .pause
  | "prepare" =>
    some (.prepare
      { clusterDef := g.positional?, baseImageName := g.text? "base-image-name"
        debug := g.has "debug", disablePending := g.has "disable-pending"
        insecure := g.has "insecure"
        maxParallel := (g.count? "max-parallel").getD ArgVector.defaultParallel
        nodeImagePath := g.text? "node-image-path", nodeImageUri := g.text? "node-image-uri"
        noTelemetry := g.has "no-telemetry", packageCache := g.text? "package-cache"
        quiet := g.has "quiet", unredacted := g.has "unredacted"
        useStaged := g.optional? "use-staged" })
  | "purpose" => some (.purpose g.positional?)
  | "reset" =>
    some (.reset
      { auth := g.has "auth", crio := g.has "crio", force := g.has "force"
        harbor := g.has "harbor", keepNamespaces := g.text? "keep-namespaces"
        minio := g.has "minio", monitoring := g.has "monitoring" })
  | "setup" =>
    some (.setup
      { contextName := g.positional?, check := g.has "check", debug := g.has "debug"
        disablePending := g.has "disable-pending", force := g.has "force"
        maxParallel := (g.count? "max-parallel").getD ArgVector.defaultParallel
        noTelemetry := g.has "no-telemetry", quiet := g.has "quiet"
        unredacted := g.has "unredacted", uploadCharts := g.has "upload-charts"
        useStaged := g.optional? "use-staged" })
  | "start" => some .start
  | "stop" => some (.stop { force := g.has "force", turnoff := g.has "turnoff" })
  | "unlock" => some .unlock
  | "validate" => some (.validate g.positional?)
  | _ => none

def loginCommand? (name : String) (g : Given) : Option LoginCommand :=
  match name with
  | "delete" => some (.delete { contextName := g.positional?, force := g.has "force" })
  | "export" => some (.exportContext { path := g.positional?, context := g.text? "context" })
  | "import" =>
    some (.importContext
      { path := g.positional?, force := g.has "force", noLogin := g.has "no-login" })
  | "list" => some (.list (g.text? "output"))
  | _ => none

def command? (m : Matched) : Option Command :=
  match m.path with
  | ["cluster", name] => (clusterCommand? name m.given).map .cluster
  | ["login"] => some (.login (.enter m.given.positional?))
  | ["login", name] => (loginCommand? name m.given).map .login
  | ["logout"] => some .logout
  | ["helm"] => some (.helm m.given.words)
  | ["version"] =>
    some (.version (((m.given.text? "output").bind OutputFormat.ofName?).getD .table))
  | _ => none

def parse (argv : List RawText) : Except Stop Command :=
  match plugin.parse argv with
  | .ok m =>
    match command? m with
    | some c => .ok c
    | none => .error (.helpOnMissing ((Scope.top plugin (calledName? argv)).helpText false))
  | .error stop => .error stop

/-- The command of a command line. All that follows the word `helm` in the first place goes to
helm as it is, before any other rule. -/
def read (argv : List RawText) : Except Stop Command :=
  match argv with
  | program :: word :: rest =>
    if word = RawText.ofString "helm" then .ok (.helm rest) else parse (program :: word :: rest)
  | _ => parse argv

end KubePlugin.Surface
