import KubePlugin.Automation.Workshop

namespace KubePlugin.Automation

def binary : String := "neon"

def pluginBinary : String := "kubectl-neon"

def archiveVersion : String := "0.1.0"

inductive BuildTask where
  | build (release : Bool)
  | test (integration : Bool)
  | dist (target : Option String)
  | install (place : String)
  | ci
  | format (check : Bool)
  | clippy
deriving DecidableEq, Repr

def releaseCommand : Option String → CommandWords
  | some target => ["cargo", "build", "--release", "--target", target]
  | none => ["cargo", "build", "--release"]

def buildCommand (release : Bool) : CommandWords :=
  if release then releaseCommand none else ["cargo", "build"]

def testCommand (integration : Bool) : CommandWords :=
  if integration then ["cargo", "test", "--test", "cli_test"] else ["cargo", "test", "--all"]

def formatCommand (check : Bool) : CommandWords :=
  if check then ["cargo", "fmt", "--all", "--", "--check"] else ["cargo", "fmt", "--all"]

def clippyCommand : CommandWords :=
  ["cargo", "clippy", "--all-targets", "--all-features", "--", "-D", "warnings"]

def distFolder : String := "dist"

def archiveName : Option String → String
  | some target => s!"neon-kubectl-{archiveVersion}-{target}.tar.gz"
  | none => s!"neon-kubectl-{archiveVersion}.tar.gz"

def packCommand (target : Option String) : CommandWords :=
  ["tar", "-czf", archiveName target, "-C", distFolder, binary, pluginBinary]

def releaseBinary (target : Option String) : Path :=
  match target with
  | some target => RawText.ofString s!"target/{target}/release/{binary}"
  | none => RawText.ofString s!"target/release/{binary}"

def inDist (name : String) : Path :=
  Path.join (RawText.ofString distFolder) (RawText.ofString name)

variable {m : Type → Type} [Monad m] (w : Workshop m)

def build (release : Bool) : Work m Unit := do
  w.tell s!"🔨 Building {binary}..."
  w.command (buildCommand release)
  w.tell
    (if release then s!"✅ Release build completed: target/release/{binary}"
      else s!"✅ Debug build completed: target/debug/{binary}")

def test (integration : Bool) : Work m Unit := do
  w.tell "🧪 Running tests..."
  w.command (testCommand integration)
  w.tell "✅ All tests passed"

def pack (target : Option String) : Work m Unit :=
  tryCatch (w.command (packCommand target)) fun cause => throw (.noArchive cause)

def dist (target : Option String) : Work m Unit := do
  w.tell "📦 Creating distribution package..."
  w.command (releaseCommand target)
  w.folder (RawText.ofString distFolder)
  w.copyFile (releaseBinary target) (inDist binary)
  w.copyFile (releaseBinary target) (inDist pluginBinary)
  pack w target
  w.tell s!"✅ Distribution package created: {archiveName target}"

def installFolder (place : String) : Path :=
  Path.join (RawText.ofString place) (RawText.ofString "bin")

def installAs (place name : String) : Work m Unit := do
  let path := Path.join (installFolder place) (RawText.ofString name)
  w.copyFile (releaseBinary none) path
  w.makeProgram path
  w.tell s!"✅ Installed to: {path.lossy}"

def buildIfMissing : Work m Unit := do
  if ← ExceptT.lift (w.isThere (w.inRoot (releaseBinary none))) then pure ()
  else do
    w.tell "Building release binary first..."
    w.command (releaseCommand none)

def install (place : String) : Work m Unit := do
  w.tell s!"📥 Installing {binary} to {place}..."
  buildIfMissing w
  w.folder (installFolder place)
  installAs w place binary
  installAs w place pluginBinary
  w.tell "Run \x60kubectl neon --help\x60 to verify the plugin is picked up"

def format (check : Bool) : Work m Unit := do
  w.command (formatCommand check)
  w.tell (if check then "✅ Code formatting is correct" else "✅ Code formatted")

def clippy : Work m Unit := do
  w.command clippyCommand
  w.tell "✅ Clippy checks passed"

def ci : Work m Unit := do
  w.tell "🔍 Running CI checks..."
  w.tell "\n📝 Checking formatting..."
  format w true
  w.tell "\n🔧 Running clippy..."
  clippy w
  w.tell "\n🧪 Running tests..."
  test w false
  w.tell "\n✅ All CI checks passed!"

def BuildTask.work : BuildTask → Work m Unit
  | .build release => Automation.build w release
  | .test integration => Automation.test w integration
  | .dist target => Automation.dist w target
  | .install place => Automation.install w place
  | .ci => Automation.ci w
  | .format check => Automation.format w check
  | .clippy => Automation.clippy w

end KubePlugin.Automation
