import KubePlugin.ArgVector
import KubePlugin.Automation.Surface
import KubePlugin.Automation.Task
import KubePlugin.Automation.Workshop
import KubePlugin.Command.Basic
import KubePlugin.Command.Cluster
import KubePlugin.Command.Login
import KubePlugin.Command.Surface
import KubePlugin.Command.Version
import KubePlugin.CommandLine.Fault
import KubePlugin.CommandLine.Parser
import KubePlugin.CommandLine.Spec
import KubePlugin.CommandLine.Styled
import KubePlugin.CommandLine.Usage
import KubePlugin.Error
import KubePlugin.Host
import KubePlugin.IoError
import KubePlugin.Locator.Candidate
import KubePlugin.Locator.Search
import KubePlugin.Log
import KubePlugin.Log.Filter
import KubePlugin.Machine.Builtin
import KubePlugin.Machine.Evaluation
import KubePlugin.Machine.Files
import KubePlugin.Machine.Plugin
import KubePlugin.Machine.Process
import KubePlugin.Machine.Program
import KubePlugin.Machine.Scheduler
import KubePlugin.Machine.Setup
import KubePlugin.Machine.Shell.Arithmetic
import KubePlugin.Machine.Shell.Condition
import KubePlugin.Machine.Shell.Expand
import KubePlugin.Machine.Shell.Pattern
import KubePlugin.Machine.Shell.Print
import KubePlugin.Machine.Shell.Reader
import KubePlugin.Machine.Shell.Syntax
import KubePlugin.Machine.Shell.Token
import KubePlugin.Machine.Turn
import KubePlugin.Machine.Utility
import KubePlugin.Machine.Workshop
import KubePlugin.Main
import KubePlugin.Path
import KubePlugin.Program
import KubePlugin.Proofs.ArgVector
import KubePlugin.Proofs.Automation.Archive
import KubePlugin.Proofs.Automation.Course
import KubePlugin.Proofs.Automation.FirstFailure
import KubePlugin.Proofs.Automation.Install
import KubePlugin.Proofs.Automation.Plan
import KubePlugin.Proofs.Automation.Site
import KubePlugin.Proofs.Automation.Staging
import KubePlugin.Proofs.Command.Ambiguity
import KubePlugin.Proofs.Command.Described
import KubePlugin.Proofs.Command.Execution
import KubePlugin.Proofs.Command.Given
import KubePlugin.Proofs.Command.Order
import KubePlugin.Proofs.Command.Parallel
import KubePlugin.Proofs.Command.PassThrough
import KubePlugin.Proofs.Command.Positional
import KubePlugin.Proofs.Command.RoundTrip
import KubePlugin.Proofs.Command.Table
import KubePlugin.Proofs.Command.Version
import KubePlugin.Proofs.CommandLine.Bare
import KubePlugin.Proofs.CommandLine.Item
import KubePlugin.Proofs.CommandLine.Line
import KubePlugin.Proofs.CommandLine.Plain
import KubePlugin.Proofs.CommandLine.Reading
import KubePlugin.Proofs.CommandLine.Regular
import KubePlugin.Proofs.CommandLine.Verbatim
import KubePlugin.Proofs.CommandLine.Word
import KubePlugin.Proofs.Locator.Choice
import KubePlugin.Proofs.Locator.Delegation
import KubePlugin.Proofs.Locator.Installed
import KubePlugin.Proofs.Locator.MostRecent
import KubePlugin.Proofs.Locator.ToldPath
import KubePlugin.Proofs.Machine.Beneath
import KubePlugin.Proofs.Machine.Growth
import KubePlugin.Proofs.Machine.Rooted
import KubePlugin.Proofs.Program.ExitCode
import KubePlugin.Proofs.Program.Nesting
import KubePlugin.Proofs.Stateful
import KubePlugin.Proofs.Supervision.Cancellation
import KubePlugin.Proofs.Supervision.Outcome
import KubePlugin.Proofs.Supervision.Ownership
import KubePlugin.Proofs.Supervision.Step
import KubePlugin.Proofs.Table
import KubePlugin.Proofs.Text.Blank
import KubePlugin.Proofs.Text.Decimal
import KubePlugin.Proofs.Text.Repair
import KubePlugin.Proofs.Text.Utf8
import KubePlugin.Proofs.WaitStatus
import KubePlugin.Supervision
import KubePlugin.Table
import KubePlugin.Text.Class
import KubePlugin.Text.Decimal
import KubePlugin.Text.Hidden
import KubePlugin.Text.Quoted
import KubePlugin.Text.Raw
import KubePlugin.Text.Utf8
import KubePlugin.Text.Visible
import KubePlugin.Text.Width
import KubePlugin.Text.Width.Ranges
import KubePlugin.WaitStatus
