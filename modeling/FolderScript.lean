import FolderScript.CommandLine.Help
import FolderScript.CommandLine.Invocation
import FolderScript.CommandLine.Options
import FolderScript.CommandLine.Reading
import FolderScript.CommandLine.Stop
import FolderScript.Decimal.Binary64
import FolderScript.Decimal.Digits
import FolderScript.Failure
import FolderScript.Folder
import FolderScript.Host
import FolderScript.Host.FileSystem
import FolderScript.Host.Standard
import FolderScript.Log
import FolderScript.Log.Filter
import FolderScript.Log.Line
import FolderScript.Log.Pattern
import FolderScript.Machine
import FolderScript.Machine.Awk.Machine
import FolderScript.Machine.Awk.Number
import FolderScript.Machine.Awk.Printed
import FolderScript.Machine.Awk.Program
import FolderScript.Machine.Awk.Reader
import FolderScript.Machine.Awk.Run
import FolderScript.Machine.Awk.Script
import FolderScript.Machine.Awk.Streams
import FolderScript.Machine.Awk.Table
import FolderScript.Machine.Awk.Token
import FolderScript.Machine.Awk.Value
import FolderScript.Machine.Perl.Files
import FolderScript.Machine.Perl.Functions
import FolderScript.Machine.Perl.Machine
import FolderScript.Machine.Perl.Printed
import FolderScript.Machine.Perl.Program
import FolderScript.Machine.Perl.Reader
import FolderScript.Machine.Perl.Run
import FolderScript.Machine.Perl.Scan
import FolderScript.Machine.Perl.Script
import FolderScript.Machine.Perl.Streams
import FolderScript.Machine.Perl.Value
import FolderScript.Machine.Shell.Arithmetic
import FolderScript.Machine.Shell.Bash.Basic
import FolderScript.Machine.Shell.Bash.Braces
import FolderScript.Machine.Shell.Bash.Builtins
import FolderScript.Machine.Shell.Bash.Conditions
import FolderScript.Machine.Shell.Bash.Control
import FolderScript.Machine.Shell.Bash.Declare
import FolderScript.Machine.Shell.Bash.Expression
import FolderScript.Machine.Shell.Bash.Input
import FolderScript.Machine.Shell.Bash.Output
import FolderScript.Machine.Shell.Bash.Parameters
import FolderScript.Machine.Shell.Bash.Patterns
import FolderScript.Machine.Shell.Bash.Printed
import FolderScript.Machine.Shell.Bash.Quoting
import FolderScript.Machine.Shell.Bash.Values
import FolderScript.Machine.Shell.Builtins
import FolderScript.Machine.Shell.Builtins.Basic
import FolderScript.Machine.Shell.Builtins.Jobs
import FolderScript.Machine.Shell.Builtins.Signals
import FolderScript.Machine.Shell.Builtins.Variables
import FolderScript.Machine.Shell.Calendar
import FolderScript.Machine.Shell.Calendar.Reading
import FolderScript.Machine.Shell.Calling
import FolderScript.Machine.Shell.CharClass
import FolderScript.Machine.Shell.Condition
import FolderScript.Machine.Shell.Digest
import FolderScript.Machine.Shell.Fields
import FolderScript.Machine.Shell.Forking
import FolderScript.Machine.Shell.Format
import FolderScript.Machine.Shell.Lookup
import FolderScript.Machine.Shell.Mode
import FolderScript.Machine.Shell.Pattern
import FolderScript.Machine.Shell.Reader
import FolderScript.Machine.Shell.Redirecting
import FolderScript.Machine.Shell.Regex
import FolderScript.Machine.Shell.Regex.Rich
import FolderScript.Machine.Shell.Run
import FolderScript.Machine.Shell.Script
import FolderScript.Machine.Shell.State
import FolderScript.Machine.Shell.Store
import FolderScript.Machine.Shell.Tools
import FolderScript.Machine.Shell.Tools.Basic
import FolderScript.Machine.Shell.Tools.Callers
import FolderScript.Machine.Shell.Tools.Checks
import FolderScript.Machine.Shell.Tools.Columns
import FolderScript.Machine.Shell.Tools.Compare
import FolderScript.Machine.Shell.Tools.Counting
import FolderScript.Machine.Shell.Tools.Dates
import FolderScript.Machine.Shell.Tools.Dumps
import FolderScript.Machine.Shell.Tools.Files
import FolderScript.Machine.Shell.Tools.Find
import FolderScript.Machine.Shell.Tools.Grep
import FolderScript.Machine.Shell.Tools.Interpreters
import FolderScript.Machine.Shell.Tools.Letters
import FolderScript.Machine.Shell.Tools.Lines
import FolderScript.Machine.Shell.Tools.Listing
import FolderScript.Machine.Shell.Tools.Magnitude
import FolderScript.Machine.Shell.Tools.Merging
import FolderScript.Machine.Shell.Tools.Moving
import FolderScript.Machine.Shell.Tools.Names
import FolderScript.Machine.Shell.Tools.Numbers
import FolderScript.Machine.Shell.Tools.Parts
import FolderScript.Machine.Shell.Tools.Removing
import FolderScript.Machine.Shell.Tools.Sed
import FolderScript.Machine.Shell.Tools.SedScript
import FolderScript.Machine.Shell.Tools.Sort
import FolderScript.Machine.Shell.Tools.Splitting
import FolderScript.Machine.Shell.Tools.Status
import FolderScript.Machine.Shell.Tools.Sums
import FolderScript.Main
import FolderScript.Path
import FolderScript.Process.Child
import FolderScript.Process.Ending
import FolderScript.Process.Life
import FolderScript.Process.Run
import FolderScript.Process.Schedule
import FolderScript.Program
import FolderScript.Program.Perform
import FolderScript.Proofs.Anchor
import FolderScript.Proofs.CommandLine.Accepted
import FolderScript.Proofs.CommandLine.Effects
import FolderScript.Proofs.CommandLine.FolderOptions
import FolderScript.Proofs.CommandLine.Given
import FolderScript.Proofs.CommandLine.GlobalOptions
import FolderScript.Proofs.CommandLine.Order
import FolderScript.Proofs.CommandLine.RoundTrip
import FolderScript.Proofs.CommandLine.Scopes
import FolderScript.Proofs.Folder
import FolderScript.Proofs.Machine.Launch
import FolderScript.Proofs.Machine.Pattern
import FolderScript.Proofs.Machine.Regex
import FolderScript.Proofs.Machine.Table
import FolderScript.Proofs.Outcome
import FolderScript.Proofs.Path
import FolderScript.Proofs.Process.Drained
import FolderScript.Proofs.Process.Limit
import FolderScript.Proofs.Process.Output
import FolderScript.Proofs.Process.SameCourse
import FolderScript.Proofs.Process.Supervision
import FolderScript.Proofs.Process.Timeline
import FolderScript.Proofs.Program.ExitStatus
import FolderScript.Proofs.Program.Links
import FolderScript.Proofs.Program.Surroundings
import FolderScript.Proofs.Report
import FolderScript.Proofs.Run.Failures
import FolderScript.Proofs.Run.GivenFolders
import FolderScript.Proofs.Run.Performed
import FolderScript.Proofs.Run.Requests
import FolderScript.Proofs.Run.Shown
import FolderScript.Proofs.Run.Started
import FolderScript.Proofs.Run.WhenRun
import FolderScript.Proofs.Service.History
import FolderScript.Proofs.Settings.Expansion
import FolderScript.Proofs.Settings.Expressible
import FolderScript.Proofs.Settings.Faults
import FolderScript.Proofs.Settings.Fields
import FolderScript.Proofs.Settings.Isolation
import FolderScript.Proofs.Settings.Kept
import FolderScript.Proofs.Settings.Load
import FolderScript.Proofs.Settings.Misfits
import FolderScript.Proofs.Settings.Precedence
import FolderScript.Proofs.Settings.ProjectFile
import FolderScript.Proofs.Settings.Rules
import FolderScript.Proofs.Settings.Tilde
import FolderScript.Proofs.Stream.Capture
import FolderScript.Proofs.Stream.Merge
import FolderScript.Proofs.Stream.Poll
import FolderScript.Proofs.Stream.Progress
import FolderScript.Proofs.Stream.Transparency
import FolderScript.Proofs.Text.LineEnds
import FolderScript.Proofs.Text.Utf8
import FolderScript.Proofs.Toml.Lines
import FolderScript.Proofs.Toml.Reading
import FolderScript.Proofs.Toml.Validity
import FolderScript.Proofs.Toml.Writing
import FolderScript.Report
import FolderScript.Request
import FolderScript.Runner
import FolderScript.Service
import FolderScript.Service.Scripted
import FolderScript.Settings.Discovery
import FolderScript.Settings.Document
import FolderScript.Settings.Expansion
import FolderScript.Settings.Layer
import FolderScript.Settings.Load
import FolderScript.Settings.Validation
import FolderScript.Stream.Drain
import FolderScript.Stream.LineReader
import FolderScript.Text.Alphanumeric
import FolderScript.Text.Blank
import FolderScript.Text.Hidden
import FolderScript.Text.Quoted
import FolderScript.Text.Ranges
import FolderScript.Text.Styled
import FolderScript.Text.Utf8
import FolderScript.Toml.Document
import FolderScript.Toml.Numbers
import FolderScript.Toml.Strings
import FolderScript.Toml.Value
import FolderScript.Trouble
