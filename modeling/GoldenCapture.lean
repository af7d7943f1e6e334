import GoldenCapture.Assertion
import GoldenCapture.Batch
import GoldenCapture.Batch.Json
import GoldenCapture.Batch.Yaml
import GoldenCapture.CommandLine
import GoldenCapture.CommandLine.Arguments
import GoldenCapture.CommandLine.Report
import GoldenCapture.CommandLine.Request
import GoldenCapture.CommandLine.Variables
import GoldenCapture.Compare
import GoldenCapture.Compare.Mismatch
import GoldenCapture.Dictionary
import GoldenCapture.Failure
import GoldenCapture.FileTree
import GoldenCapture.Golden
import GoldenCapture.Json
import GoldenCapture.Json.Reader
import GoldenCapture.Json.Writer
import GoldenCapture.Lease.Call
import GoldenCapture.Lease.Config
import GoldenCapture.Lease.Contest
import GoldenCapture.Lease.Coordinator
import GoldenCapture.Lease.Error
import GoldenCapture.Lease.Folder
import GoldenCapture.Lease.Record
import GoldenCapture.Lease.Script
import GoldenCapture.Lease.Table
import GoldenCapture.Main
import GoldenCapture.Net.Address
import GoldenCapture.Net.Listeners
import GoldenCapture.Normalize
import GoldenCapture.Number.Double
import GoldenCapture.Number.Layout
import GoldenCapture.Number.Shortest
import GoldenCapture.Payload
import GoldenCapture.Proofs.Assertion.FullMatch
import GoldenCapture.Proofs.Batch.JsonRoundTrip
import GoldenCapture.Proofs.Batch.Leaves
import GoldenCapture.Proofs.Batch.RoundTrip
import GoldenCapture.Proofs.Batch.YamlLeaves
import GoldenCapture.Proofs.Batch.YamlRoundTrip
import GoldenCapture.Proofs.Compare.Agreement
import GoldenCapture.Proofs.Compare.Contrast
import GoldenCapture.Proofs.Compare.FirstDifference
import GoldenCapture.Proofs.Compare.Growth
import GoldenCapture.Proofs.Compare.Leftovers
import GoldenCapture.Proofs.Compare.Mirror
import GoldenCapture.Proofs.Compare.Overlap
import GoldenCapture.Proofs.Compare.Pairing
import GoldenCapture.Proofs.Compare.Paths
import GoldenCapture.Proofs.Compare.Rearrangement
import GoldenCapture.Proofs.Compare.SameBatches
import GoldenCapture.Proofs.Compare.Stability
import GoldenCapture.Proofs.Compare.Surplus
import GoldenCapture.Proofs.Compare.Tolerance
import GoldenCapture.Proofs.Compare.Walk
import GoldenCapture.Proofs.FileTree.Folders
import GoldenCapture.Proofs.FileTree.Frame
import GoldenCapture.Proofs.FileTree.Likeness
import GoldenCapture.Proofs.FileTree.Paths
import GoldenCapture.Proofs.FileTree.Places
import GoldenCapture.Proofs.Golden.Canonical
import GoldenCapture.Proofs.Golden.Regeneration
import GoldenCapture.Proofs.Golden.Removal
import GoldenCapture.Proofs.Golden.Scrubbing
import GoldenCapture.Proofs.Golden.Shape
import GoldenCapture.Proofs.Json.Reading
import GoldenCapture.Proofs.Json.Tree
import GoldenCapture.Proofs.Lease.Accounts
import GoldenCapture.Proofs.Lease.Attempts
import GoldenCapture.Proofs.Lease.Chronicle
import GoldenCapture.Proofs.Lease.Contest
import GoldenCapture.Proofs.Lease.Departure
import GoldenCapture.Proofs.Lease.Finality
import GoldenCapture.Proofs.Lease.FolderCall
import GoldenCapture.Proofs.Lease.FolderFiles
import GoldenCapture.Proofs.Lease.FolderInvariant
import GoldenCapture.Proofs.Lease.FolderRefinement
import GoldenCapture.Proofs.Lease.FolderSteps
import GoldenCapture.Proofs.Lease.FolderTable
import GoldenCapture.Proofs.Lease.Independence
import GoldenCapture.Proofs.Lease.Interruption
import GoldenCapture.Proofs.Lease.Ledger
import GoldenCapture.Proofs.Lease.Lifetime
import GoldenCapture.Proofs.Lease.Moves
import GoldenCapture.Proofs.Lease.MutualExclusion
import GoldenCapture.Proofs.Lease.Ownership
import GoldenCapture.Proofs.Lease.Punctuality
import GoldenCapture.Proofs.Lease.Record
import GoldenCapture.Proofs.Lease.Reports
import GoldenCapture.Proofs.Lease.Rivalry
import GoldenCapture.Proofs.Lease.Schedules
import GoldenCapture.Proofs.Lease.Secured
import GoldenCapture.Proofs.Lease.Sharing
import GoldenCapture.Proofs.Lease.Steps
import GoldenCapture.Proofs.Lease.Succession
import GoldenCapture.Proofs.Lease.Tenancy
import GoldenCapture.Proofs.Net.Openings
import GoldenCapture.Proofs.Number.Numerals
import GoldenCapture.Proofs.Number.Ratios
import GoldenCapture.Proofs.Number.Rounding
import GoldenCapture.Proofs.Regex.Classes
import GoldenCapture.Proofs.Regex.Compilation
import GoldenCapture.Proofs.Regex.Groups
import GoldenCapture.Proofs.Regex.Meaning
import GoldenCapture.Proofs.Regex.Readers
import GoldenCapture.Proofs.Regex.Search
import GoldenCapture.Proofs.Run.Captures
import GoldenCapture.Proofs.Run.Concord
import GoldenCapture.Proofs.Run.Conduct
import GoldenCapture.Proofs.Run.Custody
import GoldenCapture.Proofs.Run.Exclusion
import GoldenCapture.Proofs.Run.Fleet
import GoldenCapture.Proofs.Run.Journal
import GoldenCapture.Proofs.Run.Polling
import GoldenCapture.Proofs.Run.Quittance
import GoldenCapture.Proofs.Run.Renewal
import GoldenCapture.Proofs.Run.Sites
import GoldenCapture.Proofs.Run.Stages
import GoldenCapture.Proofs.Run.Startup
import GoldenCapture.Proofs.Run.Trail
import GoldenCapture.Proofs.Run.Verdict
import GoldenCapture.Proofs.Run.Waits
import GoldenCapture.Proofs.Sink.Accounting
import GoldenCapture.Proofs.Sink.Requests
import GoldenCapture.Proofs.Sink.Startup
import GoldenCapture.Proofs.Store.History
import GoldenCapture.Proofs.Text.ByteOrder
import GoldenCapture.Proofs.Text.Quoting
import GoldenCapture.Proofs.Value.Reading
import GoldenCapture.Proofs.Value.Sameness
import GoldenCapture.Proofs.Value.Shape
import GoldenCapture.Proofs.Wait.Looks
import GoldenCapture.Proofs.Wait.Schedule
import GoldenCapture.Proofs.Wait.Selection
import GoldenCapture.Proofs.Yaml.Tree
import GoldenCapture.Protocol
import GoldenCapture.Regex
import GoldenCapture.Regex.Category
import GoldenCapture.Regex.Engine
import GoldenCapture.Regex.Folding
import GoldenCapture.Regex.Pattern
import GoldenCapture.Regex.Program
import GoldenCapture.Regex.Property
import GoldenCapture.Regex.Script
import GoldenCapture.Rule
import GoldenCapture.Rule.Strip
import GoldenCapture.Run.Context
import GoldenCapture.Run.GoldenScenario
import GoldenCapture.Run.Lifecycle
import GoldenCapture.Run.Scenario
import GoldenCapture.Scrub
import GoldenCapture.Select
import GoldenCapture.Settings
import GoldenCapture.Shell
import GoldenCapture.Shell.Arithmetic
import GoldenCapture.Shell.Command
import GoldenCapture.Shell.Condition
import GoldenCapture.Shell.Effect
import GoldenCapture.Shell.Expansion
import GoldenCapture.Shell.FileUtility
import GoldenCapture.Shell.Machine
import GoldenCapture.Shell.Pattern
import GoldenCapture.Shell.Printing
import GoldenCapture.Shell.TextUtility
import GoldenCapture.Shell.Token
import GoldenCapture.Shell.Utility
import GoldenCapture.Sink
import GoldenCapture.Snapshot
import GoldenCapture.Store
import GoldenCapture.Switches
import GoldenCapture.Text.Blank
import GoldenCapture.Text.CodeSet
import GoldenCapture.Text.LowerCase
import GoldenCapture.Text.Quoted
import GoldenCapture.Text.Unprintable
import GoldenCapture.Text.Utf8
import GoldenCapture.Time.Duration
import GoldenCapture.Time.Rfc3339
import GoldenCapture.Time.Timestamp
import GoldenCapture.Value
import GoldenCapture.Value.Display
import GoldenCapture.Wait
import GoldenCapture.Yaml.Cursor
import GoldenCapture.Yaml.Node
import GoldenCapture.Yaml.Resolve
import GoldenCapture.Yaml.ScalarText
import GoldenCapture.Yaml.Tag
import GoldenCapture.Yaml.Token
import GoldenCapture.Yaml.Writer
