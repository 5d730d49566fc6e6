import BuildService.Taken
import BuildService.Text.Blank
import BuildService.Text.Utf8
import BuildService.Text.LowerCase
import BuildService.Text.Quoted
import BuildService.Binary64
import BuildService.Duration
import BuildService.Text.Percent
import BuildService.IoFault
import BuildService.Platform
import BuildService.JobState
import BuildService.Fault
import BuildService.Registry
import BuildService.Request
import BuildService.Json.Token
import BuildService.Platform.Decoding
import BuildService.Request.Decoding
import BuildService.Settings
import BuildService.Permits
import BuildService.Sample
import BuildService.Toml.Token
import BuildService.Toml.Scalar
import BuildService.Toml.Document
import BuildService.Config.Checked
import BuildService.Disk
import BuildService.LogStore
import BuildService.Config.Load
import BuildService.Regex.Admission
import BuildService.FieldValue
import BuildService.LogFilter
import BuildService.Rehearsal
import BuildService.Http.Target
import BuildService.Http.MediaType
import BuildService.Http.Message
import BuildService.Api
import BuildService.CommandLine.Options
import BuildService.CommandLine.Help
import BuildService.Event
import BuildService.Program
import BuildService.Output
import BuildService.Supervision
import BuildService.Shell.Script
import BuildService.Shell.Reader
import BuildService.Shell.Machine
import BuildService.Shell.Pattern
import BuildService.Shell.Arithmetic
import BuildService.Shell.Format
import BuildService.Shell.Condition
import BuildService.Shell.Tools
import BuildService.Shell.Interpreter
import BuildService.Launch
import BuildService.Journal
import BuildService.Simulation
import BuildService.Main
import BuildService.Shell.Command
import BuildService.Proofs.Trace
import BuildService.Proofs.Live
import BuildService.Proofs.SingleFlight
import BuildService.Proofs.Endings
import BuildService.Proofs.Admission
import BuildService.Proofs.Turns
import BuildService.Proofs.Entry
import BuildService.Proofs.Utf8
import BuildService.Proofs.Paths
import BuildService.Proofs.LogFiles
import BuildService.Proofs.Logs
import BuildService.Proofs.Trigger
import BuildService.Proofs.AsciiCuts
import BuildService.Proofs.ConfinedDisk
import BuildService.Proofs.Confinement
import BuildService.Proofs.Lines
import BuildService.Proofs.OutputLogs
import BuildService.Proofs.Rejection
import BuildService.Proofs.Environment
import BuildService.Proofs.Calls
import BuildService.Proofs.Capacity
import BuildService.Proofs.Progress
import BuildService.Proofs.Stopping
import BuildService.Proofs.Drain
import BuildService.Proofs.Running
import BuildService.Proofs.Rehearsals
import BuildService.Proofs.Shutdown
import BuildService.Proofs.Readiness
import BuildService.Proofs.JobTable
import BuildService.Proofs.Awaiting
import BuildService.Proofs.EntryPoints
import BuildService.Proofs.Bystanders
import BuildService.Proofs.Acknowledged
import BuildService.Proofs.Plans
import BuildService.Proofs.OrderIndependence
import BuildService.Proofs.AllowLists
import BuildService.Proofs.DurationTexts
import BuildService.Proofs.RequestBodies
import BuildService.Proofs.JsonTexts
import BuildService.Proofs.JsonValues
import BuildService.Proofs.OtherLogs
import BuildService.Proofs.OtherProjects
import BuildService.Proofs.PermitTraces
import BuildService.Proofs.Ways
import BuildService.Proofs.Failures
import BuildService.Proofs.DistinctKeys
import BuildService.Proofs.PartialFiles
import BuildService.Proofs.AddressTexts
import BuildService.Proofs.Validation
import BuildService.Proofs.Sinks
import BuildService.Proofs.FilterOrder
import BuildService.Proofs.LevelOverride
import BuildService.Proofs.PlainBodies
import BuildService.Proofs.Turnstile
import BuildService.Proofs.EntryOrder
import BuildService.Proofs.GatedRehearsals
