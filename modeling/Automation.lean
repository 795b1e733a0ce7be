import Automation.Audit
import Automation.AuditEntry
import Automation.Condition
import Automation.Editor
import Automation.Failure.Basic
import Automation.Failure.Kind
import Automation.Failure.Report
import Automation.Flow.Basic
import Automation.Flow.Defect
import Automation.Flow.Delay
import Automation.Flow.Extras
import Automation.Flow.Reading
import Automation.Flow.Request
import Automation.Flow.Search
import Automation.Flow.Writing
import Automation.Guard
import Automation.Http.Reply
import Automation.Http.Route
import Automation.Http.Service
import Automation.Http.Target
import Automation.Journal
import Automation.Mail.ContentType
import Automation.Mail.Fault
import Automation.Mail.Message
import Automation.Mail.Reply
import Automation.Main
import Automation.Notifier
import Automation.Number.Binary64
import Automation.Number.Literal
import Automation.Number.Shortest
import Automation.Number.Word
import Automation.Program.Basic
import Automation.Proofs.Condition
import Automation.Proofs.Flow.Carried
import Automation.Proofs.Flow.Coverage
import Automation.Proofs.Flow.Delay
import Automation.Proofs.Flow.Dump
import Automation.Proofs.Flow.Extras
import Automation.Proofs.Flow.Graph
import Automation.Proofs.Flow.Path
import Automation.Proofs.Flow.Redraw
import Automation.Proofs.Flow.Remaining
import Automation.Proofs.Flow.Roundtrip
import Automation.Proofs.Flow.Saved
import Automation.Proofs.Flow.Search
import Automation.Proofs.Flow.Settled
import Automation.Proofs.Flow.Shape
import Automation.Proofs.Flow.Walk
import Automation.Proofs.Flow.WellFormed
import Automation.Proofs.Http.Paths
import Automation.Proofs.Mail.Delivery
import Automation.Proofs.Mail.Markup
import Automation.Proofs.Number.Rounding
import Automation.Proofs.Program.Alike
import Automation.Proofs.Program.Conduct
import Automation.Proofs.Program.Dialogue
import Automation.Proofs.Program.Footprint
import Automation.Proofs.Recipient
import Automation.Proofs.Runner.Agreement
import Automation.Proofs.Runner.Bounds
import Automation.Proofs.Runner.Company
import Automation.Proofs.Runner.Course
import Automation.Proofs.Runner.Interruption
import Automation.Proofs.Runner.Outage
import Automation.Proofs.Runner.Outline
import Automation.Proofs.Runner.Reference
import Automation.Proofs.Runner.Safety
import Automation.Proofs.Runner.Settlement
import Automation.Proofs.Runner.Sketch
import Automation.Proofs.Runner.Trail
import Automation.Proofs.Runner.Visit
import Automation.Proofs.Service.Admission
import Automation.Proofs.Service.AtOnce
import Automation.Proofs.Service.Calls
import Automation.Proofs.Service.Catalog
import Automation.Proofs.Service.Editing
import Automation.Proofs.Service.Effects
import Automation.Proofs.Service.Filed
import Automation.Proofs.Service.Finality
import Automation.Proofs.Service.Isolation
import Automation.Proofs.Service.Progress
import Automation.Proofs.Service.Refusals
import Automation.Proofs.Service.Resaving
import Automation.Proofs.Service.Revising
import Automation.Proofs.Service.Rivals
import Automation.Proofs.Service.Shutdown
import Automation.Proofs.Service.Spellings
import Automation.Proofs.Service.Stages
import Automation.Proofs.Service.Steps
import Automation.Proofs.Service.Sweeping
import Automation.Proofs.Service.Updates
import Automation.Proofs.Service.Verdicts
import Automation.Proofs.Store.Change
import Automation.Proofs.Store.Evolution
import Automation.Proofs.Store.Filing
import Automation.Proofs.Store.Logbook
import Automation.Proofs.Store.Naming
import Automation.Proofs.Store.Records
import Automation.Proofs.Sweep.Exact
import Automation.Proofs.Sweep.Marked
import Automation.Proofs.Sweep.Overtaken
import Automation.Proofs.Sweep.Spared
import Automation.Proofs.Sweep.Watch
import Automation.Proofs.Text.LetterCase
import Automation.Proofs.Text.Trim
import Automation.Proofs.Time.Calendar
import Automation.Proofs.Time.Given
import Automation.Proofs.Time.Written
import Automation.Proofs.Value.Dates
import Automation.Proofs.Value.Depth
import Automation.Proofs.Value.Finite
import Automation.Proofs.World.Crowd
import Automation.Proofs.World.Exchanges
import Automation.Proofs.World.Performance
import Automation.Proofs.World.Replay
import Automation.Recipient
import Automation.Repository.Audit
import Automation.Repository.Client
import Automation.Repository.Flows
import Automation.Repository.TestRuns
import Automation.RunDesk
import Automation.Runner
import Automation.Script.Basic
import Automation.Script.Import
import Automation.Script.Reconcile
import Automation.Settings
import Automation.Store.Basic
import Automation.Store.Fault
import Automation.Store.Query
import Automation.Sweep
import Automation.TestRun
import Automation.Text.Ascii
import Automation.Text.Blank
import Automation.Text.Charset.Basic
import Automation.Text.Charset.Big5
import Automation.Text.Charset.Dos
import Automation.Text.Charset.Ebcdic
import Automation.Text.Charset.Escaped
import Automation.Text.Charset.Gb18030
import Automation.Text.Charset.Gbk
import Automation.Text.Charset.Iso
import Automation.Text.Charset.Jis208
import Automation.Text.Charset.Jis212
import Automation.Text.Charset.Ksx1001
import Automation.Text.Charset.Mac
import Automation.Text.Charset.National
import Automation.Text.Charset.Pairs
import Automation.Text.Charset.Shifted
import Automation.Text.Charset.Table
import Automation.Text.Charset.Windows
import Automation.Text.Charset.Windows932
import Automation.Text.CodeRange
import Automation.Text.Digit
import Automation.Text.LetterCase
import Automation.Text.LetterCase.Table
import Automation.Text.Printable
import Automation.Text.Quoted
import Automation.Text.Surrogate
import Automation.Text.Utf16
import Automation.Text.Utf7
import Automation.Text.Utf8
import Automation.Time.Calendar
import Automation.Time.Moment
import Automation.Time.Reading
import Automation.Url.Address
import Automation.Url.Basic
import Automation.Url.DomainName.Basic
import Automation.Url.DomainName.Marks
import Automation.Url.DomainName.Table
import Automation.Url.Escape
import Automation.Url.Path
import Automation.Url.Punycode
import Automation.Value.Basic
import Automation.Value.Json
import Automation.Value.JsonBytes
import Automation.Value.ObjectId
import Automation.Value.Quoted
import Automation.Value.Reading
import Automation.Value.Reply
import Automation.Value.Stored
import Automation.World.Basic
import Automation.World.Schedule
import Automation.World.Session
