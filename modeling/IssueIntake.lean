import IssueIntake.Calendar.Date
import IssueIntake.Calendar.Epoch
import IssueIntake.Calendar.Instant
import IssueIntake.Calendar.Printer
import IssueIntake.Calendar.Relaxed
import IssueIntake.Calendar.Scan
import IssueIntake.Calendar.Strict
import IssueIntake.Command.Arguments
import IssueIntake.Command.Grammar
import IssueIntake.Command.Invocation
import IssueIntake.Command.Report
import IssueIntake.Command.Run
import IssueIntake.Decimal.Digits
import IssueIntake.Decimal.Double
import IssueIntake.Decimal.Shortest
import IssueIntake.Digest.FieldStream
import IssueIntake.Digest.Sha256
import IssueIntake.Event.Basic
import IssueIntake.Event.Json
import IssueIntake.Event.RandomId
import IssueIntake.Identifier.Base36
import IssueIntake.Identifier.Basic
import IssueIntake.Ingest.Backend
import IssueIntake.Ingest.Call
import IssueIntake.Ingest.Create
import IssueIntake.Ingest.Error
import IssueIntake.Ingest.Fault
import IssueIntake.Ingest.Generate
import IssueIntake.Issue.Basic
import IssueIntake.Issue.Field
import IssueIntake.Issue.Fingerprint
import IssueIntake.Issue.Json
import IssueIntake.Issue.Repair
import IssueIntake.Issue.Status
import IssueIntake.Issue.Validate
import IssueIntake.Issue.Vocabulary
import IssueIntake.Json.Error
import IssueIntake.Json.Kind
import IssueIntake.Json.Printer
import IssueIntake.Json.Reader
import IssueIntake.Json.Scan
import IssueIntake.Json.Value
import IssueIntake.Main
import IssueIntake.Proofs.Calendar.RoundTrip
import IssueIntake.Proofs.Calendar.Scan
import IssueIntake.Proofs.Decimal.Digits
import IssueIntake.Proofs.Ingest.Booking
import IssueIntake.Proofs.Ingest.Failing
import IssueIntake.Proofs.Ingest.Kept
import IssueIntake.Proofs.Ingest.Phases
import IssueIntake.Proofs.Ingest.Record
import IssueIntake.Proofs.Ingest.View
import IssueIntake.Proofs.Issue.Prepared
import IssueIntake.Proofs.Json.Normal
import IssueIntake.Proofs.Json.RoundTrip
import IssueIntake.Proofs.Json.Scan
import IssueIntake.Proofs.Json.Shape
import IssueIntake.Proofs.Json.Yields
import IssueIntake.Proofs.Store.Agreement
import IssueIntake.Proofs.Store.Books
import IssueIntake.Proofs.Store.Correspondence
import IssueIntake.Proofs.Store.Keyed
import IssueIntake.Proofs.Store.Ledger
import IssueIntake.Proofs.Store.Run
import IssueIntake.Source.Error
import IssueIntake.Source.Lines
import IssueIntake.Store.Address
import IssueIntake.Store.Batch
import IssueIntake.Store.Error
import IssueIntake.Store.Failing
import IssueIntake.Store.Files
import IssueIntake.Store.Keyed
import IssueIntake.Store.Memory
import IssueIntake.Store.Open
import IssueIntake.Store.Overwrite
import IssueIntake.Store.Path
import IssueIntake.Store.Row
import IssueIntake.Store.Snapshot
import IssueIntake.Store.Tables
import IssueIntake.Text.Blank
import IssueIntake.Text.Bytes
import IssueIntake.Text.NameList
import IssueIntake.Text.Pieces
import IssueIntake.Text.Quoted
import IssueIntake.Proofs.Json.Given
import IssueIntake.Proofs.Json.Kind
import IssueIntake.Proofs.Json.Lines
import IssueIntake.Proofs.Issue.Json
import IssueIntake.Proofs.Event.Payload
import IssueIntake.Proofs.Store.Rows
import IssueIntake.Proofs.Store.SoundRows
import IssueIntake.Proofs.Store.AuditLog
import IssueIntake.Proofs.Identifier.Base36
import IssueIntake.Proofs.Identifier.Split
import IssueIntake.Proofs.Issue.Lossless
import IssueIntake.Proofs.Store.ReadBack
import IssueIntake.Proofs.Ingest.Requirement
import IssueIntake.Proofs.Ingest.Acceptance
import IssueIntake.Proofs.Json.OneLine
import IssueIntake.Proofs.Text.Blank
import IssueIntake.Proofs.Text.Bytes
import IssueIntake.Proofs.Source.Lines
import IssueIntake.Proofs.Ingest.Batch
import IssueIntake.Proofs.Ingest.Settled
import IssueIntake.Proofs.Store.Reimport
import IssueIntake.Proofs.Store.Export
import IssueIntake.Proofs.Digest.FieldStream
import IssueIntake.Proofs.Issue.Fingerprint
import IssueIntake.Proofs.Ingest.Order
import IssueIntake.Proofs.Identifier.Generated
import IssueIntake.Proofs.Store.OneByOne
import IssueIntake.Proofs.Store.Drafts
import IssueIntake.Proofs.Ingest.StrictRun
import IssueIntake.Proofs.Store.Namespaces
import IssueIntake.Proofs.Store.AnyOrder
import IssueIntake.Proofs.Store.Retry
import IssueIntake.Proofs.Command.Report
import IssueIntake.Proofs.Command.Accountable
import IssueIntake.Proofs.Json.Members
import IssueIntake.Proofs.Event.Members
import IssueIntake.Proofs.Event.Lossless
import IssueIntake.Proofs.Store.FreshIds
import IssueIntake.Proofs.Store.Constraints
import IssueIntake.Proofs.Store.Stamps
import IssueIntake.Proofs.Calendar.Order
import IssueIntake.Proofs.Calendar.Second
import IssueIntake.Proofs.Issue.Repair
import IssueIntake.Proofs.Issue.FinalStamps
import IssueIntake.Proofs.Store.StorableYears
import IssueIntake.Proofs.Store.Atomic
import IssueIntake.Proofs.Source.Exact
import IssueIntake.Proofs.Identifier.Grammar
import IssueIntake.Proofs.Store.ParentsFirst
import IssueIntake.Proofs.Text.NameList
import IssueIntake.Proofs.Text.Order
import IssueIntake.Proofs.Ingest.Enforced
import IssueIntake.Proofs.Command.Vocabulary
import IssueIntake.Proofs.Digest.Calls
import IssueIntake.Proofs.Store.StrictInsert
