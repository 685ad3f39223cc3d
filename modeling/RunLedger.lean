import RunLedger.Command.Number
import RunLedger.Command.Options
import RunLedger.Command.Report
import RunLedger.Command.Request
import RunLedger.Command.Run
import RunLedger.Dialect.Basic
import RunLedger.Dialect.Detection
import RunLedger.Dialect.Url
import RunLedger.Execution
import RunLedger.Failure
import RunLedger.Fault
import RunLedger.Launch.Basic
import RunLedger.Launch.Body
import RunLedger.Link
import RunLedger.Lock.Holding
import RunLedger.Lock.Key
import RunLedger.Lock.Md5
import RunLedger.Logging.Event
import RunLedger.Logging.Level
import RunLedger.Logging.Line
import RunLedger.Logging.Loggers
import RunLedger.Main
import RunLedger.Misconfiguration
import RunLedger.Number.Binary64
import RunLedger.Number.Numeral
import RunLedger.Number.Shortest
import RunLedger.Number.Signed64
import RunLedger.Paging.Form
import RunLedger.Paging.Keyword
import RunLedger.Paging.Page
import RunLedger.Paging.PageQuery
import RunLedger.Paging.Placeholder
import RunLedger.Paging.SortKey
import RunLedger.Paging.Window
import RunLedger.Reading
import RunLedger.Recording
import RunLedger.Session.Basic
import RunLedger.Session.Call
import RunLedger.Session.Opening
import RunLedger.Session.Operations
import RunLedger.Settings.Basic
import RunLedger.Settings.Expansion
import RunLedger.Settings.FieldError
import RunLedger.Settings.Marker
import RunLedger.Settings.Merge
import RunLedger.Settings.Source
import RunLedger.Store.Database
import RunLedger.Store.Disk
import RunLedger.Store.Ledger
import RunLedger.Store.Row
import RunLedger.Store.Transaction
import RunLedger.Text.Blank
import RunLedger.Text.Breaks
import RunLedger.Text.Case
import RunLedger.Text.CaseTable
import RunLedger.Text.CodeRange
import RunLedger.Text.Column
import RunLedger.Text.Hex
import RunLedger.Text.Numeral
import RunLedger.Text.Path
import RunLedger.Text.Printable
import RunLedger.Text.Quoted
import RunLedger.Text.Replace
import RunLedger.Time.Calendar
import RunLedger.Time.Clock
import RunLedger.Time.Timestamp
import RunLedger.Toml.Quoted
import RunLedger.Toml.Reader
import RunLedger.Toml.Scalar
import RunLedger.Toml.Table
import RunLedger.Value.Basic
import RunLedger.Value.Entries
import RunLedger.Value.Json
import RunLedger.Value.Reader
import RunLedger.Proofs.Store.Commit
import RunLedger.Proofs.Store.Made
import RunLedger.Proofs.History.Deed
import RunLedger.Proofs.Store.Statements
import RunLedger.Proofs.History.Recording
import RunLedger.Proofs.History.Locking
import RunLedger.Proofs.Session.Perform
import RunLedger.Proofs.Session.Write
import RunLedger.Proofs.Session.Effect
import RunLedger.Proofs.Session.Success
import RunLedger.Proofs.Command.Release
import RunLedger.Proofs.Run.Call
import RunLedger.Proofs.Run.Move
import RunLedger.Proofs.Run.History
import RunLedger.Proofs.History.Replay
import RunLedger.Proofs.Session.Start
import RunLedger.Proofs.Store.Loading
import RunLedger.Proofs.Run.Replay
import RunLedger.Proofs.History.Turns
import RunLedger.Proofs.Session.LockRequest
import RunLedger.Proofs.Run.Locks
import RunLedger.Proofs.Launch.Prepare
import RunLedger.Proofs.Launch.Holding
import RunLedger.Proofs.Launch.SingleInstance
import RunLedger.Proofs.Launch.Begun
import RunLedger.Proofs.Launch.Record
import RunLedger.Proofs.History.Numbering
import RunLedger.Proofs.History.Life
import RunLedger.Proofs.Session.Readable
import RunLedger.Proofs.Sorted
import RunLedger.Proofs.Pointwise
import RunLedger.Proofs.Paging.Page
import RunLedger.Proofs.Paging.Order
import RunLedger.Proofs.Paging.Pager
import RunLedger.Proofs.Paging.Selection
import RunLedger.Proofs.Paging.Listing
import RunLedger.Proofs.Run.Pages
import RunLedger.Proofs.Run.Life
import RunLedger.Proofs.Launch.Closing
import RunLedger.Proofs.Launch.Ending
import RunLedger.Proofs.Paging.Readings
import RunLedger.Proofs.Run.Readings
import RunLedger.Proofs.Session.Undone
import RunLedger.Proofs.Paging.Dialects
import RunLedger.Proofs.Session.Links
import RunLedger.Proofs.Run.Links
import RunLedger.Proofs.Paging.Layout
import RunLedger.Proofs.Paging.Placeholders
import RunLedger.Proofs.Paging.Resolving
import RunLedger.Proofs.Store.Masking
import RunLedger.Proofs.Store.MaskedDisk
import RunLedger.Proofs.Session.Masking
import RunLedger.Proofs.Command.Masking
import RunLedger.Proofs.Run.Masking
import RunLedger.Proofs.Store.Complete
import RunLedger.Proofs.Session.Schema
import RunLedger.Proofs.Session.Served
import RunLedger.Proofs.Run.Schema
import RunLedger.Proofs.Paging.Latest
import RunLedger.Proofs.Run.Latest
import RunLedger.Proofs.Text.Case
import RunLedger.Proofs.Store.Gap
import RunLedger.Proofs.Session.Opening
import RunLedger.Proofs.Run.Reopening
import RunLedger.Proofs.Command.Rows
import RunLedger.Proofs.Run.Commands
import RunLedger.Proofs.Settings.Entries
import RunLedger.Proofs.Settings.Routes
import RunLedger.Proofs.Settings.Checking
import RunLedger.Proofs.Settings.Sources
import RunLedger.Proofs.Settings.Keys
import RunLedger.Proofs.Settings.Precedence
import RunLedger.Proofs.Time.Calendar
import RunLedger.Proofs.Time.Utc
import RunLedger.Proofs.Paging.Tokens
import RunLedger.Proofs.Text.Trim
import RunLedger.Proofs.Paging.Keyword
import RunLedger.Proofs.Paging.SortKeys
import RunLedger.Proofs.Paging.Configure
import RunLedger.Proofs.Paging.Quotes
import RunLedger.Proofs.Settings.Templates
import RunLedger.Proofs.Settings.Fields
import RunLedger.Proofs.Settings.Sound
import RunLedger.Proofs.Logging.Lineage
import RunLedger.Proofs.Logging.Thresholds
import RunLedger.Proofs.Dialect.Reported
import RunLedger.Proofs.Lock.Key
import RunLedger.Proofs.Paging.Joined
import RunLedger.Proofs.Paging.Clauses
