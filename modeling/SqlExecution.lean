import SqlExecution.Calendar.Basic
import SqlExecution.Calendar.Reader
import SqlExecution.Calendar.Writer
import SqlExecution.Decimal.Binary
import SqlExecution.Decimal.Layout
import SqlExecution.Decimal.Reader
import SqlExecution.Decimal.Shortest
import SqlExecution.Diagnostics.Event
import SqlExecution.Diagnostics.Interception
import SqlExecution.Diagnostics.Interceptor
import SqlExecution.Diagnostics.Logger
import SqlExecution.Diagnostics.Options
import SqlExecution.Engine.Buffer
import SqlExecution.Engine.Connection
import SqlExecution.Engine.Execution
import SqlExecution.Engine.Hooks
import SqlExecution.Engine.Inspect
import SqlExecution.Engine.Reader
import SqlExecution.Engine.Request
import SqlExecution.Engine.Session
import SqlExecution.Engine.Transaction
import SqlExecution.Error
import SqlExecution.Identifier
import SqlExecution.Json.Access
import SqlExecution.Json.Basic
import SqlExecution.Json.Decode
import SqlExecution.Json.Document
import SqlExecution.Json.Number
import SqlExecution.Json.Printer
import SqlExecution.Json.Token
import SqlExecution.Message
import SqlExecution.Named
import SqlExecution.Native.Basic
import SqlExecution.Native.Driver
import SqlExecution.Outcome
import SqlExecution.Parameter.Declared
import SqlExecution.Parameter.Native
import SqlExecution.Program
import SqlExecution.Proofs.Accounting
import SqlExecution.Proofs.Buffering
import SqlExecution.Proofs.BusyPeriods
import SqlExecution.Proofs.Calls
import SqlExecution.Proofs.CommandRelease
import SqlExecution.Proofs.Course
import SqlExecution.Proofs.CursorClose
import SqlExecution.Proofs.Holdings
import SqlExecution.Proofs.Opens
import SqlExecution.Proofs.ReaderLife
import SqlExecution.Proofs.Releases
import SqlExecution.Proofs.Tallies
import SqlExecution.ResultSet
import SqlExecution.Scenario.Label
import SqlExecution.Scenario.Play
import SqlExecution.Scenario.Report
import SqlExecution.Scenario.Sheet
import SqlExecution.Scenario.Stage
import SqlExecution.Scenario.Step
import SqlExecution.Scripted.Basic
import SqlExecution.Scripted.Hooks
import SqlExecution.Statement
import SqlExecution.Text.Blank
import SqlExecution.Text.Inspect
import SqlExecution.Text.Pattern
import SqlExecution.Text.Quoted
import SqlExecution.Text.Shown
import SqlExecution.Uuid
import SqlExecution.Value.Basic
import SqlExecution.Value.Inspect
import SqlExecution.Value.LogText
import SqlExecution.Value.Record
import SqlExecution.Value.Type
import SqlExecution.Proofs.Laws.Basic
import SqlExecution.Proofs.Laws.Hooks
import SqlExecution.Proofs.Laws.Holders
import SqlExecution.Proofs.Beginning
import SqlExecution.Proofs.StayingOpen
import SqlExecution.Proofs.HeldOpen
import SqlExecution.Proofs.OpenCalls
import SqlExecution.Proofs.Journals
import SqlExecution.Proofs.Relays
import SqlExecution.Proofs.Governing
import SqlExecution.Proofs.GovernedCalls
import SqlExecution.Proofs.FirstFailure
import SqlExecution.Proofs.Chronicle
import SqlExecution.Proofs.Approach
import SqlExecution.Proofs.Cancellation
import SqlExecution.Proofs.Roster
import SqlExecution.Proofs.AmbientTransactions
import SqlExecution.Proofs.TwoForms
import SqlExecution.Proofs.Transparency
import SqlExecution.Proofs.Completions
import SqlExecution.Proofs.TransactionLife
import SqlExecution.Proofs.BegunTransactions
import SqlExecution.Proofs.UnreadJournals
import SqlExecution.Proofs.FailedTransactions
import SqlExecution.Proofs.Reading
import SqlExecution.Proofs.ScriptedCursors
import SqlExecution.Proofs.BufferedCopy
import SqlExecution.Proofs.Identifiers
import SqlExecution.Proofs.Tandem.Basic
import SqlExecution.Proofs.Tandem.Events
import SqlExecution.Proofs.Tandem.Drivers
import SqlExecution.Proofs.Tandem.Executions
import SqlExecution.Proofs.Tandem.Readers
import SqlExecution.Proofs.Tandem.Transactions
import SqlExecution.Proofs.DisposalReports
import SqlExecution.Proofs.CommandLife
import SqlExecution.Proofs.ReaderCycles
import SqlExecution.Proofs.CommandOperations
import SqlExecution.Proofs.EventIdentity
import SqlExecution.Proofs.ExecutionEvents
import SqlExecution.Proofs.EventAccounts
import SqlExecution.Proofs.ProgramEvents
import SqlExecution.Proofs.IdentifiedExecutions
import SqlExecution.Proofs.AgreeingValues
import SqlExecution.Proofs.Tandem.Commands
import SqlExecution.Proofs.HiddenValues
import SqlExecution.Proofs.CleanupFailures
import SqlExecution.Proofs.CleanupReports
import SqlExecution.Proofs.ReaderDisposal
import SqlExecution.Proofs.FailureRecords
import SqlExecution.Proofs.DeclaredColumns
import SqlExecution.Proofs.BufferValidation
import SqlExecution.Proofs.BufferedHistory
import SqlExecution.Proofs.ParameterTrees
import SqlExecution.Proofs.MissingValues
import SqlExecution.Proofs.IssuedCommands
import SqlExecution.Proofs.PreviousReaders
import SqlExecution.Proofs.PatternMatching
import SqlExecution.Proofs.DraftedStatements
import SqlExecution.Proofs.JsonTexts
import SqlExecution.Proofs.CalendarTexts
import SqlExecution.Proofs.JsonDecoders
import SqlExecution.Proofs.ValueTexts
