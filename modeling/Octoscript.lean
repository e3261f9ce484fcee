import Octoscript.Lib.Base64
import Octoscript.Lib.Bytes
import Octoscript.Lib.Mutation
import Octoscript.Lib.Lists
import Octoscript.Lib.Machine
import Octoscript.Lib.History
import Octoscript.Lib.Json
import Octoscript.Lib.Interaction
import Octoscript.Lib.WriteAhead
import Octoscript.Lib.Decimal
import Octoscript.Lib.Effectful
import Octoscript.Lib.Transcript
import Octoscript.Lib.Search
import Octoscript.Lib.Debug
import Octoscript.Lib.Unfolding
import Octoscript.Lib.Sight
import Octoscript.Protocol.Error
import Octoscript.Protocol.Grant
import Octoscript.Protocol.Message
import Octoscript.Protocol.Authorizer
import Octoscript.Protocol.Accounting
import Octoscript.Protocol.Attenuation
import Octoscript.Protocol.Journal
import Octoscript.Protocol.JournalHistory
import Octoscript.Protocol.Channel
import Octoscript.Protocol.ChannelOrder
import Octoscript.Storage.Record
import Octoscript.Storage.Authenticated
import Octoscript.Storage.HostileBackend
import Octoscript.Storage.Volatile
import Octoscript.Storage.RoundTrip
import Octoscript.Storage.RollbackAnchor
import Octoscript.Storage.AnchorService
import Octoscript.Storage.AnchorClient
import Octoscript.Storage.AnchoredSqlite
import Octoscript.Storage.AnchoredSystem
import Octoscript.Storage.AnchoredSafety
import Octoscript.Worker.JournalStore
import Octoscript.Worker.Session
import Octoscript.Worker.System
import Octoscript.Worker.Invariant
import Octoscript.Worker.StoreSpec
import Octoscript.Worker.SessionSpec
import Octoscript.Worker.Runs
import Octoscript.Worker.AtMostOnce
import Octoscript.Language.Lexer
import Octoscript.Language.JsonWriter
import Octoscript.Language.Places
import Octoscript.Lsp.Position
import Octoscript.Schema.ExactNumber
import Octoscript.Schema.NumberOrder
import Octoscript.Schema.Validation
import Octoscript.Schema.Respelling
import Octoscript.Workflow.Plan
import Octoscript.Workflow.Ledger
import Octoscript.Workflow.LedgerHistory
import Octoscript.Workflow.EventLog
import Octoscript.Capabilities.AuditJournal
import Octoscript.Capabilities.AuditStore
import Octoscript.Capabilities.AuditWindow
import Octoscript.Capabilities.ExternalTool
import Octoscript.Capabilities.Tool
import Octoscript.Capabilities.SupervisedSession
import Octoscript.Capabilities.WatchdogRace
import Octoscript.Lib.Mailbox
import Octoscript.Capabilities.Multiplexer
import Octoscript.Capabilities.LateCancellation
import Octoscript.Capabilities.Host
import Octoscript.Capabilities.Runtime
import Octoscript.Capabilities.Reservation
import Octoscript.Capabilities.LeaseConfinement
import Octoscript.Ui.Card
import Octoscript.Ui.Catalog
import Octoscript.Ui.Check
import Octoscript.Ui.Acyclic
import Octoscript.Ui.Values
import Octoscript.Ui.Store
import Octoscript.Ui.Dispatch
import Octoscript.Ui.Atomic
import Octoscript.Ui.Shapes
import Octoscript.Ui.Lower
import Octoscript.Ui.Realize
import Octoscript.Ui.SourceCalls
import Octoscript.Ui.Scopes
import Octoscript.Ui.Walk
import Octoscript.Ui.Props
import Octoscript.Lib.JsonRecord
import Octoscript.Workflow.Encoding
import Octoscript.Workflow.EncodedHistory
import Octoscript.Lib.Keys
import Octoscript.Ui.Identity
import Octoscript.Ui.Lexical
import Octoscript.Ui.Scoping
import Octoscript.Ui.Stack
import Octoscript.Ui.Stale
import Octoscript.Lib.JsonOrder
import Octoscript.Protocol.CanonicalInput
import Octoscript.Lib.Stream
import Octoscript.Protocol.Bootstrap
import Octoscript.Protocol.Compensations
import Octoscript.Lib.Calls
import Octoscript.Protocol.SplitChannel
import Octoscript.Lib.Sequential
import Octoscript.Storage.LocalStore
import Octoscript.Storage.CandidateBound
import Octoscript.Workflow.DerivedKeys
import Octoscript.Capabilities.Guarantees
import Octoscript.Workflow.Data
import Octoscript.Workflow.Engine
import Octoscript.Workflow.Checkpoint
import Octoscript.Capabilities.PendingTickets
import Octoscript.Capabilities.AuditExport
import Octoscript.Workflow.ExternalOperation
import Octoscript.Workflow.Event
import Octoscript.Ui.Shown
import Octoscript.Lib.Buffered
import Octoscript.Capabilities.JsonLine
