import Clearance.Attribute.Basic
import Clearance.Attribute.Clock
import Clearance.Attribute.Definition
import Clearance.Attribute.Gathering
import Clearance.Attribute.Reference
import Clearance.Audit.Dispatcher
import Clearance.Authorization.Authorize
import Clearance.Authorization.Batch
import Clearance.Authorization.Judging
import Clearance.Cache.Attributes
import Clearance.Cache.Bounded
import Clearance.Database.Administration
import Clearance.Database.Basic
import Clearance.Database.Statement
import Clearance.Database.Store
import Clearance.Database.Tables
import Clearance.Database.Transaction
import Clearance.Decimal.Binary
import Clearance.Decimal.Format
import Clearance.Decimal.Reading
import Clearance.Decimal.Shortest
import Clearance.Directory.Basic
import Clearance.Drawn
import Clearance.Failure
import Clearance.Json.Printer
import Clearance.Json.Reader
import Clearance.Operator
import Clearance.Ordered
import Clearance.Pattern.Fold
import Clearance.Pattern.Matcher
import Clearance.Pattern.Node
import Clearance.Pattern.Reader
import Clearance.Policy.Basic
import Clearance.Policy.Condition
import Clearance.Policy.Loading
import Clearance.Policy.Ranking
import Clearance.Policy.Rules
import Clearance.Policy.Targeting
import Clearance.Policy.Validation
import Clearance.Process.Basic
import Clearance.Process.Run
import Clearance.Proofs.Attribute.Context
import Clearance.Proofs.Attribute.Gathering
import Clearance.Proofs.Attribute.Holdings
import Clearance.Proofs.Attribute.Keyed
import Clearance.Proofs.Attribute.Order
import Clearance.Proofs.Attribute.Override
import Clearance.Proofs.Attribute.Precedence
import Clearance.Proofs.Attribute.Reading
import Clearance.Proofs.Attribute.Referring
import Clearance.Proofs.Attribute.Representation
import Clearance.Proofs.Attribute.Shadowing
import Clearance.Proofs.Attribute.Spelling
import Clearance.Proofs.Attribute.Values
import Clearance.Proofs.Audit.Accounts
import Clearance.Proofs.Audit.Closing
import Clearance.Proofs.Authorization.Answering
import Clearance.Proofs.Authorization.Batching
import Clearance.Proofs.Authorization.Deciding
import Clearance.Proofs.Authorization.FailingClosed
import Clearance.Proofs.Authorization.Noninterference
import Clearance.Proofs.Authorization.Recording
import Clearance.Proofs.Authorization.Singles
import Clearance.Proofs.Authorization.Validating
import Clearance.Proofs.Cache.Balance
import Clearance.Proofs.Cache.Bounded
import Clearance.Proofs.Cache.History
import Clearance.Proofs.Cache.Invalidation
import Clearance.Proofs.Cache.Recency
import Clearance.Proofs.Database.Accepting
import Clearance.Proofs.Database.Atomicity
import Clearance.Proofs.Database.Cataloguing
import Clearance.Proofs.Database.Defining
import Clearance.Proofs.Database.Filling
import Clearance.Proofs.Database.Holding
import Clearance.Proofs.Database.Learning
import Clearance.Proofs.Database.Likeness
import Clearance.Proofs.Database.Meaning
import Clearance.Proofs.Database.Script
import Clearance.Proofs.Database.Soundness
import Clearance.Proofs.Database.Storing
import Clearance.Proofs.Directory.Gathering
import Clearance.Proofs.Directory.Holding
import Clearance.Proofs.Directory.Keyed
import Clearance.Proofs.Directory.Loading
import Clearance.Proofs.Json.Printer
import Clearance.Proofs.Operator
import Clearance.Proofs.Ordered
import Clearance.Proofs.Pattern.Levels
import Clearance.Proofs.Pattern.Refusing
import Clearance.Proofs.Policy.Failing
import Clearance.Proofs.Policy.Groups
import Clearance.Proofs.Policy.Judging
import Clearance.Proofs.Policy.Loading
import Clearance.Proofs.Policy.Order
import Clearance.Proofs.Policy.Qualified
import Clearance.Proofs.Policy.Ranking
import Clearance.Proofs.Policy.Stored
import Clearance.Proofs.Policy.Strictness
import Clearance.Proofs.Policy.Targeting
import Clearance.Proofs.Policy.Validation
import Clearance.Proofs.Process.Alongside
import Clearance.Proofs.Process.Attempt
import Clearance.Proofs.Process.Contract
import Clearance.Proofs.Process.Oracle
import Clearance.Proofs.Process.Pool
import Clearance.Proofs.Process.Run
import Clearance.Proofs.Process.Transcript
import Clearance.Proofs.Process.Watching
import Clearance.Proofs.Security.Lines
import Clearance.Proofs.Security.Logger
import Clearance.Proofs.Service.Gathering
import Clearance.Proofs.Service.Invalidation
import Clearance.Proofs.Service.Life
import Clearance.Proofs.Service.Likeness
import Clearance.Proofs.Service.Override
import Clearance.Proofs.Service.Privacy
import Clearance.Proofs.Service.Steady
import Clearance.Proofs.Service.Traffic
import Clearance.Proofs.Service.Transparency
import Clearance.Proofs.Service.Twins
import Clearance.Proofs.Service.Watchers
import Clearance.Proofs.Service.World
import Clearance.Proofs.Settings.Bounds
import Clearance.Proofs.Settings.Number
import Clearance.Proofs.Settings.RoundTrip
import Clearance.Proofs.Settings.Sections
import Clearance.Proofs.Store.Qualified
import Clearance.Proofs.Store.Steady
import Clearance.Proofs.Store.Twins
import Clearance.Proofs.Text.Blank
import Clearance.Proofs.Text.Plain
import Clearance.Proofs.Time.Calendar
import Clearance.Proofs.Time.Civil
import Clearance.Proofs.Time.Padded
import Clearance.Proofs.Time.Stamp
import Clearance.Proofs.Time.Windows
import Clearance.Proofs.Value.Spelling
import Clearance.Request
import Clearance.Security.Event
import Clearance.Security.Logger
import Clearance.Service.Basic
import Clearance.Service.Traffic
import Clearance.Service.World
import Clearance.Settings.Basic
import Clearance.Settings.Environment
import Clearance.Settings.File
import Clearance.Settings.Number
import Clearance.Store.Call
import Clearance.Store.Interposed
import Clearance.Text.Blank
import Clearance.Text.Case
import Clearance.Text.CaseTable
import Clearance.Text.Digit
import Clearance.Text.Name
import Clearance.Text.NameTable
import Clearance.Text.Pieces
import Clearance.Text.Printable
import Clearance.Text.Quoted
import Clearance.Text.Word
import Clearance.Time.Civil
import Clearance.Time.Iso
import Clearance.Time.Moment
import Clearance.Trace
import Clearance.Value.Basic
import Clearance.Value.Spelling
import Clearance.Version
import Clearance.Web.Body
import Clearance.Web.Router
import Clearance.Yaml.Reader
import Clearance.Yaml.Scalar
