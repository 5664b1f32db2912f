import Circulation.Calendar.Date
import Circulation.Calendar.Literal
import Circulation.Calendar.Moment
import Circulation.Calendar.SqlLiteral
import Circulation.Calendar.Zone
import Circulation.Casing
import Circulation.Command.Arguments
import Circulation.Command.Explain
import Circulation.Command.Inspect
import Circulation.Command.Program
import Circulation.Config.Address
import Circulation.Config.EnvFile
import Circulation.Config.Environment
import Circulation.Config.Settings
import Circulation.Database.Cell
import Circulation.Database.Location
import Circulation.Database.Server
import Circulation.Decimal.Binary
import Circulation.Decimal.Shortest
import Circulation.Dict
import Circulation.Document
import Circulation.Duration
import Circulation.Failure
import Circulation.Filter.Operator
import Circulation.Filter.Query
import Circulation.Http.Cors
import Circulation.Http.MediaType
import Circulation.Http.Message
import Circulation.Http.Problem
import Circulation.Http.Router
import Circulation.Http.Submission
import Circulation.Json.Printer
import Circulation.Json.Reader
import Circulation.Json.Token
import Circulation.Json.Value
import Circulation.Log.Filter
import Circulation.Main
import Circulation.Page
import Circulation.Proofs.Calendar.Literal
import Circulation.Proofs.Calendar.Spelling
import Circulation.Proofs.Calendar.Wrapping
import Circulation.Proofs.Casing
import Circulation.Proofs.Command.Redaction
import Circulation.Proofs.Database.TimeLimit
import Circulation.Proofs.Dict
import Circulation.Proofs.Document.Counting
import Circulation.Proofs.Document.Links
import Circulation.Proofs.Document.Resubmission
import Circulation.Proofs.Document.Tiling
import Circulation.Proofs.Filter.Key
import Circulation.Proofs.Filter.LastPair
import Circulation.Proofs.Filter.Query
import Circulation.Proofs.Http.Discretion
import Circulation.Proofs.Page
import Circulation.Proofs.Request.Binding
import Circulation.Proofs.Request.Display
import Circulation.Proofs.Request.Explained
import Circulation.Proofs.Request.SameNames
import Circulation.Proofs.Request.Statements
import Circulation.Proofs.Schema.Creation
import Circulation.Proofs.Schema.Merge
import Circulation.Proofs.Schema.Stored
import Circulation.Proofs.Schema.Typing
import Circulation.Proofs.Sql.Building
import Circulation.Proofs.Sql.Conditions
import Circulation.Proofs.Sql.Inlining
import Circulation.Proofs.Sql.Pattern
import Circulation.Proofs.Sql.Phrase
import Circulation.Proofs.Sql.Placeholder
import Circulation.Proofs.Sql.Quoted
import Circulation.Proofs.Sql.Wording
import Circulation.Proofs.Store.Course
import Circulation.Proofs.Store.Creation
import Circulation.Proofs.Store.Failing
import Circulation.Proofs.Store.FirstFailure
import Circulation.Proofs.Store.Following
import Circulation.Proofs.Store.Lifecycle
import Circulation.Proofs.Store.Lockstep
import Circulation.Proofs.Store.Path
import Circulation.Proofs.Store.Race
import Circulation.Proofs.Store.Respelling
import Circulation.Proofs.Store.Rewriting
import Circulation.Proofs.Store.RowOfKey
import Circulation.Proofs.Store.SharedRow
import Circulation.Proofs.Store.WriteBack
import Circulation.Proofs.Text.Case
import Circulation.Proofs.Text.Cut
import Circulation.Proofs.Text.Form
import Circulation.Proofs.Text.Utf8
import Circulation.Record
import Circulation.Schema.Catalogue
import Circulation.Schema.Column
import Circulation.Schema.Typing
import Circulation.Sql.Condition
import Circulation.Sql.Param
import Circulation.Sql.Statement
import Circulation.Store.Reply
import Circulation.Store.Repository
import Circulation.Store.Script
import Circulation.Store.Session
import Circulation.Store.Transaction
import Circulation.Text.Blank
import Circulation.Text.Case
import Circulation.Text.CaseTable
import Circulation.Text.Cut
import Circulation.Text.Form
import Circulation.Text.Letter
import Circulation.Text.Numeral
import Circulation.Text.Percent
import Circulation.Text.Shape
import Circulation.Text.Utf8
import Circulation.Toml.Literal
import Circulation.Toml.Quoted
import Circulation.Toml.Reader
import Circulation.Toml.Table
