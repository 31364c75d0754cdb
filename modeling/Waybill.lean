import Waybill.Decimal.Basic
import Waybill.Decimal.Arith
import Waybill.Decimal.Read
import Waybill.Calendar.Date
import Waybill.Calendar.Instant
import Waybill.Text.Blank
import Waybill.Text.Phone
import Waybill.Text.Integer
import Waybill.Text.Escape
import Waybill.Text.Utf8
import Waybill.Json.Double
import Waybill.Json.Value
import Waybill.Json.Render
import Waybill.Wire.Cursor
import Waybill.Wire.Form
import Waybill.Guide.State
import Waybill.Fault
import Waybill.Party
import Waybill.FieldCheck
import Waybill.Money
import Waybill.Guide.Record
import Waybill.Eligibility
import Waybill.Http.Caller
import Waybill.Http.Message
import Waybill.Http.MediaType
import Waybill.Http.Route
import Waybill.Http.Forms
import Waybill.Http.Api
import Waybill.Http.Cors
import Waybill.Console.Args
import Waybill.Console.Answer
import Waybill.Console.Calculation
import Waybill.Report
import Waybill.Settings
import Waybill.Web.Host
import Waybill.Web.Url
import Waybill.Web.Socket
import Waybill.Connection
import Waybill.Startup
import Waybill.Console.Deployment
import Waybill.Console.Fixture
import Waybill.Console.Mask
import Waybill.Console.Exchange
import Waybill.UnitOfWork
import Waybill.Console.Batch
import Waybill.Console.Session
import Waybill.Console
import Waybill.Directory
import Waybill.Store
import Waybill.Service.Basic
import Waybill.Service.Guides
import Waybill.Service.Assignment
import Waybill.Service.Courier
import Waybill.Service.Cancellation
import Waybill.Service.Incidents
import Waybill.Service.Operation
import Waybill.Main
import Waybill.Proofs.Transaction
import Waybill.Proofs.Steps
import Waybill.Proofs.Calls
import Waybill.Proofs.Coherence
import Waybill.Proofs.Consistency
import Waybill.Proofs.Ledger
import Waybill.Proofs.Edges
import Waybill.Proofs.Calendar
import Waybill.Proofs.Allowance
import Waybill.Proofs.Outcomes
import Waybill.Proofs.Incidents
import Waybill.Proofs.Finality
import Waybill.Proofs.Permanence
import Waybill.Proofs.Authority
import Waybill.Proofs.Rounding
import Waybill.Proofs.Percentages
import Waybill.Proofs.Prices
import Waybill.Proofs.MonthWindow
import Waybill.Proofs.Text
import Waybill.Proofs.Phone
import Waybill.Proofs.Caller
