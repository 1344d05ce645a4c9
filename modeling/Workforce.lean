import Workforce.Access.Actor
import Workforce.Access.Permission
import Workforce.Access.Tenant
import Workforce.Activity
import Workforce.Attendance.Minutes
import Workforce.Attendance.Record
import Workforce.Config.Basic
import Workforce.Config.Document
import Workforce.Decimal.Basic
import Workforce.Decimal.Binary
import Workforce.Decimal.Shortest
import Workforce.Decimal.Text
import Workforce.Fault
import Workforce.Json.Basic
import Workforce.Json.Printer
import Workforce.Json.Reader
import Workforce.Leave.Balance
import Workforce.Leave.Request
import Workforce.Leave.Span
import Workforce.Number
import Workforce.Pay.Deduction
import Workforce.Pay.Gross
import Workforce.Pay.Run
import Workforce.People
import Workforce.Reply
import Workforce.Schedule
import Workforce.Service.Attendance
import Workforce.Service.Call
import Workforce.Service.Context
import Workforce.Service.Effect
import Workforce.Service.Leave
import Workforce.Service.Payroll
import Workforce.Service.People
import Workforce.Service.Schedule
import Workforce.Service.Session
import Workforce.Sorting
import Workforce.Store.Attendance
import Workforce.Store.Basic
import Workforce.Store.Call
import Workforce.Store.Leave
import Workforce.Store.Logs
import Workforce.Store.Payroll
import Workforce.Store.People
import Workforce.Store.Table
import Workforce.Text.Blank
import Workforce.Text.Digits
import Workforce.Text.Named
import Workforce.Time.Calendar
import Workforce.Time.Instant
import Workforce.Time.Rfc3339
import Workforce.Wire.Activity
import Workforce.Wire.Attendance
import Workforce.Wire.Basic
import Workforce.Wire.Call
import Workforce.Wire.Config
import Workforce.Wire.Leave
import Workforce.Wire.Pay
import Workforce.Wire.People
import Workforce.Wire.Reply
import Workforce.Wire.StoreCall
import Workforce.Yaml.Node
import Workforce.Yaml.Reader
import Workforce.Yaml.Scalar
import Workforce.Yaml.Source
import Workforce.Yaml.Token
import Workforce.Proofs.Outcome
import Workforce.Proofs.Table
import Workforce.Proofs.Sorting
import Workforce.Proofs.Write
import Workforce.Proofs.Deed
import Workforce.Proofs.Effect
import Workforce.Proofs.Run
import Workforce.Proofs.Tenancy.Confinement
import Workforce.Proofs.Tenancy.Hiding
import Workforce.Proofs.Leave.Ledger
import Workforce.Proofs.Leave.Days
import Workforce.Proofs.Atomicity
import Workforce.Proofs.Leave.Decision
import Workforce.Proofs.Decimal.Arithmetic
import Workforce.Proofs.Pay.Gross
import Workforce.Proofs.Pay.Price
import Workforce.Proofs.Pay.Profile
import Workforce.Proofs.Pay.NetPreview
import Workforce.Proofs.Race.Turn
import Workforce.Proofs.Race.Winner
import Workforce.Proofs.Race.Snapshot
import Workforce.Proofs.Access.Employee
import Workforce.Proofs.Tenancy.Overlap
import Workforce.Proofs.Tenancy.Transfer
import Workforce.Proofs.Trail
import Workforce.Proofs.Permanence
import Workforce.Proofs.Leave.Settlement
import Workforce.Proofs.Schedule
import Workforce.Proofs.Listing
import Workforce.Proofs.Attendance.Approval
import Workforce.Proofs.Attendance.Aggregate
import Workforce.Proofs.Pay.Totals
import Workforce.Proofs.Sinks
import Workforce.Proofs.Pay.PreviewTrail
import Workforce.Proofs.Access.Denial
import Workforce.Proofs.Pay.Run
import Workforce.Proofs.Integrity
import Workforce.Proofs.Leave.Independence
import Workforce.Proofs.Leave.Opening
import Workforce.Proofs.Attendance.Night
import Workforce.Proofs.Attendance.Split
import Workforce.Proofs.Decimal.Bounds
import Workforce.Proofs.Pay.Sign
import Workforce.Proofs.Pay.Deduction
import Workforce.Proofs.Pay.Adjacent
import Workforce.Proofs.Access.Colleague
import Workforce.Proofs.Tenancy.Affiliation
import Workforce.Proofs.Text.Digits
import Workforce.Proofs.Decimal.Text
import Workforce.Proofs.Time.Calendar
import Workforce.Proofs.Time.Rfc3339
import Workforce.Proofs.Json.Text
import Workforce.Proofs.Json.Depth
import Workforce.Proofs.Wire.Faithful
import Workforce.Proofs.Wire.Records
import Workforce.Proofs.Wire.Pay
import Workforce.Proofs.Wire.RoundTrip
import Workforce.Proofs.Decimal.Overflow
import Workforce.Proofs.Pay.Limits
import Workforce.Proofs.Pay.Overflow
import Workforce.Proofs.Pay.Monotone
import Workforce.Proofs.Leave.Range
import Workforce.Proofs.Leave.Machine
import Workforce.Proofs.Leave.Calendar
import Workforce.Proofs.Leave.Hours
