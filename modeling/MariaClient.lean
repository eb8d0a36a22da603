import MariaClient.Account
import MariaClient.Account.Document
import MariaClient.Account.Url
import MariaClient.Attempt
import MariaClient.Auth
import MariaClient.Binding
import MariaClient.Calendar
import MariaClient.Client.Channel
import MariaClient.Client.Exchange
import MariaClient.Client.Login
import MariaClient.Client.Remote
import MariaClient.Client.Reply
import MariaClient.CommandLine.Arguments
import MariaClient.CommandLine.Help
import MariaClient.CommandLine.Program
import MariaClient.CommandLine.Table
import MariaClient.Curve.Edwards
import MariaClient.Curve.Repeated
import MariaClient.Curve.Weierstrass
import MariaClient.Decimal
import MariaClient.Dictionary
import MariaClient.Digest.Blocks
import MariaClient.Digest.Sha1
import MariaClient.Digest.Sha256
import MariaClient.Digest.Sha512
import MariaClient.Error
import MariaClient.FieldType
import MariaClient.Files
import MariaClient.Floating.Format
import MariaClient.Floating.Shortest
import MariaClient.Floating.Text
import MariaClient.Json
import MariaClient.Main
import MariaClient.Proofs.Text.Utf8
import MariaClient.Proofs.Wire.Reads
import MariaClient.ResultSet
import MariaClient.ResultSet.Accessor
import MariaClient.Scheduler.Board
import MariaClient.Scheduler.Job
import MariaClient.Scheduler.Workers
import MariaClient.Session.Connection
import MariaClient.Session.Script
import MariaClient.Session.Server
import MariaClient.Session.Source
import MariaClient.Session.Statement
import MariaClient.Session.Transaction
import MariaClient.Session.Workspace
import MariaClient.Temporal.DateTime
import MariaClient.Temporal.Reader
import MariaClient.Temporal.Span
import MariaClient.Temporal.SpanPart
import MariaClient.Temporal.TimeOfDay
import MariaClient.Temporal.UnixTime
import MariaClient.Temporal.WireTime
import MariaClient.Text.Blank
import MariaClient.Text.Digits
import MariaClient.Text.Parse
import MariaClient.Text.Quoted
import MariaClient.Text.Split
import MariaClient.Text.Utf8
import MariaClient.Text.Visible
import MariaClient.Tls.Base64
import MariaClient.Tls.Certificate
import MariaClient.Tls.Config
import MariaClient.Tls.Der
import MariaClient.Tls.Pem
import MariaClient.Tls.PrivateKey
import MariaClient.Tls.ServerName
import MariaClient.Toml.Document
import MariaClient.Toml.Quoted
import MariaClient.Toml.Reader
import MariaClient.Toml.Scalar
import MariaClient.Value
import MariaClient.ValueType
import MariaClient.Wire.Bytes
import MariaClient.Wire.Column
import MariaClient.Wire.Command
import MariaClient.Wire.Execute
import MariaClient.Wire.Handshake
import MariaClient.Wire.Packet
import MariaClient.Wire.Reader
import MariaClient.Wire.Row
import MariaClient.Proofs.Wire.ServerPacket
import MariaClient.Proofs.Client.Receives
import MariaClient.Proofs.Client.Response
import MariaClient.Proofs.Session.History
import MariaClient.Proofs.Session.Reports
import MariaClient.Proofs.Session.Reuse
import MariaClient.Proofs.Client.Disclosure
import MariaClient.Proofs.ResultSet.Parameters
import MariaClient.Proofs.Session.Homes
import MariaClient.Proofs.Scheduler.Results
import MariaClient.Proofs.ResultSet.Cursor
import MariaClient.Proofs.Text.Padded
import MariaClient.Proofs.Temporal.Printed
import MariaClient.Proofs.Temporal.ServerText
import MariaClient.Proofs.Wire.Cells
import MariaClient.Proofs.ResultSet.ServerValues
import MariaClient.Proofs.Session.Clones
import MariaClient.Proofs.Session.Posture
import MariaClient.Proofs.Decimal.Printed
import MariaClient.Proofs.Temporal.Translation
import MariaClient.Proofs.Wire.RowLayout
import MariaClient.Proofs.ResultSet.Revisit
import MariaClient.Proofs.Session.Advances
import MariaClient.Proofs.Session.Traces
import MariaClient.Proofs.Temporal.Assignment
import MariaClient.Proofs.Temporal.Reached
import MariaClient.Proofs.Temporal.RoundTrip
import MariaClient.Proofs.Calendar.DayOrder
import MariaClient.Proofs.Temporal.Distance
import MariaClient.Proofs.Decimal.Number
import MariaClient.Proofs.Decimal.Sum
import MariaClient.Proofs.Decimal.Product
import MariaClient.Proofs.Temporal.SpanOrder
import MariaClient.Proofs.Decimal.Numeral
import MariaClient.Proofs.Temporal.Grammar
import MariaClient.Proofs.ResultSet.Unread
import MariaClient.Proofs.ResultSet.Integers
import MariaClient.Proofs.Temporal.Clock
import MariaClient.Proofs.Temporal.Months
import MariaClient.Proofs.Wire.LoginAnswer
import MariaClient.Proofs.Session.Rebinding
import MariaClient.Proofs.Temporal.Epoch
import MariaClient.Proofs.Account.Url
import MariaClient.Proofs.Wire.Greeting
import MariaClient.Proofs.Decimal.Order
import MariaClient.Proofs.Temporal.ClockDistance
import MariaClient.Proofs.Wire.TextRow
import MariaClient.Proofs.Calendar.Numbering
