import DeliveryWatch.Bytes.Base64
import DeliveryWatch.Bytes.Sha256
import DeliveryWatch.Bytes.Utf8
import DeliveryWatch.Charset.Decode
import DeliveryWatch.Charset.EastAsian
import DeliveryWatch.Charset.Name
import DeliveryWatch.Charset.SingleByte
import DeliveryWatch.Command.Desk
import DeliveryWatch.Command.Options
import DeliveryWatch.Command.Order
import DeliveryWatch.Command.Probe
import DeliveryWatch.Command.Watch
import DeliveryWatch.Database.Name
import DeliveryWatch.Database.Shelf
import DeliveryWatch.Database.Table
import DeliveryWatch.Database.Value
import DeliveryWatch.Header.AddrSpec
import DeliveryWatch.Header.EncodedWord
import DeliveryWatch.Header.Mailbox
import DeliveryWatch.Header.MediaType
import DeliveryWatch.Header.Parameter
import DeliveryWatch.Header.Symbol
import DeliveryWatch.Header.Unstructured
import DeliveryWatch.Header.Word
import DeliveryWatch.Header.Written
import DeliveryWatch.Json.Basic
import DeliveryWatch.Json.Printer
import DeliveryWatch.Json.Reader
import DeliveryWatch.Ledger.Store
import DeliveryWatch.Ledger.Table
import DeliveryWatch.Log.Entry
import DeliveryWatch.Log.Record
import DeliveryWatch.Log.Template
import DeliveryWatch.Main
import DeliveryWatch.Message.Metadata
import DeliveryWatch.Message.Mime
import DeliveryWatch.Message.Section
import DeliveryWatch.Message.Split
import DeliveryWatch.Message.Unfold
import DeliveryWatch.Metrics.Basic
import DeliveryWatch.Ping.Email
import DeliveryWatch.Pipeline.Assembly
import DeliveryWatch.Pipeline.Fault
import DeliveryWatch.Pipeline.Run
import DeliveryWatch.Pipeline.Stage
import DeliveryWatch.Proofs.Bytes.Base64
import DeliveryWatch.Proofs.Bytes.Utf8
import DeliveryWatch.Proofs.Bytes.WellFormed
import DeliveryWatch.Proofs.Charset.Unicode
import DeliveryWatch.Proofs.Command.Probe
import DeliveryWatch.Proofs.Database.Change
import DeliveryWatch.Proofs.Database.Name
import DeliveryWatch.Proofs.Database.Sound
import DeliveryWatch.Proofs.Database.Statement
import DeliveryWatch.Proofs.Header.EncodedWord
import DeliveryWatch.Proofs.Header.Written
import DeliveryWatch.Proofs.Json.Escape
import DeliveryWatch.Proofs.Json.RoundTrip
import DeliveryWatch.Proofs.Ledger.Book
import DeliveryWatch.Proofs.Ledger.Calls
import DeliveryWatch.Proofs.Ledger.Contract
import DeliveryWatch.Proofs.Ledger.Described
import DeliveryWatch.Proofs.Ledger.Line
import DeliveryWatch.Proofs.Ledger.Made
import DeliveryWatch.Proofs.Ledger.Mail
import DeliveryWatch.Proofs.Ledger.OneShot
import DeliveryWatch.Proofs.Ledger.Pings
import DeliveryWatch.Proofs.Ledger.Usable
import DeliveryWatch.Proofs.Log.Record
import DeliveryWatch.Proofs.Message.Content
import DeliveryWatch.Proofs.Message.Ending
import DeliveryWatch.Proofs.Message.Fields
import DeliveryWatch.Proofs.Message.Folds
import DeliveryWatch.Proofs.Message.Split
import DeliveryWatch.Proofs.Message.Unfold
import DeliveryWatch.Proofs.Outcome
import DeliveryWatch.Proofs.Ping.Email
import DeliveryWatch.Proofs.Ping.Token
import DeliveryWatch.Proofs.Pipeline.Assembly
import DeliveryWatch.Proofs.Pipeline.Balance
import DeliveryWatch.Proofs.Pipeline.Failure
import DeliveryWatch.Proofs.Pipeline.Interleaving
import DeliveryWatch.Proofs.Pipeline.Lifecycle
import DeliveryWatch.Proofs.Pipeline.Moments
import DeliveryWatch.Proofs.Pipeline.Passage
import DeliveryWatch.Proofs.Pipeline.Posting
import DeliveryWatch.Proofs.Pipeline.Registry
import DeliveryWatch.Proofs.Pipeline.Watch
import DeliveryWatch.Proofs.Smtp.Transaction
import DeliveryWatch.Proofs.Stage.Course
import DeliveryWatch.Proofs.Stage.Headers
import DeliveryWatch.Proofs.Stage.MailBox
import DeliveryWatch.Proofs.Stage.TokenFilter
import DeliveryWatch.Proofs.Stage.Treatment
import DeliveryWatch.Proofs.Text.Blank
import DeliveryWatch.Proofs.Text.Case
import DeliveryWatch.Proofs.Text.Cut
import DeliveryWatch.Proofs.Text.Digit
import DeliveryWatch.Proofs.Text.Lines
import DeliveryWatch.Proofs.Time.LedgerText
import DeliveryWatch.Proofs.Time.MailDate
import DeliveryWatch.Proofs.Time.Range
import DeliveryWatch.Proofs.Trace.Bounds
import DeliveryWatch.Proofs.Trace.Delay
import DeliveryWatch.Proofs.Trace.Distance
import DeliveryWatch.Proofs.Trace.Reading
import DeliveryWatch.Proofs.Trace.Received
import DeliveryWatch.Proofs.Trace.Seconds
import DeliveryWatch.Proofs.Trace.Stamp
import DeliveryWatch.Settings.Assignments
import DeliveryWatch.Settings.Basic
import DeliveryWatch.Settings.Number
import DeliveryWatch.Smtp.Transaction
import DeliveryWatch.Stage.Headers
import DeliveryWatch.Stage.MailBox
import DeliveryWatch.Stage.TokenFilter
import DeliveryWatch.Text.Basic
import DeliveryWatch.Text.Case
import DeliveryWatch.Text.Digit
import DeliveryWatch.Text.Quoted
import DeliveryWatch.Time.Basic
import DeliveryWatch.Time.IsoText
import DeliveryWatch.Time.MailDate
import DeliveryWatch.Trace.Delay
import DeliveryWatch.Trace.Stamp
