import BusRelay.Broker.Binding
import BusRelay.Broker.ConnectionString
import BusRelay.Broker.Directory
import BusRelay.Broker.LockToken
import BusRelay.Broker.Properties
import BusRelay.Broker.Receiver
import BusRelay.Broker.SharedKey
import BusRelay.Broker.Token
import BusRelay.Codec.Base64
import BusRelay.Codec.Form
import BusRelay.Codec.Percent
import BusRelay.Codec.Sha256
import BusRelay.Conversion.Kind
import BusRelay.Conversion.Processor
import BusRelay.Conversion.Unpack
import BusRelay.Conversion.Wrap
import BusRelay.Decimal.Binary64
import BusRelay.Decimal.Floating
import BusRelay.Decimal.Shortest
import BusRelay.Decimal.Written
import BusRelay.Dict
import BusRelay.Event.Basic
import BusRelay.Event.Repair
import BusRelay.Event.Structured
import BusRelay.Event.Validation
import BusRelay.Handling.Diagnostic
import BusRelay.Handling.Dispatch
import BusRelay.Handling.Fault
import BusRelay.Handling.Handle
import BusRelay.Handling.Settlement
import BusRelay.Http.Client
import BusRelay.Http.Message
import BusRelay.Http.Status
import BusRelay.Http.Uri
import BusRelay.Identifier
import BusRelay.Idna.Decomposition
import BusRelay.Idna.Domain
import BusRelay.Idna.Mapping
import BusRelay.Idna.Normalization
import BusRelay.Idna.Properties
import BusRelay.Idna.Punycode
import BusRelay.Json.Diagnostic
import BusRelay.Json.Fault
import BusRelay.Json.Printer
import BusRelay.Json.Reader
import BusRelay.Json.Record
import BusRelay.Json.Skip
import BusRelay.Json.Tree
import BusRelay.Json.Value
import BusRelay.Log.Directive
import BusRelay.Log.Filter
import BusRelay.Log.Line
import BusRelay.Log.Record
import BusRelay.Main
import BusRelay.Message
import BusRelay.Relay.Basic
import BusRelay.Relay.Handler
import BusRelay.Relay.Machine
import BusRelay.Relay.Report
import BusRelay.Relay.VirtualTime
import BusRelay.Resource.Entity
import BusRelay.Resource.Fault
import BusRelay.Resource.Id
import BusRelay.Session
import BusRelay.Settings.Configuration
import BusRelay.Settings.Environment
import BusRelay.Settings.Value
import BusRelay.Sink.Headers
import BusRelay.Sink.Retry
import BusRelay.Sink.Sender
import BusRelay.Sink.Target
import BusRelay.Startup
import BusRelay.Text.Alphanumeric
import BusRelay.Text.Blank
import BusRelay.Text.CharRange
import BusRelay.Text.Fields
import BusRelay.Text.LowerCase
import BusRelay.Text.Printable
import BusRelay.Text.Quoted
import BusRelay.Text.Utf8
import BusRelay.Time.Duration
import BusRelay.Time.Instant
import BusRelay.Time.Rfc2822
import BusRelay.Time.Rfc3339
import BusRelay.Time.Scan
import BusRelay.Url.Address
import BusRelay.Url.Basic
import BusRelay.Url.Fault
import BusRelay.Url.Parser
import BusRelay.Proofs.Handling.Exchange
import BusRelay.Proofs.Handling.Settlement
import BusRelay.Proofs.Relay.Permits
import BusRelay.Proofs.Relay.Trail
import BusRelay.Proofs.Relay.Completion
import BusRelay.Proofs.Relay.Drain
import BusRelay.Proofs.Relay.Ledger
import BusRelay.Proofs.Relay.Lifecycle
import BusRelay.Proofs.Relay.Conduct
import BusRelay.Proofs.Relay.Isolation
import BusRelay.Proofs.Relay.Remaining
import BusRelay.Proofs.Relay.Prompt
import BusRelay.Proofs.Relay.Winding
import BusRelay.Proofs.Relay.Upshot
import BusRelay.Proofs.Relay.Deadline
import BusRelay.Proofs.Http.Redirect
import BusRelay.Proofs.Sink.Acknowledgment
import BusRelay.Proofs.Relay.Solo
import BusRelay.Proofs.Relay.Sequential
import BusRelay.Proofs.Dict
import BusRelay.Proofs.Except
import BusRelay.Proofs.Json.Number
import BusRelay.Proofs.Json.Reader
import BusRelay.Proofs.Json.Record
import BusRelay.Proofs.Json.RoundTrip
import BusRelay.Proofs.Json.Text
import BusRelay.Proofs.Json.Value
import BusRelay.Proofs.Text.Utf8
import BusRelay.Proofs.Codec.Base64
import BusRelay.Proofs.Codec.Percent
import BusRelay.Proofs.Time.Instant
import BusRelay.Proofs.Time.Rfc3339
import BusRelay.Proofs.Sink.Headers
import BusRelay.Proofs.Sink.ReadBack
import BusRelay.Proofs.Conversion.Document
import BusRelay.Proofs.Conversion.Unpack
import BusRelay.Proofs.Sink.Collision
import BusRelay.Proofs.Sink.Payload
import BusRelay.Proofs.Broker.Deletion
import BusRelay.Proofs.Broker.LockToken
import BusRelay.Proofs.Url.Directory
import BusRelay.Proofs.Url.Encoding
import BusRelay.Proofs.Broker.Addressing
import BusRelay.Proofs.Conversion.Wrap
import BusRelay.Proofs.Json.Content
import BusRelay.Proofs.Conversion.Batch
import BusRelay.Proofs.Text.Ascii
import BusRelay.Proofs.Text.Fields
import BusRelay.Proofs.Broker.Precedence
import BusRelay.Proofs.Broker.ConnectionString
import BusRelay.Proofs.Broker.Disclosure
import BusRelay.Proofs.Url.Site
import BusRelay.Proofs.Broker.Endpoint
import BusRelay.Proofs.Decimal.Grammar
import BusRelay.Proofs.Settings.Value
import BusRelay.Proofs.Settings.Loading
import BusRelay.Proofs.Resource.Grammar
import BusRelay.Proofs.Resource.Entity
import BusRelay.Proofs.Broker.Renewal
import BusRelay.Proofs.Startup
import BusRelay.Proofs.Text.Quoted
import BusRelay.Proofs.Settings.Secrecy
import BusRelay.Proofs.Broker.Receipt
import BusRelay.Proofs.Handling.Completeness
import BusRelay.Proofs.Sink.Retry
import BusRelay.Proofs.Text.Blank
import BusRelay.Proofs.Event.Rules
import BusRelay.Proofs.Event.Repair
import BusRelay.Proofs.Broker.ClockLimit
import BusRelay.Proofs.Broker.Issued
import BusRelay.Proofs.Url.Host
import BusRelay.Proofs.Broker.Usable
import BusRelay.Proofs.Broker.SharedKey
import BusRelay.Proofs.Codec.Form
import BusRelay.Proofs.Broker.Layout
import BusRelay.Proofs.Broker.Composed
import BusRelay.Proofs.Event.Members
import BusRelay.Proofs.Event.Converted
import BusRelay.Proofs.Event.Unset
import BusRelay.Proofs.Broker.ApplicationProperties
import BusRelay.Proofs.Conversion.Determined
import BusRelay.Proofs.Sink.Reachable
import BusRelay.Proofs.Sink.Value
import BusRelay.Proofs.Handling.Listing
import BusRelay.Proofs.Relay.Unjoined
import BusRelay.Proofs.Relay.Shutdown
