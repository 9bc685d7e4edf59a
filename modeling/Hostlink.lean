import Hostlink.Bytes
import Hostlink.Bytes.Queue
import Hostlink.Channel
import Hostlink.Correlation
import Hostlink.Decimal.Digits
import Hostlink.Decimal.Nearest
import Hostlink.Decimal.Notation
import Hostlink.Decimal.Shortest
import Hostlink.Dispatch
import Hostlink.Echo
import Hostlink.Envelope
import Hostlink.Exchange
import Hostlink.Fault
import Hostlink.Frame
import Hostlink.Handler
import Hostlink.Intake
import Hostlink.Json.Datum
import Hostlink.Json.Decode
import Hostlink.Json.Draft
import Hostlink.Json.Encode
import Hostlink.Json.Fault
import Hostlink.Json.Numeral
import Hostlink.Json.Record
import Hostlink.Json.Text
import Hostlink.Json.Value
import Hostlink.Log
import Hostlink.Main
import Hostlink.Metrics.Family
import Hostlink.Metrics.Registry
import Hostlink.Outlet
import Hostlink.Plugin
import Hostlink.Route.Pattern
import Hostlink.Route.Table
import Hostlink.Session
import Hostlink.Settings
import Hostlink.Severity
import Hostlink.Text.Integer
import Hostlink.Text.Quoted
import Hostlink.Text.Reading
import Hostlink.Wire
import Hostlink.Yaml.Cursor
import Hostlink.Yaml.Datum
import Hostlink.Yaml.Node
import Hostlink.Yaml.Record
import Hostlink.Yaml.Scalar
import Hostlink.Yaml.Scanner
import Hostlink.Yaml.Token
import Hostlink.Proofs.Frame.Reader
import Hostlink.Proofs.Frame.Calls
import Hostlink.Proofs.Except
import Hostlink.Proofs.Lookup
import Hostlink.Proofs.Json.Numeral
import Hostlink.Proofs.Json.Draft
import Hostlink.Proofs.Json.Value
import Hostlink.Proofs.Json.Record
import Hostlink.Proofs.Json.Fields
import Hostlink.Proofs.Wire
import Hostlink.Proofs.Wire.Acceptance
import Hostlink.Proofs.Frame.RoundTrip
import Hostlink.Proofs.Frame.Drain
import Hostlink.Proofs.Outlet
import Hostlink.Proofs.Outlet.Segments
import Hostlink.Proofs.Outlet.Pieces
import Hostlink.Proofs.Intake
import Hostlink.Proofs.Dispatch
import Hostlink.Proofs.Session
import Hostlink.Proofs.Run
import Hostlink.Proofs.Handshake
import Hostlink.Proofs.Plugin
import Hostlink.Proofs.Metrics.Family
import Hostlink.Proofs.Metrics.Labels
import Hostlink.Proofs.Metrics.History
import Hostlink.Proofs.Metrics.Keyed
import Hostlink.Proofs.Metrics.Sample
import Hostlink.Proofs.Metrics.Listing
import Hostlink.Proofs.Metrics.Text
import Hostlink.Proofs.Outlet.Sending
import Hostlink.Proofs.Log
import Hostlink.Proofs.Exchange.Steps
import Hostlink.Proofs.Exchange.Pending
import Hostlink.Proofs.Exchange.History
import Hostlink.Proofs.Exchange.Delivery
import Hostlink.Proofs.Exchange.Entries
import Hostlink.Proofs.Exchange.Interplay
import Hostlink.Proofs.Ending
import Hostlink.Proofs.Tasks.Turns
import Hostlink.Proofs.Tasks.Turned
import Hostlink.Proofs.Tasks.Sending
import Hostlink.Proofs.Tasks.Serving
import Hostlink.Proofs.Tasks.Shutdown
import Hostlink.Proofs.Intake.Delivery
import Hostlink.Proofs.Handshake.Stream
import Hostlink.Proofs.Dispatch.Replies
import Hostlink.Proofs.Route.Path
import Hostlink.Proofs.Route.Grammar
import Hostlink.Proofs.Route.Matching
import Hostlink.Proofs.Route.History
import Hostlink.Proofs.Route.Captures
import Hostlink.Proofs.Intake.Buffering
import Hostlink.Proofs.Text.Integer
import Hostlink.Proofs.Yaml.Scalar
import Hostlink.Proofs.Yaml.Record
import Hostlink.Proofs.Yaml.Reordered
import Hostlink.Proofs.Severity
import Hostlink.Proofs.Settings.Demands
import Hostlink.Proofs.Settings.Acceptance
