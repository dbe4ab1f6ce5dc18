import EditorProtocol.Catalog.Capability
import EditorProtocol.Catalog.Document
import EditorProtocol.Catalog.Earlier
import EditorProtocol.Catalog.Enumerations
import EditorProtocol.Catalog.Envelope
import EditorProtocol.Catalog.Feature
import EditorProtocol.Catalog.Legacy
import EditorProtocol.Catalog.Models
import EditorProtocol.Catalog.Standard
import EditorProtocol.Codec.Bounds
import EditorProtocol.Codec.Decode
import EditorProtocol.Codec.Dump
import EditorProtocol.Codec.Encode
import EditorProtocol.Codec.Fitting
import EditorProtocol.Codec.Mismatch
import EditorProtocol.Codec.Record
import EditorProtocol.Codec.Scalar
import EditorProtocol.Codec.Validation
import EditorProtocol.Codec.Violation
import EditorProtocol.CommandLine.Arguments
import EditorProtocol.CommandLine.Command
import EditorProtocol.CommandLine.Display
import EditorProtocol.CommandLine.Run
import EditorProtocol.Config.Configuration
import EditorProtocol.Config.Files
import EditorProtocol.Config.Printed
import EditorProtocol.Config.Reading
import EditorProtocol.Config.Settings
import EditorProtocol.Document.Column
import EditorProtocol.Document.Position
import EditorProtocol.Endpoint.Behaviour
import EditorProtocol.Endpoint.Error
import EditorProtocol.Endpoint.Outgoing
import EditorProtocol.Endpoint.Receiving
import EditorProtocol.Endpoint.Serving
import EditorProtocol.Endpoint.Session
import EditorProtocol.Framing.Error
import EditorProtocol.Framing.Header
import EditorProtocol.Framing.Message
import EditorProtocol.Given.Basic
import EditorProtocol.Given.Breach
import EditorProtocol.Given.Scalar
import EditorProtocol.Json.Text
import EditorProtocol.Json.Written
import EditorProtocol.Logging.Entry
import EditorProtocol.Logging.Logger
import EditorProtocol.Logging.Template
import EditorProtocol.Main
import EditorProtocol.Method.Basic
import EditorProtocol.Method.Envelope
import EditorProtocol.Method.Lifecycle
import EditorProtocol.Method.Registry
import EditorProtocol.Number.Decimal
import EditorProtocol.Number.Double
import EditorProtocol.Number.Numeral
import EditorProtocol.Proofs.Catalog.Answers
import EditorProtocol.Proofs.Catalog.Calls
import EditorProtocol.Proofs.Catalog.Cancelling
import EditorProtocol.Proofs.Catalog.Dispatch
import EditorProtocol.Proofs.Catalog.Distinct
import EditorProtocol.Proofs.Catalog.Errors
import EditorProtocol.Proofs.Catalog.Exchange
import EditorProtocol.Proofs.Catalog.Extension
import EditorProtocol.Proofs.Catalog.Logs
import EditorProtocol.Proofs.Catalog.Messages
import EditorProtocol.Proofs.Catalog.Ranges
import EditorProtocol.Proofs.Catalog.Regular
import EditorProtocol.Proofs.Catalog.RoundTrip
import EditorProtocol.Proofs.Catalog.TakenBack
import EditorProtocol.Proofs.Catalog.Unchecked
import EditorProtocol.Proofs.Codec.Answering
import EditorProtocol.Proofs.Codec.Apart
import EditorProtocol.Proofs.Codec.Aside
import EditorProtocol.Proofs.Codec.Assembling
import EditorProtocol.Proofs.Codec.Assurance
import EditorProtocol.Proofs.Codec.Attribution
import EditorProtocol.Proofs.Codec.Canon
import EditorProtocol.Proofs.Codec.Closed
import EditorProtocol.Proofs.Codec.Conformance
import EditorProtocol.Proofs.Codec.Decoding
import EditorProtocol.Proofs.Codec.Delivery
import EditorProtocol.Proofs.Codec.Dumping
import EditorProtocol.Proofs.Codec.Encoding
import EditorProtocol.Proofs.Codec.Exclusive
import EditorProtocol.Proofs.Codec.Extension
import EditorProtocol.Proofs.Codec.Faults
import EditorProtocol.Proofs.Codec.Fitting
import EditorProtocol.Proofs.Codec.Language
import EditorProtocol.Proofs.Codec.Location
import EditorProtocol.Proofs.Codec.Loudness
import EditorProtocol.Proofs.Codec.Outcome
import EditorProtocol.Proofs.Codec.Overlap
import EditorProtocol.Proofs.Codec.Plain
import EditorProtocol.Proofs.Codec.Reading
import EditorProtocol.Proofs.Codec.Retaking
import EditorProtocol.Proofs.Codec.RoundTrip
import EditorProtocol.Proofs.Codec.Scalar
import EditorProtocol.Proofs.Codec.Sealing
import EditorProtocol.Proofs.Codec.Silence
import EditorProtocol.Proofs.Codec.Soundness
import EditorProtocol.Proofs.Codec.Standing
import EditorProtocol.Proofs.Codec.Strictness
import EditorProtocol.Proofs.Codec.Taking
import EditorProtocol.Proofs.Codec.Unwritable
import EditorProtocol.Proofs.Codec.Validation
import EditorProtocol.Proofs.Codec.Wholeness
import EditorProtocol.Proofs.Codec.Writing
import EditorProtocol.Proofs.Config.Loading
import EditorProtocol.Proofs.Config.Merging
import EditorProtocol.Proofs.Connection.Accord
import EditorProtocol.Proofs.Connection.Act
import EditorProtocol.Proofs.Connection.Peer
import EditorProtocol.Proofs.Connection.Service
import EditorProtocol.Proofs.Connection.Turn
import EditorProtocol.Proofs.Document.Column
import EditorProtocol.Proofs.Endpoint.Action
import EditorProtocol.Proofs.Endpoint.Aside
import EditorProtocol.Proofs.Endpoint.Cancelling
import EditorProtocol.Proofs.Endpoint.Course
import EditorProtocol.Proofs.Endpoint.Desk
import EditorProtocol.Proofs.Endpoint.Dispatch
import EditorProtocol.Proofs.Endpoint.Docket
import EditorProtocol.Proofs.Endpoint.Escape
import EditorProtocol.Proofs.Endpoint.Flight
import EditorProtocol.Proofs.Endpoint.Flushing
import EditorProtocol.Proofs.Endpoint.Keyed
import EditorProtocol.Proofs.Endpoint.Ledger
import EditorProtocol.Proofs.Endpoint.Matching
import EditorProtocol.Proofs.Endpoint.Move
import EditorProtocol.Proofs.Endpoint.Outcome
import EditorProtocol.Proofs.Endpoint.Outgoing
import EditorProtocol.Proofs.Endpoint.Reading
import EditorProtocol.Proofs.Endpoint.Response
import EditorProtocol.Proofs.Endpoint.Serving
import EditorProtocol.Proofs.Framing.Failure
import EditorProtocol.Proofs.Framing.Header
import EditorProtocol.Proofs.Framing.Message
import EditorProtocol.Proofs.Framing.Receiving
import EditorProtocol.Proofs.Json.Text
import EditorProtocol.Proofs.Method.Calls
import EditorProtocol.Proofs.Method.Failure
import EditorProtocol.Proofs.Method.Lifecycle
import EditorProtocol.Proofs.Method.Params
import EditorProtocol.Proofs.Method.Registry
import EditorProtocol.Proofs.Method.Replies
import EditorProtocol.Proofs.Method.Written
import EditorProtocol.Proofs.Number.Numeral
import EditorProtocol.Proofs.Shape.Acyclic
import EditorProtocol.Proofs.Shape.Ambiguous
import EditorProtocol.Proofs.Shape.Disjoint
import EditorProtocol.Proofs.Shape.Field
import EditorProtocol.Proofs.Shape.Finite
import EditorProtocol.Proofs.Shape.Fixpoint
import EditorProtocol.Proofs.Shape.Interval
import EditorProtocol.Proofs.Shape.Reachable
import EditorProtocol.Proofs.Shape.Regular
import EditorProtocol.Proofs.Shape.Reordering
import EditorProtocol.Proofs.Shape.Sound
import EditorProtocol.Proofs.Shape.Symmetry
import EditorProtocol.Proofs.Shape.Wire
import EditorProtocol.Proofs.Text.Encoding
import EditorProtocol.Proofs.Value.Json
import EditorProtocol.Proofs.Value.Lookup
import EditorProtocol.Shape.Basic
import EditorProtocol.Shape.Family
import EditorProtocol.Shape.Finite
import EditorProtocol.Shape.Overlap
import EditorProtocol.Shape.Printed
import EditorProtocol.Shape.Reach
import EditorProtocol.Shape.TypeExpr
import EditorProtocol.Shape.Wire
import EditorProtocol.Terminal.Blank
import EditorProtocol.Terminal.Emoji
import EditorProtocol.Terminal.Emoji.Names
import EditorProtocol.Terminal.Layout
import EditorProtocol.Terminal.Markup
import EditorProtocol.Terminal.Width
import EditorProtocol.Text.Encoding.Basic
import EditorProtocol.Text.Encoding.Coding
import EditorProtocol.Text.Encoding.Escaped
import EditorProtocol.Text.Encoding.Name
import EditorProtocol.Text.Encoding.Page
import EditorProtocol.Text.Encoding.Puny
import EditorProtocol.Text.Encoding.Reader
import EditorProtocol.Text.Encoding.Shifted
import EditorProtocol.Text.Hex
import EditorProtocol.Text.Letters
import EditorProtocol.Text.Parsed
import EditorProtocol.Text.Quoted
import EditorProtocol.Text.Visible
import EditorProtocol.Text.Word
import EditorProtocol.Toml.Document
import EditorProtocol.Toml.Item
import EditorProtocol.Toml.Node
import EditorProtocol.Toml.Scalar
import EditorProtocol.Value.Basic
import EditorProtocol.Value.Equality
import EditorProtocol.Value.Order
import EditorProtocol.Value.Render
