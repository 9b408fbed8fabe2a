import ServerTelemetry.Attribute
import ServerTelemetry.Collector
import ServerTelemetry.CommandLine
import ServerTelemetry.Configuration.Basic
import ServerTelemetry.Configuration.Document
import ServerTelemetry.Configuration.Environment
import ServerTelemetry.Configuration.Error
import ServerTelemetry.Configuration.File
import ServerTelemetry.Configuration.Schema
import ServerTelemetry.Configuration.Variable
import ServerTelemetry.Document.Decoder
import ServerTelemetry.Duration.Basic
import ServerTelemetry.Duration.Read
import ServerTelemetry.Extractor
import ServerTelemetry.Facts
import ServerTelemetry.FileSystem
import ServerTelemetry.Forwarded
import ServerTelemetry.Http.Header
import ServerTelemetry.Http.Message
import ServerTelemetry.Http.Uri
import ServerTelemetry.Labels
import ServerTelemetry.Log.Event
import ServerTelemetry.Log.Filter
import ServerTelemetry.Log.Line
import ServerTelemetry.Main
import ServerTelemetry.Net.Address
import ServerTelemetry.Number.Binary64
import ServerTelemetry.Number.Decimal
import ServerTelemetry.Propagation.Context
import ServerTelemetry.Propagation.Propagator
import ServerTelemetry.Resource
import ServerTelemetry.Route.Basic
import ServerTelemetry.Route.Book
import ServerTelemetry.Service
import ServerTelemetry.Session
import ServerTelemetry.Shared
import ServerTelemetry.Span.Basic
import ServerTelemetry.Span.Open
import ServerTelemetry.Span.Sampler
import ServerTelemetry.Startup
import ServerTelemetry.Status
import ServerTelemetry.Text.Alphanumeric
import ServerTelemetry.Text.Blank
import ServerTelemetry.Text.Letters
import ServerTelemetry.Text.Number
import ServerTelemetry.Text.Pieces
import ServerTelemetry.Text.Printable
import ServerTelemetry.Text.Quoted
import ServerTelemetry.Text.Sorted
import ServerTelemetry.Text.Utf8
import ServerTelemetry.Value.Basic
import ServerTelemetry.Value.Json
import ServerTelemetry.Wiring
import ServerTelemetry.Yaml.Content
import ServerTelemetry.Yaml.Gap
import ServerTelemetry.Yaml.Grammar
import ServerTelemetry.Yaml.Layout
import ServerTelemetry.Yaml.Node
import ServerTelemetry.Yaml.Property
import ServerTelemetry.Yaml.Scalar
import ServerTelemetry.Yaml.Source
import ServerTelemetry.Yaml.Token
import ServerTelemetry.Proofs.Collector.Completion
import ServerTelemetry.Proofs.Configuration.Contentless
import ServerTelemetry.Proofs.Configuration.Described
import ServerTelemetry.Proofs.Configuration.Layers
import ServerTelemetry.Proofs.Configuration.Overlay
import ServerTelemetry.Proofs.Configuration.Override
import ServerTelemetry.Proofs.Configuration.Refusal
import ServerTelemetry.Proofs.Configuration.RoundTrip
import ServerTelemetry.Proofs.Configuration.Setting
import ServerTelemetry.Proofs.Configuration.Stray
import ServerTelemetry.Proofs.Configuration.Written
import ServerTelemetry.Proofs.Document.Entries
import ServerTelemetry.Proofs.Document.Fault
import ServerTelemetry.Proofs.Document.Reading
import ServerTelemetry.Proofs.Document.Reorder
import ServerTelemetry.Proofs.Duration.RoundTrip
import ServerTelemetry.Proofs.Extractor.DefaultPort
import ServerTelemetry.Proofs.Extractor.Grouping
import ServerTelemetry.Proofs.Extractor.Headers
import ServerTelemetry.Proofs.Extractor.Host
import ServerTelemetry.Proofs.Extractor.Keys
import ServerTelemetry.Proofs.Extractor.Precedence
import ServerTelemetry.Proofs.Extractor.Readable
import ServerTelemetry.Proofs.Extractor.Route
import ServerTelemetry.Proofs.Extractor.Target
import ServerTelemetry.Proofs.Forwarded.Clean
import ServerTelemetry.Proofs.Forwarded.Client
import ServerTelemetry.Proofs.Forwarded.Node
import ServerTelemetry.Proofs.Forwarded.Parameters
import ServerTelemetry.Proofs.Forwarded.Quoted
import ServerTelemetry.Proofs.Http.AbsoluteUrl
import ServerTelemetry.Proofs.Http.Authority
import ServerTelemetry.Proofs.Http.Message
import ServerTelemetry.Proofs.Propagation.Order
import ServerTelemetry.Proofs.Route.Offer
import ServerTelemetry.Proofs.Route.Resolution
import ServerTelemetry.Proofs.Schema.Allows
import ServerTelemetry.Proofs.Schema.Sections
import ServerTelemetry.Proofs.Session.Confidential
import ServerTelemetry.Proofs.Session.Endings
import ServerTelemetry.Proofs.Session.Failure
import ServerTelemetry.Proofs.Session.Futures
import ServerTelemetry.Proofs.Session.InFlight
import ServerTelemetry.Proofs.Session.Isolation
import ServerTelemetry.Proofs.Session.Keys
import ServerTelemetry.Proofs.Session.Lifecycle
import ServerTelemetry.Proofs.Session.Nested
import ServerTelemetry.Proofs.Session.Private
import ServerTelemetry.Proofs.Session.Report
import ServerTelemetry.Proofs.Session.Simulation
import ServerTelemetry.Proofs.Session.Transparency
import ServerTelemetry.Proofs.Session.UnderWay
import ServerTelemetry.Proofs.Startup.AllOrNothing
import ServerTelemetry.Proofs.Startup.StandardLayer
import ServerTelemetry.Proofs.Text.Number
import ServerTelemetry.Proofs.Text.Padded
import ServerTelemetry.Proofs.Text.Pieces
import ServerTelemetry.Proofs.Wiring.Parts
import ServerTelemetry.Proofs.Wiring.Refusal
import ServerTelemetry.Proofs.Wiring.Resource
import ServerTelemetry.Proofs.Yaml.Opening
