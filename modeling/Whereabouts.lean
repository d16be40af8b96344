import Whereabouts.Admin.Boundary
import Whereabouts.Admin.Hierarchy
import Whereabouts.Admin.Level
import Whereabouts.Config
import Whereabouts.Decimal.Binary
import Whereabouts.Decimal.Fixed
import Whereabouts.Decimal.Reading
import Whereabouts.Decimal.Shortest
import Whereabouts.Enrich.Batch
import Whereabouts.Event
import Whereabouts.GeoJson.Basic
import Whereabouts.GeoJson.File
import Whereabouts.GeoJson.Layers
import Whereabouts.Geometry.Binary64
import Whereabouts.Geometry.Ellipsoid.Angle
import Whereabouts.Geometry.Ellipsoid.Area
import Whereabouts.Geometry.Ellipsoid.Geodesic
import Whereabouts.Geometry.Ellipsoid.Series
import Whereabouts.Geometry.Point
import Whereabouts.Geometry.Shape
import Whereabouts.Gzip.Huffman
import Whereabouts.Gzip.Inflate
import Whereabouts.Gzip.Member
import Whereabouts.Http.Exchange
import Whereabouts.Http.Message
import Whereabouts.Http.Query
import Whereabouts.Json.Basic
import Whereabouts.Json.Decode
import Whereabouts.Json.Numeral
import Whereabouts.Json.Printer
import Whereabouts.Json.Reader
import Whereabouts.Json.Source
import Whereabouts.Json.Token
import Whereabouts.Main
import Whereabouts.Names
import Whereabouts.Pipeline
import Whereabouts.Program.Arguments
import Whereabouts.Program.Failure
import Whereabouts.Program.Server
import Whereabouts.Program.Worker
import Whereabouts.Proofs.Admin.Display
import Whereabouts.Proofs.Admin.Resolution
import Whereabouts.Proofs.Admin.Single
import Whereabouts.Proofs.Enrich.Alignment
import Whereabouts.Proofs.Enrich.Batching
import Whereabouts.Proofs.Enrich.Each
import Whereabouts.Proofs.Enrich.FrontEnds
import Whereabouts.Proofs.Enrich.Inquiries
import Whereabouts.Proofs.Enrich.Isolation
import Whereabouts.Proofs.Enrich.Legs
import Whereabouts.Proofs.Enrich.Walking
import Whereabouts.Proofs.GeoJson.Boundaries
import Whereabouts.Proofs.GeoJson.NameTags
import Whereabouts.Proofs.GeoJson.NumberTags
import Whereabouts.Proofs.GeoJson.Tags
import Whereabouts.Proofs.Geometry.Antimeridian
import Whereabouts.Proofs.Geometry.Doubles
import Whereabouts.Proofs.Geometry.Extended
import Whereabouts.Proofs.Geometry.Reals
import Whereabouts.Proofs.Geometry.Rectangles
import Whereabouts.Proofs.Geometry.Sphere
import Whereabouts.Proofs.Geometry.Tracks
import Whereabouts.Proofs.Lists
import Whereabouts.Proofs.Store.Conjunction
import Whereabouts.Proofs.Store.Index
import Whereabouts.Proofs.Store.Radius
import Whereabouts.Proofs.Store.Selection
import Whereabouts.Proofs.Stream.Accounts
import Whereabouts.Proofs.Stream.Backoff
import Whereabouts.Proofs.Stream.Chronology
import Whereabouts.Proofs.Stream.Delivery
import Whereabouts.Proofs.Stream.ExactlyOnce
import Whereabouts.Proofs.Stream.Exchange
import Whereabouts.Proofs.Stream.Fleet
import Whereabouts.Proofs.Stream.Group
import Whereabouts.Proofs.Stream.History
import Whereabouts.Proofs.Stream.Independence
import Whereabouts.Proofs.Stream.Iteration
import Whereabouts.Proofs.Stream.Ledger
import Whereabouts.Proofs.Stream.Naming
import Whereabouts.Proofs.Stream.NoLoss
import Whereabouts.Proofs.Stream.Tally
import Whereabouts.Proofs.Stream.Unfailing
import Whereabouts.Proofs.Stream.View
import Whereabouts.Proofs.Text.Keys
import Whereabouts.Proofs.Transit.LineSearch
import Whereabouts.Proofs.Transit.LoadOrder
import Whereabouts.Proofs.Transit.Namesakes
import Whereabouts.Proofs.Transit.Ranking
import Whereabouts.Proofs.Transit.Routes
import Whereabouts.Proofs.Transit.Stations
import Whereabouts.Proofs.Transit.Ways
import Whereabouts.Proofs.Walking.Address
import Whereabouts.Proofs.Walking.Answer
import Whereabouts.Proofs.Walking.Cells
import Whereabouts.Proofs.Walking.Partition
import Whereabouts.Proofs.Walking.Stitching
import Whereabouts.Proofs.Walking.Tiling
import Whereabouts.Query.Envelope
import Whereabouts.Query.Plan
import Whereabouts.Query.Predicate
import Whereabouts.Record.Event
import Whereabouts.Record.Outbound
import Whereabouts.Record.Place
import Whereabouts.Record.Transit
import Whereabouts.Scalar
import Whereabouts.Service
import Whereabouts.Store.Error
import Whereabouts.Store.Execute
import Whereabouts.Store.Gateway
import Whereabouts.Store.Index
import Whereabouts.Store.Packing
import Whereabouts.Stream.Broker
import Whereabouts.Stream.Local
import Whereabouts.Stream.Message
import Whereabouts.Stream.Pacing
import Whereabouts.Stream.Shutdown
import Whereabouts.Stream.Worker
import Whereabouts.Text.Basic
import Whereabouts.Text.CaseMap
import Whereabouts.Text.Key
import Whereabouts.Text.Utf8
import Whereabouts.Toml.Basic
import Whereabouts.Toml.Decode
import Whereabouts.Toml.Reader
import Whereabouts.Toml.Scalar
import Whereabouts.Toml.Table
import Whereabouts.Toml.Text
import Whereabouts.Transit.Dedup
import Whereabouts.Transit.Matcher
import Whereabouts.Transit.Mode
import Whereabouts.Transit.Stop
import Whereabouts.Url.Basic
import Whereabouts.Url.Host
import Whereabouts.Url.Percent
import Whereabouts.Url.Reading
import Whereabouts.Walking.Matrix
import Whereabouts.Walking.Table
