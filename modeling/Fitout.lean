import Fitout.Address
import Fitout.Address.Host
import Fitout.Breaker.Basic
import Fitout.Breaker.Ledger
import Fitout.Bytes
import Fitout.Cache
import Fitout.Cart.Basic
import Fitout.Cart.Merge
import Fitout.Cart.Quantity
import Fitout.Catalog.Basic
import Fitout.Catalog.Intake
import Fitout.Catalog.Listing
import Fitout.Catalog.Reader
import Fitout.Catalog.Record
import Fitout.Catalog.Refresh
import Fitout.Catalog.Snapshot
import Fitout.Catalog.Store
import Fitout.Category.Assembly
import Fitout.Category.Basic
import Fitout.Category.Depth
import Fitout.Category.Survey
import Fitout.Category.Tree
import Fitout.Decimal.Binary
import Fitout.Decimal.Exact
import Fitout.Decimal.Fixed
import Fitout.Decimal.Reader
import Fitout.Decimal.Shortest
import Fitout.Decimal.Text
import Fitout.Decimal.Whole
import Fitout.DomainError
import Fitout.Http.Action
import Fitout.Http.Message
import Fitout.Http.Route
import Fitout.Http.Target
import Fitout.Journal.Entry
import Fitout.Journal.Event
import Fitout.Journal.Metric
import Fitout.Journal.Report
import Fitout.Json.Basic
import Fitout.Json.Body
import Fitout.Json.Reader
import Fitout.Json.Writer
import Fitout.Log.Level
import Fitout.Log.Line
import Fitout.Log.Message
import Fitout.Log.Record
import Fitout.Log.Template
import Fitout.Log.Value
import Fitout.Main
import Fitout.MessagePack.Basic
import Fitout.MessagePack.Decode
import Fitout.MessagePack.Encode
import Fitout.Number
import Fitout.Pricing.Breakdown
import Fitout.Pricing.Coefficient
import Fitout.Proofs.Breaker.Fields
import Fitout.Proofs.Breaker.History
import Fitout.Proofs.Breaker.Periods
import Fitout.Proofs.Breaker.Recovery
import Fitout.Proofs.Breaker.Run
import Fitout.Proofs.Breaker.Serial
import Fitout.Proofs.Breaker.Window
import Fitout.Proofs.Cache.Operation
import Fitout.Proofs.Cache.Standing
import Fitout.Proofs.Cart.Coercion
import Fitout.Proofs.Cart.History
import Fitout.Proofs.Cart.Lines
import Fitout.Proofs.Cart.Merge
import Fitout.Proofs.Cart.Quantified
import Fitout.Proofs.Catalog.Intake
import Fitout.Proofs.Catalog.LastEntries
import Fitout.Proofs.Catalog.Newest
import Fitout.Proofs.Catalog.PresetItems
import Fitout.Proofs.Catalog.ReadBack
import Fitout.Proofs.Catalog.Views
import Fitout.Proofs.Category.Build
import Fitout.Proofs.Category.Chain
import Fitout.Proofs.Category.Loops
import Fitout.Proofs.Category.Placement
import Fitout.Proofs.Category.Search
import Fitout.Proofs.Category.Walks
import Fitout.Proofs.Decimal.Double
import Fitout.Proofs.Fallible
import Fitout.Proofs.Journal.Total
import Fitout.Proofs.Json.Members
import Fitout.Proofs.Json.Shape
import Fitout.Proofs.Log.Line
import Fitout.Proofs.Log.Plain
import Fitout.Proofs.MessagePack.Foreign
import Fitout.Proofs.MessagePack.Head
import Fitout.Proofs.MessagePack.Packing
import Fitout.Proofs.MessagePack.RoundTrip
import Fitout.Proofs.Pricing.Breakdown
import Fitout.Proofs.Pricing.Lines
import Fitout.Proofs.Remote.Refusal
import Fitout.Proofs.Remote.Traffic
import Fitout.Proofs.Session.Calls
import Fitout.Proofs.Session.Command
import Fitout.Proofs.Session.Deletion
import Fitout.Proofs.Session.Drilldown
import Fitout.Proofs.Session.Gauge
import Fitout.Proofs.Session.Isolation
import Fitout.Proofs.Session.Lifetime
import Fitout.Proofs.Session.Listing
import Fitout.Proofs.Session.Lookup
import Fitout.Proofs.Session.Offer
import Fitout.Proofs.Session.Path
import Fitout.Proofs.Session.Refusal
import Fitout.Proofs.Session.Run
import Fitout.Proofs.Session.Total
import Fitout.Proofs.Session.Work
import Fitout.Proofs.Source.Coefficients
import Fitout.Proofs.Source.Course
import Fitout.Proofs.Source.Fallback
import Fitout.Proofs.Source.ForcedRefresh
import Fitout.Proofs.Source.Frame
import Fitout.Proofs.Source.Freshness
import Fitout.Proofs.Source.Overlap
import Fitout.Proofs.Source.Probing
import Fitout.Proofs.Source.Refill
import Fitout.Proofs.Source.Reload
import Fitout.Proofs.Source.Turns
import Fitout.Proofs.Text.Codes
import Fitout.Proofs.Text.Tidy
import Fitout.Record
import Fitout.Remote.Client
import Fitout.Remote.Exchange
import Fitout.Remote.Operation
import Fitout.Remote.Query
import Fitout.Remote.Script
import Fitout.Schema.Reading
import Fitout.Schema.Scalar
import Fitout.Selection
import Fitout.Service.Answer
import Fitout.Service.Application
import Fitout.Service.Site
import Fitout.Session.Configurator
import Fitout.Session.Plan
import Fitout.Session.Record
import Fitout.Session.Work
import Fitout.Settings
import Fitout.Source.Fetch
import Fitout.Source.Gather
import Fitout.Source.Load
import Fitout.Source.Overlap
import Fitout.Text.Blank
import Fitout.Text.Code
import Fitout.Text.Cut
import Fitout.Text.Digit
import Fitout.Text.Encoding
import Fitout.Text.Fold
import Fitout.Text.Fold.Table
import Fitout.Text.Percent
import Fitout.Text.Printable
import Fitout.Text.Printable.Table
import Fitout.Text.Utf8
