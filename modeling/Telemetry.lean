import Telemetry.Component.Basic
import Telemetry.Histogram.Feed
import Telemetry.Registry.Service
import Telemetry.Registry.Shared
import Telemetry.Proofs.Table
import Telemetry.Proofs.Registry.Lookup
import Telemetry.Proofs.Registry.Run
import Telemetry.Proofs.Name.Text
import Telemetry.Proofs.Registry.Snapshot
import Telemetry.Component.Call
import Telemetry.Component.Site
import Telemetry.Component.Context
import Telemetry.Proofs.Name.Escape
import Telemetry.Proofs.Component.Schema
import Telemetry.Proofs.Component.Layout
import Telemetry.Proofs.Component.Kinds
import Telemetry.Proofs.Component.Recorder
import Telemetry.Proofs.Component.Close
import Telemetry.Proofs.Component.KindDiscipline
import Telemetry.Proofs.Component.Isolation
import Telemetry.Proofs.Metric.OneSecond
import Telemetry.Proofs.Metric.Throughput
import Telemetry.Proofs.Component.Asking
import Telemetry.Proofs.Component.Revival
import Telemetry.Proofs.Component.Client
import Telemetry.Proofs.Name.Grammar
import Telemetry.Proofs.Metric.Average
import Telemetry.Proofs.Metric.Meter
import Telemetry.Proofs.Metric.Reads
import Telemetry.Proofs.Name.Prefix
import Telemetry.Proofs.Registry.Service
import Telemetry.Proofs.Component.Exchanges
import Telemetry.Proofs.Component.Parts
import Telemetry.Proofs.Component.Presence
import Telemetry.Proofs.Component.Verticles
import Telemetry.Proofs.Config.Options
import Telemetry.Proofs.Component.Occupancy
import Telemetry.Proofs.Component.Messages
import Telemetry.Proofs.Component.RequestNames
import Telemetry.Proofs.Histogram.Delivery
import Telemetry.Proofs.Metric.Backlog
import Telemetry.Proofs.Registry.Looks
import Telemetry.Proofs.Component.Construction
import Telemetry.Proofs.Rule.Anchored
import Telemetry.Proofs.Name.Composition
import Telemetry.Proofs.Registry.Listing
import Telemetry.Proofs.Component.Rates
import Telemetry.Proofs.Component.Sockets
import Telemetry.Proofs.Registry.Sharing
import Telemetry.Proofs.Config.Rule
import Telemetry.Proofs.Config.Key
import Telemetry.Proofs.Quantile
