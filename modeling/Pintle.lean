import Pintle.Go.Values
import Pintle.Go.Ranges
import Pintle.Go.Buffers
import Pintle.Go.Strings
import Pintle.Go.Escape
import Pintle.Go.Url
import Pintle.Go.Net
import Pintle.Go.NetUrl
import Pintle.Go.Reader
import Pintle.Lib.StableSort
import Pintle.Lib.Transition
import Pintle.Lib.Progress
import Pintle.Lib.Stamped
import Pintle.Lib.Published
import Pintle.Lib.Turns
import Pintle.Lib.Labels
import Pintle.Lib.Tally
import Pintle.Lib.Source
import Pintle.Lib.OrderedMap
import Pintle.Lib.Comparator
import Pintle.Provider
import Pintle.Config
import Pintle.Config.Load
import Pintle.Router.Sweeps
import Pintle.Router.Table
import Pintle.Router.Resolve
import Pintle.Router.Groups
import Pintle.Router.Registry
import Pintle.Router.Reference
import Pintle.Router.Probing
import Pintle.Router.Fence
import Pintle.Router.Fenced
import Pintle.Router.Refusal
import Pintle.Router.Serving
import Pintle.Router.Rotation
import Pintle.Router.Reloads
import Pintle.Router.Runners
import Pintle.Router.Schedule
import Pintle.Router.Snapshot
import Pintle.Router.Marks
import Pintle.Router.Paths
import Pintle.Proxy.Forward
import Pintle.Proxy.Headers
import Pintle.Server.Sni
import Pintle.Server.ClientHello
import Pintle.Server.Nesting
import Pintle.Server.Handle
import Pintle.Server.Prefixed
import Pintle.Server.Passthrough
import Pintle.Server.Pipe
import Pintle.Tls.Manager
import Pintle.Tls.Reading
import Pintle.Tls.Renewal
import Pintle.Tls.Selection
import Pintle.Tls.Termination
import Pintle.Aggregator.Merge
import Pintle.Aggregator.Passthrough
import Pintle.Aggregator.Order
import Pintle.Pipeline.Run
import Pintle.Pipeline.Latest
import Pintle.Pipeline.Reload
import Pintle.Pipeline.Progress
import Pintle.Pipeline.Skew
import Pintle.Pipeline.Traffic
import Pintle.Docker.Labels
import Pintle.Docker.Discover
import Pintle.Docker.Traefik
import Pintle.Docker.Watch
import Pintle.Docker.Events
import Pintle.Docker.Overlap
import Pintle.Docker.Failure
import Pintle.Docker.Dialects
import Pintle.Docker.Iteration
import Pintle.File.Load
import Pintle.File.Watch
import Pintle.File.Reload
import Pintle.File.Pools
import Pintle.File.Accepted
import Pintle.File.Endpoints
import Pintle.File.Replicas
import Pintle.Host.Gateway
import Pintle.Stats.Collector
import Pintle.Proxy.Recorded
import Pintle.Server.Redirect
import Pintle.Server.Location
import Pintle.Ui.Strings
import Pintle.Ui.Grouping
import Pintle.Ui.Polling
import Pintle.Ui.Readiness
import Pintle.Main.Run
import Pintle.Main.StaticOnly
import Pintle.Main.Topology
import Pintle.Main.Hosts
import Pintle.Main.Listeners
import Pintle.Main.Deployment
import Pintle.Main.Dashboard
import Pintle.Main.Doctor
import Pintle.Main.Ingress
import Pintle.Main.Hostnames
import Pintle.Router.Changes
import Pintle.Ui.Aggregate
import Pintle.Ui.FlowLayout
import Pintle.Ui.Diagram
import Pintle.Ui.Activity
import Pintle.Go.Flag
import Pintle.Go.Header
import Pintle.Config.Restart
