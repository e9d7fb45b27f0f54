import Pintle.Aggregator.Merge
import Pintle.Config
import Pintle.Lib.Transition
import Pintle.Router.Groups

/-!
# The configuration pipeline as a transition system

Model of the pipeline of `cmd/pintle/main.go` and of `Update` of
`internal/aggregator/aggregator.go`: the providers send messages on `configCh`, one goroutine
validates and aggregates them, another applies what comes out of the aggregator's channel of one
slot. The sends, the receives and the two selects of `Aggregator.Update` are steps of their own, as
the scheduler may run the other goroutine between them. What only the sending goroutine sees, the
stored message and the merge, goes with the validation before it.

Startup runs in one goroutine before the others exist and is one step (`Step.boot`); a first message
that is rejected ends the process there. Certificates, TCP listeners and log lines are left out.
-/

namespace Pintle
open Go Lib

/-- Where the goroutine that receives from `configCh` stands: in its `select`, before validation, or
at the first select, the second select or the last send of `Aggregator.Update`. -/
inductive WatcherPhase where
  | idle
  | validating (msg : Message)
  | offering (merged : Configuration)
  | draining (merged : Configuration)
  | sending (merged : Configuration)
  | stopped

/-- Where the goroutine that receives from the aggregator stands: in its `select`, before
`Router.Update`, or before it sets the TCP routes. -/
inductive ApplierPhase where
  | idle
  | received (merged : Configuration)
  | routed (merged : Configuration)
  | stopped

/-- The pipeline: whether startup is over and the process context done, the two channels, the
aggregator's messages, the two goroutines, the router and the TCP routes. -/
structure Pipeline (ρ : Type) where
  started : Bool
  done : Bool
  configCh : List Message
  configs : Configs
  watcher : WatcherPhase
  aggCh : Option Configuration
  applier : ApplierPhase
  router : Router ρ
  allTcpRoutes : List TcpRoute

/-- The labels of a run. -/
inductive PipelineEvent where
  | sent (msg : Message)
  | booted (msg : Message) (merged : Configuration)
  | received (msg : Message)
  | rejected (msg : Message) (err : GoString)
  | accepted (msg : Message)
  | offered
  | full
  | drained
  | missed
  | delivered
  | taken
  | applied (merged : Configuration)
  | published
  | ended
  | quit

namespace Pipeline
variable {ρ : Type} [Regexp ρ]

/-- One step of the providers, the goroutines or the process context. -/
inductive Step (c : Config) : Pipeline ρ → PipelineEvent → Pipeline ρ → Prop where
  | send {s} (msg : Message) :
    s.configCh.length < 4 →
    Step c s (.sent msg) { s with configCh := s.configCh ++ [msg] }
  | boot {s} (ord : RangeOrder (GoString × Message)) (visit : RangeOrder (GoString × List Route))
      (msg : Message) (rest : List Message) :
    s.started = false →
    s.configCh = msg :: rest →
    c.validateMessage msg = none →
    Step c s (.booted msg (merge ord (s.configs.store msg)))
      { s with
        started := true
        configCh := rest
        configs := s.configs.store msg
        router := s.router.update visit (merge ord (s.configs.store msg)).routes
        allTcpRoutes := (merge ord (s.configs.store msg)).tcpRoutes }
  | receive {s} (msg : Message) (rest : List Message) :
    s.started = true →
    s.watcher = .idle →
    s.configCh = msg :: rest →
    Step c s (.received msg) { s with watcher := .validating msg, configCh := rest }
  | reject {s} (msg : Message) (err : GoString) :
    s.watcher = .validating msg →
    c.validateMessage msg = some err →
    Step c s (.rejected msg err) { s with watcher := .idle }
  | accept {s} (ord : RangeOrder (GoString × Message)) (msg : Message) :
    s.watcher = .validating msg →
    c.validateMessage msg = none →
    Step c s (.accepted msg)
      { s with
        configs := s.configs.store msg
        watcher := .offering (merge ord (s.configs.store msg)) }
  | offer {s} (merged : Configuration) :
    s.watcher = .offering merged →
    s.aggCh = none →
    Step c s .offered { s with watcher := .idle, aggCh := some merged }
  | full {s} (merged old : Configuration) :
    s.watcher = .offering merged →
    s.aggCh = some old →
    Step c s .full { s with watcher := .draining merged }
  | drain {s} (merged old : Configuration) :
    s.watcher = .draining merged →
    s.aggCh = some old →
    Step c s .drained { s with watcher := .sending merged, aggCh := none }
  | miss {s} (merged : Configuration) :
    -- the consumer took the old value first
    s.watcher = .draining merged →
    s.aggCh = none →
    Step c s .missed { s with watcher := .sending merged }
  | deliver {s} (merged : Configuration) :
    s.watcher = .sending merged →
    s.aggCh = none →
    Step c s .delivered { s with watcher := .idle, aggCh := some merged }
  | take {s} (merged : Configuration) :
    s.started = true →
    s.applier = .idle →
    s.aggCh = some merged →
    Step c s .taken { s with applier := .received merged, aggCh := none }
  | apply {s} (visit : RangeOrder (GoString × List Route)) (merged : Configuration) :
    s.applier = .received merged →
    Step c s (.applied merged)
      { s with
        router := s.router.update visit merged.routes
        applier := if c.staticOnly then .idle else .routed merged }
  | publish {s} (merged : Configuration) :
    s.applier = .routed merged →
    Step c s .published { s with allTcpRoutes := merged.tcpRoutes, applier := .idle }
  | end {s} :
    Step c s .ended { s with done := true }
  | quitWatcher {s} :
    s.started = true →
    s.done = true →
    s.watcher = .idle →
    Step c s .quit { s with watcher := .stopped }
  | quitApplier {s} :
    s.started = true →
    s.done = true →
    s.applier = .idle →
    Step c s .quit { s with applier := .stopped }

/-- The state before any message. -/
def initial : Pipeline ρ where
  started := false
  done := false
  configCh := []
  configs := ∅
  watcher := .idle
  aggCh := none
  applier := .idle
  router := .new
  allTcpRoutes := []

/-- The system of all interleavings. -/
def system (ρ : Type) [Regexp ρ] (c : Config) : System (Pipeline ρ) PipelineEvent where
  init s := s = initial
  step := Step c

end Pipeline

/-- The message an event accepts. -/
def PipelineEvent.accepted? : PipelineEvent → Option Message
  | .booted msg _ => some msg
  | .accepted msg => some msg
  | _ => none

/-- The configuration an event applies. -/
def PipelineEvent.applied? : PipelineEvent → Option Configuration
  | .booted _ merged => some merged
  | .applied merged => some merged
  | _ => none

/-- The messages accepted in a history, oldest first. -/
def acceptedMessages (h : List PipelineEvent) : List Message := (h.filterMap (·.accepted?)).reverse

/-- The configurations applied to the router in a history, oldest first. -/
def appliedConfigs (h : List PipelineEvent) : List Configuration :=
  (h.filterMap (·.applied?)).reverse

/-- The aggregator's messages after a sequence of accepted ones. -/
def Configs.storeAll (msgs : List Message) : Configs := msgs.foldl Configs.store ∅

end Pintle
