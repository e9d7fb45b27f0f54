import Mathlib.Data.List.Dedup
import Pintle.Config.Load
import Pintle.Pipeline.Latest

/-!
# A whole process

Model of `run` of `cmd/pintle/main.go`: the pipeline, the main goroutine that opens the listeners
after the first configuration, and the TCP listeners that the applying goroutine starts after each
one. Each listener is a label with the address it binds. The listener topology is decided once, from
the first configuration.

`tcpRouter` is nil in static-only mode; a use of it there would be a panic, which ends the process
(`Step.panic`). Certificates are left out, and so is the order of the listeners' own goroutines.
-/

namespace Pintle
open Go Lib

/-- Where the main goroutine stands: before the first configuration, before each of the listeners,
while it starts the TCP listeners, or at the end of `run`. -/
inductive MainPhase where
  | starting
  | wired (initial : Configuration)
  | serving (initial : Configuration)
  | redirecting (initial : Configuration)
  | routing (initial : Configuration)
  | opening (ports : List Int)
  | ready
  | exited

/-- What the applying goroutine does after it has set the TCP routes: the certificates of the TCP
router, then its listeners. -/
inductive TcpWork where
  | idle
  | certs (merged : Configuration)
  | opening (ports : List Int)

/-- The pipeline, the two goroutines outside it, and the ports of the TCP router, if there is one. -/
structure Process (ρ : Type) where
  pipeline : Pipeline ρ
  main : MainPhase
  work : TcpWork
  tcpRouter : Option (List Int)

/-- The labels of a run. -/
inductive ProcessEvent where
  | pipeline (e : PipelineEvent)
  | refused (err : GoString)
  | https (hostname : GoString) (port : Int)
  | redirect (hostname : GoString) (port : Int)
  | failed
  | sni (port : Int) (passthrough : List PassthroughDomain)
  | plain
  | certs
  | tcp (port : Int)
  | kept (port : Int)
  | unavailable (port : Int)
  | opened
  | panicked
  | quit

namespace Settings

/-- Go `needsSNI`. -/
def needsSNI (c : Settings) (passthrough : List PassthroughDomain) : Bool :=
  !c.staticOnly && passthrough.length > 0

/-- Go `httpsHostname` and `httpsPort`. -/
def httpsAddress (c : Settings) (passthrough : List PassthroughDomain) : GoString × Int :=
  if c.needsSNI passthrough then (lit "127.0.0.1", 9444)
  else if c.staticOnly then (c.loopbackAddress, c.listenPort)
  else (lit "0.0.0.0", c.listenPort)

/-- The address of the redirect server, or nothing when Go `StartLoopbackHTTPRedirect` refuses. An
empty host name is every interface. -/
def redirectAddress (c : Settings) : Option (GoString × Int) :=
  if c.staticOnly then
    match parseIP c.loopbackAddress with
    | none => none
    | some ip => if isLoopback ip then some (c.loopbackAddress, c.httpPort) else none
  else some ([], c.httpPort)

end Settings

/-- The ports of a list of TCP routes, in the order the map of them is visited. -/
def tcpPorts (ord : RangeOrder Int) (routes : List TcpRoute) : List Int :=
  ord.visit (routes.map (·.listenPort)).dedup

/-- Go `StartPort` on a router with some ports: it is listening already, it opens the port, or it
fails. -/
inductive StartPort (port : Int) (ports : List Int) : ProcessEvent → List Int → Prop where
  | exists :
    port ∈ ports →
    StartPort port ports (.kept port) ports
  | listen :
    port ∉ ports →
    StartPort port ports (.tcp port) (port :: ports)
  | fail :
    port ∉ ports →
    StartPort port ports (.unavailable port) ports

/-- Whether a goroutine's next action uses the TCP router. -/
def Process.UsesTCP {ρ : Type} (c : Settings) (s : Process ρ) : Prop :=
  (∃ initial, s.main = .routing initial ∧ c.staticOnly = false) ∨
    (∃ port ports, s.main = .opening (port :: ports)) ∨ (∃ merged, s.work = .certs merged) ∨
    ∃ port ports, s.work = .opening (port :: ports)

namespace Process
variable {ρ : Type} [Regexp ρ]

/-- One step of the process. Nothing happens after the end of `run`. -/
inductive Step (c : Settings) : Process ρ → ProcessEvent → Process ρ → Prop where
  | pipeline {s e p} :
    s.main ≠ .exited →
    (∀ msg merged, e ≠ .booted msg merged) →
    e ≠ .published →
    (e = .taken ∨ e = .quit → s.work = .idle) →
    Pipeline.Step c.toConfig s.pipeline e p →
    Step c s (.pipeline e) { s with pipeline := p }
  | boot {s msg merged p} :
    s.main = .starting →
    Pipeline.Step c.toConfig s.pipeline (.booted msg merged) p →
    Step c s (.pipeline (.booted msg merged)) { s with pipeline := p, main := .wired merged }
  | publish {s merged p} :
    s.main ≠ .exited →
    s.pipeline.applier = .routed merged →
    Pipeline.Step c.toConfig s.pipeline .published p →
    Step c s (.pipeline .published) { s with pipeline := p, work := .certs merged }
  | refuse {s} (msg : Message) (rest : List Message) (err : GoString) :
    s.main = .starting →
    s.pipeline.configCh = msg :: rest →
    c.validateMessage msg = some err →
    Step c s (.refused err) { s with main := .exited }
  | https {s} (initial : Configuration) :
    s.main = .wired initial →
    Step c s (.https (c.httpsAddress initial.passthrough).1 (c.httpsAddress initial.passthrough).2)
      { s with main := .serving initial }
  | redirect {s} (initial : Configuration) (address : GoString × Int) :
    s.main = .serving initial →
    c.redirectAddress = some address →
    Step c s (.redirect address.1 address.2) { s with main := .redirecting initial }
  | fail {s} (initial : Configuration) :
    -- a listener cannot be opened
    s.main = .wired initial ∨ s.main = .serving initial →
    Step c s .failed { s with main := .exited }
  | sni {s} (initial : Configuration) :
    s.main = .redirecting initial →
    c.needsSNI initial.passthrough = true →
    Step c s (.sni c.listenPort initial.passthrough) { s with main := .routing initial }
  | plain {s} (initial : Configuration) :
    s.main = .redirecting initial →
    c.needsSNI initial.passthrough = false →
    Step c s .plain { s with main := .routing initial }
  | certs {s} (ord : RangeOrder Int) (initial : Configuration) (ports : List Int) :
    s.main = .routing initial →
    c.staticOnly = false →
    s.tcpRouter = some ports →
    Step c s .certs { s with main := .opening (tcpPorts ord initial.tcpRoutes) }
  | startPort {s port rest ports e ports'} :
    s.main = .opening (port :: rest) →
    s.tcpRouter = some ports →
    StartPort port ports e ports' →
    Step c s e { s with main := .opening rest, tcpRouter := some ports' }
  | opened {s} :
    s.main = .opening [] ∨ (∃ initial, s.main = .routing initial) ∧ c.staticOnly = true →
    Step c s .opened { s with main := .ready }
  | updateCerts {s} (ord : RangeOrder Int) (merged : Configuration) (ports : List Int) :
    s.main ≠ .exited →
    s.work = .certs merged →
    s.tcpRouter = some ports →
    Step c s .certs { s with work := .opening (tcpPorts ord merged.tcpRoutes) }
  | startNewPort {s port rest ports e ports'} :
    s.main ≠ .exited →
    s.work = .opening (port :: rest) →
    s.tcpRouter = some ports →
    StartPort port ports e ports' →
    Step c s e { s with work := .opening rest, tcpRouter := some ports' }
  | applied {s} :
    s.main ≠ .exited →
    s.work = .opening [] →
    Step c s .opened { s with work := .idle }
  | panic {s} :
    s.main ≠ .exited →
    s.UsesTCP c →
    s.tcpRouter = none →
    Step c s .panicked { s with main := .exited }
  | quit {s} :
    s.main = .ready →
    s.pipeline.done = true →
    Step c s .quit { s with main := .exited }

/-- The state before any message. -/
def initial (c : Settings) : Process ρ where
  pipeline := .initial
  main := .starting
  work := .idle
  tcpRouter := if c.staticOnly then none else some []

/-- The system of all interleavings. -/
def system (ρ : Type) [Regexp ρ] (c : Settings) : System (Process ρ) ProcessEvent where
  init s := s = initial c
  step := Step c

end Process

/-- The pipeline step of a process step. -/
def ProcessEvent.pipeline? : ProcessEvent → Option PipelineEvent
  | .pipeline e => some e
  | _ => none

/-- The pipeline steps of a history. -/
def pipelineSteps (h : List ProcessEvent) : List PipelineEvent := h.filterMap (·.pipeline?)

namespace Process
variable {ρ : Type} [Regexp ρ]

lemma StartPort.outside {port : Int} {ports ports' : List Int} {e : ProcessEvent}
    (st : StartPort port ports e ports') : e.pipeline? = none := by
  cases st <;> rfl

/-- Each step is a step of the pipeline or leaves it alone. -/
lemma step_pipeline {c : Settings} {s t : Process ρ} {e : ProcessEvent} (st : Step c s e t) :
    (Pipeline.system ρ c.toConfig).Moves s.pipeline e.pipeline? t.pipeline := by
  cases st with
  | pipeline _ _ _ _ st => exact st
  | boot _ st => exact st
  | publish _ _ st => exact st
  | startPort _ _ st =>
    rw [StartPort.outside st]
    exact rfl
  | startNewPort _ _ _ st =>
    rw [StartPort.outside st]
    exact rfl
  | _ => exact rfl

/-- The pipeline of a process runs as one of its own. -/
theorem run_pipeline {c : Settings} {h : List ProcessEvent} {s : Process ρ}
    (run : (system ρ c).Run h s) :
    (Pipeline.system ρ c.toConfig).Run (pipelineSteps h) s.pipeline := by
  refine run.simulate Process.pipeline ProcessEvent.pipeline? ?_ ?_
  · rintro _ rfl
    rfl
  · intro _ s e t _ st
    exact step_pipeline st

end Process
end Pintle
