import Pintle.Lib.Published
import Pintle.Pipeline.Latest
import Pintle.Pipeline.Reload
import Pintle.Router.Serving

/-!
# Requests while the configuration changes

The pipeline, the probing and the requests share the router. A traffic state is a service together
with the `Resolve` calls in progress: the calls read the tables under the read lock, so a step that
changes what the lock protects waits until none is in progress.

To its clients the whole is a log of accepted messages whose beginnings are published
(`answers_refine`): each answer is what the reference search finds in the merge of the messages
before the mark. So the answers of a run never go back to an older configuration, whoever asks, and
once the pipeline is at rest every answer is from all accepted messages.
-/

namespace Pintle
open Go Lib

/-- A request and its answer. -/
structure Reply where
  hostname : GoString
  path : GoString
  res : Option ResolveResult
  deriving DecidableEq, Repr

/-- A reply is what the reference search finds in the merge of some messages. -/
def Reply.AnswersFrom (ρ : Type) [Regexp ρ] (msgs : List Message) (reply : Reply) : Prop :=
  ∃ ord, match reference ρ (merge ord (Configs.storeAll msgs)).routes reply.hostname reply.path with
    | none => reply.res = none
    | some best => ∃ res, reply.res = some res ∧
        Settles (merge ord (Configs.storeAll msgs)).routes best res

/-- A service, and the `Resolve` calls in progress. -/
structure Traffic (ρ : Type) where
  service : Service ρ
  calls : Nat → Option ResolveCall

/-- The labels of a run: a step of the service, a call that answers without a selection, and the two
parts of one that selects. -/
inductive TrafficEvent where
  | service (e : ServiceEvent)
  | answered (caller : Nat) (reply : Reply)
  | entered (caller : Nat)
  | selected (caller : Nat) (reply : Reply)

/-- The reply an event gives. -/
def TrafficEvent.reply? : TrafficEvent → Option Reply
  | .answered _ reply => some reply
  | .selected _ reply => some reply
  | _ => none

/-- What an event is to the pipeline. -/
def TrafficEvent.pipeline? : TrafficEvent → Option PipelineEvent
  | .service e => e.pipeline?
  | _ => none

/-- The steps of the pipeline in a history. -/
def TrafficEvent.pipelineSteps (h : List TrafficEvent) : List PipelineEvent :=
  h.filterMap (·.pipeline?)

/-- The replies given in a history, oldest first. -/
def TrafficEvent.replies (h : List TrafficEvent) : List Reply := (h.filterMap (·.reply?)).reverse

/-- What clients see of a pipeline step, newest first. -/
def PipelineEvent.observed (e : PipelineEvent) : List (PublishedEvent Message Reply) :=
  (e.applied?.map fun _ => .published).toList ++ (e.accepted?.map .appended).toList

/-- What clients see of a step, newest first. -/
def TrafficEvent.observed (e : TrafficEvent) : List (PublishedEvent Message Reply) :=
  (e.reply?.map .read).toList ++ (e.pipeline?.map (·.observed)).getD []

namespace Traffic
variable {ρ : Type} [Regexp ρ]

/-- One step of the service or of a request. -/
inductive Step (c : Config) : Traffic ρ → TrafficEvent → Traffic ρ → Prop where
  | service {s} (e : ServiceEvent) (t : Service ρ) :
    Service.Step c s.service e t →
    (∀ hostname path, e ≠ .health (.resolved hostname path)) →
    -- what changes the tables, the counters or the records takes the write lock
    (∀ caller, s.calls caller = none) ∨
      (s.service.router.SameTables t.router ∧ t.router.health = s.service.router.health) →
    Step c s (.service e) { s with service := t }
  | answer {s} (caller : Nat) (hostname path : GoString) (res : Option ResolveResult) :
    s.calls caller = none →
    s.service.router.locate hostname path = res.map .answer →
    Step c s (.answered caller { hostname, path, res }) s
  | enter {s} (caller : Nat) (hostname path : GoString) (res : ResolveResult) (members : List Route)
      (live : members ≠ []) :
    s.calls caller = none →
    s.service.router.locate hostname path = some (.select res members live) →
    Step c s (.entered caller)
      { s with
        calls := Function.update s.calls caller (some { hostname, path, res, members, live }) }
  | select {s} (caller : Nat) (call : ResolveCall) :
    s.calls caller = some call →
    Step c s
      (.selected caller {
        hostname := call.hostname
        path := call.path
        res := some (s.service.router.complete (.select call.res call.members call.live)).1 })
      { service := s.service.withHealth
          { s.service.health with
            router := (s.service.router.complete (.select call.res call.members call.live)).2 }
        calls := Function.update s.calls caller none }

/-- The state before any message and any call. -/
def initial : Traffic ρ where
  service := .initial
  calls _ := none

/-- The system of all interleavings. -/
def system (ρ : Type) [Regexp ρ] (c : Config) : System (Traffic ρ) TrafficEvent where
  init s := s = initial
  step := Step c

/-- The probing with the calls in progress. -/
def serving (s : Traffic ρ) : Serving ρ where
  probing := s.service.health
  calls := s.calls

end Traffic

/-- What an event is to the callers. -/
def TrafficEvent.serving? : TrafficEvent → Option ServingEvent
  | .service e => e.probing?.map .background
  | .answered caller reply => some (.answered caller reply.hostname reply.path)
  | .entered caller => some (.entered caller)
  | .selected caller reply =>
    reply.res.map fun res => .selected caller reply.hostname reply.path res.route

namespace Traffic
variable {ρ : Type} [Regexp ρ] {c : Config}

/-- One step, as the callers see it. -/
lemma step_serving {s t : Traffic ρ} {e : TrafficEvent} (st : Step c s e t) :
    (Serving.system ρ).Moves s.serving e.serving? t.serving := by
  cases st with
  | service e t st unresolved locked =>
    have moved := Service.step_probing st
    cases seen : e.probing? with
    | none =>
      rw [seen] at moved
      simp only [TrafficEvent.serving?, seen, Option.map_none, System.Moves, serving]
      rw [show t.health = s.service.health from moved]
    | some d =>
      rw [seen] at moved
      simp only [TrafficEvent.serving?, seen, Option.map_some, System.Moves]
      refine .background (s := s.serving) d t.health moved ?_ locked
      rintro hostname path rfl
      cases e with
      | health e =>
        cases seen
        exact unresolved hostname path rfl
      | pipeline e =>
        obtain ⟨merged, _, other⟩ := Option.map_eq_some_iff.mp seen
        cases other
  | answer caller hostname path res free located =>
    refine .answer (s := s.serving) caller hostname path free ?_
    cases res with
    | none => exact .inl located
    | some res => exact .inr ⟨res, located⟩
  | enter caller hostname path res members live free located =>
    exact .enter (s := s.serving) caller hostname path res members live free located
  | select caller call running => exact .select (s := s.serving) caller call running

/-- A run, as the callers see it. -/
lemma run_serving {h : List TrafficEvent} {s : Traffic ρ} (run : (system ρ c).Run h s) :
    (Serving.system ρ).Run (h.filterMap (·.serving?)) s.serving := by
  refine run.simulate serving TrafficEvent.serving? ?_ ?_
  · rintro _ rfl
    rfl
  · intro _ s e t _ st
    exact step_serving st

/-- One step, as the pipeline sees it: only its router may change otherwise. -/
lemma step_pipeline {s t : Traffic ρ} {e : TrafficEvent} (st : Step c s e t) :
    match e.pipeline? with
    | none => t.service.pipeline = { s.service.pipeline with router := t.service.pipeline.router }
    | some d => Pipeline.Step c s.service.pipeline d t.service.pipeline := by
  cases st with
  | service e t st _ _ =>
    cases st with
    | pipeline st => exact st
    | health _ _ => exact rfl
  | answer _ _ _ _ _ _ => exact rfl
  | enter _ _ _ _ _ _ _ _ => exact rfl
  | select _ _ _ => exact rfl

end Traffic

namespace Pipeline
variable {ρ : Type}

/-- The configurations on their way to the router, oldest first. -/
def inFlight (s : Pipeline ρ) : List Configuration :=
  s.applier.incoming ++ s.aggCh.toList ++ s.watcher.outgoing

variable [Regexp ρ] {c : Config} {s t : Pipeline ρ} {e : PipelineEvent}

/-- What a step can do to the configurations on their way: one enters, one is applied, an older one
is dropped, or they stay. -/
lemma step_inFlight (st : Step c s e t) :
    match e.accepted?, e.applied? with
    | none, none => t.inFlight = s.inFlight ∨ ∃ older old newer, newer ≠ [] ∧
        s.inFlight = older ++ old :: newer ∧ t.inFlight = older ++ newer
    | some msg, none => ∃ ord, t.inFlight = s.inFlight ++ [merge ord (s.configs.store msg)]
    | none, some merged => s.inFlight = merged :: t.inFlight
    | some msg, some merged => s.started = false ∧ t.inFlight = s.inFlight ∧
        ∃ ord, merged = merge ord (s.configs.store msg) := by
  cases st with
  | send msg _ => exact .inl rfl
  | boot ord visit msg rest unstarted _ _ => exact ⟨unstarted, rfl, ord, rfl⟩
  | receive msg rest _ idle _ => exact .inl (by simp [inFlight, idle, WatcherPhase.outgoing])
  | reject msg err validating _ =>
    exact .inl (by simp [inFlight, validating, WatcherPhase.outgoing])
  | accept ord msg validating _ =>
    exact ⟨ord, by simp [inFlight, validating, WatcherPhase.outgoing]⟩
  | offer merged offering empty =>
    exact .inl (by simp [inFlight, offering, empty, WatcherPhase.outgoing])
  | full merged old offering _ => exact .inl (by simp [inFlight, offering, WatcherPhase.outgoing])
  | drain merged old draining waiting =>
    refine .inr ⟨s.applier.incoming, old, [merged], List.cons_ne_nil _ _, ?_, ?_⟩
    · simp [inFlight, draining, waiting, WatcherPhase.outgoing]
    · simp [inFlight, WatcherPhase.outgoing]
  | miss merged draining _ => exact .inl (by simp [inFlight, draining, WatcherPhase.outgoing])
  | deliver merged sending empty =>
    exact .inl (by simp [inFlight, sending, empty, WatcherPhase.outgoing])
  | take merged _ idle waiting =>
    exact .inl (by simp [inFlight, idle, waiting, ApplierPhase.incoming])
  | apply visit merged received =>
    have gone : (if c.staticOnly then ApplierPhase.idle else .routed merged).incoming = [] := by
      split <;> rfl
    simp only [PipelineEvent.accepted?, PipelineEvent.applied?, inFlight, received, gone]
    rfl
  | publish merged routed => exact .inl (by simp [inFlight, routed, ApplierPhase.incoming])
  | «end» => exact .inl rfl
  | quitWatcher _ _ idle => exact .inl (by simp [inFlight, idle, WatcherPhase.outgoing])
  | quitApplier _ _ idle => exact .inl (by simp [inFlight, idle, ApplierPhase.incoming])

/-- The mark of the published log follows the router, and the configurations on their way are ahead
of it. -/
structure Follows (h : List PipelineEvent) (s : Pipeline ρ) (p : Published Message) : Prop where
  log : p.log = acceptedMessages h
  ahead : Ahead (MergedFrom p.log) p.seen p.log.length s.inFlight

/-- What clients see of a step moves the published log along. -/
lemma step_follows (Answer : List Message → Reply → Prop) {h : List PipelineEvent}
    {p : Published Message} (sound : Sound c h s) (follows : s.Follows h p) (st : Step c s e t) :
    ∃ p', (Published.system Answer).Path p e.observed p' ∧ t.Follows (e :: h) p' ∧
      match e.applied? with
      | none => p'.seen = p.seen ∧ ∃ msgs, p'.log = p.log ++ msgs
      | some merged => MergedFrom p'.log p'.seen merged := by
  have moved := step_inFlight st
  obtain ⟨log, ahead⟩ := follows
  have grown := acceptedMessages_cons e h
  cases accepted : e.accepted? with
  | none =>
    rw [accepted, Option.toList_none, List.append_nil, ← log] at grown
    cases applied : e.applied? with
    | none =>
      rw [accepted, applied] at moved
      have silent : e.observed = [] := by simp [PipelineEvent.observed, accepted, applied]
      refine ⟨p, silent ▸ .refl, ⟨grown.symm, ?_⟩, rfl, [], (List.append_nil _).symm⟩
      rcases moved with same | ⟨older, old, newer, some_left, before, after⟩
      · exact same ▸ ahead
      · rw [before] at ahead
        exact after ▸ ahead.drop some_left
    | some merged =>
      -- the mark moves on to the version of the configuration that is applied
      rw [accepted, applied] at moved
      have observed : e.observed = [.published] := by
        simp [PipelineEvent.observed, accepted, applied]
      rw [moved] at ahead
      obtain ⟨n, further, bound, from_, ahead'⟩ := ahead.take
      refine ⟨{ p with seen := n }, observed ▸ .next .refl (.publish n further bound), ?_, from_⟩
      exact ⟨grown.symm, ahead'⟩
  | some msg =>
    rw [accepted, Option.toList_some, ← log] at grown
    have stored : s.configs.store msg = Configs.storeAll (p.log ++ [msg]) := by
      rw [storeAll_append, sound.stored, log]
    have keep : ∀ k ≤ p.log.length, ∀ b, MergedFrom p.log k b →
        MergedFrom (p.log ++ [msg]) k b := fun k bound b from_ => mergedFrom_append bound from_
    have newest (ord : RangeOrder (GoString × Message)) :
        MergedFrom (p.log ++ [msg]) (p.log.length + 1) (merge ord (s.configs.store msg)) :=
      ⟨ord, by rw [List.take_of_length_le (by simp), stored]⟩
    cases applied : e.applied? with
    | none =>
      rw [accepted, applied] at moved
      have observed : e.observed = [.appended msg] := by
        simp [PipelineEvent.observed, accepted, applied]
      obtain ⟨ord, entered⟩ := moved
      refine ⟨{ p with log := p.log ++ [msg] }, observed ▸ .next .refl (.append msg), ?_, rfl, [msg],
        rfl⟩
      refine ⟨grown.symm, ?_⟩
      rw [entered, List.length_append]
      exact ahead.push keep (newest ord)
    | some merged =>
      -- startup accepts the first message and applies it
      rw [accepted, applied] at moved
      have observed : e.observed = [.published, .appended msg] := by
        simp [PipelineEvent.observed, accepted, applied]
      obtain ⟨unstarted, same, ord, rfl⟩ := moved
      obtain ⟨none_yet, empty, _⟩ := sound.before unstarted
      simp only [stages, List.append_assoc, List.append_eq_nil_iff] at empty
      have still : t.inFlight = [] := by
        rw [same]
        simp [inFlight, empty]
      rw [same.symm.trans still] at ahead
      have none_seen := ahead.settled
      have path := System.Path.next (M := Published.system Answer) (s := p) .refl (.append msg)
      have path := path.next (.publish (p.log.length + 1) (by simp [none_seen]) (by simp))
      refine ⟨_, observed ▸ path, ⟨grown.symm, ?_⟩, newest ord⟩
      simp only [List.length_append, List.length_singleton, still]
      exact .refl _ _

/-- The counters and records of the router do not matter. -/
lemma Sound.of_router {h : List PipelineEvent} (sound : Sound c h s) {r : Router ρ}
    (routes : r.routes = s.router.routes) (regexRoutes : r.regexRoutes = s.router.regexRoutes) :
    Sound c h { s with router := r } where
  stored := sound.stored
  ok := sound.ok
  before := sound.before
  stamped := sound.stamped
  cleared := sound.cleared
  tables last found := (sound.tables last found).of_tables routes regexRoutes
  tcp := sound.tcp
  static := sound.static

end Pipeline

namespace Router
variable {ρ : Type} [Regexp ρ]

lemma new_installed : (new : Router ρ).Installed [] where
  exact _ := rfl
  nonempty _ _ found := by cases found
  regex := .nil

end Router

namespace Traffic
variable {ρ : Type} [Regexp ρ] {c : Config}

/-- A step without a pipeline step leaves the tables alone. -/
lemma step_routing {s t : Traffic ρ} {e : TrafficEvent} (current : s.serving.Current)
    (st : Step c s e t) (own : e.pipeline? = none) :
    t.service.router.routes = s.service.router.routes ∧
      t.service.router.regexRoutes = s.service.router.regexRoutes := by
  cases st with
  | service e t st unresolved _ =>
    cases st with
    | pipeline _ => cases own
    | @health e t st fresh =>
      rcases HealthRun.step_tables st with ⟨_, routes, rfl, _⟩ | ⟨hostname, path, rfl, _⟩ | ⟨_, same⟩
      · exact absurd rfl (fresh routes)
      · exact absurd rfl (unresolved hostname path)
      · exact ⟨same.routes, same.regexRoutes⟩
  | answer _ _ _ _ _ _ => exact ⟨rfl, rfl⟩
  | enter _ _ _ _ _ _ _ _ => exact ⟨rfl, rfl⟩
  | select caller call running =>
    have selected := Serving.select_resolve current running
    have step := s.service.router.resolve_advanced call.hostname call.path
    rw [show s.service.router.resolve call.hostname call.path = _ from selected] at step
    have view := Router.SameView.advance step
    exact ⟨view.routes, view.regexRoutes⟩

/-- The pipeline of a traffic state is sound. -/
lemma run_sound {h : List TrafficEvent} {s : Traffic ρ} (run : (system ρ c).Run h s) :
    Pipeline.Sound c (TrafficEvent.pipelineSteps h) s.service.pipeline := by
  refine System.Run.invariant
    (fun h s => Pipeline.Sound c (TrafficEvent.pipelineSteps h) s.service.pipeline) ?_ ?_ run
  · rintro _ rfl
    exact Pipeline.initial_sound c
  · intro h s e t run sound st
    have moved := step_pipeline st
    cases step : e.pipeline? with
    | none =>
      rw [step] at moved
      obtain ⟨routes, regexRoutes⟩ := step_routing (Serving.run_current (run_serving run)) st step
      rw [TrafficEvent.pipelineSteps, List.filterMap_cons_none step, moved]
      exact sound.of_router routes regexRoutes
    | some d =>
      rw [step] at moved
      rw [TrafficEvent.pipelineSteps, List.filterMap_cons_some step]
      exact Pipeline.step_sound sound moved

/-- What relates a traffic state to the log its clients see. -/
structure Tracks (h : List TrafficEvent) (s : Traffic ρ) (p : Published Message) : Prop where
  follows : s.service.pipeline.Follows (TrafficEvent.pipelineSteps h) p
  installed : ∃ merged, MergedFrom p.log p.seen merged ∧ s.service.router.Installed merged.routes

/-- A call answers from the messages before the mark. -/
lemma Tracks.answersFrom {h : List TrafficEvent} {s : Traffic ρ} {p : Published Message}
    (tracks : s.Tracks h p) (hostname path : GoString) :
    Reply.AnswersFrom ρ (p.log.take p.seen)
      { hostname, path, res := (s.service.router.resolve hostname path).1 } := by
  obtain ⟨_, ⟨ord, rfl⟩, inst⟩ := tracks.installed
  exact ⟨ord, inst.resolve_settles hostname path⟩

/-- A reply is the answer of a `Resolve` call at that moment. -/
lemma step_reply {s t : Traffic ρ} {e : TrafficEvent} (current : s.serving.Current)
    (st : Step c s e t) {reply : Reply} (replied : e.reply? = some reply) :
    reply.res = (s.service.router.resolve reply.hostname reply.path).1 ∧ e.pipeline? = none := by
  cases st with
  | service _ _ _ _ _ => cases replied
  | answer caller hostname path res _ located =>
    cases replied
    rw [Router.resolve_locate, located]
    cases res <;> exact ⟨rfl, rfl⟩
  | enter _ _ _ _ _ _ _ _ => cases replied
  | select caller call running =>
    cases replied
    have selected := Serving.select_resolve current running
    rw [show s.service.router.resolve call.hostname call.path = _ from selected]
    exact ⟨rfl, rfl⟩

/-- Each step does to the log what clients see of it. -/
lemma step_tracks {h : List TrafficEvent} {s t : Traffic ρ} {e : TrafficEvent} {p : Published Message}
    (run : (system ρ c).Run h s) (tracks : s.Tracks h p) (st : Step c s e t) :
    ∃ p', (Published.system (Reply.AnswersFrom ρ)).Path p e.observed p' ∧ t.Tracks (e :: h) p' := by
  have current := Serving.run_current (run_serving run)
  have moved := step_pipeline st
  cases step : e.pipeline? with
  | none =>
    rw [step] at moved
    obtain ⟨routes, regexRoutes⟩ := step_routing current st step
    obtain ⟨merged, from_, inst⟩ := tracks.installed
    have same : TrafficEvent.pipelineSteps (e :: h) = TrafficEvent.pipelineSteps h :=
      List.filterMap_cons_none step
    refine ⟨p, ?_, ⟨?_, ?_⟩, merged, from_, inst.of_tables routes regexRoutes⟩
    · cases replied : e.reply? with
      | none =>
        have silent : e.observed = [] := by simp [TrafficEvent.observed, replied, step]
        exact silent ▸ .refl
      | some reply =>
        have observed : e.observed = [.read reply] := by simp [TrafficEvent.observed, replied, step]
        have answer := tracks.answersFrom reply.hostname reply.path
        rw [← (step_reply current st replied).1] at answer
        exact observed ▸ .next .refl (.read reply answer)
    · rw [same]
      exact tracks.follows.log
    · rw [moved]
      exact tracks.follows.ahead
  | some d =>
    rw [step] at moved
    have unreplied : e.reply? = none := by
      by_contra replied
      obtain ⟨reply, replied⟩ := Option.ne_none_iff_exists'.mp replied
      rw [(step_reply current st replied).2] at step
      cases step
    have observed : e.observed = d.observed := by simp [TrafficEvent.observed, unreplied, step]
    have same : TrafficEvent.pipelineSteps (e :: h) = d :: TrafficEvent.pipelineSteps h :=
      List.filterMap_cons_some step
    obtain ⟨p', path, follows, mark⟩ := Pipeline.step_follows (Reply.AnswersFrom ρ)
      (run_sound run) tracks.follows moved
    refine ⟨p', observed ▸ path, same ▸ follows, ?_⟩
    have router := Service.step_router moved
    cases applied : d.applied? with
    | none =>
      rw [applied] at mark router
      obtain ⟨seen, msgs, log⟩ := mark
      obtain ⟨merged, from_, inst⟩ := tracks.installed
      refine ⟨merged, ?_, ?_⟩
      on_goal 2 =>
        rw [Service.router, show t.service.pipeline.router = _ from router]
        exact inst
      obtain ⟨ord, rfl⟩ := from_
      refine ⟨ord, ?_⟩
      rw [log, seen, List.take_append_of_le_length tracks.follows.ahead.le]
    | some merged =>
      rw [applied] at mark router
      obtain ⟨visit, router⟩ := router
      refine ⟨merged, mark, ?_⟩
      rw [Service.router, router]
      exact Router.update_installed visit merged.routes _

/-- Every run is a run of the published log. -/
theorem answers_refine {h : List TrafficEvent} {s : Traffic ρ} (run : (system ρ c).Run h s) :
    ∃ p, (Published.system (Reply.AnswersFrom ρ)).Run (h.flatMap (·.observed)) p ∧ s.Tracks h p := by
  refine System.Run.forward Tracks (·.observed) ?_ ?_ run
  · rintro _ rfl
    refine ⟨_, rfl, ⟨rfl, .refl _ 0⟩, {}, ⟨.stored, rfl⟩, Router.new_installed⟩
  · intro h s e t p run tracks st
    exact step_tracks run tracks st

end Traffic

namespace TrafficEvent

lemma observed_read (e : TrafficEvent) : e.observed.filterMap (·.read?) = e.reply?.toList := by
  cases replied : e.reply? <;> cases step : e.pipeline? with
  | none => simp [observed, replied, step, PublishedEvent.read?]
  | some d =>
    cases accepted : d.accepted? <;> cases applied : d.applied? <;>
      simp [observed, PipelineEvent.observed, replied, step, accepted, applied,
        PublishedEvent.read?]

lemma observed_reads (h : List TrafficEvent) :
    Published.reads (h.flatMap (·.observed)) = replies h := by
  rw [Published.reads, List.filterMap_flatMap, replies, List.filterMap_eq_flatMap_toList]
  simp only [observed_read]

end TrafficEvent

namespace Traffic
variable {ρ : Type} [Regexp ρ] {c : Config}

/-- With the pipeline at rest the mark is at the end of the log. -/
lemma Tracks.at_rest {h : List TrafficEvent} {s : Traffic ρ} {p : Published Message}
    (tracks : s.Tracks h p) (empty : s.service.pipeline.aggCh = none)
    (outgoing : s.service.pipeline.watcher.outgoing = [])
    (incoming : s.service.pipeline.applier.incoming = []) : p.log.take p.seen = p.log := by
  have ahead := tracks.follows.ahead
  rw [Pipeline.inFlight, empty, outgoing, incoming] at ahead
  rw [← ahead.settled, List.take_length]

/-- Requests never see an older configuration again. Along every run of the pipeline, the probing and
any number of concurrent requests, the replies carry marks that never go back, and each reply is what
the reference search finds in the merge of the accepted messages before its mark. With no configuration
on its way, every `Resolve` call answers from all messages accepted so far. -/
theorem answers_follow {h : List TrafficEvent} {s : Traffic ρ} (run : (system ρ c).Run h s) :
    let accepted := acceptedMessages (TrafficEvent.pipelineSteps h)
    (∃ stamps : List (Nat × Reply), stamps.map (·.2) = TrafficEvent.replies h ∧
      (∀ stamp ∈ stamps, stamp.1 ≤ accepted.length ∧
        stamp.2.AnswersFrom ρ (accepted.take stamp.1)) ∧
      stamps.Pairwise fun earlier later => earlier.1 ≤ later.1) ∧
    (s.service.pipeline.aggCh = none → s.service.pipeline.watcher.outgoing = [] →
      s.service.pipeline.applier.incoming = [] → ∀ hostname path,
        Reply.AnswersFrom ρ accepted
          { hostname, path, res := (s.service.router.resolve hostname path).1 }) := by
  intro accepted
  obtain ⟨p, run', tracks⟩ := answers_refine run
  obtain ⟨_, bound, stamps, same, related, increasing⟩ := Published.run_ordered run'
  have log : p.log = accepted := tracks.follows.log
  rw [log] at bound related
  rw [TrafficEvent.observed_reads] at same
  refine ⟨⟨stamps, same, ?_, increasing⟩, ?_⟩
  · intro stamp member
    obtain ⟨before, answer⟩ := related stamp member
    exact ⟨before.trans bound, answer⟩
  · intro empty outgoing incoming hostname path
    have answer := tracks.answersFrom hostname path
    rw [tracks.at_rest empty outgoing incoming, log] at answer
    exact answer

/-- A request before the first message, and one after it. -/
theorem answers_follow_startup :
    ∃ h, ∃ s : Traffic Empty, (system Empty { staticOnly := false }).Run h s ∧
      (TrafficEvent.replies h).map (·.res.isSome) = [false, true] ∧
      ∃ stamps : List (Nat × Reply), stamps.map (·.2) = TrafficEvent.replies h ∧
        stamps.Pairwise fun earlier later => earlier.1 ≤ later.1 := by
  have run := System.Run.start (M := system Empty { staticOnly := false }) (s := initial) rfl
  have run := run.next (.answer 0 (lit "a") (lit "/") none rfl rfl)
  have run := run.next (.service (.pipeline (.sent Pipeline.oneRoute)) _
    (.pipeline (.send _ (by decide))) nofun (.inl fun _ => rfl))
  have run := run.next (.service (.pipeline (.booted Pipeline.oneRoute _)) _
    (.pipeline (.boot .stored .stored _ [] rfl rfl rfl)) nofun (.inl fun _ => rfl))
  have run := run.next (.answer 0 (lit "a") (lit "/")
    (some { target := lit "http://b", rewrittenPath := lit "/", route := _ }) rfl rfl)
  obtain ⟨stamps, same, _, increasing⟩ := (answers_follow run).1
  exact ⟨_, _, run, rfl, stamps, same, increasing⟩

end Traffic
end Pintle
