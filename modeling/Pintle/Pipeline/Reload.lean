import Pintle.Pipeline.Run
import Pintle.Router.Marks

/-!
# Reloads and readiness

The pipeline and the probing share the router: the goroutine that applies a merged configuration
calls `Update` while `RunHealth`, its workers and any number of requests go on. A service is a
pipeline together with what the probing keeps besides the router, and a step is a step of either
side. To the probing, the application of a configuration is an `Update` (`run_probing`), whichever
provider's message caused it: it invalidates every earlier probe result, also for a member whose
route did not change (`reload_unmarks`). That is the only way a message can take a ready member out
of its pool, and the member is due for a probe at once (`reload_readmits`).
-/

namespace Pintle
open Go Lib

/-- A pipeline, and what the probing keeps besides the router. -/
structure Service (ρ : Type) where
  pipeline : Pipeline ρ
  runners : Nat → Option Runner
  ended : Nat → Bool
  clock : Int
  nextProbe : Nat

/-- The labels of a run. -/
inductive ServiceEvent where
  | pipeline (e : PipelineEvent)
  | health (e : HealthEvent)

/-- What an event is to the probing. -/
def ServiceEvent.probing? : ServiceEvent → Option HealthEvent
  | .pipeline e => e.applied?.map fun merged => .updated merged.routes
  | .health e => some e

/-- What an event is to the pipeline. -/
def ServiceEvent.pipeline? : ServiceEvent → Option PipelineEvent
  | .pipeline e => some e
  | .health _ => none

/-- The events of a history that the probing sees. -/
def probings (h : List ServiceEvent) : List HealthEvent := h.filterMap (·.probing?)

/-- The events of a history that the pipeline takes. -/
def pipelineEvents (h : List ServiceEvent) : List PipelineEvent := h.filterMap (·.pipeline?)

namespace Service
variable {ρ : Type}

/-- The router. -/
def router (s : Service ρ) : Router ρ := s.pipeline.router

/-- The probing side. -/
def health (s : Service ρ) : HealthRun ρ where
  router := s.pipeline.router
  runners := s.runners
  ended := s.ended
  clock := s.clock
  nextProbe := s.nextProbe

/-- Replace the probing side. -/
def withHealth (s : Service ρ) (t : HealthRun ρ) : Service ρ where
  pipeline := { s.pipeline with router := t.router }
  runners := t.runners
  ended := t.ended
  clock := t.clock
  nextProbe := t.nextProbe

variable [Regexp ρ]

/-- One step of either side. `Update` is called by the pipeline alone. -/
inductive Step (c : Config) : Service ρ → ServiceEvent → Service ρ → Prop where
  | pipeline {s e p} :
    Pipeline.Step c s.pipeline e p →
    Step c s (.pipeline e) { s with pipeline := p }
  | health {s e t} :
    HealthRun.Step s.health e t →
    (∀ routes, e ≠ .updated routes) →
    Step c s (.health e) (s.withHealth t)

/-- The state before any message and any call. -/
def initial : Service ρ where
  pipeline := .initial
  runners _ := none
  ended _ := false
  clock := 0
  nextProbe := 0

/-- The system of all interleavings. -/
def system (ρ : Type) [Regexp ρ] (c : Config) : System (Service ρ) ServiceEvent where
  init s := s = initial
  step := Step c

/-- A pipeline step that applies nothing leaves the router alone. -/
lemma step_router {c : Config} {p p' : Pipeline ρ} {e : PipelineEvent} (st : Pipeline.Step c p e p') :
    match e.applied? with
    | none => p'.router = p.router
    | some merged => ∃ visit, p'.router = p.router.update visit merged.routes := by
  cases st with
  | boot ord visit msg rest _ _ _ => exact ⟨visit, rfl⟩
  | apply visit merged _ => exact ⟨visit, rfl⟩
  | _ => exact rfl

/-- One step, as the probing sees it. -/
lemma step_probing {c : Config} {s t : Service ρ} {e : ServiceEvent} (st : Step c s e t) :
    (HealthRun.system ρ).Moves s.health e.probing? t.health := by
  cases st with
  | health st _ => exact st
  | @pipeline e p st =>
    have moved := step_router st
    cases applied : e.applied? with
    | none =>
      rw [applied] at moved
      simp only [ServiceEvent.probing?, applied, Option.map_none, System.Moves, health, moved]
    | some merged =>
      rw [applied] at moved
      obtain ⟨visit, moved⟩ := moved
      simp only [ServiceEvent.probing?, applied, Option.map_some, System.Moves]
      have step := HealthRun.Step.update (s := s.health) visit merged.routes
      simp only [health, moved] at step ⊢
      exact step

/-- A run of the service, as the probing sees it. -/
theorem run_probing {c : Config} {h : List ServiceEvent} {s : Service ρ}
    (run : (system ρ c).Run h s) : (HealthRun.system ρ).Run (probings h) s.health := by
  refine run.simulate health ServiceEvent.probing? ?_ ?_
  · rintro _ rfl
    rfl
  · intro _ s e t _ st
    exact step_probing st

/-- Steps of the probing are steps of the service. -/
lemma path_health {c : Config} {s : Service ρ} {h : List HealthEvent} {t : HealthRun ρ}
    (path : (HealthRun.system ρ).Path s.health h t) (own : ∀ routes, .updated routes ∉ h) :
    (system ρ c).Path s (h.map .health) (s.withHealth t) := by
  induction path with
  | refl => exact .refl
  | @next h u e v _ st ih =>
    have earlier := ih fun routes member => own routes (List.mem_cons_of_mem e member)
    refine .next earlier (.health (s := s.withHealth u) st ?_)
    rintro routes rfl
    exact own routes List.mem_cons_self

end Service

namespace Router
variable {ρ : Type} [Regexp ρ]

/-- After an `Update` no checked route may be selected. -/
lemma update_ineligible (r : Router ρ) (ord : RangeOrder (GoString × List Route))
    (routes : List Route) {route : Route} (checked : route.health.isSome = true) :
    (r.update ord routes).eligible route = false := by
  obtain ⟨check, checked⟩ := Option.isSome_iff_exists.mp checked
  rw [eligible, checked]
  cases stored : (r.update ord routes).health.lookup (healthKey route) with
  | none => rfl
  | some state => exact (registerHealth_lookup stored).1

end Router

namespace Service
variable {ρ : Type} [Regexp ρ]

/-- A member that may be selected stays so until a probe of its key is recorded as failed, a merged
configuration is applied, whichever provider it comes from, or the checker stops. -/
lemma lost_eligible {c : Config} {h : List ServiceEvent} {s t : Service ρ} {e : ServiceEvent}
    (run : (system ρ c).Run h s) (st : Step c s e t) {member : Route}
    (checked : member.health.isSome = true) (before : s.router.eligible member = true)
    (after : t.router.eligible member = false) :
    (∃ probe probed status, e = .health (.recorded probe probed status false) ∧
      healthKey probed = healthKey member) ∨
    (∃ applied merged, e = .pipeline applied ∧ applied.applied? = some merged) ∨
    ∃ caller, e = .health (.returned caller) := by
  have moved := step_probing st
  cases seen : e.probing? with
  | none =>
    -- the probing sees no step, so the router is the same
    rw [seen] at moved
    have same : t.router = s.router := congrArg HealthRun.router moved
    rw [same, before] at after
    cases after
  | some d =>
    rw [seen] at moved
    have lost := HealthRun.lost_eligible (run_probing run) moved checked before after
    cases e with
    | health e =>
      cases seen
      rcases lost with ⟨probe, probed, status, rfl, same⟩ | ⟨routes, rfl⟩ | ⟨caller, rfl⟩
      · exact .inl ⟨probe, probed, status, rfl, same⟩
      · cases st with
        | health _ own => exact absurd rfl (own routes)
      · exact .inr (.inr ⟨caller, rfl⟩)
    | pipeline e =>
      obtain ⟨merged, applied, _⟩ := Option.map_eq_some_iff.mp seen
      exact .inr (.inl ⟨e, merged, rfl, applied⟩)

/-- An applied configuration gives each of its checked static members a record that is due. -/
lemma applied_due {c : Config} {h : List ServiceEvent} {s t : Service ρ} {e : PipelineEvent}
    {merged : Configuration} (run : (system ρ c).Run h s) (st : Step c s (.pipeline e) t)
    (applied : e.applied? = some merged) {member : Route}
    (listed : member ∈ staticMembers ρ merged.routes) :
    ∃ state, t.router.health.lookup (healthKey member) = some state ∧ state.healthy = false ∧
      state.checkedAt = none ∧ ∀ clock, state.due clock = true := by
  have run' := run_probing (System.Run.next (M := system ρ c) run st)
  have seen : probings (.pipeline e :: h) = .updated merged.routes :: probings h := by
    simp [probings, ServiceEvent.probing?, applied]
  rw [seen] at run'
  obtain ⟨state, stored⟩ := Option.isSome_iff_exists.mp
    ((HealthRun.run_reported run').known member listed)
  obtain ⟨unchecked, due⟩ := (HealthRun.run_timed run').records _ state stored
  rw [recordings_reset rfl, List.head?_nil] at unchecked
  rw [HealthState.scheduled, unchecked, Option.bind_none] at due
  refine ⟨state, stored, ?_, unchecked, ?_⟩
  · cases marked : state.healthy with
    | false => rfl
    | true =>
      have seen := ((HealthRun.run_reported run').marked _ state stored marked).2
      rw [unchecked] at seen
      cases seen
  · intro clock
    rw [HealthState.due, due]

/-- What a message of a provider does to a ready member. Along every run a checked member may be
selected exactly when the latest probe recorded under its key succeeded, counting from the last
merged configuration applied and the last start or stop of the checker. It leaves its pool only at a
probe of its key recorded as failed, at the application of a merged configuration of whichever
provider, or when the checker stops. A configuration that lists it gives it a fresh record, which is
due at once. -/
theorem reload_readmits {c : Config} {h : List ServiceEvent} {s : Service ρ}
    (run : (system ρ c).Run h s) {member : Route} (checked : member.health.isSome = true) :
    (s.router.eligible member = true ↔ LatestGood (probings h) (healthKey member)) ∧
    (∀ e t, Step c s e t → s.router.eligible member = true → t.router.eligible member = false →
      (∃ probe probed status, e = .health (.recorded probe probed status false) ∧
        healthKey probed = healthKey member) ∨
      (∃ applied merged, e = .pipeline applied ∧ applied.applied? = some merged) ∨
      ∃ caller, e = .health (.returned caller)) ∧
    (∀ e t merged, Step c s (.pipeline e) t → e.applied? = some merged →
      member ∈ staticMembers ρ merged.routes →
      t.router.eligible member = false ∧
      ∃ state, t.router.health.lookup (healthKey member) = some state ∧ state.healthy = false ∧
        state.checkedAt = none ∧ ∀ clock, state.due clock = true) := by
  refine ⟨HealthRun.eligible_iff (run_probing run) checked, ?_, ?_⟩
  · intro e t st before after
    exact lost_eligible run st checked before after
  · intro e t merged st applied listed
    refine ⟨?_, applied_due run st applied listed⟩
    cases st with
    | pipeline st =>
      have moved := step_router st
      rw [applied] at moved
      obtain ⟨visit, moved⟩ := moved
      rw [router, moved]
      exact Router.update_ineligible _ visit merged.routes checked

/-- The file provider's message with one checked replica. -/
def pooledFile : Message where
  providerName := lit "file"
  routes := [Router.pooled]

/-- A message of the Docker provider after a container started. -/
def containerStarted : Message where
  providerName := lit "docker"
  routes := [{ hostname := lit "c", path := lit "/", target := lit "http://c" }]

/-- A service whose replica was probed with success. -/
lemma ready_run (c : Config) (open_mode : c.staticOnly = false) : ∃ h, ∃ s : Service Empty,
    (system Empty c).Run h s ∧ s.router.eligible Router.pooled = true ∧
    s.router.healthRunning = true ∧ installedRoutes (probings h) = [Router.pooled] ∧
    s.pipeline.started = true ∧ s.pipeline.watcher = .idle ∧ s.pipeline.applier = .idle ∧
    s.pipeline.configCh = [] ∧ s.pipeline.aggCh = none ∧
    s.pipeline.configs = (∅ : Configs).store pooledFile := by
  have valid : c.validateMessage pooledFile = none := by
    simp [Config.validateMessage, open_mode, pooledFile]
  have run := System.Run.next (M := system Empty c) (.start rfl)
    (.pipeline (.send pooledFile (by decide)))
  have run := run.next (.pipeline (.boot .stored .stored pooledFile [] rfl rfl valid))
  have run := run.next (.health (.start .stored 0 0 rfl rfl) nofun)
  obtain ⟨s, s_run, router, waiting, ended, clock, pipeline⟩ : ∃ s : Service Empty,
      (system Empty c).Run _ s ∧ s.health.router = HealthRun.watched .stored [Router.pooled] ∧
      s.health.runners 0 = some { ctx := 0, phase := .waiting, workers := [] } ∧
      s.health.ended = (fun _ => false) ∧ s.health.clock = 0 ∧
      (s.pipeline.started = true ∧ s.pipeline.watcher = .idle ∧ s.pipeline.applier = .idle ∧
        s.pipeline.configCh = [] ∧ s.pipeline.aggCh = none ∧
        s.pipeline.configs = (∅ : Configs).store pooledFile) :=
    ⟨_, run, rfl, rfl, rfl, rfl, rfl, rfl, rfl, rfl, rfl, rfl⟩
  have current : s.health.router.healthContext = some { id := 1, parent := .process 0 } := by
    rw [router]
    rfl
  have live : HealthContext.err { id := 1, parent := .process 0 } s.health.router.cancelled
      s.health.ended = false := by
    rw [router, ended]
    rfl
  have due : dueJobs .stored s.health.clock s.health.router.health =
      [{ ptr := 1, route := Router.pooled }] := by
    rw [router, clock]
    rfl
  have stored : s.health.router.health.lookup (healthKey Router.pooled) =
      some { ptr := 1, route := Router.pooled } := by
    rw [router]
    rfl
  obtain ⟨t, path, recorded⟩ := HealthRun.probe_path waiting current live due stored
  refine ⟨_, _, s_run.append (path_health path (by simp)), ?_, ?_, rfl, pipeline⟩
  · show t.router.eligible Router.pooled = true
    rw [recorded, router, clock]
    decide
  · show t.router.healthRunning = true
    rw [recorded, router, clock]
    rfl

/-- A message of another provider takes a ready member out of its pool, although the merged
configuration lists its route unchanged and the checker goes on. -/
theorem reload_unmarks :
    ¬ ∀ (c : Config) (h : List ServiceEvent) (s t : Service Empty) (msg : Message)
      (merged : Configuration) (member : Route), (system Empty c).Run h s →
      member ∈ staticMembers Empty (installedRoutes (probings h)) →
      s.router.eligible member = true → s.router.healthRunning = true →
      (acceptedMessages (pipelineEvents h)).getLast? = some msg → msg.providerName ≠ lit "file" →
      Step c s (.pipeline (.applied merged)) t →
      member ∈ staticMembers Empty merged.routes → t.router.eligible member = true := by
  intro kept
  obtain ⟨h, s, run, ready, running, installed, started, idle, idle', empty, empty', configs⟩ :=
    ready_run { staticOnly := false } rfl
  have run := run.next (.pipeline (.send containerStarted (by rw [empty]; decide)))
  have run := run.next (.pipeline (.receive containerStarted [] started idle (by simp [empty])))
  have run := run.next (.pipeline (.accept .stored containerStarted rfl rfl))
  have run := run.next (.pipeline (.offer _ rfl empty'))
  have run := run.next (.pipeline (.take _ started idle' rfl))
  obtain ⟨k, u, merged, u_run, received, same, seen, last, listed⟩ : ∃ k, ∃ u : Service Empty, ∃ merged,
      (system Empty { staticOnly := false }).Run k u ∧ u.pipeline.applier = .received merged ∧
      u.router = s.router ∧ probings k = probings h ∧
      (acceptedMessages (pipelineEvents k)).getLast? = some containerStarted ∧
      Router.pooled ∈ staticMembers Empty merged.routes := by
    refine ⟨_, _, _, run, rfl, rfl, rfl, ?_, ?_⟩
    · simp [pipelineEvents, ServiceEvent.pipeline?, acceptedMessages, PipelineEvent.accepted?]
    · rw [configs]
      decide
  have member : Router.pooled ∈ staticMembers Empty (installedRoutes (probings k)) := by
    rw [seen, installed]
    decide
  have eligible := kept _ k u _ containerStarted merged Router.pooled u_run member (same ▸ ready)
    (same ▸ running) last (by decide) (.pipeline (.apply .stored merged received)) listed
  have ineligible : (u.router.update .stored merged.routes).eligible Router.pooled = false :=
    u.router.update_ineligible .stored merged.routes rfl
  have clash : false = true := ineligible.symm.trans eligible
  cases clash

theorem reload_readmits_replica :
    ∃ h, ∃ s : Service Empty, (system Empty { staticOnly := false }).Run h s ∧
      s.router.eligible Router.pooled = true ∧ LatestGood (probings h) (healthKey Router.pooled) := by
  obtain ⟨h, s, run, ready, _⟩ := ready_run { staticOnly := false } rfl
  exact ⟨h, s, run, ready, (reload_readmits run rfl).1.mp ready⟩

end Service
end Pintle
