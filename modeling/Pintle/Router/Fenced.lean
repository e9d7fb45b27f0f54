import Pintle.Router.Fence

/-!
# Health fencing

The invariant of the probing system: `Fenced` says that every healthy record is backed by the most
recent probe recorded for its key since the last fence. Three facts carry it: a fence leaves no
healthy record, the context of a new generation is fresh, and whatever a runner holds for the
current, uncancelled generation (`Runner.Tracked`) it came to hold after the last fence. Most steps
touch neither the records nor the generation (`Fenced.quiet`), three are fences (`Fenced.fence`),
and one records (`record_fenced`).
-/

namespace Pintle
open Go Lib

/-- Whether a generation is the current one and was not cancelled. -/
def Router.Live {ρ : Type} (r : Router ρ) (generation : HealthContext) : Prop :=
  r.healthContext = some generation ∧ generation.id ∉ r.cancelled

/-- The context and the jobs a `RunHealth` call holds. -/
def RunnerPhase.holding : RunnerPhase → Option (HealthContext × List HealthState)
  | .waiting => none
  | .sweeping generation jobs => some (generation, jobs)
  | .checking generation jobs => some (generation, jobs)
  | .joining => none

/-- What a worker of the current generation has done, it did since the last fence. -/
structure Worker.Tracked (h : List HealthEvent) (w : Worker) : Prop where
  listed : Listed h w.state.route
  launched : ∃ caller, .launched caller w.id ∈ sinceFence h
  began : w.phase ≠ .spawned → .began w.id w.state.route ∈ sinceFence h
  answered : ∀ status healthy, w.phase = .answered status healthy →
    .answered w.id status ∈ sinceFence h ∧ (healthy = true → success status = true)

/-- What a runner holds for the current generation belongs to it, and every other context it holds
is an earlier one. -/
structure Runner.Tracked {ρ : Type} (h : List HealthEvent) (r : Router ρ) (runner : Runner) :
    Prop where
  held : ∀ generation jobs, runner.phase.holding = some (generation, jobs) →
    generation.id < r.nextContext ∧ (r.Live generation → ∀ job ∈ jobs, Listed h job.route)
  workers : ∀ w ∈ runner.workers, w.generation.id < r.nextContext ∧
    (r.Live w.generation → w.Tracked h)

namespace HealthRun
variable {ρ : Type}

/-- The invariant of the probing system. -/
structure Fenced [Regexp ρ] (h : List HealthEvent) (s : HealthRun ρ) : Prop where
  tables : s.router.Installed (installedRoutes h)
  context : ∀ generation, s.router.healthContext = some generation →
    generation.id < s.router.nextContext
  runners : ∀ caller runner, s.runners caller = some runner → runner.Tracked h s.router
  records : ∀ key state, s.router.health.lookup key = some state →
    healthKey state.route = key ∧ Listed h state.route
  backed : ∀ key state, s.router.health.lookup key = some state → state.healthy = true →
    ∃ probe route status, Backed h key probe route status ∧ healthKey route = key

end HealthRun

lemma Worker.Tracked.weaken {h : List HealthEvent} {w : Worker} (tracked : w.Tracked h)
    {e : HealthEvent} (quiet : e.isFence = false) : w.Tracked (e :: h) := by
  obtain ⟨listed, ⟨caller, launched⟩, began, answered⟩ := tracked
  refine ⟨listed.weaken quiet, ⟨caller, ?_⟩, ?_, ?_⟩ <;> rw [sinceFence_cons quiet]
  · exact List.mem_cons_of_mem e launched
  · intro past
    exact List.mem_cons_of_mem e (began past)
  · intro status healthy phase
    exact ⟨List.mem_cons_of_mem e (answered status healthy phase).1, (answered status healthy phase).2⟩

/-- A worker that was answered carries a probe. -/
lemma Worker.Tracked.probed {h : List HealthEvent} {w : Worker} (tracked : w.Tracked h)
    {status : Option Nat} {healthy : Bool} (phase : w.phase = .answered status healthy) :
    Probed h w.id w.state.route status where
  listed := tracked.listed
  launched := tracked.launched
  began := tracked.began (by rw [phase]; nofun)
  answered := (tracked.answered status healthy phase).1

/-- A step that keeps the generation keeps what a runner holds. -/
lemma Runner.Tracked.weaken {ρ : Type} {h : List HealthEvent} {r r' : Router ρ} {runner : Runner}
    (tracked : runner.Tracked h r) {e : HealthEvent} (quiet : e.isFence = false)
    (context : r'.healthContext = r.healthContext) (cancelled : r'.cancelled = r.cancelled)
    (next : r'.nextContext = r.nextContext) : runner.Tracked (e :: h) r' := by
  have live (generation : HealthContext) (now : r'.Live generation) : r.Live generation := by
    rw [Router.Live, ← context, ← cancelled]
    exact now
  refine ⟨?_, ?_⟩
  · intro generation jobs holding
    obtain ⟨old, jobs_listed⟩ := tracked.held generation jobs holding
    refine ⟨next ▸ old, ?_⟩
    intro now job member
    exact (jobs_listed (live generation now) job member).weaken quiet
  · intro w member
    obtain ⟨old, w_tracked⟩ := tracked.workers w member
    exact ⟨next ▸ old, fun now => (w_tracked (live w.generation now)).weaken quiet⟩

/-- A fence outdates every context a runner holds. -/
lemma Runner.Tracked.outdate {ρ : Type} {h h' : List HealthEvent} {r r' : Router ρ} {runner : Runner}
    (tracked : runner.Tracked h r) (next : r.nextContext ≤ r'.nextContext)
    (fresh : ∀ generation, r'.Live generation → r.nextContext ≤ generation.id) :
    runner.Tracked h' r' := by
  refine ⟨?_, ?_⟩
  · intro generation jobs holding
    have old := (tracked.held generation jobs holding).1
    refine ⟨by omega, ?_⟩
    intro now
    have := fresh generation now
    omega
  · intro w member
    have old := (tracked.workers w member).1
    refine ⟨by omega, ?_⟩
    intro now
    have := fresh w.generation now
    omega

/-- A runner that holds nothing. -/
lemma Runner.Tracked.idle {ρ : Type} {h : List HealthEvent} {r : Router ρ} {ctx : Nat} :
    Runner.Tracked h r { ctx, phase := .waiting, workers := [] } where
  held generation jobs holding := by cases holding
  workers w member := by cases member

/-- Holding less keeps a runner tracked. -/
lemma Runner.Tracked.narrow {ρ : Type} {h : List HealthEvent} {r : Router ρ} {ctx : Nat}
    {phase phase' : RunnerPhase} {workers workers' : List Worker}
    (tracked : Runner.Tracked h r { ctx, phase, workers })
    (held : ∀ generation jobs, phase'.holding = some (generation, jobs) →
      ∃ jobs', phase.holding = some (generation, jobs') ∧ jobs ⊆ jobs')
    (fewer : workers' ⊆ workers) :
    Runner.Tracked h r { ctx, phase := phase', workers := workers' } where
  held generation jobs holding := by
    obtain ⟨jobs', holding', inside⟩ := held generation jobs holding
    obtain ⟨old, listed⟩ := tracked.held generation jobs' holding'
    exact ⟨old, fun now job member => listed now job (inside member)⟩
  workers w member := tracked.workers w (fewer member)

/-- A worker that ends keeps its runner tracked. -/
lemma Runner.Tracked.remove {ρ : Type} {h : List HealthEvent} {r : Router ρ} {ctx : Nat}
    {phase : RunnerPhase} {before after : List Worker} {w : Worker}
    (tracked : Runner.Tracked h r { ctx, phase, workers := before ++ w :: after }) :
    Runner.Tracked h r { ctx, phase, workers := before ++ after } := by
  refine tracked.narrow ?_ ?_
  · intro generation jobs holding
    exact ⟨jobs, holding, fun _ member => member⟩
  · intro v member
    rcases List.mem_append.mp member with first | last
    · exact List.mem_append_left _ first
    · exact List.mem_append_right _ (List.mem_cons_of_mem w last)

/-- A worker that takes a step keeps its runner tracked. -/
lemma Runner.Tracked.advance {ρ : Type} {h : List HealthEvent} {r : Router ρ} {ctx : Nat}
    {phase : RunnerPhase} {before after : List Worker} {w w' : Worker}
    (tracked : Runner.Tracked h r { ctx, phase, workers := before ++ w :: after })
    {e : HealthEvent} (quiet : e.isFence = false) (same : w'.generation = w.generation)
    (advanced : w.Tracked h → w'.Tracked (e :: h)) :
    Runner.Tracked (e :: h) r { ctx, phase, workers := before ++ w' :: after } where
  held := (tracked.weaken quiet rfl rfl rfl).held
  workers v member := by
    have kept : Runner.Tracked (e :: h) r { ctx, phase, workers := before ++ w :: after } :=
      tracked.weaken quiet rfl rfl rfl
    have old := kept.workers
    rcases List.mem_append.mp member with first | rest
    · exact old v (List.mem_append_left _ first)
    · rcases List.mem_cons.mp rest with rfl | last
      · obtain ⟨known, w_tracked⟩ := tracked.workers w (by simp)
        rw [same]
        exact ⟨known, fun now => advanced (w_tracked now)⟩
      · exact old v (List.mem_append_right _ (List.mem_cons_of_mem w last))

/-- A launched worker carries the first job. -/
lemma Runner.Tracked.launch {ρ : Type} {h : List HealthEvent} {r : Router ρ} {caller ctx probe : Nat}
    {generation : HealthContext} {state : HealthState} {jobs : List HealthState}
    {workers : List Worker}
    (tracked : Runner.Tracked h r { ctx, phase := .sweeping generation (state :: jobs), workers }) :
    Runner.Tracked (.launched caller probe :: h) r
      { ctx
        phase := .checking generation jobs
        workers := { id := probe, generation, state, phase := .spawned } :: workers } := by
  obtain ⟨known, listed⟩ := tracked.held generation (state :: jobs) rfl
  refine ⟨?_, ?_⟩
  · rintro _ _ ⟨⟩
    refine ⟨known, ?_⟩
    intro now job member
    exact (listed now job (List.mem_cons_of_mem state member)).weaken rfl
  · intro w member
    rcases List.mem_cons.mp member with rfl | older
    · refine ⟨known, ?_⟩
      intro now
      refine ⟨(listed now state List.mem_cons_self).weaken rfl, ⟨caller, ?_⟩, ?_, ?_⟩
      · rw [sinceFence_cons rfl]
        exact List.mem_cons_self
      · intro past
        exact absurd rfl past
      · rintro _ _ ⟨⟩
    · obtain ⟨old, w_tracked⟩ := tracked.workers w older
      exact ⟨old, fun now => (w_tracked now).weaken rfl⟩

namespace HealthRun
variable {ρ : Type}

lemma setRunner_cases {s : HealthRun ρ} {caller c : Nat} {replaced : Option Runner} {runner : Runner}
    (found : (s.setRunner caller replaced).runners c = some runner) :
    replaced = some runner ∨ s.runners c = some runner := by
  by_cases same : c = caller
  · subst same
    simp only [setRunner, Function.update_self] at found
    exact .inl found
  · simp only [setRunner, Function.update_of_ne same] at found
    exact .inr found

variable [Regexp ρ]

/-- A step that is no fence, records nothing and keeps tables, records and generation. -/
lemma Fenced.quiet {h : List HealthEvent} {s t : HealthRun ρ} (inv : Fenced h s) {e : HealthEvent}
    (quiet : e.isFence = false) (unrecorded : ∀ key, e.recordsKey key = false)
    (tables : t.router.routes = s.router.routes)
    (regexTables : t.router.regexRoutes = s.router.regexRoutes)
    (health : t.router.health = s.router.health)
    (context : t.router.healthContext = s.router.healthContext)
    (cancelled : t.router.cancelled = s.router.cancelled)
    (next : t.router.nextContext = s.router.nextContext)
    (runners : ∀ caller runner, t.runners caller = some runner →
      runner.Tracked (e :: h) s.router ∨ s.runners caller = some runner) : Fenced (e :: h) t where
  tables := by
    rw [installedRoutes_cons quiet]
    exact inv.tables.of_tables tables regexTables
  context generation current := by
    rw [next]
    exact inv.context generation (context ▸ current)
  runners caller runner found := by
    rcases runners caller runner found with tracked | old
    · refine ⟨?_, ?_⟩
      · intro generation jobs holding
        rw [Router.Live, context, cancelled, next]
        exact tracked.held generation jobs holding
      · intro w member
        rw [Router.Live, context, cancelled, next]
        exact tracked.workers w member
    · exact (inv.runners caller runner old).weaken quiet context cancelled next
  records key state found := by
    rw [health] at found
    obtain ⟨keyed, listed⟩ := inv.records key state found
    exact ⟨keyed, listed.weaken quiet⟩
  backed key state found healthy := by
    rw [health] at found
    obtain ⟨probe, route, status, backed, keyed⟩ := inv.backed key state found healthy
    exact ⟨probe, route, status, backed.weaken quiet (unrecorded key), keyed⟩

/-- A step of one runner that leaves the router alone. -/
lemma Fenced.turn {h : List HealthEvent} {s t : HealthRun ρ} (inv : Fenced h s) {e : HealthEvent}
    (quiet : e.isFence = false) (unrecorded : ∀ key, e.recordsKey key = false) {caller : Nat}
    {runner : Runner} (router : t.router = s.router)
    (runners : t.runners = (s.setRunner caller (some runner)).runners)
    (tracked : runner.Tracked (e :: h) s.router) : Fenced (e :: h) t := by
  refine inv.quiet quiet unrecorded ?_ ?_ ?_ ?_ ?_ ?_ ?_ <;> try rw [router]
  intro c moved found
  rw [runners] at found
  rcases setRunner_cases found with here | old
  · cases here
    exact .inl tracked
  · exact .inr old

/-- A fence: no record is healthy, and every context held before it is outdated. -/
lemma Fenced.fence {h : List HealthEvent} {s t : HealthRun ρ} (inv : Fenced h s) {e : HealthEvent}
    (tables : t.router.Installed (installedRoutes (e :: h)))
    (context : ∀ generation, t.router.healthContext = some generation →
      generation.id < t.router.nextContext)
    (next : s.router.nextContext ≤ t.router.nextContext)
    (fresh : ∀ generation, t.router.Live generation → s.router.nextContext ≤ generation.id)
    (records : ∀ key state, t.router.health.lookup key = some state →
      state.healthy = false ∧ healthKey state.route = key ∧ Listed (e :: h) state.route)
    (runners : ∀ caller runner, t.runners caller = some runner →
      runner.Tracked (e :: h) t.router ∨ s.runners caller = some runner) : Fenced (e :: h) t where
  tables := tables
  context := context
  runners caller runner found := by
    rcases runners caller runner found with tracked | old
    · exact tracked
    · exact (inv.runners caller runner old).outdate next fresh
  records key state found := (records key state found).2
  backed key state found healthy := by
    rw [(records key state found).1] at healthy
    cases healthy

/-- A new generation is a fence, whatever the tables and the parent context are. -/
lemma Fenced.reset {h : List HealthEvent} {s t : HealthRun ρ} (inv : Fenced h s) {e : HealthEvent}
    (ord : RangeOrder (GoString × List Route)) {r : Router ρ}
    (router : t.router = r.resetHealthLocked ord) (tables : r.Installed (installedRoutes (e :: h)))
    (next : r.nextContext = s.router.nextContext)
    (runners : ∀ caller runner, t.runners caller = some runner →
      runner.Tracked (e :: h) t.router ∨ s.runners caller = some runner) : Fenced (e :: h) t := by
  apply inv.fence
  · rw [router]
    exact tables.of_tables rfl rfl
  · intro generation current
    rw [router] at current ⊢
    cases current
    exact Nat.lt_succ_self r.nextContext
  · rw [router, ← next]
    exact Nat.le_succ r.nextContext
  · intro generation live
    obtain ⟨current, _⟩ := live
    rw [router] at current
    cases current
    exact next.ge
  · intro key state found
    rw [router] at found
    obtain ⟨unmarked, _, _, member, registered, keyed⟩ := registerHealth_lookup found
    refine ⟨unmarked, keyed, ?_, registered⟩
    exact ((Router.mem_flattenLocked tables ord state.route).mp member).1
  · exact runners

lemma stop_fenced {h : List HealthEvent} {s : HealthRun ρ} (inv : Fenced h s) (caller : Nat) :
    Fenced (.returned caller :: h)
      ({ s with router := s.router.stopHealth }.setRunner caller none) := by
  apply inv.fence
  · exact inv.tables.of_tables rfl rfl
  · exact inv.context
  · exact le_rfl
  · intro generation live
    obtain ⟨current, uncancelled⟩ := live
    exfalso
    apply uncancelled
    have current : s.router.healthContext = some generation := current
    simp [setRunner, Router.stopHealth, current]
  · intro key state found
    simp only [setRunner, Router.stopHealth, GoMap.lookup_mapValues,
      Option.map_eq_some_iff] at found
    obtain ⟨old, stored, rfl⟩ := found
    exact ⟨rfl, inv.records key old stored⟩
  · intro c runner found
    rcases setRunner_cases found with here | old
    · cases here
    · exact .inr old

/-- The recording section: the record it writes is the one it was accepted for, and the probe is the
latest of its key. -/
lemma record_fenced {h : List HealthEvent} {s : HealthRun ρ} (inv : Fenced h s) {caller ctx : Nat}
    {phase : RunnerPhase} {before after : List Worker} {w : Worker} {status : Option Nat}
    {healthy : Bool}
    (running : s.runners caller = some { ctx, phase, workers := before ++ w :: after })
    (answered : w.phase = .answered status healthy) (accepted : s.router.accepts s.ended w = true) :
    Fenced (.recorded w.id w.state.route status healthy :: h)
      ({ s with router := s.router.record w.state.route healthy s.clock }.setRunner caller
        (some { ctx, phase, workers := before ++ after })) := by
  have tracked := inv.runners caller _ running
  simp only [Router.accepts, Bool.and_eq_true, Bool.not_eq_true', HealthContext.err,
    Bool.or_eq_false_iff, decide_eq_true_eq] at accepted
  obtain ⟨⟨⟨uncancelled, _⟩, current⟩, _⟩ := accepted
  have live : s.router.Live w.generation := ⟨current, by simpa using uncancelled⟩
  have w_tracked := (tracked.workers w (by simp)).2 live
  obtain ⟨health, frame⟩ := s.router.record_frame w.state.route healthy s.clock
  have context : (s.router.record w.state.route healthy s.clock).healthContext =
      s.router.healthContext := by rw [frame]
  have cancelled : (s.router.record w.state.route healthy s.clock).cancelled =
      s.router.cancelled := by rw [frame]
  have next : (s.router.record w.state.route healthy s.clock).nextContext =
      s.router.nextContext := by rw [frame]
  refine ⟨?_, ?_, ?_, ?_, ?_⟩
  · refine inv.tables.of_tables ?_ ?_ <;> simp [setRunner, frame]
  · simp only [setRunner, context, next]
    exact inv.context
  · intro c runner found
    rcases setRunner_cases found with here | old
    · cases here
      exact tracked.remove.weaken rfl context cancelled next
    · exact (inv.runners c runner old).weaken rfl context cancelled next
  · intro key state found
    rcases Router.record_lookup found with ⟨rfl, _, old, stored, same⟩ | ⟨_, stored⟩
    · obtain ⟨keyed, listed⟩ := inv.records _ old stored
      rw [same]
      exact ⟨keyed, listed.weaken rfl⟩
    · obtain ⟨keyed, listed⟩ := inv.records key state stored
      exact ⟨keyed, listed.weaken rfl⟩
  · intro key state found marked
    rcases Router.record_lookup found with ⟨rfl, result, _⟩ | ⟨other, stored⟩
    · -- the probe just recorded
      have good : healthy = true := result ▸ marked
      subst good
      have succeeded := (w_tracked.answered status true answered).2 rfl
      cases status with
      | none => cases succeeded
      | some status =>
        simp only [success, Bool.and_eq_true, decide_eq_true_eq] at succeeded
        refine ⟨w.id, w.state.route, status, ⟨?_, succeeded, ?_⟩, rfl⟩
        · rw [sinceFence_cons rfl, List.find?_cons]
          simp [HealthEvent.recordsKey]
        · exact (w_tracked.probed answered).weaken rfl
    · obtain ⟨probe, route, status, backed, keyed⟩ := inv.backed key state stored marked
      -- another key keeps the probe that backs it
      refine ⟨probe, route, status, backed.weaken rfl ?_, keyed⟩
      simp [HealthEvent.recordsKey, Ne.symm other]

lemma mem_dueJobs {ord : RangeOrder (GoString × HealthState)} {clock : Int}
    {health : GoMap GoString HealthState} {job : HealthState} (due : job ∈ dueJobs ord clock health) :
    ∃ key, health.lookup key = some job := by
  have member := (List.perm_insertionSort _ _).mem_iff.mp due
  obtain ⟨⟨key, state⟩, visited, rfl⟩ := List.mem_map.mp (List.mem_filter.mp member).1
  exact ⟨key, GoMap.mem_pairs.mp ((ord.mem_visit).mp visited)⟩

/-- A sweep picks up records of the generation it picks up. -/
lemma sweep_tracked {h : List HealthEvent} {s : HealthRun ρ} (inv : Fenced h s)
    (ord : RangeOrder (GoString × HealthState)) {e : HealthEvent} (quiet : e.isFence = false)
    {generation : HealthContext} (current : s.router.healthContext = some generation) (ctx : Nat) :
    Runner.Tracked (e :: h) s.router
      { ctx
        phase := .sweeping generation (dueJobs ord s.clock s.router.health)
        workers := [] } where
  held := by
    rintro _ _ ⟨⟩
    refine ⟨inv.context generation current, ?_⟩
    intro _ job due
    obtain ⟨key, stored⟩ := mem_dueJobs due
    exact (inv.records key job stored).2.weaken quiet
  workers _ member := by cases member

/-- Every step keeps the invariant. -/
lemma step_fenced {h : List HealthEvent} {s : HealthRun ρ} {e : HealthEvent} {t : HealthRun ρ}
    (inv : Fenced h s) (st : Step s e t) : Fenced (e :: h) t := by
  cases st with
  | update ord routes =>
    -- a fence: every record is fresh and the generation is cancelled
    exact inv.reset ord rfl (Router.install_installed s.router routes) rfl fun _ _ old => .inr old
  | resolve hostname path =>
    obtain ⟨pools, frame⟩ := s.router.resolve_frame hostname path
    refine inv.quiet rfl (fun _ => rfl) ?_ ?_ ?_ ?_ ?_ ?_ (fun _ _ old => .inr old) <;>
      simp only [frame]
  | start ord caller ctx _ _ =>
    refine inv.reset ord rfl (inv.tables.of_tables rfl rfl) rfl ?_
    intro c runner found
    rcases setRunner_cases found with here | old
    · cases here
      exact .inl .idle
    · exact .inr old
  | ignore caller _ _ =>
    exact inv.quiet rfl (fun _ => rfl) rfl rfl rfl rfl rfl rfl fun _ _ old => .inr old
  | «end» ctx =>
    exact inv.quiet rfl (fun _ => rfl) rfl rfl rfl rfl rfl rfl fun _ _ old => .inr old
  | sweep ord caller ctx generation woken waiting _ current =>
    refine inv.quiet rfl (fun _ => rfl) rfl rfl rfl rfl rfl rfl ?_
    intro c runner found
    rcases setRunner_cases found with here | old
    · cases here
      exact .inl (sweep_tracked inv ord rfl current ctx)
    · exact .inr old
  | launch caller ctx generation state jobs workers sweeping _ =>
    exact inv.turn rfl (fun _ => rfl) rfl rfl (inv.runners caller _ sweeping).launch
  | skip caller ctx generation state jobs workers sweeping _ =>
    refine inv.turn rfl (fun _ => rfl) rfl rfl ?_
    refine ((inv.runners caller _ sweeping).narrow ?_ fun _ member => member).weaken rfl rfl rfl rfl
    rintro _ _ ⟨⟩
    exact ⟨state :: jobs, rfl, fun _ member => List.mem_cons_of_mem state member⟩
  | check caller ctx generation jobs workers checking =>
    refine inv.turn rfl (fun _ => rfl) rfl rfl ?_
    refine ((inv.runners caller _ checking).narrow ?_ fun _ member => member).weaken rfl rfl rfl rfl
    intro held jobs' holding
    split at holding
    · cases holding
    · cases holding
      exact ⟨jobs, rfl, fun _ member => member⟩
  | exhaust caller ctx generation workers sweeping =>
    refine inv.turn rfl (fun _ => rfl) rfl rfl ?_
    refine ((inv.runners caller _ sweeping).narrow ?_ fun _ member => member).weaken rfl rfl rfl rfl
    rintro _ _ ⟨⟩
  | join caller ctx joining =>
    exact inv.turn rfl (fun _ => rfl) rfl rfl .idle
  | begin caller ctx phase before after w running spawned _ =>
    refine inv.turn rfl (fun _ => rfl) rfl rfl ((inv.runners caller _ running).advance rfl rfl ?_)
    -- the worker was launched after the last fence, and so it begins after it
    intro tracked
    obtain ⟨listed, launched, _, _⟩ := tracked.weaken (e := .began w.id w.state.route) rfl
    refine ⟨listed, launched, ?_, ?_⟩
    · intro _
      rw [sinceFence_cons rfl]
      exact List.mem_cons_self
    · rintro _ _ ⟨⟩
  | drop caller ctx phase before after w running _ _ =>
    refine inv.turn rfl (fun _ => rfl) rfl rfl ?_
    exact ((inv.runners caller _ running).remove).weaken rfl rfl rfl rfl
  | answer caller ctx phase before after w status expired running requesting =>
    refine inv.turn rfl (fun _ => rfl) rfl rfl ((inv.runners caller _ running).advance rfl rfl ?_)
    intro tracked
    obtain ⟨listed, launched, began, _⟩ := tracked.weaken (e := .answered w.id status) rfl
    refine ⟨listed, launched, fun _ => began (by rw [requesting]; nofun), ?_⟩
    rintro _ _ ⟨⟩
    refine ⟨?_, ?_⟩
    · rw [sinceFence_cons rfl]
      exact List.mem_cons_self
    · intro good
      simp only [Bool.and_eq_true] at good
      exact good.1.1
  | record caller ctx phase before after w status healthy running answered accepted =>
    exact record_fenced inv running answered accepted
  | discard caller ctx phase before after w status healthy running _ _ =>
    refine inv.turn rfl (fun _ => rfl) rfl rfl ?_
    exact ((inv.runners caller _ running).remove).weaken rfl rfl rfl rfl
  | «return» caller ctx waiting _ => exact stop_fenced inv caller
  | tick clock _ =>
    exact inv.quiet rfl (fun _ => rfl) rfl rfl rfl rfl rfl rfl fun _ _ old => .inr old

lemma initial_fenced : Fenced [] (initial : HealthRun ρ) where
  tables :=
    { exact := fun hostname => by simp [initial, Router.new, installedRoutes, exactRoutes, byPathDesc]
      nonempty := fun _ _ found => by simp [initial, Router.new] at found
      regex := .nil }
  context := nofun
  runners := nofun
  records _ _ found := by simp [initial, Router.new] at found
  backed _ _ found := by simp [initial, Router.new] at found

/-- The invariant holds along every run. -/
theorem run_fenced {h : List HealthEvent} {s : HealthRun ρ} (run : (system ρ).Run h s) :
    Fenced h s := by
  refine System.Run.invariant Fenced ?_ ?_ run
  · rintro _ rfl
    exact initial_fenced
  · intro h s e t _ inv st
    exact step_fenced inv st

end HealthRun

namespace Router
variable {ρ : Type}

/-- The answer of a pool is a member that may be selected. -/
lemma Outcome.eligible {r : Router ρ} {routes : List Route} {path : GoString} {best : Route}
    {res : ResolveResult} (out : r.Outcome routes path best res) (available : res.unavailable = false)
    (pooled : res.route.backendPool ≠ []) : r.eligible res.route = true := by
  cases out with
  | single unpooled => exact absurd unpooled pooled
  | unavailable _ _ => cases available
  | selected _ _ some => exact (mem_members.mp (pick_mem some)).2.2

lemma matchPool_eligible {r : Router ρ} {routes : List Route} {path : GoString} {res : ResolveResult}
    (answered : (r.matchPool routes path).1 = some res) (available : res.unavailable = false)
    (pooled : res.route.backendPool ≠ []) : r.eligible res.route = true := by
  obtain ⟨best, _, out⟩ := matchPool_answered answered
  exact out.eligible available pooled

variable [Regexp ρ]

lemma resolveRegex_eligible {r : Router ρ} {hostname path : GoString} {res : ResolveResult}
    {groups : List (RegexRoute ρ)} (answered : (r.resolveRegex hostname path groups).1 = some res)
    (available : res.unavailable = false) (pooled : res.route.backendPool ≠ []) :
    r.eligible res.route = true := by
  induction groups with
  | nil => cases answered
  | cons rr groups ih =>
    rw [resolveRegex] at answered
    split at answered
    · split at answered
      · rename_i found
        cases answered
        exact matchPool_eligible (by rw [found]) available pooled
      · exact ih answered
    · exact ih answered

/-- An available answer of a pool needs no check or has a healthy record. -/
lemma resolve_eligible {r : Router ρ} {hostname path : GoString} {res : ResolveResult}
    (answered : (r.resolve hostname path).1 = some res) (available : res.unavailable = false)
    (pooled : res.route.backendPool ≠ []) : r.eligible res.route = true := by
  rw [resolve] at answered
  split at answered
  · rename_i found
    cases answered
    exact matchPool_eligible (by rw [found]) available pooled
  · exact resolveRegex_eligible answered available pooled

/-- Health fencing: a checked member of a pool is answered as available only when the most recent
probe recorded under its health key since the last fence succeeded, and was launched and began since
then. If no other checked route of the last `Update` has this key, that is the most recent probe of
the member. -/
theorem resolve_fenced {h : List HealthEvent} {s : HealthRun ρ} (run : (HealthRun.system ρ).Run h s)
    {hostname path : GoString} {res : ResolveResult}
    (answered : (s.router.resolve hostname path).1 = some res) (available : res.unavailable = false)
    (pooled : res.route.backendPool ≠ []) (checked : res.route.health.isSome = true) :
    (∃ probe route status, Backed h (healthKey res.route) probe route status ∧
      healthKey route = healthKey res.route) ∧
      (OwnKey (installedRoutes h) res.route → MemberBacked h res.route) := by
  have marked := resolve_eligible answered available pooled
  obtain ⟨check, checked⟩ := Option.isSome_iff_exists.mp checked
  rw [eligible, checked] at marked
  cases stored : s.router.health.lookup (healthKey res.route) with
  | none => simp [stored] at marked
  | some state =>
    simp only [stored] at marked
    obtain ⟨probe, route, status, backed, keyed⟩ :=
      (HealthRun.run_fenced run).backed _ state stored marked
    refine ⟨⟨probe, route, status, backed, keyed⟩, ?_⟩
    intro own
    have same := own route backed.probed.listed.1 backed.probed.listed.2 keyed
    exact ⟨probe, route, status, backed.of_member same, backed.success, backed.probed⟩

end Router

namespace HealthRun
variable {ρ : Type} [Regexp ρ]

/-- A sweep of one due record whose probe succeeds. -/
lemma probe_path {s : HealthRun ρ} {caller ctx : Nat} {generation : HealthContext}
    {state : HealthState} {ord : RangeOrder (GoString × HealthState)}
    (waiting : s.runners caller = some { ctx, phase := .waiting, workers := [] })
    (current : s.router.healthContext = some generation)
    (live : generation.err s.router.cancelled s.ended = false)
    (due : dueJobs ord s.clock s.router.health = [state])
    (stored : s.router.health.lookup (healthKey state.route) = some state) :
    ∃ t, (system ρ).Path s
        [.recorded s.nextProbe state.route (some 204) true, .answered s.nextProbe (some 204),
          .began s.nextProbe state.route, .checked caller, .launched caller s.nextProbe,
          .swept caller] t ∧
      t.router = s.router.record state.route true s.clock := by
  have swept := Step.sweep ord caller ctx generation false waiting nofun current
  rw [due, Bool.not_false, Bool.and_true] at swept
  have accepted : s.router.accepts s.ended
      { id := s.nextProbe, generation, state, phase := .answered (some 204) true } = true := by
    simp [Router.accepts, live, current, stored]
  have result : (success (some 204) && !false &&
      !generation.err s.router.cancelled s.ended) = true := by
    simp [success, live]
  have path := System.Path.next (M := system ρ) .refl swept
  have path := path.next
    (.launch caller ctx generation state [] [] (Function.update_self ..) (by decide))
  have path := path.next (.check caller ctx generation [] _ (Function.update_self ..))
  have path := path.next (.begin caller ctx _ [] [] _ (Function.update_self ..) rfl live)
  have path := path.next
    (.answer caller ctx _ [] [] _ (some 204) false (Function.update_self ..) rfl)
  have path := path.next (.record caller ctx _ [] [] _ (some 204) true (Function.update_self ..)
    (congrArg _ result) accepted)
  exact ⟨_, path, rfl⟩

/-- The router after `Update` and the start of a `RunHealth` call. -/
def watched (ord : RangeOrder (GoString × List Route)) (routes : List Route) : Router ρ :=
  (Router.new.update ord routes).startHealth ord 0

/-- An update, the start of a runner, and one successful probe. -/
lemma probed_run (ord : RangeOrder (GoString × List Route)) (routes : List Route)
    (state : HealthState)
    (due : dueJobs .stored 0 (watched (ρ := ρ) ord routes).health = [state])
    (stored : (watched (ρ := ρ) ord routes).health.lookup (healthKey state.route) = some state) :
    ∃ s, (system ρ).Run
        [.recorded 0 state.route (some 204) true, .answered 0 (some 204), .began 0 state.route,
          .checked 0, .launched 0 0, .swept 0, .started 0, .updated routes] s ∧
      s.router = (watched ord routes).record state.route true 0 := by
  obtain ⟨s, run, router, waiting, ended, clock, probe⟩ : ∃ s, (system ρ).Run
      [.started 0, .updated routes] s ∧ s.router = watched ord routes ∧
        s.runners 0 = some { ctx := 0, phase := .waiting, workers := [] } ∧
        s.ended = (fun _ => false) ∧ s.clock = 0 ∧ s.nextProbe = 0 :=
    ⟨_, .next (.next (.start rfl) (.update ord routes)) (.start ord 0 0 rfl rfl),
      rfl, rfl, rfl, rfl, rfl⟩
  rw [← router] at stored
  rw [← router, ← clock] at due
  have current : s.router.healthContext = some { id := 1, parent := .process 0 } := by
    rw [router]
    rfl
  have live : HealthContext.err { id := 1, parent := .process 0 } s.router.cancelled s.ended
      = false := by
    rw [router, ended]
    rfl
  obtain ⟨t, path, recorded⟩ := probe_path waiting current live due stored
  rw [probe] at path
  rw [router, clock] at recorded
  exact ⟨t, run.append path, recorded⟩

end HealthRun

namespace Router

/-- A checked static replica. -/
def replica (hostname path pool target : GoString) : Route where
  hostname := hostname
  path := path
  target := target
  backendPool := pool
  health := some { path := lit "/up", intervalSeconds := 5, timeoutSeconds := 1 }
  source := lit "static"

/-- A checked pool of one replica. -/
def pooled : Route := replica (lit "a") (lit "/") (lit "static:0") (lit "http://b")

theorem resolve_fenced_replica :
    ∃ h s res, (HealthRun.system Empty).Run h s ∧
      (s.router.resolve (lit "a") (lit "/x")).1 = some res ∧ res.unavailable = false ∧
      res.route = pooled ∧
      (∃ probe route status, Backed h (healthKey res.route) probe route status ∧
        healthKey route = healthKey res.route) ∧
      (OwnKey (installedRoutes h) res.route → MemberBacked h res.route) := by
  obtain ⟨s, run, router⟩ := HealthRun.probed_run (ρ := Empty) .stored [pooled]
    { ptr := 1, route := pooled } rfl rfl
  have answered : (s.router.resolve (lit "a") (lit "/x")).1 =
      some { target := lit "http://b", rewrittenPath := lit "/x", route := pooled } := by
    rw [router]
    decide
  exact ⟨_, s, _, run, answered, rfl, rfl, resolve_fenced run answered rfl
    (by decide) rfl⟩

/-- Two replicas of different hosts, pools and paths with one health key: their paths and hostnames
contain the separator. Only the later record survives, and its probe marks both. -/
def entangled : List Route :=
  [replica (lit "a") (lit "/b\x00static:1\x00/c") (lit "static:0") (lit "http://b"),
    replica (lit "a\x00static:0\x00/b") (lit "/c") (lit "static:1") (lit "http://b")]

/-- A checked route without a pool. -/
def unpooled : Route := replica (lit "a") (lit "/") [] (lit "http://b")

/-- Without its two conditions the fencing fails: a pool member that shares its health key is
answered after a probe of the other member alone, and a checked route without a pool is answered
after none. -/
theorem unfenced_answers :
    (¬ ∀ h s, (HealthRun.system Empty).Run h s → ∀ hostname path res,
      (s.router.resolve hostname path).1 = some res → res.unavailable = false →
      res.route.health.isSome = true → res.route.backendPool ≠ [] → MemberBacked h res.route) ∧
    (¬ ∀ h s, (HealthRun.system Empty).Run h s → ∀ hostname path res,
      (s.router.resolve hostname path).1 = some res → res.unavailable = false →
      res.route.health.isSome = true → OwnKey (installedRoutes h) res.route →
      MemberBacked h res.route) := by
  refine ⟨?_, ?_⟩
  · intro fenced
    obtain ⟨s, run, router⟩ := HealthRun.probed_run (ρ := Empty) .reversed entangled
      { ptr := 3, route := entangled.get ⟨1, by decide⟩ } rfl rfl
    have answered : (s.router.resolve (lit "a") (lit "/b\x00static:1\x00/c")).1 =
        some { target := lit "http://b"
               rewrittenPath := lit "/b\x00static:1\x00/c"
               route := entangled.get ⟨0, by decide⟩ } := by
      rw [router]
      rfl
    obtain ⟨_, _, _, latest, _⟩ := fenced _ s run _ _ _ answered rfl rfl (by decide)
    have absent : (sinceFence [.recorded 0 (entangled.get ⟨1, by decide⟩) (some 204) true,
        .answered 0 (some 204), .began 0 (entangled.get ⟨1, by decide⟩), .checked 0, .launched 0 0,
        .swept 0, .started 0, .updated entangled]).find?
          (·.recordsMember (entangled.get ⟨0, by decide⟩)) = none := by decide
    rw [absent] at latest
    cases latest
  · intro fenced
    have run := System.Run.next (M := HealthRun.system Empty) (.start rfl)
      (.update .stored [unpooled])
    obtain ⟨_, _, _, latest, _⟩ := fenced _ _ run (lit "a") (lit "/")
      { target := lit "http://b", rewrittenPath := lit "/", route := unpooled } rfl rfl rfl (by
        intro route member _ _
        cases List.mem_singleton.mp member
        decide)
    cases latest

end Router
end Pintle
