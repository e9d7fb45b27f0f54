import Pintle.Router.Marks

/-!
# A sweep of the checks

A turn of the outer loop of `RunHealth` picks up the records that are due and waits until its workers
are done with them. As long as the generation lasts, nothing is lost on the way: what was picked up is
queued, held by a worker or recorded, each once (`Sweeping`). So the probes that a sweep records are
those of the records that were due when it began (`sweep_complete`), and one sweep after a reload every
checked member has the mark that its probe earned.

A sweep also comes to its end, with or without a reload on the way: each of its steps uses up some of
the work that is left, and as long as there is some, a step can be taken (`sweep_ends`).
-/

namespace Pintle
open Go Lib

/-- The health key an event records a probe under. -/
def HealthEvent.recordedKey? : HealthEvent → Option GoString
  | .recorded _ route _ _ => some (healthKey route)
  | _ => none

/-- The health keys of the probes recorded in a history, newest first. -/
def recordedKeys (h : List HealthEvent) : List GoString := h.filterMap (·.recordedKey?)

/-- The keys of the records that are due. -/
def dueKeys {ρ : Type} (s : HealthRun ρ) : List GoString :=
  (s.router.health.pairs.filter fun entry => entry.2.due s.clock).map (·.1)

/-- A step that leaves a sweep running: no new generation, the process context goes on, and the
workers are not joined yet. -/
def Within (caller ctx : Nat) (e : HealthEvent) : Prop :=
  e.isReset = false ∧ e ≠ .ended ctx ∧ e ≠ .joined caller

/-- The steps that may end a sweep of some caller. -/
def HealthEvent.isEnd : HealthEvent → Bool
  | .ended _ => true
  | .joined _ => true
  | _ => false

lemma Within.inside {caller ctx : Nat} {e : HealthEvent} (quiet : e.isReset = false)
    (inside : e.isEnd = false) : Within caller ctx e := by
  refine ⟨quiet, ?_, ?_⟩
  · rintro rfl
    cases inside
  · rintro rfl
    cases inside

lemma recordedKeys_cons {e : HealthEvent} (h : List HealthEvent) (other : e.recordedKey? = none) :
    recordedKeys (e :: h) = recordedKeys h :=
  List.filterMap_cons_none other

namespace HealthRun
variable {ρ : Type}

@[simp]
lemma setRunner_self (s : HealthRun ρ) (caller : Nat) (runner : Option Runner) :
    (s.setRunner caller runner).runners caller = runner :=
  Function.update_self ..

/-- The generation of the call in progress follows its process context and was not cancelled. -/
structure Parented (s : HealthRun ρ) : Prop where
  old : ∀ id ∈ s.router.cancelled, id < s.router.nextContext
  context : ∀ generation, s.router.healthContext = some generation →
    generation.id < s.router.nextContext
  parent : ∀ caller runner, s.runners caller = some runner →
    s.router.healthParent = .process runner.ctx ∧ ∃ id, id ∉ s.router.cancelled ∧
      s.router.healthContext = some { id, parent := .process runner.ctx }

/-- A step that keeps the generation and the process context of the call. -/
lemma Parented.quiet {s t : HealthRun ρ} (inv : s.Parented)
    (context : t.router.healthContext = s.router.healthContext)
    (parent : t.router.healthParent = s.router.healthParent)
    (cancelled : t.router.cancelled = s.router.cancelled)
    (next : t.router.nextContext = s.router.nextContext)
    (runners : ∀ caller runner, t.runners caller = some runner →
      ∃ old, s.runners caller = some old ∧ old.ctx = runner.ctx) : t.Parented where
  old id member := by
    rw [next]
    exact inv.old id (cancelled ▸ member)
  context generation current := by
    rw [next]
    exact inv.context generation (context ▸ current)
  parent caller runner running := by
    obtain ⟨old, before, same⟩ := runners caller runner running
    rw [context, parent, cancelled, ← same]
    exact inv.parent caller old before

/-- The current context is cancelled after the earlier ones. -/
lemma Parented.cancel {r : Router ρ} (old : ∀ id ∈ r.cancelled, id < r.nextContext)
    (context : ∀ generation, r.healthContext = some generation → generation.id < r.nextContext) :
    ∀ id ∈ (match r.healthContext with
      | none => r.cancelled
      | some current => current.id :: r.cancelled), id < r.nextContext := by
  cases current : r.healthContext with
  | none => exact old
  | some generation =>
    exact List.forall_mem_cons.mpr ⟨context generation current, old⟩

/-- A new generation follows the process context of the call. -/
lemma Parented.reset {t : HealthRun ρ} {r : Router ρ} {ord : RangeOrder (GoString × List Route)}
    (router : t.router = r.resetHealthLocked ord)
    (old : ∀ id ∈ r.cancelled, id < r.nextContext)
    (context : ∀ generation, r.healthContext = some generation → generation.id < r.nextContext)
    (parent : ∀ caller runner, t.runners caller = some runner →
      r.healthParent = .process runner.ctx) : t.Parented := by
  have cancelled : ∀ id ∈ (r.resetHealthLocked ord).cancelled, id < r.nextContext :=
    Parented.cancel old context
  rw [← router] at cancelled
  have next : t.router.nextContext = r.nextContext + 1 := by rw [router]; rfl
  have fresh : t.router.healthContext = some { id := r.nextContext, parent := r.healthParent } := by
    rw [router]
    rfl
  refine ⟨?_, ?_, ?_⟩
  · intro id member
    have below := cancelled id member
    omega
  · intro generation current
    rw [fresh] at current
    cases current
    exact next ▸ Nat.lt_succ_self _
  · intro caller runner running
    have same := parent caller runner running
    refine ⟨by rw [router]; exact same, r.nextContext, ?_, by rw [fresh, same]⟩
    intro member
    exact Nat.lt_irrefl _ (cancelled _ member)

/-- A call that goes on keeps its process context. -/
lemma turn_ctx {s t : HealthRun ρ} {c ctx : Nat} {old runner' : Runner}
    (runners : t.runners = Function.update s.runners c (some runner'))
    (before : s.runners c = some old) (same : old.ctx = ctx) (same' : runner'.ctx = ctx)
    (caller : Nat) (runner : Runner) (running : t.runners caller = some runner) :
    ∃ old, s.runners caller = some old ∧ old.ctx = runner.ctx := by
  rw [runners] at running
  by_cases here : caller = c
  · subst here
    rw [Function.update_self] at running
    cases running
    exact ⟨old, before, same.trans same'.symm⟩
  · rw [Function.update_of_ne here] at running
    exact ⟨runner, running, rfl⟩

variable [Regexp ρ]

/-- There is one call in progress. -/
lemma alone {h : List HealthEvent} {s : HealthRun ρ} (run : (system ρ).Run h s) {c c' : Nat}
    {runner runner' : Runner} (running : s.runners c = some runner)
    (running' : s.runners c' = some runner') : c' = c ∧ runner' = runner := by
  have only := ((run_owned run).holder running).1
  rw [only] at running'
  by_cases same : c' = c
  · subst same
    rw [Function.update_self] at running'
    exact ⟨rfl, (Option.some.inj running').symm⟩
  · rw [Function.update_of_ne same] at running'
    cases running'

lemma step_parented {h : List HealthEvent} {s t : HealthRun ρ} {e : HealthEvent}
    (run : (system ρ).Run h s) (inv : s.Parented) (st : Step s e t) : t.Parented := by
  cases st with
  | update ord routes =>
    exact .reset rfl inv.old inv.context fun caller runner running =>
      (inv.parent caller runner running).1
  | resolve hostname path =>
    obtain ⟨pools, frame⟩ := s.router.resolve_frame hostname path
    refine inv.quiet ?_ ?_ ?_ ?_ fun caller runner running => ⟨runner, running, rfl⟩ <;>
      simp only [frame]
  | start ord caller ctx _ off =>
    refine .reset rfl inv.old inv.context ?_
    intro c runner running
    rcases setRunner_cases running with here | other
    · cases here
      rfl
    · -- no call was in progress
      have on := ((run_owned run).holder other).2.1
      rw [off] at on
      cases on
  | ignore caller _ _ => exact inv
  | «end» ctx => exact inv.quiet rfl rfl rfl rfl fun caller runner running => ⟨runner, running, rfl⟩
  | sweep ord c ctx generation woken waiting _ _ =>
    exact inv.quiet rfl rfl rfl rfl (turn_ctx rfl waiting rfl rfl)
  | launch c ctx generation state jobs workers sweeping _ =>
    exact inv.quiet rfl rfl rfl rfl (turn_ctx rfl sweeping rfl rfl)
  | skip c ctx generation state jobs workers sweeping _ =>
    exact inv.quiet rfl rfl rfl rfl (turn_ctx rfl sweeping rfl rfl)
  | check c ctx generation jobs workers checking =>
    exact inv.quiet rfl rfl rfl rfl (turn_ctx rfl checking rfl rfl)
  | exhaust c ctx generation workers sweeping =>
    exact inv.quiet rfl rfl rfl rfl (turn_ctx rfl sweeping rfl rfl)
  | join c ctx joining => exact inv.quiet rfl rfl rfl rfl (turn_ctx rfl joining rfl rfl)
  | begin c ctx phase before after w spawned _ _ =>
    exact inv.quiet rfl rfl rfl rfl (turn_ctx rfl spawned rfl rfl)
  | drop c ctx phase before after w spawned _ _ =>
    exact inv.quiet rfl rfl rfl rfl (turn_ctx rfl spawned rfl rfl)
  | answer c ctx phase before after w status expired requesting _ =>
    exact inv.quiet rfl rfl rfl rfl (turn_ctx rfl requesting rfl rfl)
  | record c ctx phase before after w status healthy answered _ _ =>
    obtain ⟨health, frame⟩ := s.router.record_frame w.state.route healthy s.clock
    refine inv.quiet ?_ ?_ ?_ ?_ (turn_ctx rfl answered rfl rfl) <;> simp only [setRunner, frame]
  | discard c ctx phase before after w status healthy answered _ _ =>
    exact inv.quiet rfl rfl rfl rfl (turn_ctx rfl answered rfl rfl)
  | «return» c ctx waiting _ =>
    refine ⟨Parented.cancel inv.old inv.context, inv.context, ?_⟩
    intro caller runner running
    have only := ((run_owned run).holder waiting).1
    simp only [setRunner, only, Function.update_idem] at running
    rw [Function.update_eq_self_iff.mpr rfl] at running
    cases running
  | tick clock _ => exact inv.quiet rfl rfl rfl rfl fun caller runner running => ⟨runner, running, rfl⟩

/-- Along every run the generation of the call in progress follows its process context. -/
lemma run_parented {h : List HealthEvent} {s : HealthRun ρ} (run : (system ρ).Run h s) :
    s.Parented := by
  induction run with
  | start ini =>
    cases ini
    refine ⟨List.forall_mem_nil _, ?_, ?_⟩
    · intro _ current
      cases current
    · intro _ _ running
      cases running
  | next run st ih => exact step_parented run ih st

/-- A sweep that goes on: its call holds records of the generation alone, each as it is stored, and
what it picked up is recorded or held, each key once. -/
structure Sweeping (due : List GoString) (caller ctx : Nat) (generation : HealthContext)
    (k : List HealthEvent) (s : HealthRun ρ) (runner : Runner) : Prop where
  running : s.runners caller = some runner
  process : runner.ctx = ctx
  busy : runner.phase ≠ .waiting
  current : s.router.healthContext = some generation
  parent : generation.parent = .process ctx
  uncancelled : generation.id ∉ s.router.cancelled
  unended : s.ended ctx = false
  queue : ∀ generation' jobs, runner.phase.holding = some (generation', jobs) →
    generation' = generation
  workers : ∀ w ∈ runner.workers, w.generation = generation
  stored : ∀ hold ∈ runner.holds, (s.router.health.lookup (holdKey hold)).map (·.ptr) = some hold.2.ptr
  shared : (recordedKeys k ++ runner.holds.map holdKey).Perm due

omit [Regexp ρ] in
lemma Sweeping.live {due : List GoString} {caller ctx : Nat} {generation : HealthContext}
    {k : List HealthEvent} {s : HealthRun ρ} {runner : Runner}
    (inv : Sweeping due caller ctx generation k s runner) :
    generation.err s.router.cancelled s.ended = false := by
  simp [HealthContext.err, inv.parent, inv.unended, inv.uncancelled]

omit [Regexp ρ] in
/-- A step that the call does not take. -/
lemma Sweeping.quiet {due : List GoString} {caller ctx : Nat} {generation : HealthContext}
    {k : List HealthEvent} {s t : HealthRun ρ} {runner : Runner} {e : HealthEvent}
    (inv : Sweeping due caller ctx generation k s runner) (silent : e.recordedKey? = none)
    (runners : t.runners = s.runners) (ended : t.ended ctx = s.ended ctx)
    (context : t.router.healthContext = s.router.healthContext)
    (cancelled : t.router.cancelled = s.router.cancelled)
    (health : t.router.health = s.router.health) :
    Sweeping due caller ctx generation (e :: k) t runner where
  running := runners ▸ inv.running
  process := inv.process
  busy := inv.busy
  current := context.trans inv.current
  parent := inv.parent
  uncancelled := cancelled ▸ inv.uncancelled
  unended := ended.trans inv.unended
  queue := inv.queue
  workers := inv.workers
  stored := health ▸ inv.stored
  shared := by
    rw [recordedKeys_cons k silent]
    exact inv.shared

omit [Regexp ρ] in
/-- A step of the call that loses nothing of what it holds. -/
lemma Sweeping.turn {due : List GoString} {caller ctx : Nat} {generation : HealthContext}
    {k : List HealthEvent} {s t : HealthRun ρ} {runner runner' : Runner} {e : HealthEvent}
    (inv : Sweeping due caller ctx generation k s runner) (silent : e.recordedKey? = none)
    (running : t.runners caller = some runner') (router : t.router = s.router)
    (ended : t.ended = s.ended) (process : runner'.ctx = ctx) (busy : runner'.phase ≠ .waiting)
    (queue : ∀ generation' jobs, runner'.phase.holding = some (generation', jobs) →
      generation' = generation)
    (workers : ∀ w ∈ runner'.workers, w.generation = generation)
    (holds : runner'.holds.Perm runner.holds) :
    Sweeping due caller ctx generation (e :: k) t runner' where
  running := running
  process := process
  busy := busy
  current := router ▸ inv.current
  parent := inv.parent
  uncancelled := router ▸ inv.uncancelled
  unended := ended ▸ inv.unended
  queue := queue
  workers := workers
  stored hold member := by
    rw [router]
    exact inv.stored hold (holds.mem_iff.mp member)
  shared := by
    rw [recordedKeys_cons k silent]
    exact ((holds.map holdKey).append_left _).trans inv.shared

omit [Regexp ρ] in
/-- A recording writes what its record is, not where it is stored. -/
lemma record_ptr (r : Router ρ) (route : Route) (healthy : Bool) (clock : Int) (key : GoString) :
    ((r.record route healthy clock).health.lookup key).map (·.ptr) =
      (r.health.lookup key).map (·.ptr) := by
  cases known : r.health.lookup (healthKey route) with
  | none => rw [Router.record, known]
  | some old =>
    rw [Router.record_stored _ _ known]
    by_cases here : key = healthKey route
    · subst here
      rw [AList.lookup_insert, known]
      rfl
    · rw [AList.lookup_insert_ne here]

omit [Regexp ρ] in
/-- A worker of the sweep that is answered finds its record. -/
lemma Sweeping.accepts {due : List GoString} {caller ctx : Nat} {generation : HealthContext}
    {k : List HealthEvent} {s : HealthRun ρ} {phase : RunnerPhase} {before after : List Worker}
    {w : Worker} {ctx' : Nat}
    (inv : Sweeping due caller ctx generation k s { ctx := ctx', phase, workers := before ++ w :: after }) :
    s.router.accepts s.ended w = true := by
  have same := inv.workers w (by simp)
  have stored := inv.stored (w.generation, w.state)
    (Runner.holds_remove.mem_iff.mpr List.mem_cons_self)
  rw [holdKey] at stored
  simp [Router.accepts, same, inv.live, inv.current, stored]

omit [Regexp ρ] in
/-- A worker is done, and its record is written. -/
lemma Sweeping.record {due : List GoString} {caller ctx : Nat} {generation : HealthContext}
    {k : List HealthEvent} {s : HealthRun ρ} {phase : RunnerPhase} {before after : List Worker}
    {w : Worker} {ctx' : Nat}
    (inv : Sweeping due caller ctx generation k s { ctx := ctx', phase, workers := before ++ w :: after })
    (status : Option Nat) (healthy : Bool) :
    Sweeping due caller ctx generation (.recorded w.id w.state.route status healthy :: k)
      ({ s with router := s.router.record w.state.route healthy s.clock }.setRunner caller
        (some { ctx := ctx', phase, workers := before ++ after }))
      { ctx := ctx', phase, workers := before ++ after } := by
  obtain ⟨health, frame⟩ := s.router.record_frame w.state.route healthy s.clock
  have context : (s.router.record w.state.route healthy s.clock).healthContext =
      s.router.healthContext := by rw [frame]
  have uncancelled :
      generation.id ∉ (s.router.record w.state.route healthy s.clock).cancelled := by
    rw [frame]
    exact inv.uncancelled
  have holds := @Runner.holds_remove ctx' phase before after w
  refine ⟨Function.update_self .., inv.process, inv.busy, context.trans inv.current, inv.parent,
    uncancelled, inv.unended, inv.queue, ?_, ?_, ?_⟩
  · intro v member
    exact inv.workers v (by
      rcases List.mem_append.mp member with first | last
      · exact List.mem_append_left _ first
      · exact List.mem_append_right _ (List.mem_cons_of_mem w last))
  · intro hold member
    exact (record_ptr s.router w.state.route healthy s.clock (holdKey hold)).trans
      (inv.stored hold (holds.mem_iff.mpr (List.mem_cons_of_mem _ member)))
  · have moved := ((holds.map holdKey).append_left (recordedKeys k)).symm.trans inv.shared
    exact List.perm_middle.symm.trans moved

/-- A worker that goes on keeps its generation. -/
lemma workers_advance {generation : HealthContext} {before after : List Worker} {w w' : Worker}
    (workers : ∀ v ∈ before ++ w :: after, v.generation = generation)
    (same : w'.generation = w.generation) :
    ∀ v ∈ before ++ w' :: after, v.generation = generation := by
  simp only [List.forall_mem_append, List.forall_mem_cons] at workers ⊢
  exact ⟨workers.1, same.trans workers.2.1, workers.2.2⟩

/-- A step within the sweep keeps the invariant. -/
lemma Sweeping.step {due : List GoString} {caller ctx : Nat} {generation : HealthContext}
    {h k : List HealthEvent} {s t : HealthRun ρ} {runner : Runner} {e : HealthEvent}
    (run : (system ρ).Run h s) (inv : Sweeping due caller ctx generation k s runner)
    (within : Within caller ctx e) (st : Step s e t) :
    ∃ runner', Sweeping due caller ctx generation (e :: k) t runner' := by
  cases st with
  | update ord routes => cases within.1
  | start ord c ctx' _ _ => cases within.1
  | resolve hostname path =>
    obtain ⟨pools, frame⟩ := s.router.resolve_frame hostname path
    refine ⟨runner, inv.quiet rfl rfl rfl ?_ ?_ ?_⟩ <;> simp only [frame]
  | ignore c _ _ => exact ⟨runner, inv.quiet rfl rfl rfl rfl rfl rfl⟩
  | tick clock _ => exact ⟨runner, inv.quiet rfl rfl rfl rfl rfl rfl⟩
  | «end» ctx' =>
    have other : ctx ≠ ctx' := by
      rintro rfl
      exact within.2.1 rfl
    exact ⟨runner, inv.quiet rfl rfl (Function.update_of_ne other ..) rfl rfl rfl⟩
  | sweep ord c ctx' generation' woken waiting _ _ =>
    obtain ⟨rfl, rfl⟩ := alone run inv.running waiting
    exact absurd rfl inv.busy
  | «return» c ctx' waiting _ =>
    obtain ⟨rfl, rfl⟩ := alone run inv.running waiting
    exact absurd rfl inv.busy
  | join c ctx' joining =>
    obtain ⟨rfl, rfl⟩ := alone run inv.running joining
    exact absurd rfl within.2.2
  | launch c ctx' generation' state jobs workers sweeping _ =>
    obtain ⟨rfl, rfl⟩ := alone run inv.running sweeping
    obtain rfl := inv.queue generation' (state :: jobs) rfl
    refine ⟨_, inv.turn rfl (Function.update_self ..) rfl rfl inv.process nofun ?_ ?_ ?_⟩
    · rintro _ _ ⟨⟩
      rfl
    · exact List.forall_mem_cons.mpr ⟨rfl, inv.workers⟩
    · exact List.perm_middle.symm
  | skip c ctx' generation' state jobs workers sweeping done =>
    obtain ⟨rfl, rfl⟩ := alone run inv.running sweeping
    obtain rfl := inv.queue generation' (state :: jobs) rfl
    rw [inv.live] at done
    cases done
  | check c ctx' generation' jobs workers checking =>
    obtain ⟨rfl, rfl⟩ := alone run inv.running checking
    obtain rfl := inv.queue generation' jobs rfl
    rw [inv.live]
    refine ⟨_, inv.turn rfl (Function.update_self ..) rfl rfl inv.process nofun ?_ inv.workers ?_⟩
    · rintro _ _ ⟨⟩
      rfl
    · exact .refl _
  | exhaust c ctx' generation' workers sweeping =>
    obtain ⟨rfl, rfl⟩ := alone run inv.running sweeping
    refine ⟨_, inv.turn rfl (Function.update_self ..) rfl rfl inv.process nofun ?_ inv.workers ?_⟩
    · rintro _ _ ⟨⟩
    · exact .refl _
  | begin c ctx' phase before after w spawned _ _ =>
    obtain ⟨rfl, rfl⟩ := alone run inv.running spawned
    refine ⟨_, inv.turn rfl (Function.update_self ..) rfl rfl inv.process inv.busy inv.queue ?_ ?_⟩
    · exact workers_advance inv.workers rfl
    · rw [Runner.holds_advance rfl]
  | drop c ctx' phase before after w spawned _ done =>
    obtain ⟨rfl, rfl⟩ := alone run inv.running spawned
    rw [inv.workers w (by simp), inv.live] at done
    cases done
  | answer c ctx' phase before after w status expired requesting _ =>
    obtain ⟨rfl, rfl⟩ := alone run inv.running requesting
    refine ⟨_, inv.turn rfl (Function.update_self ..) rfl rfl inv.process inv.busy inv.queue ?_ ?_⟩
    · exact workers_advance inv.workers rfl
    · rw [Runner.holds_advance rfl]
  | record c ctx' phase before after w status healthy answered _ _ =>
    obtain ⟨rfl, rfl⟩ := alone run inv.running answered
    exact ⟨_, inv.record status healthy⟩
  | discard c ctx' phase before after w status healthy answered _ refused =>
    obtain ⟨rfl, rfl⟩ := alone run inv.running answered
    rw [inv.accepts] at refused
    cases refused

omit [Regexp ρ] in
/-- What a sweep picks up are the records that are due. -/
lemma dueJobs_keys (ord : RangeOrder (GoString × HealthState)) {s : HealthRun ρ}
    (keyed : ∀ key state, s.router.health.lookup key = some state → healthKey state.route = key) :
    ((dueJobs ord s.clock s.router.health).map fun job => healthKey job.route).Perm (dueKeys s) := by
  have visited := ((ord.perm s.router.health.pairs).map Prod.snd).filter (HealthState.due s.clock)
  have sorted := (List.perm_insertionSort (fun a b : HealthState =>
    healthKey a.route ≤ healthKey b.route) _).trans visited
  refine (sorted.map fun job : HealthState => healthKey job.route).trans ?_
  rw [dueKeys, List.filter_map, List.map_map]
  apply List.Perm.of_eq
  apply List.map_congr_left
  intro entry member
  exact keyed entry.1 entry.2 (GoMap.mem_pairs.mp (List.mem_filter.mp member).1)

/-- A sweep begins with what is due. -/
lemma sweep_begins {h : List HealthEvent} {s t : HealthRun ρ} (run : (system ρ).Run h s)
    {caller : Nat} {runner : Runner} (running : s.runners caller = some runner)
    (unended : s.ended runner.ctx = false) (st : Step s (.swept caller) t) :
    ∃ generation runner', Sweeping (dueKeys s) caller runner.ctx generation [] t runner' := by
  have keyed key state (stored : s.router.health.lookup key = some state) :
      healthKey state.route = key := ((run_fenced run).records key state stored).1
  cases st with
  | sweep ord _ ctx generation woken waiting _ current =>
    rw [running] at waiting
    cases waiting
    obtain ⟨_, id, uncancelled, context⟩ := (run_parented run).parent caller _ running
    rw [current] at context
    cases context
    refine ⟨_, _, Function.update_self .., rfl, nofun, current, rfl, uncancelled, unended, ?_,
      List.forall_mem_nil _, ?_, ?_⟩
    · rintro _ _ ⟨⟩
      rfl
    · intro hold member
      obtain ⟨job, due, rfl⟩ := List.mem_map.mp (show hold ∈ (dueJobs ord s.clock
        s.router.health).map _ from member)
      obtain ⟨key, stored⟩ := mem_dueJobs due
      have same := keyed key job stored
      rw [holdKey, same]
      exact congrArg (Option.map _) stored
    · have due := dueJobs_keys ord keyed
      refine List.Perm.trans ?_ due
      rw [Runner.holds]
      simp [recordedKeys, RunnerPhase.holding, holdKey, Function.comp_def]

/-- The invariant holds while the sweep goes on, and no fence comes in between. -/
lemma Sweeping.path {due : List GoString} {caller ctx : Nat} {generation : HealthContext}
    {h k : List HealthEvent} {s t : HealthRun ρ} {runner : Runner} (run : (system ρ).Run h s)
    (start : Sweeping due caller ctx generation [] s runner)
    (path : ((system ρ).restrict fun _ => Within caller ctx).Path s k t) :
    (∃ runner', Sweeping due caller ctx generation k t runner') ∧ ∀ e ∈ k, e.isFence = false := by
  induction path with
  | refl => exact ⟨⟨runner, start⟩, List.forall_mem_nil _⟩
  | @next k t e u path st ih =>
    obtain ⟨⟨runner', inv⟩, unfenced⟩ := ih
    obtain ⟨step, within⟩ := st
    have run' := run.append path.of_restrict
    refine ⟨inv.step run' within step, List.forall_mem_cons.mpr ⟨?_, unfenced⟩⟩
    cases e with
    | updated _ => exact within.1
    | started _ => exact within.1
    | returned c =>
      -- the call in progress is in its sweep
      exfalso
      cases step with
      | «return» _ ctx' waiting _ =>
        obtain ⟨rfl, rfl⟩ := alone run' inv.running waiting
        exact inv.busy rfl
    | _ => rfl

omit [Regexp ρ] in
lemma sinceFence_append {k h : List HealthEvent} (unfenced : ∀ e ∈ k, e.isFence = false) :
    sinceFence (k ++ h) = k ++ sinceFence h := by
  induction k with
  | nil => rfl
  | cons e k ih =>
    obtain ⟨quiet, rest⟩ := List.forall_mem_cons.mp unfenced
    rw [List.cons_append, sinceFence_cons quiet, ih rest, List.cons_append]

/-- A key that was recorded since the last fence has the mark of its latest recording there. -/
lemma recorded_mark {h k : List HealthEvent} {s : HealthRun ρ} (run : (system ρ).Run (k ++ h) s)
    (unfenced : ∀ e ∈ k, e.isFence = false) {member : Route} (checked : member.health.isSome = true)
    (recorded : healthKey member ∈ recordedKeys k) :
    ∃ probe route status healthy, .recorded probe route status healthy ∈ k ∧
      healthKey route = healthKey member ∧ s.router.eligible member = healthy := by
  cases found : k.find? (·.recordsKey (healthKey member)) with
  | none =>
    obtain ⟨e, inside, keyed⟩ := List.mem_filterMap.mp recorded
    have other := List.find?_eq_none.mp found e inside
    cases e with
    | recorded probe route status healthy =>
      simp only [HealthEvent.recordedKey?, Option.some.injEq] at keyed
      simp [HealthEvent.recordsKey, keyed] at other
    | _ => cases keyed
  | some e =>
    have inside := List.mem_of_find?_eq_some found
    have keyed := List.find?_some found
    cases e with
    | recorded probe route status healthy =>
      simp only [HealthEvent.recordsKey, decide_eq_true_eq] at keyed
      have latest : (sinceFence (k ++ h)).find? (·.recordsKey (healthKey member)) =
          some (.recorded probe route status healthy) := by
        rw [sinceFence_append unfenced, List.find?_append, found]
        rfl
      obtain ⟨state, stored, marked⟩ := run_latest run _ _ _ _ _ latest
      obtain ⟨check, checked⟩ := Option.isSome_iff_exists.mp checked
      refine ⟨probe, route, status, healthy, inside, keyed, ?_⟩
      rw [Router.eligible, checked]
      simp only [stored, marked]
    | _ => cases keyed

/-- A checked member without a probe since the last reset is due. -/
lemma due_of_unprobed {h : List HealthEvent} {s : HealthRun ρ} (run : (system ρ).Run h s)
    {member : Route} (listed : member ∈ staticMembers ρ (installedRoutes h))
    (unprobed : recordings (healthKey member) h = []) : healthKey member ∈ dueKeys s := by
  obtain ⟨state, stored⟩ := Option.isSome_iff_exists.mp ((run_reported run).known member listed)
  obtain ⟨checkedAt, next⟩ := (run_timed run).records _ state stored
  rw [unprobed, List.head?_nil] at checkedAt
  rw [HealthState.scheduled, checkedAt, Option.bind_none] at next
  refine List.mem_map.mpr ⟨(healthKey member, state), List.mem_filter.mpr ⟨?_, ?_⟩, rfl⟩
  · exact GoMap.mem_pairs.mpr stored
  · rw [HealthState.due, next]

/-- A sweep that neither a new generation nor the end of the process interrupts records a probe for each
record that was due when it began, each once, and for no other. Then whether a member of these may be
selected is what its probe said; and among them are all checked members that have not been probed since
the last reset. So one sweep after a reload every checked member has the mark that its probe earned. -/
theorem sweep_complete {h k : List HealthEvent} {s s' t u : HealthRun ρ} {caller : Nat}
    {runner : Runner} (run : (system ρ).Run h s) (running : s.runners caller = some runner)
    (unended : s.ended runner.ctx = false) (begun : Step s (.swept caller) s')
    (path : ((system ρ).restrict fun _ => Within caller runner.ctx).Path s' k t)
    (joined : Step t (.joined caller) u) :
    (recordedKeys k).Perm (dueKeys s) ∧
      (∀ member, member.health.isSome = true → healthKey member ∈ dueKeys s →
        ∃ probe route status healthy, .recorded probe route status healthy ∈ k ∧
          healthKey route = healthKey member ∧ u.router.eligible member = healthy) ∧
      ∀ member ∈ staticMembers ρ (installedRoutes h), recordings (healthKey member) h = [] →
        healthKey member ∈ dueKeys s := by
  obtain ⟨generation, runner₁, start⟩ := sweep_begins run running unended begun
  obtain ⟨⟨runner₂, inv⟩, unfenced⟩ := Sweeping.path (run.next begun) start path
  have every : (recordedKeys k).Perm (dueKeys s) := by
    have shared := inv.shared
    cases joined with
    | join _ ctx joining =>
      -- nothing is held any more
      have here := inv.running
      rw [joining] at here
      cases here
      rw [show Runner.holds _ = [] from rfl, List.map_nil, List.append_nil] at shared
      exact shared
  refine ⟨every, ?_, fun member listed unprobed => due_of_unprobed run listed unprobed⟩
  intro member checked due
  have run' := ((run.next begun).append path.of_restrict).next joined
  have unfenced' : ∀ e ∈ HealthEvent.joined caller :: k, e.isFence = false :=
    List.forall_mem_cons.mpr ⟨rfl, unfenced⟩
  obtain ⟨probe, route, status, healthy, recorded, keyed, marked⟩ :=
    recorded_mark run' unfenced' checked (every.mem_iff.mpr due)
  refine ⟨probe, route, status, healthy, ?_, keyed, marked⟩
  rcases List.mem_cons.mp recorded with first | inside
  · cases first
  · exact inside

/-- The generation of the first call after an `Update`. -/
def secondContext : HealthContext := { id := 1, parent := .process 0 }

/-- The record of the pool of one replica after a reset by that call. -/
def pooledRecord : HealthState := { ptr := 1, route := Router.pooled }

/-- The checks of one member after an `Update`: one sweep, with a probe that succeeds. -/
theorem sweep_complete_replica :
    ∃ (k : List HealthEvent) (s u : HealthRun Empty), recordedKeys k = [healthKey Router.pooled] ∧
      (recordedKeys k).Perm (dueKeys s) ∧
      ∃ probe route status healthy, .recorded probe route status healthy ∈ k ∧
        healthKey route = healthKey Router.pooled ∧ u.router.eligible Router.pooled = healthy := by
  obtain ⟨s, run, router, waiting, unended, clock⟩ : ∃ s, (system Empty).Run
      [.started 0, .updated [Router.pooled]] s ∧ s.router = watched .stored [Router.pooled] ∧
        s.runners 0 = some { ctx := 0, phase := .waiting, workers := [] } ∧
        s.ended = (fun _ => false) ∧ s.clock = 0 :=
    ⟨_, .next (.next (.start rfl) (.update .stored [Router.pooled])) (.start .stored 0 0 rfl rfl),
      rfl, rfl, rfl, rfl⟩
  have due : dueJobs .stored s.clock s.router.health = [pooledRecord] := by
    rw [router, clock]
    rfl
  have current : s.router.healthContext = some secondContext := by
    rw [router]
    rfl
  have live : secondContext.err s.router.cancelled s.ended = false := by
    rw [router, unended]
    rfl
  have accepted : s.router.accepts s.ended
      ⟨s.nextProbe, secondContext, pooledRecord, .answered (some 204) true⟩ = true := by
    rw [router, unended]
    rfl
  have result : (success (some 204) && !false && !secondContext.err s.router.cancelled s.ended) =
      true := by
    rw [live]
    rfl
  have begun := Step.sweep .stored 0 0 secondContext false waiting nofun current
  rw [due, Bool.not_false, Bool.and_true] at begun
  have here {s' : HealthRun Empty} (_ : Step s (.swept 0) s') :
      ((system Empty).restrict fun _ => Within 0 0).Path s' [] s' := .refl
  have path := (here begun).next ⟨.launch 0 0 secondContext pooledRecord [] []
    (setRunner_self ..) (by decide), .inside rfl rfl⟩
  have path := path.next ⟨.check 0 0 secondContext [] _ (setRunner_self ..), .inside rfl rfl⟩
  have path := path.next
    ⟨.exhaust 0 0 secondContext [⟨s.nextProbe, secondContext, pooledRecord, .spawned⟩]
      (by simp [setRunner, live]), .inside rfl rfl⟩
  have path := path.next
    ⟨.begin 0 0 .joining [] [] _ (setRunner_self ..) rfl live, .inside rfl rfl⟩
  have path := path.next ⟨.answer 0 0 .joining [] [] _ (some 204) false (setRunner_self ..) rfl,
    .inside rfl rfl⟩
  have path := path.next ⟨.record 0 0 .joining [] [] _ (some 204) true (setRunner_self ..)
    (congrArg _ result) accepted, .inside rfl rfl⟩
  obtain ⟨every, marked, fresh⟩ := sweep_complete run waiting (by rw [unended]) begun path
    (.join 0 0 (setRunner_self ..))
  exact ⟨_, s, _, rfl, every, marked Router.pooled rfl (fresh Router.pooled (by decide) rfl)⟩

end HealthRun

/-- The steps that a probe goroutine still takes. -/
def WorkerPhase.left : WorkerPhase → Nat
  | .spawned => 3
  | .requesting => 2
  | .answered _ _ => 1

/-- The steps that the probe goroutines of a sweep still take. -/
def workersLeft : List Worker → Nat
  | [] => 0
  | w :: workers => w.phase.left + workersLeft workers

/-- A bound on the steps that a sweep still takes. A queued record takes at most six: the launch, the
check after it, the probe's three, and one to spare for the end of the loop. -/
def Runner.work (runner : Runner) : Nat :=
  workersLeft runner.workers +
    match runner.phase with
    | .waiting => 0
    | .sweeping _ jobs => 6 * jobs.length + 2
    | .checking _ jobs => 6 * jobs.length + 3
    | .joining => 1

/-- Whether an event is a step of a sweep that has begun: of its job loop or of a probe. -/
def HealthEvent.ofSweep : HealthEvent → Bool
  | .launched _ _ => true
  | .skipped _ => true
  | .checked _ => true
  | .joined _ => true
  | .began _ _ => true
  | .dropped _ => true
  | .answered _ _ => true
  | .recorded _ _ _ _ => true
  | .discarded _ => true
  | _ => false

lemma workersLeft_append (before after : List Worker) :
    workersLeft (before ++ after) = workersLeft before + workersLeft after := by
  induction before with
  | nil => simp [workersLeft]
  | cons w before ih => rw [List.cons_append, workersLeft, workersLeft, ih, Nat.add_assoc]

/-- A worker that goes on. -/
lemma Runner.work_advance {ctx : Nat} {phase : RunnerPhase} {before after : List Worker} (w : Worker)
    (at_phase : WorkerPhase) :
    Runner.work { ctx, phase, workers := before ++ { w with phase := at_phase } :: after } +
        w.phase.left =
      Runner.work { ctx, phase, workers := before ++ w :: after } + at_phase.left := by
  simp only [Runner.work, workersLeft_append, workersLeft]
  omega

/-- A worker that ends. -/
lemma Runner.work_remove {ctx : Nat} {phase : RunnerPhase} {before after : List Worker} (w : Worker) :
    Runner.work { ctx, phase, workers := before ++ after } + w.phase.left =
      Runner.work { ctx, phase, workers := before ++ w :: after } := by
  simp only [Runner.work, workersLeft_append, workersLeft]
  omega

namespace HealthRun
variable {ρ : Type} [Regexp ρ]

/-- A step of a sweep uses up work of its call; no other step but a new sweep brings work. -/
lemma step_work {s t : HealthRun ρ} {e : HealthEvent} (st : Step s e t)
    (no_sweep : ∀ caller, e ≠ .swept caller) :
    (e.ofSweep = true → ∃ c old runner, s.runners c = some old ∧
      t.runners = Function.update s.runners c (some runner) ∧ runner.work + 1 ≤ old.work) ∧
    (e.ofSweep = false → ∀ caller runner, t.runners caller = some runner →
      s.runners caller = some runner ∨ runner.work = 0) := by
  have moved {c : Nat} {old runner : Runner} (own : e.ofSweep = true) (before : s.runners c = some old)
      (runners : t.runners = Function.update s.runners c (some runner))
      (less : runner.work + 1 ≤ old.work) :
      (e.ofSweep = true → ∃ c old runner, s.runners c = some old ∧
        t.runners = Function.update s.runners c (some runner) ∧ runner.work + 1 ≤ old.work) ∧
      (e.ofSweep = false → ∀ caller runner, t.runners caller = some runner →
        s.runners caller = some runner ∨ runner.work = 0) := by
    refine ⟨fun _ => ⟨c, old, runner, before, runners, less⟩, ?_⟩
    intro other
    rw [own] at other
    cases other
  cases st with
  | update ord routes => exact ⟨nofun, fun _ _ _ running => .inl running⟩
  | resolve hostname path => exact ⟨nofun, fun _ _ _ running => .inl running⟩
  | ignore c _ _ => exact ⟨nofun, fun _ _ _ running => .inl running⟩
  | «end» ctx => exact ⟨nofun, fun _ _ _ running => .inl running⟩
  | tick clock _ => exact ⟨nofun, fun _ _ _ running => .inl running⟩
  | start ord c ctx _ _ =>
    refine ⟨nofun, ?_⟩
    intro _ caller runner running
    rcases setRunner_cases running with here | old
    · cases here
      exact .inr rfl
    · exact .inl old
  | «return» c ctx waiting _ =>
    refine ⟨nofun, ?_⟩
    intro _ caller runner running
    rcases setRunner_cases running with here | old
    · cases here
    · exact .inl old
  | sweep ord c ctx generation woken waiting _ _ => exact absurd rfl (no_sweep c)
  | launch c ctx generation state jobs workers sweeping _ =>
    refine moved rfl sweeping rfl ?_
    simp only [Runner.work, workersLeft, WorkerPhase.left, List.length_cons]
    omega
  | skip c ctx generation state jobs workers sweeping _ =>
    refine moved rfl sweeping rfl ?_
    simp only [Runner.work, List.length_cons]
    omega
  | check c ctx generation jobs workers checking =>
    refine moved rfl checking rfl ?_
    cases generation.err s.router.cancelled s.ended with
    | true =>
      simp only [Runner.work, if_true]
      omega
    | false =>
      simp only [Runner.work, Bool.false_eq_true, if_false]
      omega
  | exhaust c ctx generation workers sweeping =>
    refine moved rfl sweeping rfl ?_
    simp [Runner.work]
  | join c ctx joining =>
    refine moved rfl joining rfl ?_
    simp [Runner.work]
  | begin c ctx phase before after w spawned phase_eq _ =>
    refine moved rfl spawned rfl ?_
    have work := @Runner.work_advance ctx phase before after w .requesting
    rw [phase_eq] at work
    simp only [WorkerPhase.left] at work
    omega
  | answer c ctx phase before after w status expired requesting phase_eq =>
    refine moved rfl requesting rfl ?_
    have work healthy := @Runner.work_advance ctx phase before after w (.answered status healthy)
    simp only [phase_eq, WorkerPhase.left] at work
    exact Nat.le_of_eq (Nat.succ.inj (work _))
  | drop c ctx phase before after w spawned phase_eq _ =>
    refine moved rfl spawned rfl ?_
    have work := @Runner.work_remove ctx phase before after w
    rw [phase_eq] at work
    simp only [WorkerPhase.left] at work
    omega
  | record c ctx phase before after w status healthy answered phase_eq _ =>
    refine moved rfl answered rfl ?_
    have work := @Runner.work_remove ctx phase before after w
    rw [phase_eq] at work
    simp only [WorkerPhase.left] at work
    omega
  | discard c ctx phase before after w status healthy answered phase_eq _ =>
    refine moved rfl answered rfl ?_
    have work := @Runner.work_remove ctx phase before after w
    rw [phase_eq] at work
    simp only [WorkerPhase.left] at work
    omega

/-- A probe goroutine can take its next step. -/
lemma worker_moves {s : HealthRun ρ} {caller ctx : Nat} {phase : RunnerPhase} {w : Worker}
    {workers : List Worker} (running : s.runners caller = some { ctx, phase, workers := w :: workers }) :
    ∃ e t, e.ofSweep = true ∧ Step s e t := by
  cases stand : w.phase with
  | spawned =>
    cases done : w.generation.err s.router.cancelled s.ended with
    | true => exact ⟨_, _, rfl, .drop caller ctx phase [] workers w running stand done⟩
    | false => exact ⟨_, _, rfl, .begin caller ctx phase [] workers w running stand done⟩
  | requesting => exact ⟨_, _, rfl, .answer caller ctx phase [] workers w none false running stand⟩
  | answered status healthy =>
    cases accepted : s.router.accepts s.ended w with
    | true =>
      exact ⟨_, _, rfl, .record caller ctx phase [] workers w status healthy running stand accepted⟩
    | false =>
      exact ⟨_, _, rfl, .discard caller ctx phase [] workers w status healthy running stand accepted⟩

/-- A sweep can take its next step. -/
lemma sweep_moves {s : HealthRun ρ} {caller : Nat} {runner : Runner}
    (running : s.runners caller = some runner) (busy : runner.phase ≠ .waiting) :
    ∃ e t, e.ofSweep = true ∧ Step s e t := by
  obtain ⟨ctx, phase, workers⟩ := runner
  cases phase with
  | waiting => exact absurd rfl busy
  | checking generation jobs => exact ⟨_, _, rfl, .check caller ctx generation jobs workers running⟩
  | joining =>
    cases workers with
    | nil => exact ⟨_, _, rfl, .join caller ctx running⟩
    | cons w workers => exact worker_moves running
  | sweeping generation jobs =>
    cases jobs with
    | nil => exact ⟨_, _, rfl, .exhaust caller ctx generation workers running⟩
    | cons state jobs =>
      -- the slots are taken by workers, or one is free
      cases workers with
      | nil => exact ⟨_, _, rfl, .launch caller ctx generation state jobs [] running (by simp)⟩
      | cons w workers => exact worker_moves running

/-- A sweep comes to its end, whatever comes in between: in every reachable state in which a call of
`RunHealth` is in a sweep some step of the sweep can be taken, and on every path without a new sweep
as many of them are taken as there is work left, at most. So neither the slots nor a reload nor the
end of the process leave it waiting for ever. -/
theorem sweep_ends {h : List HealthEvent} {s : HealthRun ρ} (run : (system ρ).Run h s) {caller : Nat}
    {runner : Runner} (running : s.runners caller = some runner) :
    (runner.phase ≠ .waiting → ∃ e t, e.ofSweep = true ∧ Step s e t) ∧
      (runner.phase = .waiting → runner.work = 0) ∧
      ∀ k t, (∀ e ∈ k, ∀ c, e ≠ .swept c) → (system ρ).Path s k t →
        k.countP (·.ofSweep) ≤ runner.work := by
  refine ⟨sweep_moves running, ?_, ?_⟩
  · intro waiting
    have empty := ((run_owned run).holder running).2.2.waiting waiting
    rw [Runner.work, waiting, empty]
    rfl
  · intro k t no_sweep path
    -- what was used up and what is left
    have bound : k.countP (·.ofSweep) ≤ runner.work ∧ ∀ c other, t.runners c = some other →
        other.work + k.countP (·.ofSweep) ≤ runner.work := by
      induction path with
      | refl =>
        refine ⟨Nat.zero_le _, ?_⟩
        intro c other found
        obtain ⟨_, rfl⟩ := alone run running found
        exact le_rfl
      | @next k t e u path st ih =>
        obtain ⟨first, rest⟩ := List.forall_mem_cons.mp no_sweep
        obtain ⟨used, left⟩ := ih rest
        obtain ⟨own, others⟩ := step_work st first
        rw [List.countP_cons]
        cases mine : e.ofSweep with
        | true =>
          obtain ⟨c, old, next, before, runners, less⟩ := own mine
          have here : u.runners c = some next := by rw [runners, Function.update_self]
          have before := left c old before
          refine ⟨by simp only [if_true]; omega, ?_⟩
          intro c' other found
          obtain ⟨_, rfl⟩ := alone ((run.append path).next st) here found
          simp only [if_true]
          omega
        | false =>
          refine ⟨used, ?_⟩
          intro c other found
          rcases others mine c other found with before | empty
          · exact left c other before
          · rw [empty, Nat.zero_add]
            exact used
    exact bound.1

/-- A call that has just begun a sweep. -/
theorem sweep_ends_begun : ∃ (s : HealthRun Empty) (runner : Runner), s.runners 0 = some runner ∧
    (∃ e t, e.ofSweep = true ∧ Step s e t) ∧
    ∀ k t, (∀ e ∈ k, ∀ c, e ≠ HealthEvent.swept c) → (system Empty).Path s k t →
      k.countP (·.ofSweep) ≤ 2 := by
  have run := System.Run.next (M := system Empty)
    (.next (.start rfl) (.start .stored 0 0 rfl rfl))
    (.sweep .stored 0 0 ⟨0, .process 0⟩ false rfl nofun rfl)
  obtain ⟨moves, _, bound⟩ := sweep_ends run (setRunner_self ..)
  exact ⟨_, _, setRunner_self .., moves nofun, bound⟩

end HealthRun
end Pintle
