import Pintle.Router.Fenced

/-!
# The call that runs the checks

Any number of goroutines may call `RunHealth`, and at most one of the calls is in progress: the
`healthRunning` flag is set exactly while it is (`Owned`). Its worker goroutines are the probes in
flight, at most four at a time, since each sweep waits for its workers before the next one makes new
slots. What a call holds, the records its workers were started for and the queued ones, comes from
one reading of the map of records (`step_holds`), so no health key is held twice (`run_apart`).
-/

namespace Pintle
open Go Lib

/-- The probes that were launched and have not ended. -/
def inFlight : List HealthEvent → List Nat
  | [] => []
  | .launched _ probe :: h => probe :: inFlight h
  | .dropped probe :: h => (inFlight h).erase probe
  | .recorded probe _ _ _ :: h => (inFlight h).erase probe
  | .discarded probe :: h => (inFlight h).erase probe
  | _ :: h => inFlight h

/-- The records a call holds, each with the context it was picked up in: those of its workers and
those that are queued. -/
def Runner.holds (runner : Runner) : List (HealthContext × HealthState) :=
  runner.workers.map (fun w => (w.generation, w.state)) ++
    match runner.phase.holding with
    | none => []
    | some (generation, jobs) => jobs.map (generation, ·)

/-- The health key of a held record. -/
def holdKey (hold : HealthContext × HealthState) : GoString := healthKey hold.2.route

namespace HealthRun

/-- A probe goroutine of a call in progress. -/
def Probing {ρ : Type} (s : HealthRun ρ) (w : Worker) : Prop :=
  ∃ caller runner, s.runners caller = some runner ∧ w ∈ runner.workers

end HealthRun

/-- A call whose workers are the probes in flight. -/
structure Runner.Owned (h : List HealthEvent) (runner : Runner) : Prop where
  bounded : runner.workers.length ≤ 4
  waiting : runner.phase = .waiting → runner.workers = []
  flying : (runner.workers.map (·.id)).Perm (inFlight h)

lemma Runner.holds_remove {ctx : Nat} {phase : RunnerPhase} {before after : List Worker}
    {w : Worker} :
    Runner.holds { ctx, phase, workers := before ++ w :: after } |>.Perm
      ((w.generation, w.state) :: Runner.holds { ctx, phase, workers := before ++ after }) := by
  simp only [Runner.holds, List.map_append, List.map_cons, List.append_assoc, List.cons_append]
  exact List.perm_middle

/-- A worker that takes a step keeps what its call holds. -/
lemma Runner.holds_advance {ctx : Nat} {phase phase' : RunnerPhase} {before after : List Worker}
    {w : Worker} {at_phase : WorkerPhase} (same : phase'.holding = phase.holding) :
    Runner.holds { ctx, phase := phase', workers := before ++ { w with phase := at_phase } :: after } =
      Runner.holds { ctx, phase, workers := before ++ w :: after } := by
  simp [Runner.holds, same]

namespace HealthRun
variable {ρ : Type}

/-- No call is in progress, or exactly one, and its workers are the probes in flight. -/
inductive Owned (h : List HealthEvent) (s : HealthRun ρ) : Prop where
  | idle :
    s.runners = (fun _ => none) →
    s.router.healthRunning = false →
    inFlight h = [] →
    Owned h s
  | busy (caller : Nat) (runner : Runner) :
    s.runners = Function.update (fun _ => none) caller (some runner) →
    s.router.healthRunning = true →
    runner.Owned h →
    Owned h s

/-- A call in progress is the only one. -/
lemma Owned.holder {h : List HealthEvent} {s : HealthRun ρ} (inv : Owned h s) {caller : Nat}
    {runner : Runner} (running : s.runners caller = some runner) :
    s.runners = Function.update (fun _ => none) caller (some runner) ∧
      s.router.healthRunning = true ∧ runner.Owned h := by
  cases inv with
  | idle none_running _ _ =>
    rw [none_running] at running
    cases running
  | busy owner owned only flag kept =>
    by_cases same : caller = owner
    · subst same
      rw [only, Function.update_self] at running
      cases running
      exact ⟨only, flag, kept⟩
    · rw [only, Function.update_of_ne same] at running
      cases running

/-- A step that leaves the calls and the flag alone. -/
lemma Owned.other {h : List HealthEvent} {s t : HealthRun ρ} (inv : Owned h s) {e : HealthEvent}
    (runners : t.runners = s.runners) (flag : t.router.healthRunning = s.router.healthRunning)
    (flying : inFlight (e :: h) = inFlight h) : Owned (e :: h) t := by
  cases inv with
  | idle none_running off empty =>
    exact .idle (runners.trans none_running) (flag.trans off) (flying.trans empty)
  | busy caller runner only on owned =>
    obtain ⟨bounded, waiting, perm⟩ := owned
    refine .busy caller runner (runners.trans only) (flag.trans on) ⟨bounded, waiting, ?_⟩
    rw [flying]
    exact perm

/-- A step of the call in progress. -/
lemma Owned.turn {h : List HealthEvent} {s t : HealthRun ρ} (inv : Owned h s) {e : HealthEvent}
    {caller : Nat} {runner runner' : Runner} (running : s.runners caller = some runner)
    (runners : t.runners = Function.update s.runners caller (some runner'))
    (flag : t.router.healthRunning = s.router.healthRunning)
    (owned : runner.Owned h → runner'.Owned (e :: h)) : Owned (e :: h) t := by
  obtain ⟨only, on, kept⟩ := inv.holder running
  refine .busy caller runner' ?_ (flag.trans on) (owned kept)
  rw [runners, only, Function.update_idem]

/-- A worker ends. -/
lemma Owned.finish {h : List HealthEvent} {s t : HealthRun ρ} (inv : Owned h s) {e : HealthEvent}
    {caller ctx : Nat} {phase : RunnerPhase} {before after : List Worker} {w : Worker}
    (running : s.runners caller = some { ctx, phase, workers := before ++ w :: after })
    (runners : t.runners =
      Function.update s.runners caller (some { ctx, phase, workers := before ++ after }))
    (flag : t.router.healthRunning = s.router.healthRunning)
    (flying : inFlight (e :: h) = (inFlight h).erase w.id) : Owned (e :: h) t := by
  refine inv.turn running runners flag ?_
  intro owned
  obtain ⟨bounded, waiting, perm⟩ := owned
  refine ⟨?_, ?_, ?_⟩
  · simp only [List.length_append, List.length_cons] at bounded ⊢
    omega
  · intro idle
    simpa using waiting idle
  · rw [flying]
    have moved : ((before ++ w :: after).map (·.id)).Perm (w.id :: (before ++ after).map (·.id)) := by
      simp only [List.map_append, List.map_cons]
      exact List.perm_middle
    simpa using (moved.symm.trans perm).erase w.id

variable [Regexp ρ]

/-- Every step keeps the invariant. -/
lemma step_owned {h : List HealthEvent} {s : HealthRun ρ} {e : HealthEvent} {t : HealthRun ρ}
    (inv : Owned h s) (st : Step s e t) : Owned (e :: h) t := by
  cases st with
  | update ord routes => exact inv.other rfl rfl rfl
  | resolve hostname path =>
    obtain ⟨pools, frame⟩ := s.router.resolve_frame hostname path
    exact inv.other rfl (by simp only [frame]) rfl
  | start ord caller ctx _ off =>
    cases inv with
    | idle none_running _ empty =>
      refine .busy caller _ (by rw [setRunner, none_running]) rfl ⟨by simp, fun _ => rfl, ?_⟩
      have kept : inFlight (.started caller :: h) = [] := empty
      rw [kept]
      exact .nil
    | busy _ _ _ on _ =>
      rw [off] at on
      cases on
  | ignore caller _ _ => exact inv.other rfl rfl rfl
  | «end» ctx => exact inv.other rfl rfl rfl
  | sweep ord caller ctx generation woken waiting _ _ =>
    refine inv.turn waiting rfl rfl ?_
    intro owned
    exact ⟨by simp, fun _ => rfl, owned.flying⟩
  | launch caller ctx generation state jobs workers sweeping free =>
    refine inv.turn sweeping rfl rfl ?_
    intro owned
    refine ⟨free, ?_, owned.flying.cons s.nextProbe⟩
    intro waiting
    cases waiting
  | skip caller ctx generation state jobs workers sweeping _ =>
    refine inv.turn sweeping rfl rfl ?_
    intro owned
    refine ⟨owned.bounded, ?_, owned.flying⟩
    intro waiting
    cases waiting
  | check caller ctx generation jobs workers checking =>
    refine inv.turn checking rfl rfl ?_
    intro owned
    refine ⟨owned.bounded, ?_, owned.flying⟩
    intro idle
    split at idle <;> cases idle
  | exhaust caller ctx generation workers sweeping =>
    refine inv.turn sweeping rfl rfl ?_
    intro owned
    refine ⟨owned.bounded, ?_, owned.flying⟩
    intro waiting
    cases waiting
  | join caller ctx joining =>
    refine inv.turn joining rfl rfl ?_
    intro owned
    exact ⟨by simp, fun _ => rfl, owned.flying⟩
  | begin caller ctx phase before after w running _ _ =>
    refine inv.turn running rfl rfl ?_
    intro owned
    refine ⟨by simpa using owned.bounded, ?_, by simpa [inFlight] using owned.flying⟩
    intro idle
    simpa using owned.waiting idle
  | drop caller ctx phase before after w running _ _ => exact inv.finish running rfl rfl rfl
  | answer caller ctx phase before after w status expired running _ =>
    refine inv.turn running rfl rfl ?_
    intro owned
    refine ⟨by simpa using owned.bounded, ?_, by simpa [inFlight] using owned.flying⟩
    intro idle
    simpa using owned.waiting idle
  | record caller ctx phase before after w status healthy running _ _ =>
    obtain ⟨health, frame⟩ := s.router.record_frame w.state.route healthy s.clock
    exact inv.finish running rfl (by simp only [setRunner, frame]) rfl
  | discard caller ctx phase before after w status healthy running _ _ =>
    exact inv.finish running rfl rfl rfl
  | «return» caller ctx waiting _ =>
    obtain ⟨only, _, owned⟩ := inv.holder waiting
    refine .idle ?_ rfl ?_
    · simp only [setRunner, only, Function.update_idem, Function.update_eq_self_iff]
    · exact List.nil_perm.mp owned.flying
  | tick clock _ => exact inv.other rfl rfl rfl

/-- The invariant holds along every run. -/
theorem run_owned {h : List HealthEvent} {s : HealthRun ρ} (run : (system ρ).Run h s) :
    Owned h s := by
  refine System.Run.invariant Owned ?_ ?_ run
  · rintro _ rfl
    exact .idle rfl rfl rfl
  · intro h s e t _ inv st
    exact step_owned inv st

/-- What a call holds after a step it held before, or a sweep has just picked it up. -/
lemma step_holds {s t : HealthRun ρ} {e : HealthEvent} (st : Step s e t) {caller : Nat}
    {runner' : Runner} (running : t.runners caller = some runner') :
    (∃ runner, s.runners caller = some runner ∧ runner'.holds.Subperm runner.holds) ∨
      runner'.holds = [] ∨
      ∃ ord generation, s.router.healthContext = some generation ∧
        runner'.holds = (dueJobs ord s.clock s.router.health).map (generation, ·) := by
  -- a call other than the one that moves holds what it held
  have moved {s t : HealthRun ρ} {c : Nat} {old : Runner} {replaced : Option Runner}
      (runners : t.runners = (s.setRunner c replaced).runners) (before : s.runners c = some old)
      (less : ∀ runner, replaced = some runner → runner.holds.Subperm old.holds)
      (running : t.runners caller = some runner') :
      ∃ runner, s.runners caller = some runner ∧ runner'.holds.Subperm runner.holds := by
    by_cases same : caller = c
    · subst same
      rw [runners] at running
      simp only [setRunner, Function.update_self] at running
      exact ⟨old, before, less runner' running⟩
    · rw [runners] at running
      simp only [setRunner, Function.update_of_ne same] at running
      exact ⟨runner', running, .refl _⟩
  cases st with
  | start ord c ctx _ _ =>
    rcases setRunner_cases running with here | old
    · cases here
      exact .inr (.inl rfl)
    · exact .inl ⟨runner', old, .refl _⟩
  | sweep ord c ctx generation woken waiting _ current =>
    rcases setRunner_cases running with here | old
    · cases here
      exact .inr (.inr ⟨ord, generation, current, rfl⟩)
    · exact .inl ⟨runner', old, .refl _⟩
  | launch c ctx generation state jobs workers sweeping _ =>
    refine .inl (moved rfl sweeping ?_ running)
    rintro _ ⟨⟩
    exact List.perm_middle.symm.subperm
  | skip c ctx generation state jobs workers sweeping _ =>
    refine .inl (moved rfl sweeping ?_ running)
    rintro _ ⟨⟩
    exact ((List.sublist_cons_self _ _).append_left _).subperm
  | check c ctx generation jobs workers checking =>
    refine .inl (moved rfl checking ?_ running)
    rintro _ ⟨⟩
    cases generation.err s.router.cancelled s.ended with
    | true => exact ((List.nil_sublist _).append_left _).subperm
    | false => exact .refl _
  | exhaust c ctx generation workers sweeping =>
    refine .inl (moved rfl sweeping ?_ running)
    rintro _ ⟨⟩
    exact .refl _
  | join c ctx joining =>
    refine .inl (moved rfl joining ?_ running)
    rintro _ ⟨⟩
    exact .refl _
  | begin c ctx phase before after w spawned _ _ =>
    refine .inl (moved rfl spawned ?_ running)
    rintro _ ⟨⟩
    rw [Runner.holds_advance rfl]
  | drop c ctx phase before after w spawned _ _ =>
    refine .inl (moved rfl spawned ?_ running)
    rintro _ ⟨⟩
    exact (List.sublist_cons_self _ _).subperm.trans Runner.holds_remove.symm.subperm
  | answer c ctx phase before after w status expired requesting _ =>
    refine .inl (moved rfl requesting ?_ running)
    rintro _ ⟨⟩
    rw [Runner.holds_advance rfl]
  | record c ctx phase before after w status healthy answered _ _ =>
    refine .inl (moved (s := s) rfl answered ?_ running)
    rintro _ ⟨⟩
    exact (List.sublist_cons_self _ _).subperm.trans Runner.holds_remove.symm.subperm
  | discard c ctx phase before after w status healthy answered _ _ =>
    refine .inl (moved rfl answered ?_ running)
    rintro _ ⟨⟩
    exact (List.sublist_cons_self _ _).subperm.trans Runner.holds_remove.symm.subperm
  | «return» c ctx waiting _ =>
    refine .inl (moved (s := s) rfl waiting ?_ running)
    rintro _ ⟨⟩
  | _ => exact .inl ⟨runner', running, .refl _⟩

/-- The due records have distinct keys, as the entries of the map do. -/
lemma dueJobs_apart {ord : RangeOrder (GoString × HealthState)} {clock : Int}
    {health : GoMap GoString HealthState}
    (keyed : ∀ key state, health.lookup key = some state → healthKey state.route = key) :
    ((dueJobs ord clock health).map fun job => healthKey job.route).Nodup := by
  have entries : (health.pairs.map fun entry => healthKey entry.2.route).Nodup := by
    have keys : health.pairs.map (fun entry => healthKey entry.2.route) = health.pairs.map (·.1) := by
      apply List.map_congr_left
      intro entry member
      exact keyed entry.1 entry.2 (GoMap.mem_pairs.mp member)
    rw [keys, GoMap.pairs, List.map_map]
    exact health.nodupKeys
  have visited : ((ord.visit health.pairs).map fun entry => healthKey entry.2.route).Nodup := by
    rw [((ord.perm health.pairs).map _).nodup_iff]
    exact entries
  rw [← Function.comp_def (fun job : HealthState => healthKey job.route) Prod.snd,
    ← List.map_map] at visited
  refine ((List.perm_insertionSort _ _).map _).nodup_iff.mpr ?_
  exact visited.sublist (List.filter_sublist.map _)

/-- No health key is held twice. -/
theorem run_apart {h : List HealthEvent} {s : HealthRun ρ} (run : (system ρ).Run h s) :
    ∀ caller runner, s.runners caller = some runner → (runner.holds.map holdKey).Nodup := by
  induction run with
  | start ini =>
    cases ini
    nofun
  | next run st ih =>
    intro caller runner' running
    rcases step_holds st running with ⟨runner, before, less⟩ | empty | ⟨ord, generation, _, swept⟩
    · obtain ⟨kept, perm, fewer⟩ := less
      exact (perm.map holdKey).nodup_iff.mp ((ih caller runner before).sublist (fewer.map holdKey))
    · rw [empty]
      exact List.nodup_nil
    · rw [swept, List.map_map]
      exact dueJobs_apart fun key state stored => ((run_fenced run).records key state stored).1

end HealthRun
end Pintle
