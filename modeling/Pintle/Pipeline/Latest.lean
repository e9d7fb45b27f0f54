import Pintle.Lib.Stamped
import Pintle.Pipeline.Run

/-!
# The latest accepted configuration wins

The configurations on their way from the aggregator to the router carry the number of messages they
were merged from (`MergedFrom`). Along every run they are stamped in order and the newest one is the
last on its way (`Sound.stamped`): the drop of `Aggregator.Update` only ever removes one with a
newer behind it. Deleting the rejected messages of a run leaves a run that does everything else
alike (`Run.cleaned`).
-/

namespace Pintle
open Go Lib

/-- The messages that are merged into a configuration are the first `n` of a list. -/
def MergedFrom (msgs : List Message) (n : Nat) (merged : Configuration) : Prop :=
  ∃ ord, merged = merge ord (Configs.storeAll (msgs.take n))

/-- The configuration the watcher is about to hand over. -/
def WatcherPhase.outgoing : WatcherPhase → List Configuration
  | .offering merged => [merged]
  | .draining merged => [merged]
  | .sending merged => [merged]
  | _ => []

/-- The configuration the applier took and has not applied yet. -/
def ApplierPhase.incoming : ApplierPhase → List Configuration
  | .received merged => [merged]
  | _ => []

lemma acceptedMessages_cons (e : PipelineEvent) (h : List PipelineEvent) :
    acceptedMessages (e :: h) = acceptedMessages h ++ e.accepted?.toList := by
  cases accepted : e.accepted? <;> simp [acceptedMessages, accepted]

lemma acceptedMessages_append (k h : List PipelineEvent) :
    acceptedMessages (k ++ h) = acceptedMessages h ++ acceptedMessages k := by
  simp [acceptedMessages]

lemma appliedConfigs_cons (e : PipelineEvent) (h : List PipelineEvent) :
    appliedConfigs (e :: h) = appliedConfigs h ++ e.applied?.toList := by
  cases applied : e.applied? <;> simp [appliedConfigs, applied]

lemma storeAll_append (msgs : List Message) (msg : Message) :
    Configs.storeAll (msgs ++ [msg]) = (Configs.storeAll msgs).store msg := by
  rw [Configs.storeAll, List.foldl_append]
  rfl

/-- The aggregator keeps the last message of each provider. -/
lemma storeAll_lookup (msgs : List Message) (provider : GoString) :
    (Configs.storeAll msgs).lookup provider =
      msgs.reverse.find? (·.providerName = provider) := by
  induction msgs using List.reverseRecOn with
  | nil => rfl
  | append_singleton msgs msg ih =>
    rw [storeAll_append, List.reverse_append, List.reverse_singleton, List.singleton_append,
      List.find?_cons, Configs.store]
    by_cases same : provider = msg.providerName
    · subst same
      simp
    · rw [AList.lookup_insert_ne same, ih]
      simp [Ne.symm same]

namespace Pipeline
variable {ρ : Type}

/-- The configurations applied or on their way to the router, oldest first. -/
def stages (h : List PipelineEvent) (s : Pipeline ρ) : List Configuration :=
  appliedConfigs h ++ s.applier.incoming ++ s.aggCh.toList ++ s.watcher.outgoing

/-- The TCP routes are those of the last applied configuration, or the applier is about to set them.
-/
def TcpSet (s : Pipeline ρ) (last : Configuration) : Prop :=
  match s.applier with
  | .routed merged => merged = last
  | _ => s.allTcpRoutes = last.tcpRoutes

/-- The invariant of the pipeline. -/
structure Sound [Regexp ρ] (c : Config) (h : List PipelineEvent) (s : Pipeline ρ) : Prop where
  stored : s.configs = Configs.storeAll (acceptedMessages h)
  ok : ∀ msg ∈ acceptedMessages h, c.accepts msg = true
  before : s.started = false →
    acceptedMessages h = [] ∧ stages h s = [] ∧ s.watcher = .idle ∧ s.applier = .idle
  stamped : s.started = true →
    Stamped (MergedFrom (acceptedMessages h)) (acceptedMessages h).length (stages h s)
  cleared : ∀ merged, s.watcher = .sending merged → s.aggCh = none
  tables : ∀ last, (appliedConfigs h).getLast? = some last → s.router.Installed last.routes
  tcp : ∀ last, (appliedConfigs h).getLast? = some last → s.TcpSet last
  static : c.staticOnly = true → s.allTcpRoutes = [] ∧ ∀ merged, s.applier ≠ .routed merged

variable [Regexp ρ]

lemma mergedFrom_append {msgs : List Message} {msg : Message} {k : Nat} (bound : k ≤ msgs.length)
    {merged : Configuration} (from_ : MergedFrom msgs k merged) :
    MergedFrom (msgs ++ [msg]) k merged := by
  obtain ⟨ord, e⟩ := from_
  refine ⟨ord, ?_⟩
  rw [e, List.take_append_of_le_length bound]

/-- In static-only mode no merged configuration has TCP routes. -/
lemma mergedFrom_static {c : Config} (static : c.staticOnly = true) {msgs : List Message}
    (ok : ∀ msg ∈ msgs, c.accepts msg = true) {k : Nat} {merged : Configuration}
    (from_ : MergedFrom msgs k merged) : merged.tcpRoutes = [] := by
  obtain ⟨ord, rfl⟩ := from_
  rw [merge_tcpRoutes, List.flatMap_eq_nil_iff]
  intro entry visited
  obtain ⟨provider, msg⟩ := entry
  have stored := GoMap.mem_pairs.mp (ord.mem_visit.mp visited)
  rw [storeAll_lookup] at stored
  have member := List.mem_of_mem_take (List.mem_reverse.mp (List.mem_of_find?_eq_some stored))
  exact (Config.accepts_static static (ok msg member)).2.2.1

lemma initial_sound (c : Config) : Sound c [] (initial : Pipeline ρ) where
  stored := rfl
  ok _ member := by cases member
  before _ := ⟨rfl, rfl, rfl, rfl⟩
  stamped started := by cases started
  cleared _ sending := by cases sending
  tables _ last := by cases last
  tcp _ last := by cases last
  static _ := ⟨rfl, nofun⟩

/-- A step that accepts and applies nothing. -/
lemma Sound.quiet {c : Config} {h : List PipelineEvent} {s t : Pipeline ρ} (inv : Sound c h s)
    {e : PipelineEvent} (unaccepted : e.accepted? = none) (unapplied : e.applied? = none)
    (configs : t.configs = s.configs) (started : t.started = s.started)
    (router : t.router = s.router)
    (before : s.started = false → t.aggCh = s.aggCh ∧ t.watcher = s.watcher ∧ t.applier = s.applier)
    (stamped : Stamped (MergedFrom (acceptedMessages h)) (acceptedMessages h).length (stages h s) →
      Stamped (MergedFrom (acceptedMessages h)) (acceptedMessages h).length (stages h t))
    (cleared : ∀ merged, t.watcher = .sending merged → t.aggCh = none)
    (tcp : ∀ last, s.TcpSet last → t.TcpSet last)
    (static : c.staticOnly = true → t.allTcpRoutes = [] ∧ ∀ merged, t.applier ≠ .routed merged) :
    Sound c (e :: h) t := by
  have accepted : acceptedMessages (e :: h) = acceptedMessages h := by
    rw [acceptedMessages_cons, unaccepted, Option.toList_none, List.append_nil]
  have applied : appliedConfigs (e :: h) = appliedConfigs h := by
    rw [appliedConfigs_cons, unapplied, Option.toList_none, List.append_nil]
  have same (u : Pipeline ρ) : stages (e :: h) u = stages h u := by rw [stages, applied, stages]
  refine ⟨?_, ?_, ?_, ?_, cleared, ?_, ?_, static⟩
  · rw [configs, accepted]
    exact inv.stored
  · rw [accepted]
    exact inv.ok
  · intro unstarted
    rw [started] at unstarted
    obtain ⟨none_yet, empty, idle, idle'⟩ := inv.before unstarted
    obtain ⟨aggCh, watcher, applier⟩ := before unstarted
    refine ⟨accepted.trans none_yet, ?_, watcher.trans idle, applier.trans idle'⟩
    rw [same, stages, aggCh, watcher, applier]
    exact empty
  · intro running
    rw [accepted, same]
    exact stamped (inv.stamped (started ▸ running))
  · rw [applied, router]
    exact inv.tables
  · rw [applied]
    intro last found
    exact tcp last (inv.tcp last found)

/-- A goroutine past its `select` runs after startup only. -/
lemma Sound.running {c : Config} {h : List PipelineEvent} {s : Pipeline ρ} (inv : Sound c h s)
    (busy : s.watcher ≠ .idle ∨ s.applier ≠ .idle) : s.started = true := by
  cases started : s.started with
  | true => rfl
  | false =>
    obtain ⟨_, _, idle, idle'⟩ := inv.before started
    rcases busy with watcher | applier
    · exact absurd idle watcher
    · exact absurd idle' applier

/-- A step of the watcher that accepts nothing: it hands its configuration on, or drops an older
one. -/
lemma Sound.handOn {c : Config} {h : List PipelineEvent} {s : Pipeline ρ} (inv : Sound c h s)
    {e : PipelineEvent} (unaccepted : e.accepted? = none) (unapplied : e.applied? = none)
    (running : s.started = true) (configCh : List Message) (watcher : WatcherPhase)
    (aggCh : Option Configuration)
    (stamped : Stamped (MergedFrom (acceptedMessages h)) (acceptedMessages h).length (stages h s) →
      Stamped (MergedFrom (acceptedMessages h)) (acceptedMessages h).length
        (stages h { s with configCh, watcher, aggCh }))
    (cleared : ∀ merged, watcher = .sending merged → aggCh = none) :
    Sound c (e :: h) { s with configCh, watcher, aggCh } := by
  refine inv.quiet unaccepted unapplied rfl rfl rfl ?_ stamped cleared (fun _ set => set) inv.static
  intro unstarted
  rw [running] at unstarted
  cases unstarted

/-- The first accepted message. -/
lemma boot_sound {c : Config} {h : List PipelineEvent} {s : Pipeline ρ} (inv : Sound c h s)
    (ord : RangeOrder (GoString × Message)) (visit : RangeOrder (GoString × List Route))
    {msg : Message} (rest : List Message) (unstarted : s.started = false)
    (valid : c.validateMessage msg = none) :
    Sound c (.booted msg (merge ord (s.configs.store msg)) :: h)
      { s with
        started := true
        configCh := rest
        configs := s.configs.store msg
        router := s.router.update visit (merge ord (s.configs.store msg)).routes
        allTcpRoutes := (merge ord (s.configs.store msg)).tcpRoutes } := by
  -- nothing was accepted or is on its way before startup
  obtain ⟨none_yet, empty, idle, idle'⟩ := inv.before unstarted
  have accepted : acceptedMessages (.booted msg (merge ord (s.configs.store msg)) :: h) = [msg] := by
    rw [acceptedMessages_cons, none_yet]
    rfl
  simp only [stages, List.append_eq_nil_iff] at empty
  have applied : appliedConfigs (.booted msg (merge ord (s.configs.store msg)) :: h) =
      [merge ord (s.configs.store msg)] := by
    rw [appliedConfigs_cons, empty.1.1.1]
    rfl
  have stored : s.configs = ∅ := by
    rw [inv.stored, none_yet]
    rfl
  have ok : ∀ m ∈ [msg], c.accepts m = true := by
    intro m member
    rw [List.mem_singleton.mp member, Config.accepts, valid]
    rfl
  have first : MergedFrom [msg] 1 (merge ord (s.configs.store msg)) := ⟨ord, by rw [stored]; rfl⟩
  refine ⟨?_, accepted ▸ ok, nofun, ?_, ?_, ?_, ?_, ?_⟩
  · rw [accepted, stored]
    rfl
  · intro _
    have all : stages (.booted msg (merge ord (s.configs.store msg)) :: h) s =
        [merge ord (s.configs.store msg)] := by
      rw [stages, applied, empty.1.1.2, empty.1.2, empty.2]
      rfl
    change Stamped _ _ (stages (.booted msg (merge ord (s.configs.store msg)) :: h) s)
    rw [accepted, all]
    exact .single first
  · intro merged sending
    have watcher : s.watcher = .sending merged := sending
    rw [idle] at watcher
    cases watcher
  · rw [applied]
    rintro _ ⟨⟩
    exact Router.update_installed visit _ s.router
  · rw [applied]
    rintro _ ⟨⟩
    simp only [TcpSet, idle']
    rfl
  · intro static
    refine ⟨mergedFrom_static static ok first, ?_⟩
    intro merged routed
    have applier : s.applier = .routed merged := routed
    rw [idle'] at applier
    cases applier

/-- An accepted message is merged into the newest configuration on its way. -/
lemma accept_sound {c : Config} {h : List PipelineEvent} {s : Pipeline ρ} (inv : Sound c h s)
    (ord : RangeOrder (GoString × Message)) {msg : Message} (validating : s.watcher = .validating msg)
    (valid : c.validateMessage msg = none) :
    Sound c (.accepted msg :: h)
      { s with
        configs := s.configs.store msg
        watcher := .offering (merge ord (s.configs.store msg)) } := by
  have running := inv.running (.inl (by rw [validating]; nofun))
  have accepted : acceptedMessages (.accepted msg :: h) = acceptedMessages h ++ [msg] :=
    acceptedMessages_cons _ h
  have applied : appliedConfigs (.accepted msg :: h) = appliedConfigs h := by
    rw [appliedConfigs_cons]
    exact List.append_nil _
  have stored : s.configs.store msg = Configs.storeAll (acceptedMessages h ++ [msg]) := by
    rw [storeAll_append, inv.stored]
  refine ⟨?_, ?_, ?_, ?_, nofun, ?_, ?_, inv.static⟩
  · rw [accepted, ← stored]
  · rw [accepted]
    intro m member
    rcases List.mem_append.mp member with old | new
    · exact inv.ok m old
    · rw [List.mem_singleton.mp new, Config.accepts, valid]
      rfl
  · intro unstarted
    rw [show s.started = false from unstarted] at running
    cases running
  · -- the merge carries the next version
    intro _
    have grown := (inv.stamped running).push (a := merge ord (s.configs.store msg))
      (fun k bound b from_ => mergedFrom_append bound from_)
      ⟨ord, by rw [List.take_of_length_le (by simp), stored]⟩
    rw [accepted, List.length_append]
    simp only [stages, applied, validating, WatcherPhase.outgoing, List.append_nil] at grown ⊢
    exact grown
  · rw [applied]
    exact inv.tables
  · rw [applied]
    exact inv.tcp

/-- The applier routes by the configuration it took. -/
lemma apply_sound {c : Config} {h : List PipelineEvent} {s : Pipeline ρ} (inv : Sound c h s)
    (visit : RangeOrder (GoString × List Route)) {merged : Configuration}
    (received : s.applier = .received merged) :
    Sound c (.applied merged :: h)
      { s with
        router := s.router.update visit merged.routes
        applier := if c.staticOnly then .idle else .routed merged } := by
  have running := inv.running (.inr (by rw [received]; nofun))
  have accepted : acceptedMessages (.applied merged :: h) = acceptedMessages h := by
    rw [acceptedMessages_cons]
    exact List.append_nil _
  have applied : appliedConfigs (.applied merged :: h) = appliedConfigs h ++ [merged] :=
    appliedConfigs_cons _ h
  have stamped := inv.stamped running
  refine ⟨?_, ?_, ?_, ?_, inv.cleared, ?_, ?_, ?_⟩
  · rw [accepted]
    exact inv.stored
  · rw [accepted]
    exact inv.ok
  · intro unstarted
    rw [show s.started = false from unstarted] at running
    cases running
  · intro _
    rw [accepted]
    have gone : (if c.staticOnly then ApplierPhase.idle else .routed merged).incoming = [] := by
      split <;> rfl
    simp only [stages, applied, gone]
    simpa [stages, received, ApplierPhase.incoming] using stamped
  · rw [applied]
    intro last found
    rw [List.getLast?_concat, Option.some.injEq] at found
    rw [← found]
    exact Router.update_installed visit merged.routes s.router
  · rw [applied]
    intro last found
    rw [List.getLast?_concat, Option.some.injEq] at found
    subst found
    cases static : c.staticOnly with
    | false => simp [TcpSet]
    | true =>
      -- nothing is set, and nothing is to be set
      have member : merged ∈ stages h s := by simp [stages, received, ApplierPhase.incoming]
      obtain ⟨_, _, from_⟩ := stamped.version member
      have none_merged := mergedFrom_static static inv.ok from_
      simp only [TcpSet, if_true]
      rw [none_merged]
      exact (inv.static static).1
  · intro static
    refine ⟨(inv.static static).1, ?_⟩
    rw [static]
    nofun

/-- Where a configuration on its way comes from. -/
lemma Sound.stage {c : Config} {h : List PipelineEvent} {s : Pipeline ρ} (inv : Sound c h s)
    {merged : Configuration} (member : merged ∈ stages h s) :
    ∃ n ≤ (acceptedMessages h).length, MergedFrom (acceptedMessages h) n merged := by
  cases started : s.started with
  | false =>
    rw [(inv.before started).2.1] at member
    cases member
  | true => exact (inv.stamped started).version member

/-- The newest configuration is merged from all accepted messages. -/
lemma Sound.last_stage {c : Config} {h : List PipelineEvent} {s : Pipeline ρ} (inv : Sound c h s)
    {merged : Configuration} (last : (stages h s).getLast? = some merged) :
    MergedFrom (acceptedMessages h) (acceptedMessages h).length merged := by
  cases started : s.started with
  | false =>
    rw [(inv.before started).2.1] at last
    cases last
  | true =>
    obtain ⟨newest, found, from_⟩ := (inv.stamped started).newest
    rw [last] at found
    cases found
    exact from_

/-- Every step keeps the invariant. -/
lemma step_sound {c : Config} {h : List PipelineEvent} {s t : Pipeline ρ} {e : PipelineEvent}
    (inv : Sound c h s) (st : Step c s e t) : Sound c (e :: h) t := by
  cases st with
  | send msg _ =>
    exact inv.quiet rfl rfl rfl rfl rfl (fun _ => ⟨rfl, rfl, rfl⟩) id inv.cleared (fun _ set => set)
      inv.static
  | boot ord visit msg rest unstarted _ valid => exact boot_sound inv ord visit rest unstarted valid
  | receive msg rest running idle _ =>
    refine inv.handOn rfl rfl running rest (.validating msg) s.aggCh ?_ nofun
    simp [stages, idle, WatcherPhase.outgoing]
  | reject msg err validating _ =>
    have running := inv.running (.inl (by rw [validating]; nofun))
    refine inv.handOn rfl rfl running s.configCh .idle s.aggCh ?_ nofun
    simp [stages, validating, WatcherPhase.outgoing]
  | accept ord msg validating valid => exact accept_sound inv ord validating valid
  | offer merged offering empty =>
    have running := inv.running (.inl (by rw [offering]; nofun))
    refine inv.handOn rfl rfl running s.configCh .idle (some merged) ?_ nofun
    simp [stages, offering, empty, WatcherPhase.outgoing]
  | full merged old offering _ =>
    have running := inv.running (.inl (by rw [offering]; nofun))
    refine inv.handOn rfl rfl running s.configCh (.draining merged) s.aggCh ?_ nofun
    simp [stages, offering, WatcherPhase.outgoing]
  | drain merged old draining waiting =>
    -- the old value is dropped, with the newer one right behind it
    have running := inv.running (.inl (by rw [draining]; nofun))
    refine inv.handOn rfl rfl running s.configCh (.sending merged) none ?_ fun _ _ => rfl
    intro stamped
    simp only [stages, draining, waiting, WatcherPhase.outgoing, Option.toList_some,
      List.append_assoc, List.singleton_append] at stamped
    rw [← List.append_assoc] at stamped
    simpa [stages, WatcherPhase.outgoing] using stamped.drop (List.cons_ne_nil _ _)
  | miss merged draining empty =>
    -- the applier took the old value first
    have running := inv.running (.inl (by rw [draining]; nofun))
    refine inv.handOn rfl rfl running s.configCh (.sending merged) s.aggCh ?_ fun _ _ => empty
    simp [stages, draining, WatcherPhase.outgoing]
  | deliver merged sending empty =>
    have running := inv.running (.inl (by rw [sending]; nofun))
    refine inv.handOn rfl rfl running s.configCh .idle (some merged) ?_ nofun
    simp [stages, sending, empty, WatcherPhase.outgoing]
  | take merged running idle waiting =>
    refine inv.quiet rfl rfl rfl rfl rfl ?_ ?_ (fun _ _ => rfl) ?_ ?_
    · intro unstarted
      rw [running] at unstarted
      cases unstarted
    · simp [stages, idle, waiting, ApplierPhase.incoming]
    · intro last set
      simpa [TcpSet, idle] using set
    · intro static
      exact ⟨(inv.static static).1, nofun⟩
  | apply visit merged received => exact apply_sound inv visit received
  | publish merged routed =>
    have running := inv.running (.inr (by rw [routed]; nofun))
    refine inv.quiet rfl rfl rfl rfl rfl ?_ ?_ inv.cleared ?_ ?_
    · intro unstarted
      rw [running] at unstarted
      cases unstarted
    · simp [stages, routed, ApplierPhase.incoming]
    · intro last set
      simp only [TcpSet, routed] at set
      rw [set]
      rfl
    · intro static
      exact absurd routed ((inv.static static).2 merged)
  | «end» =>
    exact inv.quiet rfl rfl rfl rfl rfl (fun _ => ⟨rfl, rfl, rfl⟩) id inv.cleared (fun _ set => set)
      inv.static
  | quitWatcher running _ idle =>
    refine inv.handOn rfl rfl running s.configCh .stopped s.aggCh ?_ nofun
    simp [stages, idle, WatcherPhase.outgoing]
  | quitApplier running _ idle =>
    refine inv.quiet rfl rfl rfl rfl rfl ?_ ?_ inv.cleared ?_ ?_
    · intro unstarted
      rw [running] at unstarted
      cases unstarted
    · simp [stages, idle, ApplierPhase.incoming]
    · intro last set
      simpa [TcpSet, idle] using set
    · intro static
      exact ⟨(inv.static static).1, nofun⟩

/-- The invariant holds along every run. -/
theorem run_sound {c : Config} {h : List PipelineEvent} {s : Pipeline ρ}
    (run : (system ρ c).Run h s) : Sound c h s := by
  refine System.Run.invariant (Sound c) ?_ ?_ run
  · rintro _ rfl
    exact initial_sound c
  · intro h s e t _ inv st
    exact step_sound inv st

/-- A pipeline without the messages that will be rejected. -/
def clean (c : Config) (s : Pipeline ρ) : Pipeline ρ :=
  { s with
    configCh := s.configCh.filter c.accepts
    watcher :=
      match s.watcher with
      | .validating msg => if c.accepts msg then .validating msg else .idle
      | watcher => watcher }

end Pipeline

/-- Whether an event is not about a message that is rejected. -/
def PipelineEvent.kept (c : Config) : PipelineEvent → Bool
  | .sent msg => c.accepts msg
  | .received msg => c.accepts msg
  | .rejected _ _ => false
  | _ => true

namespace Pipeline
variable {ρ : Type} [Regexp ρ]

lemma accepts_of_valid {c : Config} {msg : Message} (valid : c.validateMessage msg = none) :
    c.accepts msg = true := by
  rw [Config.accepts, valid]
  rfl

/-- A step about no rejected message is a step of the cleaned pipeline. -/
lemma step_clean {c : Config} {s t : Pipeline ρ} {e : PipelineEvent} (st : Step c s e t)
    (kept : e.kept c = true) : Step c (s.clean c) e (t.clean c) := by
  cases st with
  | send msg room =>
    have shorter := List.length_filter_le c.accepts s.configCh
    have sent := Step.send (ρ := ρ) (c := c) (s := s.clean c) msg (by simp only [clean]; omega)
    have valid : c.accepts msg = true := kept
    rw [show (s.clean c).configCh ++ [msg] = (s.configCh ++ [msg]).filter c.accepts from by
      simp [clean, valid]] at sent
    exact sent
  | boot ord visit msg rest unstarted waiting valid =>
    refine .boot (s := s.clean c) ord visit msg (rest.filter c.accepts) unstarted ?_ valid
    simp only [clean, waiting]
    exact List.filter_cons_of_pos (accepts_of_valid valid)
  | receive msg rest running idle waiting =>
    have valid : c.accepts msg = true := kept
    have received := Step.receive (ρ := ρ) (c := c) (s := s.clean c) msg (rest.filter c.accepts) running
      (by simp only [clean, idle]) (by simp only [clean, waiting, List.filter_cons_of_pos valid])
    simpa only [clean, valid, if_true] using received
  | reject msg err _ _ => cases kept
  | accept ord msg validating valid =>
    refine .accept (s := s.clean c) ord msg ?_ valid
    simp only [clean, validating, accepts_of_valid valid, if_true]
  | offer merged offering empty =>
    exact .offer (s := s.clean c) merged (by simp only [clean, offering]) empty
  | full merged old offering waiting =>
    exact .full (s := s.clean c) merged old (by simp only [clean, offering]) waiting
  | drain merged old draining waiting =>
    exact .drain (s := s.clean c) merged old (by simp only [clean, draining]) waiting
  | miss merged draining empty =>
    exact .miss (s := s.clean c) merged (by simp only [clean, draining]) empty
  | deliver merged sending empty =>
    exact .deliver (s := s.clean c) merged (by simp only [clean, sending]) empty
  | take merged running idle waiting => exact .take (s := s.clean c) merged running idle waiting
  | apply visit merged received => exact .apply (s := s.clean c) visit merged received
  | publish merged routed => exact .publish (s := s.clean c) merged routed
  | «end» => exact .end (s := s.clean c)
  | quitWatcher running ended idle =>
    exact .quitWatcher (s := s.clean c) running ended (by simp only [clean, idle])
  | quitApplier running ended idle => exact .quitApplier (s := s.clean c) running ended idle

/-- A step about a rejected message does not change the cleaned pipeline. -/
lemma step_dropped {c : Config} {s t : Pipeline ρ} {e : PipelineEvent} (st : Step c s e t)
    (dropped : e.kept c = false) : t.clean c = s.clean c := by
  cases st with
  | send msg _ =>
    have invalid : c.accepts msg = false := dropped
    simp [clean, invalid]
  | receive msg rest _ idle waiting =>
    have invalid : c.accepts msg = false := dropped
    simp [clean, invalid, idle, waiting]
  | reject msg err validating invalid =>
    have rejected : c.accepts msg = false := by
      rw [Config.accepts, invalid]
      rfl
    simp [clean, validating, rejected]
  | _ => cases dropped

/-- Deleting the rejected messages of a run leaves a run. -/
lemma run_clean {c : Config} {h : List PipelineEvent} {s : Pipeline ρ} (run : (system ρ c).Run h s) :
    (system ρ c).Run (h.filter (·.kept c)) (s.clean c) := by
  refine System.Run.project (clean c) _ ?_ ?_ ?_ run
  · rintro _ rfl
    rfl
  · intro s e t st kept
    exact step_clean st kept
  · intro s e t st dropped
    exact step_dropped st dropped

end Pipeline

lemma filterMap_kept {α : Type} (c : Config) (f : PipelineEvent → Option α)
    (silent : ∀ e, e.kept c = false → f e = none) (h : List PipelineEvent) :
    (h.filter (·.kept c)).filterMap f = h.filterMap f := by
  induction h with
  | nil => rfl
  | cons e h ih =>
    cases kept : e.kept c with
    | true => rw [List.filter_cons_of_pos kept, List.filterMap_cons, List.filterMap_cons, ih]
    | false =>
      rw [List.filter_cons_of_neg (by simp [kept]), ih, List.filterMap_cons_none (silent e kept)]

lemma acceptedMessages_kept (c : Config) (h : List PipelineEvent) :
    acceptedMessages (h.filter (·.kept c)) = acceptedMessages h := by
  rw [acceptedMessages, filterMap_kept c _ ?_, acceptedMessages]
  intro e dropped
  cases e <;> first | rfl | cases dropped

lemma appliedConfigs_kept (c : Config) (h : List PipelineEvent) :
    appliedConfigs (h.filter (·.kept c)) = appliedConfigs h := by
  rw [appliedConfigs, filterMap_kept c _ ?_, appliedConfigs]
  intro e dropped
  cases e <;> first | rfl | cases dropped

namespace Pipeline
variable {ρ : Type} [Regexp ρ]

/-- The configurations applied are merges of increasing prefixes of the accepted messages. -/
lemma applied_increasing {c : Config} {h : List PipelineEvent} {s : Pipeline ρ}
    (inv : Sound c h s) :
    ∃ stamps : List (Nat × Configuration), stamps.map (·.2) = appliedConfigs h ∧
      (∀ stamp ∈ stamps, stamp.1 ≤ (acceptedMessages h).length ∧
        MergedFrom (acceptedMessages h) stamp.1 stamp.2) ∧
      stamps.Pairwise fun earlier later => earlier.1 < later.1 := by
  cases started : s.started with
  | false =>
    obtain ⟨_, empty, _⟩ := inv.before started
    simp only [stages, List.append_eq_nil_iff] at empty
    exact ⟨[], by rw [empty.1.1.1]; rfl, by simp, .nil⟩
  | true =>
    obtain ⟨stamps, split, related, increasing, _, last⟩ := inv.stamped started
    have bound := Stamped.le_last increasing last
    rw [stages, List.append_assoc, List.append_assoc] at split
    obtain ⟨applied, later, rfl, e, _⟩ := List.map_eq_append_iff.mp split
    refine ⟨applied, e, ?_, (List.pairwise_append.mp increasing).1⟩
    intro stamp member
    have inside := List.mem_append_left later member
    exact ⟨bound stamp inside, related stamp inside⟩

/-- A pipeline at rest has applied the merge of all accepted messages. -/
lemma rest_latest {c : Config} {h : List PipelineEvent} {s : Pipeline ρ} (inv : Sound c h s)
    (started : s.started = true) (empty : s.aggCh = none) (idle : s.watcher = .idle)
    (idle' : s.applier = .idle) :
    ∃ ord, (appliedConfigs h).getLast? = some (merge ord s.configs) ∧
      s.router.Installed (merge ord s.configs).routes ∧
      s.allTcpRoutes = (merge ord s.configs).tcpRoutes := by
  obtain ⟨last, newest, ord, merged⟩ := (inv.stamped started).newest
  rw [List.take_length, ← inv.stored] at merged
  have all : stages h s = appliedConfigs h := by
    simp [stages, empty, idle, idle', WatcherPhase.outgoing, ApplierPhase.incoming]
  rw [all] at newest
  subst merged
  refine ⟨ord, newest, inv.tables _ newest, ?_⟩
  have set := inv.tcp _ newest
  simpa only [TcpSet, idle'] using set

/-- The latest accepted configuration wins. Along every run the configurations applied are merges of
increasing prefixes of the accepted messages; the last send of `Aggregator.Update` finds its channel
empty; once the channel is empty and both goroutines idle, the router's tables and the TCP routes
are the merge of the last accepted message of each provider; and without its rejected messages the
run is a run that accepts and applies the same and ends with the same messages, router and TCP
routes. -/
theorem latest_wins (c : Config) {h : List PipelineEvent} {s : Pipeline ρ}
    (run : (system ρ c).Run h s) :
    (∃ stamps : List (Nat × Configuration), stamps.map (·.2) = appliedConfigs h ∧
      (∀ stamp ∈ stamps, stamp.1 ≤ (acceptedMessages h).length ∧
        MergedFrom (acceptedMessages h) stamp.1 stamp.2) ∧
      stamps.Pairwise fun earlier later => earlier.1 < later.1) ∧
    (∀ merged, s.watcher = .sending merged → s.aggCh = none) ∧
    (s.started = true → s.aggCh = none → s.watcher = .idle → s.applier = .idle →
      ∃ ord, (appliedConfigs h).getLast? = some (merge ord s.configs) ∧
        s.router.Installed (merge ord s.configs).routes ∧
        s.allTcpRoutes = (merge ord s.configs).tcpRoutes) ∧
    (∀ provider, s.configs.lookup provider =
      (acceptedMessages h).reverse.find? (·.providerName = provider)) ∧
    ∃ t, (system ρ c).Run (h.filter (·.kept c)) t ∧
      acceptedMessages (h.filter (·.kept c)) = acceptedMessages h ∧
      appliedConfigs (h.filter (·.kept c)) = appliedConfigs h ∧
      t.configs = s.configs ∧ t.aggCh = s.aggCh ∧ t.router = s.router ∧
      t.allTcpRoutes = s.allTcpRoutes := by
  have inv := run_sound run
  refine ⟨applied_increasing inv, inv.cleared, rest_latest inv, ?_, s.clean c, run_clean run,
    acceptedMessages_kept c h, appliedConfigs_kept c h, rfl, rfl, rfl, rfl⟩
  intro provider
  rw [inv.stored, storeAll_lookup]

/-- A route file with one route, and the same file without it. -/
def oneRoute : Message where
  providerName := lit "file"
  routes := [{ hostname := lit "a", path := lit "/", target := lit "http://b", source := lit "static" }]

/-- A reload that failed. -/
def failedReload : Message where
  providerName := lit "file"
  err := some (lit "routes document is empty")

theorem latest_wins_reload :
    ∃ h, ∃ s : Pipeline Empty, (system Empty { staticOnly := false }).Run h s ∧
      acceptedMessages h = [{ providerName := lit "file" }, oneRoute] ∧
      s.configCh = [] ∧ ∃ ord, (appliedConfigs h).getLast? = some (merge ord s.configs) ∧
        s.router.Installed (merge ord s.configs).routes ∧
        s.allTcpRoutes = (merge ord s.configs).tcpRoutes := by
  have run := System.Run.next (M := system Empty { staticOnly := false }) (.start rfl)
    (.send { providerName := lit "file" } (by decide))
  have run := run.next (.boot .stored .stored _ [] rfl rfl rfl)
  have run := run.next (.send failedReload (by decide))
  have run := run.next (.send oneRoute (by decide))
  have run := run.next (.receive failedReload [oneRoute] rfl rfl rfl)
  have run := run.next (.reject failedReload _ rfl rfl)
  have run := run.next (.receive oneRoute [] rfl rfl rfl)
  have run := run.next (.accept .stored oneRoute rfl rfl)
  have run := run.next (.offer _ rfl rfl)
  have run := run.next (.take _ rfl rfl rfl)
  have run := run.next (.apply .stored _ rfl)
  have run := run.next (.publish _ rfl)
  exact ⟨_, _, run, rfl, rfl, (latest_wins _ run).2.2.1 rfl rfl rfl rfl⟩

end Pipeline
end Pintle
