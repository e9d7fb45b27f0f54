import Pintle.Docker.Watch

/-!
# Container changes and the event stream

A change of a labelled container reaches the provider through the stream, the debounce timer and a
discovery. It is lost when no stream is subscribed at that moment, and when the stream fails before
the discovery begins: the events in the stream are gone and the timer is stopped. `InTouch` is the
invariant of the runs where neither happens; `no_change_lost` says what follows for a watcher at
rest.
-/

namespace Pintle.Docker
open Go Lib

/-- No list call fails. -/
def WatchEvent.Succeeds : WatchEvent → Prop
  | .listed _ ok _ => ok = true
  | _ => True

namespace Watch

/-- A discovery has not made its first list call. -/
def Unlisted (s : Watch) : Prop := ∃ i, s.discoveries i = some .listingProxy

/-- Labelled containers change only while the stream is subscribed, and the stream fails only when
it is empty and no timer is armed; a discovery that has not listed anything yet will see the change
anyway. -/
def InTime (s : Watch) : WatchEvent → Prop
  | .changed info => s.phase = .watching ∨ info.Unlabelled ∨ s.Unlisted
  | .failed => (s.eventCh = 0 ∧ s.debounceTimer = false) ∨ s.Unlisted
  | _ => True

/-- The stream is connected, and nothing is under way. -/
structure AtRest (s : Watch) : Prop where
  connected : s.phase = .watching
  empty : s.eventCh = 0
  unarmed : s.debounceTimer = false
  idle : s.Idle

/-- The last published message is a discovery of the containers now running. -/
def Current (networkName : GoString) (h : List WatchEvent) (s : Watch) : Prop :=
  ∃ ord, (publishedMessages h).getLast? =
    some (discoveryMessage (discover networkName ord s.running))

/-- An event waits in the stream, or the timer is armed. -/
def Pending (s : Watch) : Prop := 0 < s.eventCh ∨ s.debounceTimer = true

end Watch

/-- Every change of a labelled container is followed by the first list call of a discovery. -/
def Followed (h : List WatchEvent) : Prop :=
  ∀ later info earlier, h = later ++ .changed info :: earlier → ¬ info.Unlabelled →
    ∃ i listed, .listed i true (.listingTraefik listed) ∈ later

/-- What a discovery has listed so far is what it would list now. -/
def Discovery.Sees (networkName : GoString) (running : List Container) : Discovery → Prop
  | .listingProxy => True
  | .listingTraefik proxyContainers => proxyContainers = running.filter Container.hasProxyLabel
  | .listingAll proxyContainers traefikContainers =>
    proxyContainers = running.filter Container.hasProxyLabel ∧
      traefikContainers = running.filter Container.hasTraefikLabel
  | .storing found => ∃ ord, found = discover networkName ord running
  | .sending found => ∃ ord, found = discover networkName ord running

/-- Two sets of containers that no discovery tells apart. -/
structure Alike (networkName : GoString) (running running' : List Container) : Prop where
  proxy : running.filter Container.hasProxyLabel = running'.filter Container.hasProxyLabel
  traefik : running.filter Container.hasTraefikLabel = running'.filter Container.hasTraefikLabel
  found : ∀ ord, discover networkName ord running = discover networkName ord running'

lemma Alike.symm {networkName : GoString} {running running' : List Container}
    (alike : Alike networkName running running') : Alike networkName running' running :=
  ⟨alike.proxy.symm, alike.traefik.symm, fun ord => (alike.found ord).symm⟩

lemma Alike.rfl {networkName : GoString} {running : List Container} :
    Alike networkName running running :=
  ⟨Eq.refl _, Eq.refl _, fun _ => Eq.refl _⟩

lemma alike_unlabelled (networkName : GoString) {info : Container} (unlabelled : info.Unlabelled)
    (before after : List Container) :
    Alike networkName (before ++ info :: after) (before ++ after) where
  proxy := by simp [List.filter_append, unlabelled.1]
  traefik := by simp [List.filter_append, unlabelled.2.1]
  found ord := discover_unlabelled networkName ord unlabelled before after

lemma Discovery.Sees.alike {networkName : GoString} {running running' : List Container} {d : Discovery}
    (sees : d.Sees networkName running) (alike : Alike networkName running running') :
    d.Sees networkName running' := by
  cases d with
  | listingProxy => trivial
  | listingTraefik proxyContainers => exact Eq.trans sees alike.proxy
  | listingAll proxyContainers traefikContainers =>
    exact ⟨sees.1.trans alike.proxy, sees.2.trans alike.traefik⟩
  | storing found =>
    obtain ⟨ord, e⟩ := sees
    exact ⟨ord, e.trans (alike.found ord)⟩
  | sending found =>
    obtain ⟨ord, e⟩ := sees
    exact ⟨ord, e.trans (alike.found ord)⟩

/-- A list call that succeeds sees the containers now running. -/
lemma Discovery.Sees.list {networkName : GoString} {running : List Container} {d d' : Discovery}
    (sees : d.Sees networkName running) (st : d.Lists networkName running true d') :
    d'.Sees networkName running := by
  cases st with
  | proxy => rfl
  | traefik => exact ⟨sees, rfl⟩
  | all ord =>
    obtain ⟨proxy, traefik⟩ := sees
    subst proxy traefik
    exact ⟨ord, rfl⟩

lemma Followed.cons {h : List WatchEvent} {e : WatchEvent} (followed : Followed h)
    (quiet : ∀ info, e = .changed info → info.Unlabelled) : Followed (e :: h) := by
  intro later info earlier split labelled
  cases later with
  | nil =>
    obtain ⟨rfl, _⟩ := List.cons.inj split
    exact absurd (quiet info rfl) labelled
  | cons first later =>
    obtain ⟨_, split⟩ := List.cons.inj split
    obtain ⟨i, listed, member⟩ := followed later info earlier split labelled
    exact ⟨i, listed, List.mem_cons_of_mem first member⟩

/-- The first list call of a discovery follows every change so far. -/
lemma followed_list (h : List WatchEvent) (i : Nat) (listed : List Container) :
    Followed (.listed i true (.listingTraefik listed) :: h) := by
  intro later info earlier split _
  cases later with
  | nil => cases (List.cons.inj split).1
  | cons first later =>
    obtain ⟨rfl, _⟩ := List.cons.inj split
    exact ⟨i, listed, List.mem_cons_self⟩

namespace Watch

/-- The discovery that runs sees the containers now running; when none runs, the last message does.
-/
structure Covered (networkName : GoString) (h : List WatchEvent) (s : Watch) : Prop where
  sees : ∀ i d, s.discoveries i = some d → d.Sees networkName s.running
  current : s.Idle → s.Current networkName h

/-- The invariant of a watcher that misses nothing: a change is on its way to a discovery, or a
discovery will list everything, or everything is covered. -/
structure InTouch (networkName : GoString) (h : List WatchEvent) (s : Watch) : Prop where
  single : s.Single
  offline : s.phase ≠ .watching → s.eventCh = 0 ∧ s.debounceTimer = false
  reach : s.Pending ∨ s.Unlisted ∨ s.Covered networkName h ∧ Followed h

variable {networkName : GoString} {h : List WatchEvent} {s t : Watch} {e : WatchEvent}

lemma Current.quiet (current : s.Current networkName h)
    (running : Alike networkName s.running t.running) (silent : e.sent? = none) :
    t.Current networkName (e :: h) := by
  obtain ⟨ord, last⟩ := current
  refine ⟨ord, ?_⟩
  rw [publishedMessages, published_cons, silent, Option.toList_none, List.append_nil,
    ← running.found ord]
  exact last

/-- A step that no discovery takes. -/
lemma Covered.quiet (covered : s.Covered networkName h)
    (running : Alike networkName s.running t.running) (discoveries : t.discoveries = s.discoveries)
    (silent : e.sent? = none) : t.Covered networkName (e :: h) where
  sees i d here := (covered.sees i d (discoveries ▸ here)).alike running
  current idle := (covered.current fun i => discoveries ▸ idle i).quiet running silent

/-- Only one discovery runs, so it covers the containers when it sees them. -/
lemma Covered.of_sees {i : Nat} {d : Discovery} (d' : Discovery) (single : s.Single)
    (here : s.discoveries i = some d) (sees : d'.Sees networkName s.running)
    (discoveries : t.discoveries = (s.setDiscovery i (some d')).discoveries)
    (running : t.running = s.running) : t.Covered networkName h where
  sees j d'' there := by
    rw [discoveries] at there
    obtain ⟨_, e⟩ := single.move here _ there
    rw [running, ← Option.some.inj e]
    exact sees
  current idle := by
    have stopped := idle i
    rw [discoveries, setDiscovery_self] at stopped
    cases stopped

/-- A step of the containers or of the watching goroutine. -/
lemma InTouch.control (inv : s.InTouch networkName h) (discoveries : t.discoveries = s.discoveries)
    (silent : e.sent? = none)
    (offline : t.phase ≠ .watching → t.eventCh = 0 ∧ t.debounceTimer = false)
    (pending : s.Pending → t.Pending ∨ s.Unlisted)
    (timely : t.Pending ∨ s.Unlisted ∨ Alike networkName s.running t.running ∧
      ∀ info, e = .changed info → info.Unlabelled) : t.InTouch networkName (e :: h) where
  single := by
    unfold Single
    rw [discoveries]
    exact inv.single
  offline := offline
  reach := by
    have still (unlisted : s.Unlisted) : t.Unlisted := by
      obtain ⟨i, listing⟩ := unlisted
      exact ⟨i, discoveries ▸ listing⟩
    cases inv.reach with
    | inl waiting =>
      cases pending waiting with
      | inl waiting => exact .inl waiting
      | inr unlisted => exact .inr (.inl (still unlisted))
    | inr rest =>
      cases rest with
      | inl unlisted => exact .inr (.inl (still unlisted))
      | inr kept =>
        cases timely with
        | inl waiting => exact .inl waiting
        | inr rest =>
          cases rest with
          | inl unlisted => exact .inr (.inl (still unlisted))
          | inr same =>
            exact .inr (.inr ⟨kept.1.quiet same.1 discoveries silent, kept.2.cons same.2⟩)

/-- A container starts or stops. -/
lemma InTouch.change {info : Container} {running : List Container} (inv : s.InTouch networkName h)
    (timely : s.InTime (.changed info))
    (alike : info.Unlabelled → Alike networkName s.running running) :
    { s with running := running, eventCh := s.notify : Watch }.InTouch networkName
      (.changed info :: h) := by
  by_cases online : s.phase = .watching
  · -- the stream tells
    have told : 0 < s.notify := by simp [notify, online]
    exact inv.control rfl rfl (fun away => absurd online away) (fun _ => .inl (.inl told))
      (.inl (.inl told))
  · obtain ⟨empty, unarmed⟩ := inv.offline online
    have untold : s.notify = 0 := by rw [notify, if_neg online, empty]
    refine inv.control rfl rfl (fun _ => ⟨untold, unarmed⟩) ?_ ?_
    · intro waiting
      exact absurd waiting (by simp [Pending, empty, unarmed])
    · right
      cases timely with
      | inl online' => exact absurd online' online
      | inr rest =>
        cases rest with
        | inl unlabelled =>
          refine .inr ⟨alike unlabelled, ?_⟩
          intro other e
          cases e
          exact unlabelled
        | inr unlisted => exact .inl unlisted

/-- The one discovery that runs has listed something, so no other one has still to. -/
lemma InTouch.reach_of_listed {i : Nat} {d : Discovery} (inv : s.InTouch networkName h)
    (here : s.discoveries i = some d) (listed : d ≠ .listingProxy) :
    s.Pending ∨ s.Covered networkName h ∧ Followed h := by
  cases inv.reach with
  | inl waiting => exact .inl waiting
  | inr rest =>
    cases rest with
    | inl unlisted =>
      obtain ⟨j, listing⟩ := unlisted
      obtain rfl := inv.single i j _ _ here listing
      rw [here] at listing
      exact absurd (Option.some.inj listing) listed
    | inr kept => exact .inr kept

/-- A step of the one discovery that runs, which sees the containers before and after it. -/
lemma InTouch.advance {i : Nat} {d : Discovery} (d' : Discovery) (inv : s.InTouch networkName h)
    (here : s.discoveries i = some d) (listed : d ≠ .listingProxy)
    (sees : d.Sees networkName s.running → d'.Sees networkName s.running)
    (discoveries : t.discoveries = (s.setDiscovery i (some d')).discoveries)
    (running : t.running = s.running) (phase : t.phase = s.phase) (eventCh : t.eventCh = s.eventCh)
    (debounceTimer : t.debounceTimer = s.debounceTimer) (silent : ∀ info, e ≠ .changed info)
    (single : t.Single) : t.InTouch networkName (e :: h) where
  single := single
  offline := by
    rw [phase, eventCh, debounceTimer]
    exact inv.offline
  reach := by
    cases inv.reach_of_listed here listed with
    | inl waiting =>
      left
      rw [Pending, eventCh, debounceTimer]
      exact waiting
    | inr kept =>
      refine .inr (.inr ⟨?_, kept.2.cons fun info e => absurd e (silent info)⟩)
      exact .of_sees d' inv.single here (sees (kept.1.sees i d here)) discoveries running

/-- The one discovery that runs sends what it found. -/
lemma InTouch.send {i : Nat} {found : Found} (inv : s.InTouch networkName h)
    (here : s.discoveries i = some (.sending found)) (single : (s.setDiscovery i none).Single) :
    (s.setDiscovery i none).InTouch networkName (.sent i found :: h) where
  single := single
  offline := inv.offline
  reach := by
    cases inv.reach_of_listed here nofun with
    | inl waiting => exact .inl waiting
    | inr kept =>
      refine .inr (.inr ⟨⟨?_, ?_⟩, kept.2.cons nofun⟩)
      · intro j d there
        cases (inv.single.move here none there).2
      · intro _
        obtain ⟨ord, rfl⟩ := kept.1.sees i _ here
        refine ⟨ord, ?_⟩
        rw [publishedMessages, published_cons]
        simp [WatchEvent.sent?, setDiscovery]

/-- Every step in time keeps the invariant. -/
lemma step_inTouch (inv : s.InTouch networkName h) (apart : NoOverlap s e) (ok : e.Succeeds)
    (timely : s.InTime e) (st : Step networkName s e t) : t.InTouch networkName (e :: h) := by
  have single := step_single inv.single apart st
  cases st with
  | start before after info split =>
    refine inv.change timely ?_
    intro unlabelled
    rw [split]
    exact (alike_unlabelled networkName unlabelled before after).symm
  | stop before after info split =>
    refine inv.change timely ?_
    intro unlabelled
    rw [split]
    exact alike_unlabelled networkName unlabelled before after
  | notice =>
    refine inv.control rfl rfl ?_ ?_ (.inr (.inr ⟨.rfl, nofun⟩))
    · intro away
      refine ⟨?_, (inv.offline away).2⟩
      show s.notify = 0
      rw [notify, if_neg away]
      exact (inv.offline away).1
    · intro waiting
      left
      cases waiting with
      | inl some_event =>
        left
        show 0 < s.notify
        unfold notify
        split <;> omega
      | inr armed => exact .inr armed
  | watch discovering _ =>
    have away : s.phase ≠ .watching := by rw [discovering]; nofun
    exact inv.control rfl rfl (fun _ => inv.offline away) .inl (.inr (.inr ⟨.rfl, nofun⟩))
  | subscribe subscribing =>
    have away : s.phase ≠ .watching := by rw [subscribing]; nofun
    refine inv.control rfl rfl (fun _ => ⟨rfl, rfl⟩) ?_ (.inr (.inr ⟨.rfl, nofun⟩))
    intro waiting
    exact absurd waiting (by simp [Pending, inv.offline away])
  | refuse subscribing =>
    have away : s.phase ≠ .watching := by rw [subscribing]; nofun
    exact inv.control rfl rfl (fun _ => inv.offline away) .inl (.inr (.inr ⟨.rfl, nofun⟩))
  | receive waiting online some_event =>
    -- the event leaves the stream and arms the timer
    exact inv.control rfl rfl (fun away => absurd online away) (fun _ => .inl (.inr rfl))
      (.inl (.inr rfl))
  | fail online =>
    -- the stream and the timer are gone, so a change on its way must not have depended on them
    refine inv.control rfl rfl (fun _ => ⟨rfl, rfl⟩) ?_ (.inr (.inr ⟨.rfl, nofun⟩))
    intro waiting
    cases timely with
    | inl quiet => exact absurd waiting (by simp [Pending, quiet])
    | inr unlisted => exact .inr unlisted
  | retry reconnecting =>
    have away : s.phase ≠ .watching := by rw [reconnecting]; nofun
    exact inv.control rfl rfl (fun _ => inv.offline away) .inl (.inr (.inr ⟨.rfl, nofun⟩))
  | fire armed =>
    -- the armed timer hands the pending changes to a discovery that has not listed anything
    refine ⟨single, ?_, .inr (.inl ⟨s.next, Function.update_self ..⟩)⟩
    intro away
    exact ⟨(inv.offline away).1, rfl⟩
  | list i d d' _ here st =>
    obtain rfl := ok
    cases st with
    | proxy =>
      -- from here on the discovery counts as one that has seen every change
      refine ⟨single, inv.offline, ?_⟩
      cases inv.reach with
      | inl waiting => exact .inl waiting
      | inr _ =>
        refine .inr (.inr ⟨?_, followed_list h i _⟩)
        exact .of_sees (.listingTraefik _) inv.single here rfl rfl rfl
    | traefik =>
      exact inv.advance _ here nofun (fun sees => sees.list .traefik) rfl rfl rfl rfl rfl nofun single
    | all ord =>
      exact inv.advance _ here nofun (fun sees => sees.list (.all ord)) rfl rfl rfl rfl rfl nofun
        single
  | store i found here =>
    exact inv.advance (.sending found) here nofun id rfl rfl rfl rfl rfl nofun single
  | send i found here => exact inv.send here single

/-- No list call fails, and no callback starts while a discovery is running. -/
def Undisturbed (s : Watch) (e : WatchEvent) : Prop := s.NoOverlap e ∧ e.Succeeds

lemma undisturbed_advances (s : Watch) (advances : e.Advances) : Undisturbed s e := by
  cases e with
  | listed i ok d => exact ⟨trivial, advances⟩
  | stored i => exact ⟨trivial, trivial⟩
  | sent i found => exact ⟨trivial, trivial⟩
  | _ => cases advances

lemma inTime_advances (s : Watch) (advances : e.Advances) : s.InTime e := by
  cases e with
  | changed info => cases advances
  | failed => cases advances
  | _ => trivial

/-- The invariant holds along every run whose steps are in time. -/
theorem run_inTouch
    (run : ((system networkName).restrict fun s e => Undisturbed s e ∧ s.InTime e).Run h s) :
    s.InTouch networkName h := by
  refine System.Run.invariant (fun h s => s.InTouch networkName h) ?_ ?_ run
  · intro _ begun
    obtain ⟨running, rfl⟩ := begun
    exact ⟨initial_single running, fun _ => ⟨rfl, rfl⟩, .inr (.inl ⟨0, rfl⟩)⟩
  · intro h s e t _ inv taken
    obtain ⟨st, undisturbed, timely⟩ := taken
    exact step_inTouch inv undisturbed.1 undisturbed.2 timely st

/-- No container change is lost in a run whose labelled containers change only while the stream is
subscribed or before a discovery lists anything, and whose stream fails only when it is empty and no
timer is armed, or before a discovery lists anything. Whenever the watcher is at rest, the last
message is what `discoverRoutes` returns for the containers now running, and every change of a
labelled container was followed by a discovery. -/
theorem no_change_lost
    (run : ((system networkName).restrict fun s e => Undisturbed s e ∧ s.InTime e).Run h s)
    (rest : s.AtRest) : s.Current networkName h ∧ Followed h := by
  cases (run_inTouch run).reach with
  | inl waiting => exact absurd waiting (by simp [Pending, rest.empty, rest.unarmed])
  | inr reach =>
    cases reach with
    | inl unlisted =>
      obtain ⟨i, listing⟩ := unlisted
      rw [rest.idle i] at listing
      cases listing
    | inr kept => exact ⟨kept.1.current rest.idle, kept.2⟩

lemma Single.idle {i : Nat} {d : Discovery} (single : s.Single) (here : s.discoveries i = some d) :
    (s.setDiscovery i none).Idle := by
  intro j
  cases there : (s.setDiscovery i none).discoveries j with
  | none => rfl
  | some d' => cases (single.move here none there).2

theorem no_change_lost_started :
    ∃ h s, ((system (lit "n")).restrict fun s e => Undisturbed s e ∧ s.InTime e).Run h s ∧
      s.running = [app] ∧ s.Current (lit "n") h ∧ Followed h := by
  have run := System.Run.start
    (M := (system (lit "n")).restrict fun s e => Undisturbed s e ∧ s.InTime e) (s := initial [])
    ⟨[], rfl⟩
  have run := run.append (discovery_path (fun _ => .stored) (i := 0)
    (fun s _ _ st advances => ⟨st, undisturbed_advances s advances, inTime_advances s advances⟩) rfl)
  have run := run.next ⟨.watch rfl rfl, ⟨trivial, trivial⟩, trivial⟩
  have run := run.next ⟨.subscribe rfl, ⟨trivial, trivial⟩, trivial⟩
  have run := run.next ⟨.start [] [] app rfl, ⟨trivial, trivial⟩, .inl rfl⟩
  have run := run.next ⟨.receive 0 rfl rfl, ⟨trivial, trivial⟩, trivial⟩
  have run := run.next ⟨.fire rfl, ⟨(initial_single []).idle rfl, trivial⟩, trivial⟩
  have single := (run_inTouch run).single
  have run := run.append (discovery_path (fun _ => .stored) (i := 1)
    (fun s _ _ st advances => ⟨st, undisturbed_advances s advances, inTime_advances s advances⟩) rfl)
  refine ⟨_, _, run, rfl, no_change_lost run ⟨rfl, rfl, rfl, single.idle (i := 1) rfl⟩⟩

/-- A discovery of the container finds its route. -/
lemma discover_app (ord : Orders) : (discover (lit "n") ord [app]).1 ≠ [] := by
  have labelled : app.hasProxyLabel = true := by decide
  have listed : [app].filter Container.hasProxyLabel = [app] := List.filter_cons_of_pos labelled
  have resolved : (proxyRoutes (lit "n") app).length = 1 := by decide
  rw [discover, listed]
  simp [discoverRoutes, ← List.length_eq_zero_iff, resolved]

/-- An event was received, and the stream failed before the timer fired. -/
theorem no_change_lost_stopped :
    ¬ ∀ networkName h s, ((system networkName).restrict Undisturbed).Run h s → s.AtRest →
      s.Current networkName h := by
  intro always
  have run := System.Run.start (M := (system (lit "n")).restrict Undisturbed) (s := initial [])
    ⟨[], rfl⟩
  have run := run.append (discovery_path (fun _ => .stored) (i := 0)
    (fun s _ _ st advances => ⟨st, undisturbed_advances s advances⟩) rfl)
  have run := run.next ⟨.watch rfl rfl, trivial, trivial⟩
  have run := run.next ⟨.subscribe rfl, trivial, trivial⟩
  have run := run.next ⟨.start [] [] app rfl, trivial, trivial⟩
  have run := run.next ⟨.receive 0 rfl rfl, trivial, trivial⟩
  have run := run.next ⟨.fail rfl, trivial, trivial⟩
  have run := run.next ⟨.retry rfl, trivial, trivial⟩
  have run := run.next ⟨.subscribe rfl, trivial, trivial⟩
  obtain ⟨ord, last⟩ := always _ _ _ run ⟨rfl, rfl, rfl, (initial_single []).idle rfl⟩
  have routes := congrArg (Option.map Message.routes) last
  exact discover_app ord (Option.some.inj routes).symm

end Watch
end Pintle.Docker
