import Pintle.Docker.Watch

/-!
# Overlapping discoveries

Stopping a debounce timer does not stop a callback that already runs, so a timer that fires while a
discovery is running starts a second one beside it. Without that, discoveries are published in the
order of their snapshots (`InOrder`). With it, the run has a continuation in which the older
snapshot is sent last (`overlap_breaks`).
-/

namespace Pintle.Docker
open Go Lib

namespace Watch

/-- Discoveries are sent in the order in which they took their snapshots, and once none is running
the last one sent, the last snapshot and what the dashboard reports agree. -/
structure Consistent (h : List WatchEvent) (s : Watch) : Prop where
  ordered : ((published h).map (·.1)).Sublist ((snapshots h).map (·.1))
  settled : s.Idle → ∃ last, (snapshots h).getLast? = some last ∧
    (published h).getLast? = some last ∧
    s.dockerRoutes = last.2.1 ∧ s.dockerTcpRoutes = last.2.2

/-- How far the one discovery that runs is from publishing its snapshot. -/
def Progress (h : List WatchEvent) (s : Watch) (i : Nat) : Discovery → Prop
  | .storing found => snapshots h = published h ++ [(i, found)]
  | .sending found => snapshots h = published h ++ [(i, found)] ∧
      s.dockerRoutes = found.1 ∧ s.dockerTcpRoutes = found.2
  | _ => snapshots h = published h

/-- The invariant of the runs without overlapping callbacks. -/
structure InOrder (h : List WatchEvent) (s : Watch) : Prop where
  single : s.Single
  progress : ∀ i d, s.discoveries i = some d → Progress h s i d
  settled : s.Idle → snapshots h = published h ∧ ∃ last, (published h).getLast? = some last ∧
    s.dockerRoutes = last.2.1 ∧ s.dockerTcpRoutes = last.2.2

variable {networkName : GoString} {h : List WatchEvent} {s t : Watch} {e : WatchEvent}

/-- A step that no discovery takes. -/
lemma InOrder.control (inv : s.InOrder h) (discoveries : t.discoveries = s.discoveries)
    (routes : t.dockerRoutes = s.dockerRoutes) (tcpRoutes : t.dockerTcpRoutes = s.dockerTcpRoutes)
    (unsent : e.sent? = none) (untaken : e.taken? = none) : t.InOrder (e :: h) := by
  have sent : published (e :: h) = published h := by
    rw [published_cons, unsent, Option.toList_none, List.append_nil]
  have taken : snapshots (e :: h) = snapshots h := by
    rw [snapshots_cons, untaken, Option.toList_none, List.append_nil]
  refine ⟨?_, ?_, ?_⟩
  · unfold Single
    rw [discoveries]
    exact inv.single
  · intro i d here
    rw [discoveries] at here
    have progress := inv.progress i d here
    cases d <;> simpa [Progress, sent, taken, routes, tcpRoutes] using progress
  · intro idle
    rw [sent, taken, routes, tcpRoutes]
    exact inv.settled fun i => discoveries ▸ idle i

/-- The one discovery that runs moves on. -/
lemma InOrder.move {i : Nat} {d : Discovery} (d' : Discovery) (single : s.Single)
    (here : s.discoveries i = some d)
    (discoveries : t.discoveries = (s.setDiscovery i (some d')).discoveries)
    (progress : Progress (e :: h) t i d') (single' : t.Single) : t.InOrder (e :: h) := by
  refine ⟨single', ?_, ?_⟩
  · intro j d'' there
    rw [discoveries] at there
    obtain ⟨rfl, same⟩ := single.move here _ there
    rw [← Option.some.inj same]
    exact progress
  · intro idle
    have stopped := idle i
    rw [discoveries, setDiscovery_self] at stopped
    cases stopped

/-- Every step without an overlapping callback keeps the invariant. -/
lemma step_inOrder (inv : s.InOrder h) (apart : NoOverlap s e) (st : Step networkName s e t) :
    t.InOrder (e :: h) := by
  have single := step_single inv.single apart st
  cases st with
  | fire armed =>
    -- every earlier snapshot is published, and the new discovery has none yet
    refine ⟨single, ?_, ?_⟩
    · intro i d here
      obtain ⟨same, _⟩ := inv.settled apart
      cases setDiscovery_cases here with
      | inl first =>
        obtain rfl := Option.some.inj first.2
        exact same
      | inr other =>
        rw [apart i] at other
        cases other
    · intro idle
      have stopped := idle s.next
      rw [show _ = some Discovery.listingProxy from setDiscovery_self ..] at stopped
      cases stopped
  | list i d d' ok here st =>
    have progress := inv.progress i d here
    -- the last list call, or one that fails, takes the snapshot
    have taken {ok : Bool} {found : Found} (same : snapshots h = published h) :
        snapshots (.listed i ok (.storing found) :: h) =
          published (.listed i ok (.storing found) :: h) ++ [(i, found)] := by
      rw [snapshots_cons, published_cons, same]
      simp [WatchEvent.taken?, WatchEvent.sent?]
    refine .move d' inv.single here rfl ?_ single
    cases st with
    | proxy => exact progress
    | traefik => exact progress
    | _ => exact taken progress
  | store i found here =>
    exact .move (.sending found) inv.single here rfl ⟨inv.progress i _ here, rfl, rfl⟩ single
  | send i found here =>
    obtain ⟨same, routes, tcpRoutes⟩ := inv.progress i _ here
    have sent : published (.sent i found :: h) = published h ++ [(i, found)] := published_cons ..
    refine ⟨single, ?_, ?_⟩
    · intro j d there
      cases (inv.single.move here none there).2
    · intro _
      refine ⟨same.trans sent.symm, (i, found), ?_, routes, tcpRoutes⟩
      rw [sent]
      exact List.getLast?_concat
  | _ => exact inv.control rfl rfl rfl rfl rfl

/-- The invariant holds along every run without overlapping callbacks. -/
theorem run_inOrder (run : ((system networkName).restrict NoOverlap).Run h s) : s.InOrder h := by
  refine System.Run.invariant (fun h s => s.InOrder h) ?_ ?_ run
  · intro _ begun
    obtain ⟨running, rfl⟩ := begun
    refine ⟨initial_single running, ?_, ?_⟩
    · intro i d here
      obtain ⟨rfl, rfl⟩ := initial_running here
      rfl
    · intro idle
      cases idle 0
  · intro h s e t _ inv taken
    obtain ⟨st, apart⟩ := taken
    exact step_inOrder inv apart st

lemma InOrder.consistent (inv : s.InOrder h) : s.Consistent h where
  ordered := by
    by_cases idle : s.Idle
    · rw [(inv.settled idle).1]
    · obtain ⟨i, running⟩ := not_forall.mp idle
      obtain ⟨d, here⟩ := Option.ne_none_iff_exists'.mp running
      have progress := inv.progress i d here
      have ahead {found : Found} (more : snapshots h = published h ++ [(i, found)]) :
          ((published h).map (·.1)).Sublist ((snapshots h).map (·.1)) := by
        rw [more, List.map_append]
        exact List.sublist_append_left ..
      cases d with
      | storing found => exact ahead progress
      | sending found => exact ahead progress.1
      | _ => rw [show snapshots h = published h from progress]
  settled idle := by
    obtain ⟨same, last, sent, routes, tcpRoutes⟩ := inv.settled idle
    exact ⟨last, same ▸ sent, sent, routes, tcpRoutes⟩

/-- The numbers in use are those given out. -/
structure Numbered (h : List WatchEvent) (s : Watch) : Prop where
  running : ∀ i d, s.discoveries i = some d → i < s.next
  taken : ∀ snapshot ∈ snapshots h, snapshot.1 < s.next

lemma step_numbered (inv : s.Numbered h) (st : Step networkName s e t) : t.Numbered (e :: h) := by
  have moved {i : Nat} {d : Discovery} (here : s.discoveries i = some d)
      (d' : Option Discovery) (j : Nat) (d'' : Discovery)
      (there : (s.setDiscovery i d').discoveries j = some d'') : j < s.next := by
    cases setDiscovery_cases there with
    | inl same => exact same.1 ▸ inv.running i d here
    | inr other => exact inv.running j d'' other
  have untaken (silent : e.taken? = none) : ∀ snapshot ∈ snapshots (e :: h), snapshot.1 < s.next := by
    rw [snapshots_cons, silent, Option.toList_none, List.append_nil]
    exact inv.taken
  cases st with
  | fire armed =>
    refine ⟨?_, ?_⟩
    · intro i d here
      show i < s.next + 1
      cases setDiscovery_cases here with
      | inl first => exact first.1 ▸ Nat.lt_succ_self s.next
      | inr other => exact Nat.lt_succ_of_lt (inv.running i d other)
    · intro snapshot member
      exact Nat.lt_succ_of_lt (untaken rfl snapshot member)
  | list i d d' ok here st =>
    refine ⟨moved here (some d'), ?_⟩
    intro snapshot member
    rw [snapshots_cons] at member
    cases List.mem_append.mp member with
    | inl old => exact inv.taken snapshot old
    | inr new =>
      cases d' with
      | storing found =>
        rw [List.mem_singleton.mp new]
        exact inv.running i d here
      | _ => cases new
  | store i found here => exact ⟨moved here (some (.sending found)), untaken rfl⟩
  | send i found here => exact ⟨moved here none, untaken rfl⟩
  | _ => exact ⟨inv.running, untaken rfl⟩

lemma run_numbered (run : (system networkName).Run h s) : s.Numbered h := by
  refine System.Run.invariant (fun h s => s.Numbered h) ?_ ?_ run
  · intro _ begun
    obtain ⟨running, rfl⟩ := begun
    refine ⟨?_, nofun⟩
    intro i d here
    obtain ⟨rfl, _⟩ := initial_running here
    exact Nat.one_pos
  · intro h s e t _ inv st
    exact step_numbered inv st

/-- A discovery takes its snapshot while nothing else happens. -/
lemma snapshot_path (networkName : GoString) {i : Nat} {d : Discovery}
    (here : s.discoveries i = some d) :
    ∃ k d' found, (system networkName).Path s k (s.setDiscovery i (some d')) ∧
      (d' = .storing found ∨ d' = .sending found) ∧ published k = [] ∧
      ∀ snapshot ∈ snapshots k, snapshot.1 = i := by
  have already : s.setDiscovery i (some d) = s := by
    rw [setDiscovery, ← here, Function.update_eq_self]
  have ord : Orders := fun _ => .stored
  cases d with
  | listingProxy =>
    have path := System.Path.next (M := system networkName) .refl (.list i _ _ true here .proxy)
    have path := path.next (.list i _ _ true (setDiscovery_self ..) .traefik)
    have path := path.next (.list i _ _ true (setDiscovery_self ..) (.all ord))
    rw [setDiscovery_setDiscovery, setDiscovery_setDiscovery] at path
    refine ⟨_, _, _, path, .inl rfl, rfl, ?_⟩
    simp [snapshots, WatchEvent.taken?]
  | listingTraefik proxyContainers =>
    have path := System.Path.next (M := system networkName) .refl (.list i _ _ true here .traefik)
    have path := path.next (.list i _ _ true (setDiscovery_self ..) (.all ord))
    rw [setDiscovery_setDiscovery] at path
    refine ⟨_, _, _, path, .inl rfl, rfl, ?_⟩
    simp [snapshots, WatchEvent.taken?]
  | listingAll proxyContainers traefikContainers =>
    have path := System.Path.next (M := system networkName) .refl (.list i _ _ true here (.all ord))
    refine ⟨_, _, _, path, .inl rfl, rfl, ?_⟩
    simp [snapshots, WatchEvent.taken?]
  | storing found =>
    refine ⟨[], .storing found, found, ?_, .inl rfl, rfl, List.forall_mem_nil _⟩
    rw [already]
    exact .refl
  | sending found =>
    refine ⟨[], .sending found, found, ?_, .inr rfl, rfl, List.forall_mem_nil _⟩
    rw [already]
    exact .refl

/-- A discovery with its snapshot publishes it while nothing else happens. -/
lemma publish_path (networkName : GoString) {i : Nat} {d : Discovery} {found : Found}
    (here : s.discoveries i = some d) (taken : d = .storing found ∨ d = .sending found) :
    ∃ k t, (system networkName).Path s k t ∧ published k = [(i, found)] ∧ snapshots k = [] := by
  cases taken with
  | inl storing =>
    subst storing
    have path := System.Path.next (M := system networkName) .refl (.store i found here)
    have path := path.next (.send i found (setDiscovery_self ..))
    exact ⟨_, _, path, rfl, rfl⟩
  | inr sending =>
    subst sending
    exact ⟨_, _, .next .refl (.send i found here), rfl, rfl⟩

/-- Of two discoveries that run, the one that has not listed anything can overtake the other between
its snapshot and its send. -/
lemma overtaken_path (networkName : GoString) {i j : Nat} {d : Discovery}
    (here : s.discoveries i = some d) (there : s.discoveries j = some .listingProxy)
    (other : i ≠ j) :
    ∃ k t early late late', (system networkName).Path s k t ∧ published k = [(j, late), (i, late')] ∧
      snapshots k = early ++ [(j, late)] ∧ ∀ snapshot ∈ early, snapshot.1 = i := by
  obtain ⟨k, d', found, path, taken, unsent, own⟩ := snapshot_path networkName here
  have there' : (s.setDiscovery i (some d')).discoveries j = some .listingProxy := by
    rw [setDiscovery_of_ne _ (Ne.symm other)]
    exact there
  obtain ⟨late, overtaking⟩ : ∃ late, (system networkName).Path (s.setDiscovery i (some d'))
      (discovered j s.running late) ((s.setDiscovery i (some d')).finished j late) :=
    ⟨_, discovery_path (fun _ => .stored) (fun _ _ _ st _ => st) there'⟩
  have here' : ((s.setDiscovery i (some d')).finished j late).discoveries i = some d' := by
    rw [finished_discoveries, setDiscovery_of_ne _ other, setDiscovery_self]
  obtain ⟨k', t, path', sent, untaken⟩ := publish_path networkName here' taken
  refine ⟨_, t, snapshots k, late, found, (path.trans overtaking).trans path', ?_, ?_, own⟩
  · rw [published_append, published_append, sent, unsent]
    rfl
  · rw [snapshots_append, snapshots_append, untaken, List.append_nil]
    rfl

lemma late_not_sublist {l m : List Nat} {i j : Nat} (fresh : j ∉ l) :
    ¬ (m ++ [j, i]).Sublist (l ++ [j]) := by
  intro sublist
  have tail : [j, i].Sublist (l ++ [j]) := (List.sublist_append_right m [j, i]).trans sublist
  obtain ⟨first, last, split, early, late⟩ := List.sublist_append_iff.mp tail
  -- `j` matches the end of the list or nothing, so `i` has no place behind it
  cases first with
  | nil =>
    rw [List.nil_append] at split
    have short := late.length_le
    rw [← split] at short
    simp at short
  | cons a first =>
    obtain ⟨rfl, _⟩ := List.cons.inj split
    exact fresh (early.subset List.mem_cons_self)

/-- When a timer fires while a discovery is running, the run can go on so that the snapshot of that
discovery is sent after the later one of the callback. -/
lemma overlap_breaks (run : (system networkName).Run h s) {i : Nat} {d : Discovery}
    (here : s.discoveries i = some d) (armed : s.debounceTimer = true) :
    ∃ k t, (system networkName).Path s (k ++ [.fired s.next]) t ∧
      ¬ t.Consistent (k ++ .fired s.next :: h) := by
  have numbered := run_numbered run
  have other : i ≠ s.next := Nat.ne_of_lt (numbered.running i d here)
  have fire := System.Path.next (M := system networkName) .refl (.fire armed)
  obtain ⟨k, t, early, late, late', path, sent, taken, own⟩ := overtaken_path networkName
    (s := { s.setDiscovery s.next (some .listingProxy) with
      debounceTimer := false
      next := s.next + 1 })
    ((setDiscovery_of_ne _ other).trans here) (setDiscovery_self s s.next _) other
  refine ⟨k, t, fire.trans path, ?_⟩
  intro consistent
  have ordered := consistent.ordered
  rw [published_append, snapshots_append, published_cons, snapshots_cons, sent, taken] at ordered
  simp only [WatchEvent.sent?, WatchEvent.taken?, Option.toList_none, List.append_nil,
    ← List.append_assoc, List.map_append, List.map_cons, List.map_nil] at ordered
  refine late_not_sublist ?_ ordered
  -- the number of the callback is new to the snapshots
  intro member
  cases List.mem_append.mp member with
  | inl old =>
    obtain ⟨snapshot, inside, same⟩ := List.mem_map.mp old
    exact absurd (numbered.taken snapshot inside) (by omega)
  | inr new =>
    obtain ⟨snapshot, inside, same⟩ := List.mem_map.mp new
    exact other ((own snapshot inside).symm.trans same)

/-- Discoveries are published in the order of their snapshots, and at rest the last message, the
dashboard and the last snapshot agree, in every run in which no debounce timer fires while a
discovery is running. A firing beside a running discovery can always be followed by a stale
snapshot. -/
theorem discoveries_ordered (networkName : GoString) :
    (∀ h s, ((system networkName).restrict NoOverlap).Run h s → s.Consistent h) ∧
    ∀ h s e t, (system networkName).Run h s → Step networkName s e t → ¬ s.NoOverlap e →
      ∃ k u, (system networkName).Run (k ++ e :: h) u ∧ ¬ u.Consistent (k ++ e :: h) := by
  refine ⟨fun h s run => (run_inOrder run).consistent, ?_⟩
  intro h s e t run st overlap
  cases st with
  | fire armed =>
    obtain ⟨i, running⟩ := not_forall.mp overlap
    obtain ⟨d, here⟩ := Option.ne_none_iff_exists'.mp running
    obtain ⟨k, u, path, broken⟩ := overlap_breaks run here armed
    have longer := run.append path
    rw [List.append_assoc] at longer
    exact ⟨k, u, longer, broken⟩
  | _ => exact absurd trivial overlap

/-- A callback stores its snapshot, the container stops, and a second callback runs to its end
before the first one sends. -/
theorem discoveries_overtaken :
    ¬ ∀ networkName h s, (system networkName).Run h s → s.Consistent h := by
  intro always
  have run := System.Run.start (M := system (lit "n")) (s := initial []) ⟨[], rfl⟩
  have run := run.append
    (discovery_path (fun _ => .stored) (i := 0) (fun _ _ _ st _ => st) rfl)
  have run := run.next (.watch rfl rfl)
  have run := run.next (.subscribe rfl)
  have run := run.next (.start [] [] app rfl)
  have run := run.next (.receive 0 rfl rfl)
  have run := run.next (.fire rfl)
  have run := run.next (.list 1 _ _ true rfl .proxy)
  have run := run.next (.list 1 _ _ true rfl .traefik)
  have run := run.next (.list 1 _ _ true rfl (.all fun _ => .stored))
  have run := run.next (.store 1 _ rfl)
  have run := run.next (.stop [] [] app rfl)
  have run := run.next (.receive 0 rfl rfl)
  have run := run.next (.fire rfl)
  have run := run.append
    (discovery_path (fun _ => .stored) (i := 2) (fun _ _ _ st _ => st) rfl)
  have run := run.next (.send 1 _ rfl)
  have ordered := (always _ _ _ run).ordered
  have ids : ¬ [0, 2, 1].Sublist [0, 1, 2] := by decide
  exact ids ordered

end Watch
end Pintle.Docker
