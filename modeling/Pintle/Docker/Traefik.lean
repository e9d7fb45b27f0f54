import Pintle.Docker.Events
import Pintle.Server.Passthrough

/-!
# The address of Traefik

Model of `discoverTraefik` and `GetTraefikTarget` of `internal/provider/docker/docker.go`: between its
last list call and the store every discovery lists the containers once more, and caches the address of
the first Traefik container on the network. The watcher of `Watch.lean` is extended by these steps; the
list call and the write of the cache are apart, as the source has them, so callbacks interleave here
too.

The SNI router asks the cache for each connection to a passthrough domain without a target of its own.
Whatever happens, the address it gets is one that a Traefik container had (`target_seen`); and once the
watcher is at rest after a run in which it missed nothing, the connection goes to the Traefik container
that is running, and to pintle itself when there is none (`passthrough_follows`).
-/

namespace Pintle.Docker
open Go Lib

/-- The address of a container that the loop of Go `discoverTraefik` stops at. -/
def Container.traefikAddress (networkName : GoString) (info : Container) : Option GoString :=
  if contains info.image (lit "traefik") then info.ipAddress networkName else none

/-- The address of the first Traefik container, or the empty string. -/
def traefikAmong (networkName : GoString) (containers : List Container) : GoString :=
  (containers.findSome? (·.traefikAddress networkName)).getD []

/-- What Go `discoverTraefik` leaves in the cache after its list call, which may have failed. -/
def discoverTraefik (networkName : GoString) (containers : Option (List Container))
    (traefikIP : GoString) : GoString :=
  match containers with
  | none => traefikIP
  | some containers => traefikAmong networkName containers

/-- Where the call of `discoverTraefik` of a discovery stands: before the write, or behind it. -/
inductive Lookup where
  | listed (containers : Option (List Container))
  | done

/-- The watcher with the cached address. -/
structure Tracking where
  watch : Watch
  lookups : Nat → Option Lookup
  traefikIP : GoString

/-- The labels of a run. -/
inductive TrackingEvent where
  | watch (e : WatchEvent)
  | looked (i : Nat) (ok : Bool)
  | cached (i : Nat)

namespace Tracking

/-- Go `GetTraefikTarget`. -/
def getTraefikTarget (s : Tracking) : GoString × Int :=
  if s.traefikIP = [] then ([], 0) else (s.traefikIP, 443)

/-- Move a lookup. -/
def setLookup (s : Tracking) (i : Nat) (lookup : Lookup) : Tracking :=
  { s with lookups := Function.update s.lookups i (some lookup) }

/-- One step of the watcher or of a call of `discoverTraefik`. -/
inductive Step (networkName : GoString) : Tracking → TrackingEvent → Tracking → Prop where
  | watch {s} (e : WatchEvent) (t : Watch) :
    s.watch.Step networkName e t →
    -- the store comes after `discoverTraefik`
    (∀ i, e = .stored i → s.lookups i = some .done) →
    Step networkName s (.watch e) { s with watch := t }
  | look {s} (i : Nat) (found : Found) (ok : Bool) :
    s.watch.discoveries i = some (.storing found) →
    s.lookups i = none →
    Step networkName s (.looked i ok)
      (s.setLookup i (.listed (if ok then some s.watch.running else none)))
  | cache {s} (i : Nat) (containers : Option (List Container)) :
    s.lookups i = some (.listed containers) →
    Step networkName s (.cached i)
      { s.setLookup i .done with traefikIP := discoverTraefik networkName containers s.traefikIP }

/-- The state when `Run` begins. -/
def initial (running : List Container) : Tracking where
  watch := .initial running
  lookups _ := none
  traefikIP := []

/-- The system of all interleavings. -/
def system (networkName : GoString) : System Tracking TrackingEvent where
  init s := ∃ running, s = initial running
  step := Step networkName

end Tracking

/-- The step of the watcher. -/
def TrackingEvent.watch? : TrackingEvent → Option WatchEvent
  | .watch e => some e
  | _ => none

namespace Tracking
variable {networkName : GoString}

/-- The watcher takes part in a run as it does alone. -/
theorem run_watch {h : List TrackingEvent} {s : Tracking} (run : (system networkName).Run h s) :
    (Watch.system networkName).Run (h.filterMap (·.watch?)) s.watch := by
  refine System.Run.simulate (·.watch) (·.watch?) ?_ ?_ run
  · rintro _ ⟨running, rfl⟩
    exact ⟨running, rfl⟩
  · intro h s e t _ st
    cases st with
    | watch e t step _ => exact step
    | look i found ok _ _ => rfl
    | cache i containers _ => rfl

/-- A Traefik container had this address in some state of the run. -/
def Seen (networkName : GoString) (h : List TrackingEvent) (address : GoString) : Prop :=
  ∃ later earlier s, h = later ++ earlier ∧ (system networkName).Run earlier s ∧
    ∃ info ∈ s.watch.running, info.traefikAddress networkName = some address

/-- Where the cached address comes from, and what will be cached. -/
structure Genuine (networkName : GoString) (h : List TrackingEvent) (s : Tracking) : Prop where
  cached : s.traefikIP ≠ [] → Seen networkName h s.traefikIP
  listed : ∀ i containers, s.lookups i = some (.listed (some containers)) →
    ∀ info ∈ containers, ∀ address, info.traefikAddress networkName = some address →
      Seen networkName h address

lemma Seen.weaken {h : List TrackingEvent} {address : GoString} (seen : Seen networkName h address)
    (e : TrackingEvent) : Seen networkName (e :: h) address := by
  obtain ⟨later, earlier, s, rfl, run, here⟩ := seen
  exact ⟨e :: later, earlier, s, rfl, run, here⟩

/-- An address that is found is that of a container. -/
lemma traefikAmong_mem {containers : List Container} (found : traefikAmong networkName containers ≠ []) :
    ∃ info ∈ containers,
      info.traefikAddress networkName = some (traefikAmong networkName containers) := by
  rw [traefikAmong] at found ⊢
  cases first : containers.findSome? (·.traefikAddress networkName) with
  | none =>
    rw [first] at found
    exact absurd rfl found
  | some address => exact List.exists_of_findSome?_eq_some first

/-- The invariant holds along every run. -/
lemma run_genuine {h : List TrackingEvent} {s : Tracking} (run : (system networkName).Run h s) :
    Genuine networkName h s := by
  refine System.Run.invariant (Genuine networkName) ?_ ?_ run
  · rintro _ ⟨running, rfl⟩
    exact ⟨fun some => absurd rfl some, nofun⟩
  · intro h s e t run inv st
    cases st with
    | watch e t _ _ =>
      exact ⟨fun some => (inv.cached some).weaken _, fun i containers listed info member address found =>
        (inv.listed i containers listed info member address found).weaken _⟩
    | look i found ok _ _ =>
      refine ⟨fun some => (inv.cached some).weaken _, ?_⟩
      intro j containers listed info member address traefik
      by_cases same : j = i
      · subst same
        simp only [setLookup, Function.update_self, Option.some.injEq, Lookup.listed.injEq] at listed
        split at listed
        · cases listed
          exact ⟨[.looked j ok], h, s, rfl, run, info, member, traefik⟩
        · cases listed
      · simp only [setLookup, Function.update_of_ne same] at listed
        exact (inv.listed j containers listed info member address traefik).weaken _
    | cache i containers listed =>
      refine ⟨?_, ?_⟩
      · intro some_address
        cases containers with
        | none => exact (inv.cached some_address).weaken _
        | some containers =>
          obtain ⟨info, member, found⟩ := traefikAmong_mem some_address
          exact (inv.listed i containers listed info member _ found).weaken _
      · intro j containers' listed' info member address traefik
        by_cases same : j = i
        · subst same
          simp only [setLookup, Function.update_self] at listed'
          cases listed'
        · simp only [setLookup, Function.update_of_ne same] at listed'
          exact (inv.listed j containers' listed' info member address traefik).weaken _

/-- Whatever callbacks overlap and whatever calls fail, the target that the SNI router is given is none,
or port 443 of an address that a Traefik container had on the network, in some state of the run. -/
theorem target_seen {h : List TrackingEvent} {s : Tracking} (run : (system networkName).Run h s) :
    s.getTraefikTarget = ([], 0) ∨
      ∃ address, s.getTraefikTarget = (address, 443) ∧ Seen networkName h address := by
  rw [getTraefikTarget]
  by_cases cleared : s.traefikIP = []
  · exact .inl (if_pos cleared)
  · exact .inr ⟨s.traefikIP, if_neg cleared, (run_genuine run).cached cleared⟩

/-- A Traefik container with an address on the network. -/
def traefikContainer : Container where
  names := [lit "/traefik"]
  image := lit "traefik:v3"
  labels := ∅
  networks := AList.singleton (lit "n") (lit "10.0.0.3")

/-- A Traefik container that stops between the list call and the write is the target all the same. -/
theorem target_seen_stopped : ∃ h, ∃ s : Tracking, s.watch.running = [] ∧
    s.getTraefikTarget = (lit "10.0.0.3", 443) ∧ (s.getTraefikTarget = ([], 0) ∨
      ∃ address, s.getTraefikTarget = (address, 443) ∧ Seen (lit "n") h address) := by
  have run := System.Run.start (M := system (lit "n")) (s := initial [traefikContainer]) ⟨_, rfl⟩
  have run := run.next (.watch _ _ (.list 0 _ _ true rfl .proxy) nofun)
  have run := run.next (.watch _ _ (.list 0 _ _ true rfl .traefik) nofun)
  have run := run.next (.watch _ _ (.list 0 _ _ true rfl (.all fun _ => .stored)) nofun)
  have run := run.next (.look 0 _ true rfl rfl)
  have run := run.next (.watch _ _ (.stop [] [] traefikContainer rfl) nofun)
  have run := run.next (.cache 0 _ rfl)
  exact ⟨_, _, rfl, rfl, target_seen run⟩

/-- A discovery has not made its list call for Traefik. -/
def Unlooked (s : Tracking) : Prop := ∃ i d, s.watch.discoveries i = some d ∧ s.lookups i = none

/-- Callbacks do not overlap, the list calls for Traefik succeed, and Traefik containers change only
while the stream is subscribed, which fails only when it is empty and no timer is armed; a discovery
that has not looked for Traefik yet will see the change anyway. -/
def Timely (networkName : GoString) (s : Tracking) : TrackingEvent → Prop
  | .watch (.fired _) => s.watch.Idle
  | .watch (.changed info) =>
    s.watch.phase = .watching ∨ info.traefikAddress networkName = none ∨ s.Unlooked
  | .watch .failed => (s.watch.eventCh = 0 ∧ s.watch.debounceTimer = false) ∨ s.Unlooked
  | .looked _ ok => ok = true
  | _ => True

/-- What was listed is what would be listed now, and when no write is to come the cache holds it. -/
structure Covered (networkName : GoString) (s : Tracking) : Prop where
  listed : ∀ i containers, s.lookups i = some (.listed containers) → ∃ listed,
    containers = some listed ∧ traefikAmong networkName listed =
      traefikAmong networkName s.watch.running
  cached : (∀ i containers, s.lookups i ≠ some (.listed containers)) →
    s.traefikIP = traefikAmong networkName s.watch.running

/-- The invariant of a watcher that misses no Traefik container. -/
structure Following (networkName : GoString) (s : Tracking) : Prop where
  single : s.watch.Single
  offline : s.watch.phase ≠ .watching → s.watch.eventCh = 0 ∧ s.watch.debounceTimer = false
  fresh : ∀ i, s.watch.next ≤ i → s.watch.discoveries i = none ∧ s.lookups i = none
  listing : ∀ i containers, s.lookups i = some (.listed containers) →
    ∃ found, s.watch.discoveries i = some (.storing found)
  sending : ∀ i found, s.watch.discoveries i = some (.sending found) → s.lookups i = some .done
  reach : s.watch.Pending ∨ s.Unlooked ∨ s.Covered networkName

variable {s : Tracking} {t : Watch} {e : WatchEvent}

lemma Timely.apart (timely : s.Timely networkName (.watch e)) : s.watch.NoOverlap e := by
  cases e with
  | fired i => exact timely
  | _ => trivial

/-- A step of the containers or of the watching goroutine. -/
lemma Following.control (inv : s.Following networkName) (discoveries : t.discoveries =
    s.watch.discoveries) (next : t.next = s.watch.next)
    (offline : t.phase ≠ .watching → t.eventCh = 0 ∧ t.debounceTimer = false)
    (pending : s.watch.Pending → t.Pending ∨ s.Unlooked)
    (timely : t.Pending ∨ s.Unlooked ∨
      traefikAmong networkName t.running = traefikAmong networkName s.watch.running) :
    Following networkName { s with watch := t } where
  single := by
    unfold Watch.Single
    rw [discoveries]
    exact inv.single
  offline := offline
  fresh i old := by
    rw [discoveries]
    exact inv.fresh i (next ▸ old)
  listing i containers listed := by
    rw [discoveries]
    exact inv.listing i containers listed
  sending i found here := inv.sending i found (discoveries ▸ here)
  reach := by
    have still (unlooked : s.Unlooked) : Unlooked { s with watch := t } := by
      obtain ⟨i, d, running, none_yet⟩ := unlooked
      exact ⟨i, d, discoveries ▸ running, none_yet⟩
    rcases timely with waiting | unlooked | same
    · exact .inl waiting
    · exact .inr (.inl (still unlooked))
    · rcases inv.reach with waiting | unlooked | covered
      · rcases pending waiting with waiting | unlooked
        · exact .inl waiting
        · exact .inr (.inl (still unlooked))
      · exact .inr (.inl (still unlooked))
      · refine .inr (.inr ⟨?_, ?_⟩)
        · intro i containers listed
          obtain ⟨containers, rfl, found⟩ := covered.listed i containers listed
          exact ⟨containers, rfl, found.trans same.symm⟩
        · intro none_listed
          exact (covered.cached none_listed).trans same.symm

/-- A container starts or stops. -/
lemma Following.change {info : Container} {running : List Container}
    (inv : s.Following networkName) (timely : s.Timely networkName (.watch (.changed info)))
    (alike : info.traefikAddress networkName = none →
      traefikAmong networkName running = traefikAmong networkName s.watch.running) :
    Following networkName
      { s with watch := { s.watch with running := running, eventCh := s.watch.notify } } := by
  by_cases online : s.watch.phase = .watching
  · -- the stream tells
    have told : 0 < s.watch.notify := by simp [Watch.notify, online]
    exact inv.control rfl rfl (fun away => absurd online away) (fun _ => .inl (.inl told))
      (.inl (.inl told))
  · obtain ⟨empty, unarmed⟩ := inv.offline online
    have untold : s.watch.notify = 0 := by rw [Watch.notify, if_neg online, empty]
    refine inv.control rfl rfl (fun _ => ⟨untold, unarmed⟩) ?_ ?_
    · intro waiting
      exact absurd waiting (by simp [Watch.Pending, empty, unarmed])
    · rcases timely with online' | other | unlooked
      · exact absurd online' online
      · exact .inr (.inr (alike other))
      · exact .inr (.inl unlooked)

/-- A container that is no Traefik container does not change the address. -/
lemma traefikAmong_other {info : Container} (other : info.traefikAddress networkName = none)
    (before after : List Container) : traefikAmong networkName (before ++ info :: after) =
      traefikAmong networkName (before ++ after) := by
  rw [traefikAmong, traefikAmong, List.findSome?_append, List.findSome?_append,
    List.findSome?_cons, other]

/-- A step of the one discovery that runs. -/
lemma Following.advance {i : Nat} {d : Discovery} {d' : Option Discovery}
    (inv : s.Following networkName) (here : s.watch.discoveries i = some d)
    (discoveries : t.discoveries = (s.watch.setDiscovery i d').discoveries)
    (next : t.next = s.watch.next) (phase : t.phase = s.watch.phase)
    (eventCh : t.eventCh = s.watch.eventCh) (timer : t.debounceTimer = s.watch.debounceTimer)
    (running : t.running = s.watch.running) (single : t.Single)
    (unlisted : ∀ containers, s.lookups i ≠ some (.listed containers))
    (done : ∀ found, d' = some (.sending found) → s.lookups i = some .done)
    (kept : s.lookups i = none → d'.isSome = true) : Following networkName { s with watch := t } where
  single := single
  offline := by
    rw [phase, eventCh, timer]
    exact inv.offline
  fresh j old := by
    obtain ⟨none_yet, unlooked⟩ := inv.fresh j (next ▸ old)
    refine ⟨?_, unlooked⟩
    have other : j ≠ i := by
      rintro rfl
      rw [here] at none_yet
      cases none_yet
    rw [discoveries, Watch.setDiscovery_of_ne d' other]
    exact none_yet
  listing j containers listed := by
    have other : j ≠ i := by
      rintro rfl
      exact unlisted containers listed
    rw [discoveries, Watch.setDiscovery_of_ne d' other]
    exact inv.listing j containers listed
  sending j found there := by
    rw [discoveries] at there
    rcases Watch.setDiscovery_cases there with ⟨rfl, same⟩ | old
    · exact done found same
    · exact inv.sending j found old
  reach := by
    rcases inv.reach with waiting | ⟨j, dj, there, unlooked⟩ | covered
    · left
      show t.Pending
      rw [Watch.Pending, eventCh, timer]
      exact waiting
    · obtain rfl := inv.single j i dj d there here
      obtain ⟨next_stand, e⟩ := Option.isSome_iff_exists.mp (kept unlooked)
      refine .inr (.inl ⟨j, next_stand, ?_, unlooked⟩)
      rw [discoveries, Watch.setDiscovery_self, e]
    · refine .inr (.inr ⟨?_, ?_⟩)
      · intro j containers listed
        rw [running]
        exact covered.listed j containers listed
      · intro none_listed
        rw [running]
        exact covered.cached none_listed

/-- Every timely step of the watcher keeps the invariant. -/
lemma Following.watch (inv : s.Following networkName) (timely : s.Timely networkName (.watch e))
    (st : s.watch.Step networkName e t) (stores : ∀ i, e = .stored i → s.lookups i = some .done) :
    Following networkName { s with watch := t } := by
  have single := Watch.step_single inv.single timely.apart st
  cases st with
  | start before after info split =>
    refine inv.change timely ?_
    intro other
    rw [split]
    exact traefikAmong_other other before after
  | stop before after info split =>
    refine inv.change timely ?_
    intro other
    rw [split]
    exact (traefikAmong_other other before after).symm
  | notice =>
    refine inv.control rfl rfl ?_ ?_ (.inr (.inr rfl))
    · intro away
      refine ⟨?_, (inv.offline away).2⟩
      show s.watch.notify = 0
      rw [Watch.notify, if_neg away]
      exact (inv.offline away).1
    · rintro (some_event | armed)
      · refine .inl (.inl ?_)
        show 0 < s.watch.notify
        unfold Watch.notify
        split <;> omega
      · exact .inl (.inr armed)
  | watch phase _ =>
    have away : s.watch.phase ≠ .watching := by rw [phase]; decide
    exact inv.control rfl rfl (fun _ => inv.offline away) .inl (.inr (.inr rfl))
  | subscribe phase =>
    have away : s.watch.phase ≠ .watching := by rw [phase]; decide
    obtain ⟨empty, unarmed⟩ := inv.offline away
    refine inv.control rfl rfl (fun still => absurd rfl still) ?_ (.inr (.inr rfl))
    intro waiting
    exact absurd waiting (by simp [Watch.Pending, empty, unarmed])
  | refuse phase =>
    have away : s.watch.phase ≠ .watching := by rw [phase]; decide
    exact inv.control rfl rfl (fun _ => inv.offline away) .inl (.inr (.inr rfl))
  | receive waiting phase some_event =>
    exact inv.control rfl rfl (fun away => absurd phase away) (fun _ => .inl (.inr rfl))
      (.inl (.inr rfl))
  | fail phase =>
    refine inv.control rfl rfl (fun _ => ⟨rfl, rfl⟩) ?_ ?_
    · intro waiting
      rcases timely with ⟨empty, unarmed⟩ | unlooked
      · exact absurd waiting (by simp [Watch.Pending, empty, unarmed])
      · exact .inr unlooked
    · exact .inr (.inr rfl)
  | retry phase =>
    have away : s.watch.phase ≠ .watching := by rw [phase]; decide
    exact inv.control rfl rfl (fun _ => inv.offline away) .inl (.inr (.inr rfl))
  | fire armed =>
    -- the new discovery will look for Traefik
    obtain ⟨_, unlooked⟩ := inv.fresh s.watch.next le_rfl
    refine ⟨single, fun away => ⟨(inv.offline away).1, rfl⟩, ?_, ?_, ?_, ?_⟩
    · intro i later
      have other : i ≠ s.watch.next := Nat.ne_of_gt later
      obtain ⟨none_yet, unlooked⟩ := inv.fresh i (Nat.le_of_succ_le later)
      exact ⟨(Watch.setDiscovery_of_ne _ other).trans none_yet, unlooked⟩
    · intro i containers listed
      have other : i ≠ s.watch.next := by
        rintro rfl
        rw [unlooked] at listed
        cases listed
      obtain ⟨found, storing⟩ := inv.listing i containers listed
      exact ⟨found, (Watch.setDiscovery_of_ne _ other).trans storing⟩
    · intro i found here
      rcases Watch.setDiscovery_cases here with ⟨_, same⟩ | old
      · cases same
      · exact inv.sending i found old
    · exact .inr (.inl ⟨s.watch.next, .listingProxy, Watch.setDiscovery_self .., unlooked⟩)
  | list i d d' ok here lists =>
    refine inv.advance here rfl rfl rfl rfl rfl rfl single ?_ ?_ fun _ => rfl
    · intro containers listed
      obtain ⟨found, storing⟩ := inv.listing i containers listed
      rw [here] at storing
      cases storing
      cases lists
    · intro found same
      cases same
      cases lists
  | store i found here =>
    have done := stores i rfl
    refine inv.advance here rfl rfl rfl rfl rfl rfl single ?_ (fun _ _ => done) fun _ => rfl
    intro containers listed
    rw [done] at listed
    cases listed
  | send i found here =>
    have done := inv.sending i found here
    refine inv.advance here rfl rfl rfl rfl rfl rfl single ?_ ?_ ?_
    · intro containers listed
      rw [done] at listed
      cases listed
    · intro _ same
      cases same
    · intro unlooked
      rw [done] at unlooked
      cases unlooked

/-- The list call for Traefik. -/
lemma Following.look {i : Nat} {found : Found} (inv : s.Following networkName)
    (storing : s.watch.discoveries i = some (.storing found)) (unlooked : s.lookups i = none) :
    (s.setLookup i (.listed (some s.watch.running))).Following networkName := by
  refine ⟨inv.single, inv.offline, ?_, ?_, ?_, ?_⟩
  · intro j later
    obtain ⟨none_yet, unlooked'⟩ := inv.fresh j later
    have other : j ≠ i := by
      rintro rfl
      rw [storing] at none_yet
      cases none_yet
    exact ⟨none_yet, (Function.update_of_ne other ..).trans unlooked'⟩
  · intro j containers listed
    by_cases same : j = i
    · subst same
      exact ⟨found, storing⟩
    · simp only [setLookup, Function.update_of_ne same] at listed
      exact inv.listing j containers listed
  · intro j found' here
    have other : j ≠ i := by
      rintro rfl
      rw [show s.watch.discoveries j = _ from here] at storing
      cases storing
    exact (Function.update_of_ne other ..).trans (inv.sending j found' here)
  · refine .inr (.inr ⟨?_, ?_⟩)
    · intro j containers listed
      by_cases same : j = i
      · subst same
        simp only [setLookup, Function.update_self, Option.some.injEq, Lookup.listed.injEq] at listed
        exact ⟨s.watch.running, listed.symm, rfl⟩
      · -- only one discovery runs
        simp only [setLookup, Function.update_of_ne same] at listed
        obtain ⟨found', storing'⟩ := inv.listing j containers listed
        exact absurd (inv.single j i _ _ storing' storing) same
    · intro none_listed
      exact absurd (Function.update_self ..) (none_listed i (some s.watch.running))

/-- The write of the cache. -/
lemma Following.cache {i : Nat} {containers : Option (List Container)}
    (inv : s.Following networkName) (listed : s.lookups i = some (.listed containers)) :
    { s.setLookup i .done with
      traefikIP := discoverTraefik networkName containers s.traefikIP }.Following networkName := by
  obtain ⟨found, storing⟩ := inv.listing i containers listed
  refine ⟨inv.single, inv.offline, ?_, ?_, ?_, ?_⟩
  · intro j later
    obtain ⟨none_yet, unlooked⟩ := inv.fresh j later
    have other : j ≠ i := by
      rintro rfl
      rw [storing] at none_yet
      cases none_yet
    exact ⟨none_yet, (Function.update_of_ne other ..).trans unlooked⟩
  · intro j containers' listed'
    by_cases same : j = i
    · subst same
      simp only [setLookup, Function.update_self] at listed'
      cases listed'
    · simp only [setLookup, Function.update_of_ne same] at listed'
      exact inv.listing j containers' listed'
  · intro j found' here
    by_cases same : j = i
    · subst same
      exact Function.update_self ..
    · exact (Function.update_of_ne same ..).trans (inv.sending j found' here)
  · rcases inv.reach with waiting | ⟨j, d, running, unlooked⟩ | covered
    · exact .inl waiting
    · obtain rfl := inv.single j i _ _ running storing
      rw [listed] at unlooked
      cases unlooked
    · refine .inr (.inr ⟨?_, ?_⟩)
      · intro j containers' listed'
        by_cases same : j = i
        · subst same
          simp only [setLookup, Function.update_self] at listed'
          cases listed'
        · simp only [setLookup, Function.update_of_ne same] at listed'
          exact covered.listed j containers' listed'
      · intro _
        obtain ⟨seen, rfl, same⟩ := covered.listed i containers listed
        exact same

/-- The invariant holds along every timely run. -/
theorem run_following {h : List TrackingEvent}
    (run : ((system networkName).restrict (Timely networkName)).Run h s) : s.Following networkName := by
  refine System.Run.invariant (fun _ s => s.Following networkName) ?_ ?_ run
  · rintro _ ⟨running, rfl⟩
    refine ⟨Watch.initial_single running, fun _ => ⟨rfl, rfl⟩, ?_, nofun, ?_, ?_⟩
    · intro i later
      refine ⟨?_, rfl⟩
      cases here : (Watch.initial running).discoveries i with
      | none => exact here
      | some d =>
        obtain ⟨rfl, _⟩ := Watch.initial_running here
        cases later
    · intro i found here
      cases (Watch.initial_running here).2
    · exact .inr (.inl ⟨0, .listingProxy, rfl, rfl⟩)
  · intro h s e t _ inv taken
    obtain ⟨st, timely⟩ := taken
    cases st with
    | watch e t step stores => exact inv.watch timely step stores
    | look i found ok storing unlooked =>
      obtain rfl : ok = true := timely
      exact inv.look storing unlooked
    | cache i containers listed => exact inv.cache listed

/-- At rest the cache holds the address of the Traefik container that is running. -/
lemma Following.atRest (inv : s.Following networkName) (rest : s.watch.AtRest) :
    s.traefikIP = traefikAmong networkName s.watch.running := by
  rcases inv.reach with waiting | ⟨i, d, running, _⟩ | covered
  · exact absurd waiting (by simp [Watch.Pending, rest.empty, rest.unarmed])
  · rw [rest.idle i] at running
    cases running
  · refine covered.cached ?_
    intro i containers listed
    obtain ⟨found, storing⟩ := inv.listing i containers listed
    rw [rest.idle i] at storing
    cases storing

end Tracking

/-- Where a connection to a domain without a target of its own goes: to port 443 of the address, or to
pintle itself. -/
def traefikTarget (address : GoString) : TCPAddr :=
  match parseIP address with
  | none => localHTTPS
  | some ip => { ip := ip, port := 443 }

namespace Tracking
variable {networkName : GoString}

lemma resolve_traefik (s : Tracking) (resolveTCPAddr : GoString → Option TCPAddr) {target : GoString}
    (default : target = [] ∨ target = lit "traefik") :
    (resolvePassthroughTarget resolveTCPAddr s.getTraefikTarget target).getD localHTTPS =
      traefikTarget s.traefikIP := by
  rw [resolvePassthroughTarget, if_pos default, traefikTarget, getTraefikTarget]
  by_cases cleared : s.traefikIP = []
  · rw [if_pos cleared, cleared]
    rfl
  · rw [if_neg cleared]
    cases parseIP s.traefikIP with
    | none => rfl
    | some ip => rfl

/-- Passed-through connections follow Traefik. After any run in which callbacks do not overlap, the list
calls for Traefik succeed and no change of a Traefik container is missed, once the watcher is at rest a
connection for a name without a route, whose first passthrough domain has no target of its own, goes
to the first Traefik container now running, and to pintle itself when there is none. -/
theorem passthrough_follows {h : List TrackingEvent} {s : Tracking}
    (run : ((system networkName).restrict (Timely networkName)).Run h s) (rest : s.watch.AtRest)
    {ρ : Type} [Regexp ρ] (resolveTCPAddr : GoString → Option TCPAddr)
    {passthrough : List PassthroughDomain} {rtr : Router ρ} {client : Conn} {data : List UInt8}
    {sni : GoString} (read : client.read 16384 = some data) (parsed : parseSNI data = .ok sni)
    (named : sni ≠ []) (unrouted : rtr.hasHost sni = false) {pt : PassthroughDomain}
    (covered : passthrough.find? (·.covers sni) = some pt)
    (default : pt.target = [] ∨ pt.target = lit "traefik") :
    (runSNIRouter resolveTCPAddr s.getTraefikTarget passthrough rtr).handleConnection client =
      .ok (some (traefikTarget (traefikAmong networkName s.watch.running), data)) := by
  rw [SNIRouter.handle_named read parsed, SNIRouter.target_passthrough named, unrouted,
    if_neg Bool.false_ne_true, covered]
  dsimp only
  rw [resolve_traefik s resolveTCPAddr default, (run_following run).atRest rest]

/-- A parent domain that is passed through to Traefik. -/
def traefikPassed : List PassthroughDomain := [{ domain := lit "lvh.me", target := [] }]

/-- The first discovery finds Traefik, and a connection goes there. -/
theorem passthrough_follows_started : ∃ s : Tracking, s.watch.running = [traefikContainer] ∧
    (runSNIRouter resolveLiteral s.getTraefikTarget traefikPassed (.new : Router Empty)).handleConnection
      [dashboardHello.encode #v[3, 1]] =
        .ok (some ({ ip := v4InV6Prefix ++ [10, 0, 0, 3], port := 443 },
          dashboardHello.encode #v[3, 1])) := by
  have run := System.Run.start (M := (system (lit "n")).restrict (Timely (lit "n")))
    (s := initial [traefikContainer]) ⟨_, rfl⟩
  have run := run.next ⟨.watch _ _ (.list 0 _ _ true rfl .proxy) nofun, trivial⟩
  have run := run.next ⟨.watch _ _ (.list 0 _ _ true rfl .traefik) nofun, trivial⟩
  have run := run.next ⟨.watch _ _ (.list 0 _ _ true rfl (.all fun _ => .stored)) nofun, trivial⟩
  have run := run.next ⟨.look 0 _ true rfl rfl, rfl⟩
  have run := run.next ⟨.cache 0 _ rfl, trivial⟩
  have run := run.next ⟨.watch _ _ (.store 0 _ rfl) fun _ same => by cases same; rfl, trivial⟩
  have single := (run_following run).single
  have run := run.next ⟨.watch _ _ (.send 0 _ rfl) nofun, trivial⟩
  have run := run.next ⟨.watch _ _ (.watch rfl rfl) nofun, trivial⟩
  have run := run.next ⟨.watch _ _ (.subscribe rfl) nofun, trivial⟩
  have parsed : parseSNI (dashboardHello.encode #v[3, 1]) = .ok (lit "pintle.lvh.me") :=
    parseSNI_encode #v[3, 1] dashboardHello
  have read : Conn.read 16384 [dashboardHello.encode #v[3, 1]] =
      some (dashboardHello.encode #v[3, 1]) := by decide
  have unrouted : (Router.new : Router Empty).hasHost (lit "pintle.lvh.me") = false := by decide
  have covered : traefikPassed.find? (·.covers (lit "pintle.lvh.me")) =
      some { domain := lit "lvh.me", target := [] } := by decide
  have follows := passthrough_follows run ⟨rfl, rfl, rfl, single.idle (i := 0) rfl⟩ resolveLiteral read
    parsed (by decide) unrouted covered (.inl rfl)
  exact ⟨_, rfl, follows⟩

end Tracking
end Pintle.Docker
