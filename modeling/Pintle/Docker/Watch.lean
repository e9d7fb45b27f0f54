import Pintle.Docker.Discover
import Pintle.Lib.Transition

/-!
# The Docker watcher as a transition system

Model of `Run` and `watchEvents` of `internal/provider/docker/docker.go`, together with the
containers they watch. A discovery runs in the goroutine of `Run` (number 0) or in that of a
debounce callback; each of its list calls, its store under the mutex and its send are steps of their
own, so that any number of them interleave with each other, with the watching goroutine and with
containers that start and stop.

The event stream counts the events that wait in it; the provider does not look into them. An event
while no stream is subscribed is not delivered. A send may take any time, so the capacity of
`configCh` is left out, and so are `discoverTraefik`, the log lines and the end of the process
context. Along every run the messages are results of `discoverRoutes` (`run_genuine`).
-/

namespace Pintle.Docker
open Go Lib

/-- What a discovery returns. -/
abbrev Found := List Route × List TcpRoute

/-- Where a discovery stands: before one of its list calls, before the store or before the send. -/
inductive Discovery where
  | listingProxy
  | listingTraefik (proxyContainers : List Container)
  | listingAll (proxyContainers traefikContainers : List Container)
  | storing (found : Found)
  | sending (found : Found)

/-- What `discoverRoutes` returns on some lists, with or without failed calls. -/
def Discovered (networkName : GoString) (found : Found) : Prop :=
  ∃ ord proxyList traefikList allList,
    found = discoverRoutes networkName ord proxyList traefikList allList

/-- What a discovery is about to store or send is what `discoverRoutes` returned. -/
def Discovery.Genuine (networkName : GoString) : Discovery → Prop
  | .storing found => Discovered networkName found
  | .sending found => Discovered networkName found
  | _ => True

/-- One list call of a discovery, and whether it succeeds. -/
inductive Discovery.Lists (networkName : GoString) (running : List Container) :
    Discovery → Bool → Discovery → Prop where
  | proxy :
    Lists networkName running .listingProxy true
      (.listingTraefik (running.filter Container.hasProxyLabel))
  | traefik {proxyContainers} :
    Lists networkName running (.listingTraefik proxyContainers) true
      (.listingAll proxyContainers (running.filter Container.hasTraefikLabel))
  | all {proxyContainers traefikContainers} (ord : Orders) :
    Lists networkName running (.listingAll proxyContainers traefikContainers) true
      (.storing (discoverRoutes networkName ord (some proxyContainers) (some traefikContainers)
        (some running)))
  | proxyFails (ord : Orders) :
    Lists networkName running .listingProxy false
      (.storing (discoverRoutes networkName ord none none none))
  | traefikFails {proxyContainers} (ord : Orders) :
    Lists networkName running (.listingTraefik proxyContainers) false
      (.storing (discoverRoutes networkName ord (some proxyContainers) none none))
  | allFails {proxyContainers traefikContainers} (ord : Orders) :
    Lists networkName running (.listingAll proxyContainers traefikContainers) false
      (.storing (discoverRoutes networkName ord (some proxyContainers) (some traefikContainers)
        none))

/-- Where the goroutine of `Run` stands: in the first discovery, before `cli.Events`, in the
`select` on the stream, or in the five seconds after a disconnect. -/
inductive WatchPhase where
  | discovering
  | subscribing
  | watching
  | reconnecting
  deriving DecidableEq

/-- The provider and the running containers. `eventCh` counts the events that wait in the stream,
`debounceTimer` says whether a timer is armed, and `next` is the number of the next callback. -/
structure Watch where
  running : List Container
  phase : WatchPhase
  eventCh : Nat
  debounceTimer : Bool
  discoveries : Nat → Option Discovery
  next : Nat
  dockerRoutes : List Route
  dockerTcpRoutes : List TcpRoute

/-- The labels of a run. -/
inductive WatchEvent where
  | changed (info : Container)
  | noticed
  | watched
  | subscribed
  | refused
  | received
  | failed
  | retried
  | fired (i : Nat)
  | listed (i : Nat) (ok : Bool) (discovery : Discovery)
  | stored (i : Nat)
  | sent (i : Nat) (found : Found)

namespace Watch

/-- The events in the stream after one more. -/
def notify (s : Watch) : Nat := if s.phase = .watching then s.eventCh + 1 else s.eventCh

/-- Move a discovery. -/
def setDiscovery (s : Watch) (i : Nat) (discovery : Option Discovery) : Watch :=
  { s with discoveries := Function.update s.discoveries i discovery }

/-- No discovery is running. -/
def Idle (s : Watch) : Prop := ∀ i, s.discoveries i = none

/-- One step of the containers, the watching goroutine or a discovery. -/
inductive Step (networkName : GoString) : Watch → WatchEvent → Watch → Prop where
  | start {s} (before after : List Container) (info : Container) :
    s.running = before ++ after →
    Step networkName s (.changed info)
      { s with running := before ++ info :: after, eventCh := s.notify }
  | stop {s} (before after : List Container) (info : Container) :
    s.running = before ++ info :: after →
    Step networkName s (.changed info) { s with running := before ++ after, eventCh := s.notify }
  | notice {s} :
    -- a `stop` after `die`, or a `destroy`
    Step networkName s .noticed { s with eventCh := s.notify }
  | watch {s} :
    s.phase = .discovering →
    s.discoveries 0 = none →
    Step networkName s .watched { s with phase := .subscribing }
  | subscribe {s} :
    s.phase = .subscribing →
    Step networkName s .subscribed
      { s with phase := .watching, eventCh := 0, debounceTimer := false }
  | refuse {s} :
    s.phase = .subscribing →
    Step networkName s .refused { s with phase := .reconnecting }
  | receive {s} (waiting : Nat) :
    s.phase = .watching →
    s.eventCh = waiting + 1 →
    Step networkName s .received { s with eventCh := waiting, debounceTimer := true }
  | fail {s} :
    s.phase = .watching →
    Step networkName s .failed
      { s with phase := .reconnecting, eventCh := 0, debounceTimer := false }
  | retry {s} :
    s.phase = .reconnecting →
    Step networkName s .retried { s with phase := .subscribing }
  | fire {s} :
    s.debounceTimer = true →
    Step networkName s (.fired s.next)
      { s.setDiscovery s.next (some .listingProxy) with
        debounceTimer := false
        next := s.next + 1 }
  | list {s} (i : Nat) (d d' : Discovery) (ok : Bool) :
    s.discoveries i = some d →
    d.Lists networkName s.running ok d' →
    Step networkName s (.listed i ok d') (s.setDiscovery i (some d'))
  | store {s} (i : Nat) (found : Found) :
    s.discoveries i = some (.storing found) →
    Step networkName s (.stored i)
      { s.setDiscovery i (some (.sending found)) with
        dockerRoutes := found.1
        dockerTcpRoutes := found.2 }
  | send {s} (i : Nat) (found : Found) :
    s.discoveries i = some (.sending found) →
    Step networkName s (.sent i found) (s.setDiscovery i none)

/-- The state when `Run` begins. -/
def initial (running : List Container) : Watch where
  running := running
  phase := .discovering
  eventCh := 0
  debounceTimer := false
  discoveries := Function.update (fun _ => none) 0 (some .listingProxy)
  next := 1
  dockerRoutes := []
  dockerTcpRoutes := []

/-- The system of all interleavings. -/
def system (networkName : GoString) : System Watch WatchEvent where
  init s := ∃ running, s = initial running
  step := Step networkName

/-- A debounce timer fires only when no discovery is running. -/
def NoOverlap (s : Watch) : WatchEvent → Prop
  | .fired _ => s.Idle
  | _ => True

end Watch

/-- The discovery an event sends, with its number. -/
def WatchEvent.sent? : WatchEvent → Option (Nat × Found)
  | .sent i found => some (i, found)
  | _ => none

/-- The discovery whose last list call an event is, with its number. -/
def WatchEvent.taken? : WatchEvent → Option (Nat × Found)
  | .listed i _ (.storing found) => some (i, found)
  | _ => none

/-- A step of a discovery whose list calls succeed. -/
def WatchEvent.Advances : WatchEvent → Prop
  | .listed _ ok _ => ok = true
  | .stored _ => True
  | .sent _ _ => True
  | _ => False

/-- The steps of a discovery of containers that stay the same, newest first. -/
def discovered (i : Nat) (running : List Container) (found : Found) : List WatchEvent :=
  [.sent i found, .stored i, .listed i true (.storing found),
    .listed i true (.listingAll (running.filter Container.hasProxyLabel)
      (running.filter Container.hasTraefikLabel)),
    .listed i true (.listingTraefik (running.filter Container.hasProxyLabel))]

/-- The discoveries sent in a history, oldest first. -/
def published (h : List WatchEvent) : List (Nat × Found) := (h.filterMap (·.sent?)).reverse

/-- The snapshots that discoveries took in a history, oldest first. -/
def snapshots (h : List WatchEvent) : List (Nat × Found) := (h.filterMap (·.taken?)).reverse

/-- The Docker messages sent in a history, oldest first. -/
def publishedMessages (h : List WatchEvent) : List Message :=
  (published h).map fun sent => discoveryMessage sent.2

lemma published_cons (e : WatchEvent) (h : List WatchEvent) :
    published (e :: h) = published h ++ e.sent?.toList := by
  cases sent : e.sent? <;> simp [published, sent]

lemma snapshots_cons (e : WatchEvent) (h : List WatchEvent) :
    snapshots (e :: h) = snapshots h ++ e.taken?.toList := by
  cases taken : e.taken? <;> simp [snapshots, taken]

lemma published_append (k h : List WatchEvent) : published (k ++ h) = published h ++ published k := by
  simp [published]

lemma snapshots_append (k h : List WatchEvent) : snapshots (k ++ h) = snapshots h ++ snapshots k := by
  simp [snapshots]

namespace Watch

/-- The state after a discovery has finished. -/
def finished (s : Watch) (i : Nat) (found : Found) : Watch :=
  { s.setDiscovery i none with dockerRoutes := found.1, dockerTcpRoutes := found.2 }

/-- At most one discovery is running. -/
def Single (s : Watch) : Prop :=
  ∀ i j d d', s.discoveries i = some d → s.discoveries j = some d' → i = j

@[simp]
lemma setDiscovery_self (s : Watch) (i : Nat) (discovery : Option Discovery) :
    (s.setDiscovery i discovery).discoveries i = discovery :=
  Function.update_self ..

lemma setDiscovery_of_ne {s : Watch} {i j : Nat} (discovery : Option Discovery) (other : j ≠ i) :
    (s.setDiscovery i discovery).discoveries j = s.discoveries j :=
  Function.update_of_ne other ..

lemma setDiscovery_cases {s : Watch} {i j : Nat} {discovery : Option Discovery} {d : Discovery}
    (there : (s.setDiscovery i discovery).discoveries j = some d) :
    (j = i ∧ discovery = some d) ∨ s.discoveries j = some d := by
  by_cases same : j = i
  · subst same
    rw [setDiscovery_self] at there
    exact .inl ⟨rfl, there⟩
  · rw [setDiscovery_of_ne discovery same] at there
    exact .inr there

@[simp]
lemma setDiscovery_setDiscovery (s : Watch) (i : Nat) (d d' : Option Discovery) :
    (s.setDiscovery i d).setDiscovery i d' = s.setDiscovery i d' := by
  simp [setDiscovery]

@[simp]
lemma finished_discoveries (s : Watch) (i : Nat) (found : Found) :
    (s.finished i found).discoveries = (s.setDiscovery i none).discoveries :=
  rfl

/-- A discovery runs to its end while nothing else happens. -/
lemma discovery_path {networkName : GoString} {M : System Watch WatchEvent} {s : Watch} {i : Nat}
    (ord : Orders) (steps : ∀ s e t, Step networkName s e t → e.Advances → M.step s e t)
    (here : s.discoveries i = some .listingProxy) :
    M.Path s (discovered i s.running (discover networkName ord s.running))
      (s.finished i (discover networkName ord s.running)) := by
  have path := System.Path.next (M := M) .refl (steps s _ _ (.list i _ _ true here .proxy) rfl)
  have path := path.next
    (steps _ _ _ (.list i _ _ true (setDiscovery_self ..) .traefik) rfl)
  have path := path.next
    (steps _ _ _ (.list i _ _ true (setDiscovery_self ..) (.all ord)) rfl)
  have path := path.next (steps _ _ _ (.store i _ (setDiscovery_self ..)) trivial)
  have path := path.next (steps _ _ _ (.send i _ (setDiscovery_self ..)) trivial)
  simpa [finished, setDiscovery, discover, discovered] using path

/-- The one discovery that runs moves on. -/
lemma Single.move {s : Watch} (single : s.Single) {i : Nat} {d : Discovery}
    (here : s.discoveries i = some d) (discovery : Option Discovery) {j : Nat} {d' : Discovery}
    (there : (s.setDiscovery i discovery).discoveries j = some d') :
    j = i ∧ discovery = some d' := by
  cases setDiscovery_cases there with
  | inl moved => exact moved
  | inr other =>
    obtain rfl := single j i d' d other here
    rw [setDiscovery_self] at there
    exact ⟨rfl, there⟩

/-- Without overlapping callbacks at most one discovery is running. -/
lemma step_single {networkName : GoString} {s t : Watch} {e : WatchEvent} (single : s.Single)
    (apart : NoOverlap s e) (st : Step networkName s e t) : t.Single := by
  have moved {i : Nat} {d : Discovery} (here : s.discoveries i = some d)
      (discovery : Option Discovery) : (s.setDiscovery i discovery).Single := by
    intro j k d' d'' first second
    rw [(single.move here discovery first).1, (single.move here discovery second).1]
  cases st with
  | fire _ =>
    intro i j d d' first second
    have only {k : Nat} {d : Discovery}
        (running : (s.setDiscovery s.next (some .listingProxy)).discoveries k = some d) :
        k = s.next := by
      cases setDiscovery_cases running with
      | inl first => exact first.1
      | inr other =>
        rw [apart k] at other
        cases other
    exact (only first).trans (only second).symm
  | list i d d' ok here _ => exact moved here (some d')
  | store i found here => exact moved here (some (.sending found))
  | send i found here => exact moved here none
  | _ => exact single

lemma initial_running {running : List Container} {i : Nat} {d : Discovery}
    (here : (initial running).discoveries i = some d) : i = 0 ∧ d = .listingProxy := by
  have found : Function.update (fun _ => none) 0 (some Discovery.listingProxy) i = some d := here
  by_cases first : i = 0
  · subst first
    rw [Function.update_self] at found
    exact ⟨rfl, (Option.some.inj found).symm⟩
  · rw [Function.update_of_ne first] at found
    cases found

lemma initial_single (running : List Container) : (initial running).Single := by
  intro i j d d' first second
  exact (initial_running first).1.trans (initial_running second).1.symm

/-- Every snapshot that is taken, and every message that is sent, is what `discoverRoutes` returned. -/
structure Genuine (networkName : GoString) (h : List WatchEvent) (s : Watch) : Prop where
  running : ∀ i d, s.discoveries i = some d → d.Genuine networkName
  sent : ∀ sent ∈ published h, Discovered networkName sent.2

lemma step_genuine {networkName : GoString} {h : List WatchEvent} {s t : Watch} {e : WatchEvent}
    (inv : s.Genuine networkName h) (st : Step networkName s e t) :
    t.Genuine networkName (e :: h) := by
  have moved {i : Nat} {d' : Option Discovery} (genuine : ∀ d ∈ d', d.Genuine networkName) (j : Nat)
      (d : Discovery) (there : (s.setDiscovery i d').discoveries j = some d) :
      d.Genuine networkName := by
    cases setDiscovery_cases there with
    | inl here => exact genuine d here.2
    | inr other => exact inv.running j d other
  have quiet (silent : e.sent? = none) :
      ∀ sent ∈ published (e :: h), Discovered networkName sent.2 := by
    rw [published_cons, silent, Option.toList_none, List.append_nil]
    exact inv.sent
  cases st with
  | fire _ =>
    refine ⟨moved ?_, quiet rfl⟩
    intro d first
    cases first
    trivial
  | list i d d' ok here st =>
    refine ⟨moved ?_, quiet rfl⟩
    intro d first
    cases first
    cases st with
    | proxy => trivial
    | traefik => trivial
    | all ord => exact ⟨ord, _, _, _, rfl⟩
    | proxyFails ord => exact ⟨ord, _, _, _, rfl⟩
    | traefikFails ord => exact ⟨ord, _, _, _, rfl⟩
    | allFails ord => exact ⟨ord, _, _, _, rfl⟩
  | store i found here =>
    have genuine : Discovered networkName found := inv.running i _ here
    refine ⟨moved ?_, quiet rfl⟩
    intro d first
    cases first
    exact genuine
  | send i found here =>
    refine ⟨moved nofun, ?_⟩
    intro sent member
    rw [published_cons] at member
    cases List.mem_append.mp member with
    | inl old => exact inv.sent sent old
    | inr new =>
      cases List.mem_singleton.mp new
      exact inv.running i _ here
  | _ => exact ⟨inv.running, quiet rfl⟩

/-- Along every run the messages sent are results of `discoverRoutes`. -/
theorem run_genuine {networkName : GoString} {h : List WatchEvent} {s : Watch}
    (run : (system networkName).Run h s) : s.Genuine networkName h := by
  refine System.Run.invariant (fun h s => s.Genuine networkName h) ?_ ?_ run
  · intro _ begun
    obtain ⟨running, rfl⟩ := begun
    refine ⟨?_, nofun⟩
    intro i d here
    obtain ⟨_, rfl⟩ := initial_running here
    trivial
  · intro h s e t _ inv st
    exact step_genuine inv st

end Watch
end Pintle.Docker
