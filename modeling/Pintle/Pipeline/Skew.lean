import Pintle.Pipeline.Latest
import Pintle.Server.Handle

/-!
# TCP routes behind HTTP routes

The goroutine that applies a configuration updates the router first and sets `allTcpRoutes` in a
second step, under another mutex. A TCP connection that comes between the two is routed by the
configuration before. `tcp_behind` says how far the two views can be apart: by one configuration, and
only there.
-/

namespace Pintle
open Go Lib

/-- The TCP routes of the last of some configurations. -/
def lastTcpRoutes (applied : List Configuration) : List TcpRoute :=
  (applied.getLast?.map (·.tcpRoutes)).getD []

lemma lastTcpRoutes_concat (applied : List Configuration) (merged : Configuration) :
    lastTcpRoutes (applied ++ [merged]) = merged.tcpRoutes := by
  rw [lastTcpRoutes, List.getLast?_concat]
  rfl

namespace Pipeline
variable {ρ : Type}

/-- The TCP routes are those of the last applied configuration, or of the one before it while the
applier is about to set them. -/
inductive Behind (h : List PipelineEvent) (s : Pipeline ρ) : Prop where
  | level :
    s.allTcpRoutes = lastTcpRoutes (appliedConfigs h) →
    (∀ merged, s.applier ≠ .routed merged) →
    Behind h s
  | between (older : List Configuration) (tcp http : Configuration) :
    appliedConfigs h = older ++ [tcp, http] →
    s.allTcpRoutes = tcp.tcpRoutes →
    s.applier = .routed http →
    Behind h s

variable [Regexp ρ] {c : Config} {h : List PipelineEvent} {s t : Pipeline ρ} {e : PipelineEvent}

/-- Startup applies a configuration. -/
lemma run_applied (run : (system ρ c).Run h s) (started : s.started = true) :
    appliedConfigs h ≠ [] := by
  induction run with
  | start ini =>
    cases ini
    cases started
  | @next h s e t run st ih =>
    rw [appliedConfigs_cons]
    cases st with
    | boot _ _ _ _ _ _ _ => exact List.append_ne_nil_of_right_ne_nil _ (List.cons_ne_nil _ _)
    | _ => exact List.append_ne_nil_of_left_ne_nil (ih started) _

omit [Regexp ρ] in
/-- A step that applies nothing and leaves the TCP routes alone. -/
lemma Behind.keep (behind : s.Behind h) (unapplied : e.applied? = none)
    (routes : t.allTcpRoutes = s.allTcpRoutes)
    (applier : ∀ merged, t.applier = .routed merged ↔ s.applier = .routed merged) :
    t.Behind (e :: h) := by
  have applied : appliedConfigs (e :: h) = appliedConfigs h := by
    rw [appliedConfigs_cons, unapplied, Option.toList_none, List.append_nil]
  cases behind with
  | level level settled =>
    exact .level (by rw [routes, applied, level]) fun merged => mt (applier merged).mp (settled merged)
  | between older tcp http split earlier routed =>
    exact .between older tcp http (applied.trans split) (routes.trans earlier)
      ((applier http).mpr routed)

lemma step_behind (run : (system ρ c).Run h s) (behind : s.Behind h) (st : Step c s e t) :
    t.Behind (e :: h) := by
  have sound := run_sound run
  cases st with
  | boot ord visit msg rest unstarted _ _ =>
    refine .level ?_ ?_
    · rw [appliedConfigs_cons, PipelineEvent.applied?, Option.toList_some, lastTcpRoutes_concat]
    · intro merged routed
      have idle := (sound.before unstarted).2.2.2
      rw [show s.applier = .routed merged from routed] at idle
      cases idle
  | apply visit merged received =>
    cases behind with
    | between _ _ _ _ _ routed =>
      rw [routed] at received
      cases received
    | level level _ =>
      have applied : appliedConfigs (.applied merged :: h) = appliedConfigs h ++ [merged] :=
        appliedConfigs_cons ..
      cases static : c.staticOnly with
      | false =>
        have started := sound.running (.inr (by rw [received]; exact ApplierPhase.noConfusion))
        obtain ⟨older, last, split⟩ := List.eq_nil_or_concat'
          (appliedConfigs h) |>.resolve_left (run_applied run started)
        refine .between older last merged ?_ ?_ rfl
        · rw [applied, split, List.append_assoc]
          rfl
        · rw [← lastTcpRoutes_concat older last, ← split]
          exact level
      | true =>
        -- nothing is set, and nothing is to be set
        refine .level ?_ fun _ => ApplierPhase.noConfusion
        have member : merged ∈ stages h s := by simp [stages, received, ApplierPhase.incoming]
        obtain ⟨_, _, from_⟩ := sound.stage member
        rw [applied, lastTcpRoutes_concat, mergedFrom_static static sound.ok from_]
        exact (sound.static static).1
  | publish merged routed =>
    have applied : appliedConfigs (.published :: h) = appliedConfigs h := by
      rw [appliedConfigs_cons]
      exact List.append_nil _
    cases behind with
    | level _ settled => exact absurd routed (settled merged)
    | between older tcp http split _ routed' =>
      rw [routed] at routed'
      cases routed'
      refine .level ?_ fun _ => ApplierPhase.noConfusion
      rw [applied, split, List.append_cons, lastTcpRoutes_concat]
  | take merged _ idle _ =>
    refine behind.keep rfl rfl fun merged' => iff_of_false ApplierPhase.noConfusion ?_
    rw [idle]
    exact ApplierPhase.noConfusion
  | quitApplier _ _ idle =>
    refine behind.keep rfl rfl fun merged' => iff_of_false ApplierPhase.noConfusion ?_
    rw [idle]
    exact ApplierPhase.noConfusion
  | _ => exact behind.keep rfl rfl fun _ => Iff.rfl

lemma run_behind (run : (system ρ c).Run h s) : s.Behind h := by
  induction run with
  | start ini =>
    cases ini
    exact .level rfl fun _ => ApplierPhase.noConfusion
  | next run st ih => exact step_behind run ih st

/-- The two routing tables are never more than one configuration apart. Along every run, once startup
is over, the HTTP router holds the merge of the first `m` accepted messages and TCP connections are
routed by the merge of the first `n`, with `n ≤ m`; unless the applier stands between the two updates,
both are the same configuration. So a TCP connection is routed by the last configuration applied or the
one applied just before it, and its route is the first entry there for its port and server name. -/
theorem tcp_behind (run : (system ρ c).Run h s) (started : s.started = true) :
    ∃ n m, ∃ tcp http : Configuration, n ≤ m ∧ m ≤ (acceptedMessages h).length ∧
      MergedFrom (acceptedMessages h) m http ∧ s.router.Installed http.routes ∧
      (MergedFrom (acceptedMessages h) n tcp ∧ s.allTcpRoutes = tcp.tcpRoutes) ∧
      (∀ certs port sni, TCPRouter.findRoute { certs, getRoutes := s.allTcpRoutes } port sni =
        tcp.tcpRoutes.find? (·.serves port sni)) ∧
      ((n = m ∧ tcp = http) ∨
        n < m ∧ s.applier = .routed http ∧ ∃ older, appliedConfigs h = older ++ [tcp, http]) := by
  have sound := run_sound run
  obtain ⟨stamps, same, from_, increasing⟩ := applied_increasing sound
  cases run_behind run with
  | level level _ =>
    obtain ⟨older, last, split⟩ := List.eq_nil_or_concat'
      (appliedConfigs h) |>.resolve_left (run_applied run started)
    have newest : (appliedConfigs h).getLast? = some last := by rw [split, List.getLast?_concat]
    rw [split, lastTcpRoutes_concat] at level
    obtain ⟨stamp, member, rfl⟩ : ∃ stamp ∈ stamps, stamp.2 = last := by
      refine List.mem_map.mp ?_
      rw [same]
      exact List.mem_of_getLast? newest
    obtain ⟨bound, merged⟩ := from_ stamp member
    exact ⟨stamp.1, stamp.1, stamp.2, stamp.2, Nat.le_refl _, bound, merged, sound.tables _ newest,
      ⟨merged, level⟩, fun _ _ _ => by rw [TCPRouter.findRoute, level], .inl ⟨rfl, rfl⟩⟩
  | between older tcp http split earlier routed =>
    rw [split] at same
    obtain ⟨first, rest, rfl, _, second⟩ := List.map_eq_append_iff.mp same
    obtain ⟨tcpStamp, rest, rfl, rfl, third⟩ := List.map_eq_cons_iff.mp second
    obtain ⟨httpStamp, rest, rfl, rfl, _⟩ := List.map_eq_cons_iff.mp third
    have less : tcpStamp.1 < httpStamp.1 :=
      (List.pairwise_cons.mp (List.pairwise_append.mp increasing).2.1).1 _ List.mem_cons_self
    have newest : (appliedConfigs h).getLast? = some httpStamp.2 := by
      rw [split, List.append_cons, List.getLast?_concat]
    obtain ⟨bound, http⟩ := from_ httpStamp (by simp)
    obtain ⟨_, tcp⟩ := from_ tcpStamp (by simp)
    exact ⟨tcpStamp.1, httpStamp.1, tcpStamp.2, httpStamp.2, Nat.le_of_lt less, bound, http,
      sound.tables _ newest, ⟨tcp, earlier⟩, fun _ _ _ => by rw [TCPRouter.findRoute, earlier],
      .inr ⟨less, routed, older, split⟩⟩

/-- A file with one TCP route. -/
def oneTcp : Message where
  providerName := lit "file"
  tcpRoutes := [{ hostname := lit "db", targetHost := lit "10.0.0.2", targetPort := 5432,
                  listenPort := 5432, source := lit "static" }]

/-- A reload that drops a TCP route and adds an HTTP route, between its two updates. -/
theorem tcp_behind_reload :
    ∃ h, ∃ s : Pipeline Empty, (system Empty { staticOnly := false }).Run h s ∧
      (s.router.resolve (lit "a") (lit "/")).1.isSome = true ∧
      (TCPRouter.findRoute { certs := [], getRoutes := s.allTcpRoutes } 5432 (lit "db")).isSome = true ∧
      ∃ n m, n ≤ m ∧ ∃ tcp, MergedFrom (acceptedMessages h) n tcp ∧
        s.allTcpRoutes = tcp.tcpRoutes := by
  have run := System.Run.next (M := system Empty { staticOnly := false }) (.start rfl)
    (.send oneTcp (by decide))
  have run := run.next (.boot .stored .stored _ [] rfl rfl rfl)
  have run := run.next (.send oneRoute (by decide))
  have run := run.next (.receive oneRoute [] rfl rfl rfl)
  have run := run.next (.accept .stored oneRoute rfl rfl)
  have run := run.next (.offer _ rfl rfl)
  have run := run.next (.take _ rfl rfl rfl)
  have run := run.next (.apply .stored _ rfl)
  obtain ⟨n, m, tcp, _, ordered, _, _, _, from_, _, _⟩ := tcp_behind run rfl
  exact ⟨_, _, run, rfl, rfl, n, m, ordered, tcp, from_⟩

end Pipeline
end Pintle
