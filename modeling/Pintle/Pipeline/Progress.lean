import Pintle.Lib.Progress
import Pintle.Pipeline.Latest

/-!
# The pipeline comes to rest

Once no provider sends, the two goroutines have only so much to do: each message and each
configuration on its way stands for a number of their steps (`work`), and every step of theirs uses
some of it up. They never block each other: a pipeline in which neither goroutine can take a step has
nothing left to do (`rest_of_stuck`). In whatever order they take their steps, each message that waits
is handled once and in order, so the messages and the tables they end with do not depend on it.
-/

namespace Pintle
open Go Lib

/-- Whether an event is a step of one of the two goroutines before they stop. -/
def PipelineEvent.own : PipelineEvent → Bool
  | .sent _ => false
  | .booted _ _ => false
  | .ended => false
  | .quit => false
  | _ => true

/-- The message an event sends. -/
def PipelineEvent.sent? : PipelineEvent → Option Message
  | .sent msg => some msg
  | _ => none

/-- Whether an event is a send of a provider. -/
def PipelineEvent.sends (e : PipelineEvent) : Bool := e.sent?.isSome

/-- The messages sent in a history, oldest first. -/
def sentMessages (h : List PipelineEvent) : List Message := (h.filterMap (·.sent?)).reverse

lemma sentMessages_cons (e : PipelineEvent) (h : List PipelineEvent) :
    sentMessages (e :: h) = sentMessages h ++ e.sent?.toList := by
  cases sent : e.sent? <;> simp [sentMessages, sent]

lemma PipelineEvent.sent?_own {e : PipelineEvent} (own : e.own = true) : e.sent? = none := by
  cases e with
  | sent _ => cases own
  | _ => rfl

/-- The steps that a phase of the watcher may still lead to. -/
def WatcherPhase.work : WatcherPhase → Nat
  | .validating _ => 8
  | .offering _ => 7
  | .draining _ => 6
  | .sending _ => 5
  | _ => 0

/-- The steps that a phase of the applier may still lead to. -/
def ApplierPhase.work : ApplierPhase → Nat
  | .received _ => 2
  | .routed _ => 1
  | _ => 0

/-- The message in validation. -/
def WatcherPhase.incoming : WatcherPhase → List Message
  | .validating msg => [msg]
  | _ => []

namespace Pipeline
variable {ρ : Type}

/-- The steps that what is on its way may still lead to. -/
def work (s : Pipeline ρ) : Nat :=
  9 * s.configCh.length + s.watcher.work + 3 * s.aggCh.toList.length + s.applier.work

/-- The messages that are sent and not handled. -/
def waiting (s : Pipeline ρ) : List Message := s.watcher.incoming ++ s.configCh

/-- Both goroutines are in their `select`, with nothing to receive. -/
structure AtRest (s : Pipeline ρ) : Prop where
  configCh : s.configCh = []
  watcher : s.watcher = .idle
  aggCh : s.aggCh = none
  applier : s.applier = .idle

/-- Startup is over and neither goroutine has stopped. -/
structure Going (s : Pipeline ρ) : Prop where
  started : s.started = true
  watcher : s.watcher ≠ .stopped
  applier : s.applier ≠ .stopped

variable [Regexp ρ] {c : Config} {s t : Pipeline ρ} {e : PipelineEvent}

omit [Regexp ρ] in
lemma work_own (own : e.own = true) (spent : t.work < s.work) :
    t.work + e.own.toNat ≤ s.work + 9 * e.sends.toNat := by
  rw [own, PipelineEvent.sends, e.sent?_own own]
  exact spent

/-- Every step of a goroutine uses up some work, and a send adds nine steps. -/
lemma step_work (st : Step c s e t) :
    t.work + e.own.toNat ≤ s.work + 9 * e.sends.toNat := by
  cases st with
  | send msg _ =>
    simp only [work, PipelineEvent.own, PipelineEvent.sends, PipelineEvent.sent?,
      Option.isSome_some, Bool.toNat_true, Bool.toNat_false, List.length_append,
      List.length_singleton]
    omega
  | boot ord visit msg rest _ waiting _ =>
    simp only [work, waiting, PipelineEvent.own, PipelineEvent.sends, PipelineEvent.sent?,
      Option.isSome_none, Bool.toNat_false, List.length_cons]
    omega
  | receive msg rest _ idle waiting =>
    refine work_own rfl ?_
    simp only [work, idle, waiting, WatcherPhase.work, List.length_cons]
    omega
  | reject msg err validating _ =>
    refine work_own rfl ?_
    simp only [work, validating, WatcherPhase.work]
    omega
  | accept ord msg validating _ =>
    refine work_own rfl ?_
    simp only [work, validating, WatcherPhase.work]
    omega
  | offer merged offering empty =>
    refine work_own rfl ?_
    simp only [work, offering, empty, WatcherPhase.work, Option.toList_some, Option.toList_none,
      List.length_singleton, List.length_nil]
    omega
  | full merged old offering _ =>
    refine work_own rfl ?_
    simp only [work, offering, WatcherPhase.work]
    omega
  | drain merged old draining waiting =>
    refine work_own rfl ?_
    simp only [work, draining, waiting, WatcherPhase.work, Option.toList_some, Option.toList_none,
      List.length_singleton, List.length_nil]
    omega
  | miss merged draining empty =>
    refine work_own rfl ?_
    simp only [work, draining, empty, WatcherPhase.work]
    omega
  | deliver merged sending empty =>
    refine work_own rfl ?_
    simp only [work, sending, empty, WatcherPhase.work, Option.toList_some, Option.toList_none,
      List.length_singleton, List.length_nil]
    omega
  | take merged _ idle waiting =>
    refine work_own rfl ?_
    simp only [work, idle, waiting, ApplierPhase.work, Option.toList_some, Option.toList_none,
      List.length_singleton, List.length_nil]
    omega
  | apply visit merged received =>
    refine work_own rfl ?_
    have phase : ApplierPhase.work (if c.staticOnly then .idle else .routed merged) < 2 := by
      split
      · exact Nat.zero_lt_two
      · exact Nat.one_lt_two
    rw [work, work, received]
    exact Nat.add_lt_add_left phase _
  | publish merged routed =>
    refine work_own rfl ?_
    simp only [work, routed, ApplierPhase.work]
    omega
  | «end» => simp [work, PipelineEvent.own, PipelineEvent.sends,
      PipelineEvent.sent?]
  | quitWatcher _ _ idle => simp [work, idle, WatcherPhase.work, PipelineEvent.own, PipelineEvent.sends,
      PipelineEvent.sent?]
  | quitApplier _ _ idle => simp [work, idle, ApplierPhase.work, PipelineEvent.own, PipelineEvent.sends,
      PipelineEvent.sent?]

lemma step_decreases (c : Config) (s : Pipeline ρ) (e : PipelineEvent) (t : Pipeline ρ)
    (st : (system ρ c).step s e t) (own : e.own = true) : t.work < s.work := by
  have spent := step_work st
  have unfed : e.sends = false := by rw [PipelineEvent.sends, e.sent?_own own]; rfl
  rw [own, unfed] at spent
  exact spent

/-- No message is lost, handled twice or overtaken: what a step accepts and what waits after it is what
waited before it and what it sends, without the messages that are rejected. -/
lemma step_waiting {h : List PipelineEvent} (sound : Sound c h s) (st : Step c s e t) :
    acceptedMessages (e :: h) ++ t.waiting.filter c.accepts =
      acceptedMessages h ++ (s.waiting ++ e.sent?.toList).filter c.accepts := by
  rw [acceptedMessages_cons, List.append_assoc]
  congr 1
  cases st with
  | send msg _ =>
    simp [waiting, PipelineEvent.accepted?, PipelineEvent.sent?]
  | boot ord visit msg rest unstarted sent valid =>
    have idle := (sound.before unstarted).2.2.1
    simp [waiting, idle, sent, accepts_of_valid valid, WatcherPhase.incoming,
      PipelineEvent.accepted?, PipelineEvent.sent?]
  | receive msg rest _ idle sent =>
    simp [waiting, idle, sent, WatcherPhase.incoming, PipelineEvent.accepted?, PipelineEvent.sent?]
  | reject msg err validating invalid =>
    have rejected : c.accepts msg = false := by
      rw [Config.accepts, invalid]
      rfl
    simp [waiting, validating, rejected, WatcherPhase.incoming, PipelineEvent.accepted?,
      PipelineEvent.sent?]
  | accept ord msg validating valid =>
    simp [waiting, validating, accepts_of_valid valid, WatcherPhase.incoming,
      PipelineEvent.accepted?, PipelineEvent.sent?]
  | offer merged offering _ =>
    simp [waiting, offering, WatcherPhase.incoming, PipelineEvent.accepted?, PipelineEvent.sent?]
  | full merged old offering _ =>
    simp [waiting, offering, WatcherPhase.incoming, PipelineEvent.accepted?, PipelineEvent.sent?]
  | drain merged old draining _ =>
    simp [waiting, draining, WatcherPhase.incoming, PipelineEvent.accepted?, PipelineEvent.sent?]
  | miss merged draining _ =>
    simp [waiting, draining, WatcherPhase.incoming, PipelineEvent.accepted?, PipelineEvent.sent?]
  | deliver merged sending _ =>
    simp [waiting, sending, WatcherPhase.incoming, PipelineEvent.accepted?, PipelineEvent.sent?]
  | quitWatcher _ _ idle =>
    simp [waiting, idle, WatcherPhase.incoming, PipelineEvent.accepted?, PipelineEvent.sent?]
  | _ => simp [waiting, PipelineEvent.accepted?, PipelineEvent.sent?]

/-- Along every run the messages sent are those accepted and those that wait, in order, without the
messages that are rejected. -/
lemma run_waiting {h : List PipelineEvent} (run : (system ρ c).Run h s) :
    (sentMessages h).filter c.accepts = acceptedMessages h ++ s.waiting.filter c.accepts := by
  induction run with
  | start ini =>
    cases ini
    rfl
  | @next h s e t run st ih =>
    rw [step_waiting (run_sound run) st, List.filter_append, ← List.append_assoc, ← ih,
      ← List.filter_append, sentMessages_cons]

/-- A step of a goroutine stops neither. -/
lemma step_going (st : Step c s e t) (own : e.own = true) (going : s.Going) : t.Going := by
  obtain ⟨started, watcher, applier⟩ := going
  cases st with
  | send _ _ => cases own
  | boot _ _ _ _ _ _ _ => cases own
  | «end» => cases own
  | quitWatcher _ _ _ => cases own
  | quitApplier _ _ _ => cases own
  | take _ _ _ _ => exact ⟨started, watcher, nofun⟩
  | apply _ _ _ =>
    refine ⟨started, watcher, ?_⟩
    dsimp only
    split <;> nofun
  | publish _ _ => exact ⟨started, watcher, nofun⟩
  | _ => exact ⟨started, nofun, applier⟩

/-- Where neither goroutine can take a step, nothing is left to do. -/
lemma rest_of_stuck {h : List PipelineEvent} (sound : Sound c h s) (going : s.Going)
    (stuck : ∀ e t, e.own = true → ¬ Step c s e t) : s.AtRest := by
  have watcher : s.watcher = .idle := by
    cases watcher : s.watcher with
    | idle => rfl
    | validating msg =>
      cases valid : c.validateMessage msg with
      | none => exact absurd (.accept .stored msg watcher valid) (stuck _ _ rfl)
      | some err => exact absurd (.reject msg err watcher valid) (stuck _ _ rfl)
    | offering merged =>
      cases aggCh : s.aggCh with
      | none => exact absurd (.offer merged watcher aggCh) (stuck _ _ rfl)
      | some old => exact absurd (.full merged old watcher aggCh) (stuck _ _ rfl)
    | draining merged =>
      cases aggCh : s.aggCh with
      | none => exact absurd (.miss merged watcher aggCh) (stuck _ _ rfl)
      | some old => exact absurd (.drain merged old watcher aggCh) (stuck _ _ rfl)
    | sending merged =>
      -- the last send of `Aggregator.Update` does not block
      exact absurd (.deliver merged watcher (sound.cleared merged watcher)) (stuck _ _ rfl)
    | stopped => exact absurd watcher going.watcher
  have applier : s.applier = .idle := by
    cases applier : s.applier with
    | idle => rfl
    | received merged => exact absurd (.apply .stored merged applier) (stuck _ _ rfl)
    | routed merged => exact absurd (.publish merged applier) (stuck _ _ rfl)
    | stopped => exact absurd applier going.applier
  refine ⟨?_, watcher, ?_, applier⟩
  · cases configCh : s.configCh with
    | nil => rfl
    | cons msg rest =>
      exact absurd (.receive msg rest going.started watcher configCh) (stuck _ _ rfl)
  · cases aggCh : s.aggCh with
    | none => rfl
    | some merged =>
      exact absurd (.take merged going.started applier aggCh) (stuck _ _ rfl)

/-- What the goroutines end with when no provider sends: every message that waited is handled, in
order, and the router and the TCP routes are those of the last accepted message of each provider. -/
structure Finished (c : Config) (h : List PipelineEvent) (s t : Pipeline ρ) : Prop where
  rest : t.AtRest
  configs : t.configs = Configs.storeAll (acceptedMessages h ++ s.waiting.filter c.accepts)
  tables : ∃ ord, t.router.Installed (merge ord t.configs).routes ∧
    t.allTcpRoutes = (merge ord t.configs).tcpRoutes

/-- A path of the goroutines that cannot go on has finished. -/
lemma path_finished {h k : List PipelineEvent} (run : (system ρ c).Run h s) (going : s.Going)
    (path : (system ρ c).Path s k t) (own : ∀ e ∈ k, e.own = true)
    (stuck : ∀ e u, e.own = true → ¬ Step c t e u) : Finished c h s t := by
  have keep : ∀ s e t, (system ρ c).step s e t → e.own = true → s.Going → t.Going :=
    fun _ _ _ st own going => step_going st own going
  have going' := path.invariant keep own going
  have run' := run.append path
  have rest := rest_of_stuck (run_sound run') going' stuck
  -- nothing more was sent, and nothing waits any more
  have handled := run_waiting run'
  have unsent : sentMessages (k ++ h) = sentMessages h := by
    have silent : k.filterMap (·.sent?) = [] :=
      List.filterMap_eq_nil_iff.mpr fun e member => e.sent?_own (own e member)
    rw [sentMessages, List.filterMap_append, silent, List.nil_append, sentMessages]
  have none_left : t.waiting = [] := by
    rw [waiting, rest.watcher, rest.configCh]
    rfl
  rw [unsent, run_waiting run, none_left, List.filter_nil, List.append_nil] at handled
  obtain ⟨ord, _, installed, tcpRoutes⟩ :=
    rest_latest (run_sound run') going'.started rest.aggCh rest.watcher rest.applier
  exact ⟨rest, by rw [(run_sound run').stored, handled], ord, installed, tcpRoutes⟩

/-- The goroutines can finish. -/
lemma exists_finished {h : List PipelineEvent} (run : (system ρ c).Run h s) (going : s.Going) :
    ∃ k t, (system ρ c).Path s k t ∧ (∀ e ∈ k, e.own = true) ∧ Finished c h s t := by
  obtain ⟨k, t, path, own, stuck⟩ := System.exhaust (step_decreases c) s
  exact ⟨k, t, path, own, path_finished run going path own stuck⟩

/-- The pipeline comes to rest. From every reachable state in which both goroutines run: a path has no
more of their steps than there is work in the state and nine for each message sent along it; when
their steps alone lead to a state where they can take none, each message that waited was accepted or
rejected once, in order, and the tables are those of the last accepted messages, whatever the order of
the steps was; and some steps do lead there. -/
theorem pipeline_settles {h : List PipelineEvent} (run : (system ρ c).Run h s) (going : s.Going) :
    (∀ k t, (system ρ c).Path s k t →
      k.countP (·.own) ≤ s.work + 9 * k.countP (·.sends)) ∧
    (∀ k t, (system ρ c).Path s k t → (∀ e ∈ k, e.own = true) →
      (∀ e u, e.own = true → ¬ Step c t e u) → Finished c h s t) ∧
    ∃ k t, (system ρ c).Path s k t ∧ (∀ e ∈ k, e.own = true) ∧ Finished c h s t := by
  refine ⟨?_, fun k t path own stuck => path_finished run going path own stuck,
    exists_finished run going⟩
  intro k t path
  have spent := path.spend (fun _ _ _ st => step_work st)
  omega

/-- A pipeline with a failed reload and a good one on their way. -/
theorem pipeline_settles_reload :
    ∃ h, ∃ s : Pipeline Empty, (system Empty { staticOnly := false }).Run h s ∧
      s.waiting = [failedReload, oneRoute] ∧
      ∃ k t, (system Empty { staticOnly := false }).Path s k t ∧
        t.configs = Configs.storeAll [{ providerName := lit "file" }, oneRoute] := by
  have run := System.Run.next (M := system Empty { staticOnly := false }) (.start rfl)
    (.send { providerName := lit "file" } (by decide))
  have run := run.next (.boot .stored .stored _ [] rfl rfl rfl)
  have run := run.next (.send failedReload (by decide))
  have run := run.next (.send oneRoute (by decide))
  have run := run.next (.receive failedReload [oneRoute] rfl rfl rfl)
  obtain ⟨k, t, path, _, finished⟩ := (pipeline_settles run ⟨rfl, nofun, nofun⟩).2.2
  exact ⟨_, _, run, rfl, k, t, path, finished.configs⟩

end Pipeline
end Pintle
