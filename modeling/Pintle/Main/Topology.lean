import Pintle.Aggregator.Passthrough
import Pintle.Main.Run

/-!
# Passthrough after a reload

Three places read the passthrough domains: the SNI router keeps the list it was started with, a
merged configuration has one of its own, and `/api/topology` of `internal/api/api.go` asks the
aggregator. Only the last two follow a reload. `Wired` says what the main goroutine has done with
the first accepted message, and `passthrough_agrees_iff` when the three still agree.
-/

namespace Pintle
open Go Lib

/-- Go `passthroughDomainList`. -/
def passthroughDomainList (passthrough : List PassthroughDomain) : List GoString :=
  passthrough.map fun pt => lit "*." ++ pt.domain

/-- The passthrough domains that the SNI router was started with, if it was. -/
def ProcessEvent.sni? : ProcessEvent → Option (List PassthroughDomain)
  | .sni _ passthrough => some passthrough
  | _ => none

/-- The domains that the running SNI router forwards (its `ForwardTargets`). -/
def forwarded (h : List ProcessEvent) : List PassthroughDomain := (h.findSome? (·.sni?)).getD []

/-- The configuration that the main goroutine is opening listeners for, before it comes to the SNI
router. -/
def MainPhase.initial? : MainPhase → Option Configuration
  | .wired initial => some initial
  | .serving initial => some initial
  | .redirecting initial => some initial
  | _ => none

/-- The main goroutine has passed the start of the SNI router. -/
def MainPhase.pastSNI : MainPhase → Prop
  | .routing _ => True
  | .opening _ => True
  | .ready => True
  | _ => False

lemma MainPhase.pastSNI.initial? {main : MainPhase} (past : main.pastSNI) : main.initial? = none := by
  cases main with
  | wired _ => exact past.elim
  | serving _ => exact past.elim
  | redirecting _ => exact past.elim
  | _ => rfl

/-- The passthrough domains of the message that a process starts with. -/
def startupPassthrough (msgs : List Message) : List PassthroughDomain :=
  (msgs.head?.map (·.passthrough)).getD []

/-- The last message of each provider has the passthrough domains of the first message, or has none
while another one still has them. -/
structure PassthroughKept (msgs : List Message) : Prop where
  same : ∀ provider msg, msgs.reverse.find? (·.providerName = provider) = some msg →
    msg.passthrough ≠ [] → ∀ pt, pt ∈ startupPassthrough msgs ↔ pt ∈ msg.passthrough
  some_left : startupPassthrough msgs ≠ [] → ∃ provider msg,
    msgs.reverse.find? (·.providerName = provider) = some msg ∧ msg.passthrough ≠ []

namespace Process
variable {ρ : Type}

/-- The running SNI router, the merged configuration and the dashboard agree on passthrough, in
whatever order the aggregator's map is visited. -/
structure Agree (h : List ProcessEvent) (s : Process ρ) : Prop where
  merged : ∀ ord pt, pt ∈ forwarded h ↔ pt ∈ (merge ord s.pipeline.configs).passthrough
  reported : ∀ ord domain,
    domain ∈ passthroughDomainList (getCurrentPassthrough ord s.pipeline.configs) ↔
      domain ∈ passthroughDomainList (forwarded h)

/-- A process has started with some passthrough domains. -/
def StartedWith (h : List ProcessEvent) (passthrough : List PassthroughDomain) : Prop :=
  acceptedMessages (pipelineSteps h) ≠ [] ∧
    passthrough = startupPassthrough (acceptedMessages (pipelineSteps h))

/-- What the main goroutine has done with the passthrough domains of the first message. -/
structure Wired (h : List ProcessEvent) (s : Process ρ) : Prop where
  fresh : s.main = .starting → s.pipeline.started = false ∧ forwarded h = []
  wired : ∀ initial, s.main.initial? = some initial →
    StartedWith h initial.passthrough ∧ forwarded h = []
  past : s.main.pastSNI → StartedWith h (forwarded h)

/-- A list with the same entries reports the same domains. -/
lemma mem_domainList {a b : List PassthroughDomain} (same : ∀ pt, pt ∈ a ↔ pt ∈ b)
    (domain : GoString) : domain ∈ passthroughDomainList a ↔ domain ∈ passthroughDomainList b := by
  simp only [passthroughDomainList, List.mem_map, same]

/-- The three agree exactly when all the messages can yield is what the SNI router forwards. -/
lemma agree_iff_yields {h : List ProcessEvent} {s : Process ρ} :
    Agree h s ↔ ∀ passthrough, s.pipeline.configs.Yields passthrough →
      ∀ pt, pt ∈ forwarded h ↔ pt ∈ passthrough := by
  constructor
  · intro agree passthrough yields
    obtain ⟨ord, rfl⟩ := yields.merged
    exact agree.merged ord
  · intro all
    refine ⟨fun ord => all _ (merge_yields ord _), ?_⟩
    intro ord
    exact mem_domainList fun pt => (all _ (getCurrentPassthrough_yields ord _) pt).symm

lemma forwarded_cons {e : ProcessEvent} (other : e.sni? = none) (h : List ProcessEvent) :
    forwarded (e :: h) = forwarded h := by
  rw [forwarded, List.findSome?_cons, other, forwarded]

/-- A later message does not change what the process has started with. -/
lemma StartedWith.cons {h : List ProcessEvent} {passthrough : List PassthroughDomain}
    (startedWith : StartedWith h passthrough) (e : ProcessEvent) : StartedWith (e :: h) passthrough := by
  obtain ⟨some, same⟩ := startedWith
  have grown : ∃ more, acceptedMessages (pipelineSteps (e :: h)) =
      acceptedMessages (pipelineSteps h) ++ more := by
    cases step : e.pipeline? with
    | none => exact ⟨[], by rw [pipelineSteps, List.filterMap_cons_none step, List.append_nil]; rfl⟩
    | some e' =>
      rw [pipelineSteps, List.filterMap_cons_some step, acceptedMessages_cons]
      exact ⟨_, rfl⟩
  obtain ⟨more, grown⟩ := grown
  refine ⟨?_, ?_⟩
  · rw [grown]
    exact List.append_ne_nil_of_left_ne_nil some more
  · rw [same, grown, startupPassthrough, startupPassthrough, List.head?_append_of_ne_nil _ some]

/-- A step that neither starts the SNI router nor moves the main goroutine. -/
lemma Wired.keep {h : List ProcessEvent} {s t : Process ρ} (inv : Wired h s) {e : ProcessEvent}
    (other : e.sni? = none) (main : t.main = s.main)
    (started : t.pipeline.started = s.pipeline.started) : Wired (e :: h) t where
  fresh starting := by
    rw [started, forwarded_cons other]
    exact inv.fresh (main ▸ starting)
  wired initial phase := by
    obtain ⟨startedWith, none_yet⟩ := inv.wired initial (main ▸ phase)
    exact ⟨startedWith.cons e, (forwarded_cons other h).trans none_yet⟩
  past phase := by
    rw [forwarded_cons other]
    exact (inv.past (main ▸ phase)).cons e

/-- The main goroutine opens another listener for the same configuration. -/
lemma Wired.advance {h : List ProcessEvent} {s : Process ρ} (inv : Wired h s) {e : ProcessEvent}
    (other : e.sni? = none) {initial : Configuration} (phase : s.main.initial? = some initial)
    {main : MainPhase} (next : main.initial? = some initial) (started : main ≠ .starting)
    (before : ¬ main.pastSNI) : Wired (e :: h) { s with main } where
  fresh starting := absurd starting started
  wired initial' found := by
    obtain rfl : initial = initial' := Option.some.inj (next.symm.trans found)
    obtain ⟨startedWith, none_yet⟩ := inv.wired initial phase
    exact ⟨startedWith.cons e, (forwarded_cons other h).trans none_yet⟩
  past phase := absurd phase before

/-- The main goroutine goes on after the SNI router. -/
lemma Wired.settle {h : List ProcessEvent} {s t : Process ρ} (inv : Wired h s) {e : ProcessEvent}
    (other : e.sni? = none) (phase : s.main.pastSNI) (settled : t.main.pastSNI) :
    Wired (e :: h) t where
  fresh starting := by
    rw [starting] at settled
    exact settled.elim
  wired initial found := by
    rw [settled.initial?] at found
    cases found
  past _ := by
    rw [forwarded_cons other]
    exact (inv.past phase).cons e

/-- The process is over. -/
lemma Wired.stop {h : List ProcessEvent} {t : Process ρ} (exited : t.main = .exited) : Wired h t where
  fresh starting := by
    rw [exited] at starting
    cases starting
  wired initial found := by
    rw [exited] at found
    cases found
  past phase := by
    rw [exited] at phase
    exact phase.elim

lemma StartPort.sni {port : Int} {ports ports' : List Int} {e : ProcessEvent}
    (st : StartPort port ports e ports') : e.sni? = none := by
  cases st <;> rfl

end Process

namespace Pipeline
variable {ρ : Type} [Regexp ρ]

/-- Only the first message starts a pipeline. -/
lemma step_started {c : Config} {s t : Pipeline ρ} {e : PipelineEvent} (st : Step c s e t)
    (later : ∀ msg merged, e ≠ .booted msg merged) : t.started = s.started := by
  cases st with
  | boot _ _ _ _ _ _ _ => exact absurd rfl (later _ _)
  | _ => rfl

end Pipeline

/-- The merge of one message has its passthrough domains. -/
lemma merge_single (ord : RangeOrder (GoString × Message)) (msg : Message) :
    (merge ord (Configs.store ∅ msg)).passthrough = msg.passthrough := by
  have visited := ord.perm (Configs.store ∅ msg).pairs
  have single : (Configs.store ∅ msg).pairs = [(msg.providerName, msg)] := rfl
  rw [single, List.perm_singleton] at visited
  rw [merge_passthrough, single, visited]
  by_cases empty : msg.passthrough = [] <;> simp [empty]

namespace Process
variable {ρ : Type} [Regexp ρ]

/-- Every step of a process outside static-only mode keeps the invariant. -/
lemma step_wired {c : Settings} (open_mode : c.staticOnly = false) {h : List ProcessEvent}
    {s t : Process ρ} {e : ProcessEvent} (run : (system ρ c).Run h s) (inv : Wired h s)
    (st : Step c s e t) : Wired (e :: h) t := by
  cases st with
  | pipeline _ later _ _ st => exact inv.keep rfl rfl (Pipeline.step_started st later)
  | @boot msg merged p starting st =>
    -- the first message is the only one merged
    have sound := Pipeline.run_sound (run_pipeline run)
    obtain ⟨unstarted, none_yet⟩ := inv.fresh starting
    have empty := (sound.before unstarted).1
    have accepted : acceptedMessages (pipelineSteps (.pipeline (.booted msg merged) :: h)) = [msg] := by
      refine (acceptedMessages_cons _ (pipelineSteps h)).trans ?_
      rw [empty]
      rfl
    have same : merged.passthrough = msg.passthrough := by
      cases st with
      | boot ord _ _ _ _ _ _ =>
        have stored : s.pipeline.configs = ∅ := by
          rw [sound.stored, empty]
          rfl
        rw [stored]
        exact merge_single ord msg
    refine ⟨nofun, ?_, False.elim⟩
    rintro _ ⟨⟩
    refine ⟨⟨?_, ?_⟩, none_yet⟩
    · rw [accepted]
      exact List.cons_ne_nil _ _
    · rw [accepted]
      exact same
  | publish _ _ st => exact inv.keep rfl rfl (Pipeline.step_started st nofun)
  | refuse _ _ _ _ _ _ => exact .stop rfl
  | https initial phase => exact inv.advance rfl (phase ▸ rfl) rfl nofun id
  | redirect initial _ phase _ => exact inv.advance rfl (phase ▸ rfl) rfl nofun id
  | fail _ _ => exact .stop rfl
  | sni initial phase _ =>
    obtain ⟨startedWith, _⟩ := inv.wired initial (phase ▸ rfl)
    exact ⟨nofun, nofun, fun _ => startedWith.cons _⟩
  | plain initial phase unneeded =>
    -- there is nothing to forward
    obtain ⟨startedWith, none_yet⟩ := inv.wired initial (phase ▸ rfl)
    have empty : initial.passthrough = [] := by
      simpa [Settings.needsSNI, open_mode] using unneeded
    refine ⟨nofun, nofun, fun _ => ?_⟩
    rw [forwarded_cons rfl, none_yet, ← empty]
    exact startedWith.cons _
  | certs _ initial _ phase _ _ => exact inv.settle rfl (phase ▸ trivial) trivial
  | startPort phase _ started =>
    exact inv.settle (StartPort.sni started) (phase ▸ trivial) trivial
  | opened phase =>
    refine inv.settle rfl ?_ trivial
    rcases phase with opening | ⟨⟨_, routing⟩, _⟩
    · exact opening ▸ trivial
    · exact routing ▸ trivial
  | updateCerts _ _ _ _ _ _ => exact inv.keep rfl rfl rfl
  | startNewPort _ _ _ started => exact inv.keep (StartPort.sni started) rfl rfl
  | applied _ _ => exact inv.keep rfl rfl rfl
  | panic _ _ _ => exact .stop rfl
  | quit _ _ => exact .stop rfl

/-- The invariant holds along every run. -/
lemma run_wired {c : Settings} (open_mode : c.staticOnly = false) {h : List ProcessEvent}
    {s : Process ρ} (run : (system ρ c).Run h s) : Wired h s := by
  induction run with
  | start init =>
    cases init
    exact ⟨fun _ => ⟨rfl, rfl⟩, nofun, False.elim⟩
  | next run st ih => exact step_wired open_mode run ih st

/-- What the messages yield in terms of the messages. -/
lemma yields_iff_kept {configs : Configs} {msgs : List Message}
    (stored : configs = Configs.storeAll msgs) :
    (∀ passthrough, configs.Yields passthrough →
      ∀ pt, pt ∈ startupPassthrough msgs ↔ pt ∈ passthrough) ↔ PassthroughKept msgs := by
  have lookup (provider : GoString) :
      configs.lookup provider = msgs.reverse.find? (·.providerName = provider) := by
    rw [stored, storeAll_lookup]
  constructor
  · intro all
    refine ⟨?_, ?_⟩
    · intro provider msg last some
      exact all _ (.entries ((lookup provider).trans last) some)
    · intro some
      by_contra gone
      have empty : configs.Yields [] := by
        refine .nothing ?_
        intro provider msg last
        by_contra entries
        exact gone ⟨provider, msg, (lookup provider).symm.trans last, entries⟩
      obtain ⟨pt, member⟩ := List.exists_mem_of_ne_nil _ some
      exact absurd ((all [] empty pt).mp member) List.not_mem_nil
  · intro kept passthrough yields
    cases yields with
    | entries last some => exact kept.same _ _ ((lookup _).symm.trans last) some
    | nothing empty =>
      have none_first : startupPassthrough msgs = [] := by
        by_contra some
        obtain ⟨provider, msg, last, entries⟩ := kept.some_left some
        exact entries (empty provider msg ((lookup provider).trans last))
      rw [none_first]
      exact fun _ => Iff.rfl

/-- The running SNI router, the accepted configuration and the dashboard agree on passthrough, in
every state of a run outside static-only mode whose pipeline is idle, exactly when the last accepted
messages still have the passthrough domains of the first one. The configuration last applied is then
a merge of the last accepted messages. -/
theorem passthrough_agrees_iff {cfg : Settings} (open_mode : cfg.staticOnly = false)
    {h : List ProcessEvent} {s : Process ρ} (run : (system ρ cfg).Run h s)
    (past : s.main.pastSNI) (empty : s.pipeline.aggCh = none) (idle : s.pipeline.watcher = .idle)
    (idle' : s.pipeline.applier = .idle) :
    (∃ ord, (appliedConfigs (pipelineSteps h)).getLast? = some (merge ord s.pipeline.configs)) ∧
      (Agree h s ↔ PassthroughKept (acceptedMessages (pipelineSteps h))) := by
  have sound := Pipeline.run_sound (run_pipeline run)
  obtain ⟨accepted, same⟩ := (run_wired open_mode run).past past
  refine ⟨?_, ?_⟩
  · have started : s.pipeline.started = true := by
      by_contra unstarted
      exact accepted (sound.before (by simpa using unstarted)).1
    obtain ⟨ord, newest, _⟩ := Pipeline.rest_latest sound started empty idle idle'
    exact ⟨ord, newest⟩
  · rw [agree_iff_yields, same]
    exact yields_iff_kept sound.stored

/-- A route file with one passthrough domain. -/
def onePassthrough : Message where
  providerName := lit "file"
  passthrough := [{ domain := lit "other.example", target := lit "traefik" }]

/-- The file after another domain was added. -/
def twoPassthrough : Message where
  providerName := lit "file"
  passthrough :=
    [{ domain := lit "other.example", target := lit "traefik" },
      { domain := lit "new.example", target := lit "10.0.0.9:8443" }]

/-- The file after a route was added. -/
def samePassthrough : Message :=
  { onePassthrough with routes := [{ hostname := lit "a", path := lit "/", target := lit "http://b" }] }

/-- A process that started with the first file and is ready. -/
lemma passthrough_run : ∃ h, ∃ s : Process Empty, (system Empty bareEnvironment.defaults).Run h s ∧
    s.main = .ready ∧ s.work = .idle ∧ s.pipeline.started = true ∧ s.pipeline.configCh = [] ∧
    s.pipeline.watcher = .idle ∧ s.pipeline.aggCh = none ∧ s.pipeline.applier = .idle ∧
    acceptedMessages (pipelineSteps h) = [onePassthrough] ∧
    forwarded h = onePassthrough.passthrough := by
  have sent : Step bareEnvironment.defaults (initial (ρ := Empty) bareEnvironment.defaults)
      (.pipeline (.sent onePassthrough)) _ :=
    .pipeline nofun nofun nofun nofun (.send _ (by decide))
  have run := System.Run.next (M := system Empty bareEnvironment.defaults) (.start rfl) sent
  have run := run.next (.boot rfl (.boot .stored .stored _ [] rfl rfl rfl))
  have run := run.next (.https _ rfl)
  have run := run.next (.redirect _ ([], 9080) rfl rfl)
  have run := run.next (.sni _ rfl rfl)
  have run := run.next (.certs .stored _ [] rfl rfl rfl)
  have run := run.next (.opened (.inl rfl))
  exact ⟨_, _, run, rfl, rfl, rfl, rfl, rfl, rfl, rfl, rfl, rfl⟩

/-- The same process after a reload of the file. -/
lemma passthrough_reload (msg : Message)
    (valid : bareEnvironment.defaults.toConfig.validateMessage msg = none) :
    ∃ h, ∃ s : Process Empty, (system Empty bareEnvironment.defaults).Run h s ∧ s.main.pastSNI ∧
      s.pipeline.configCh = [] ∧ s.pipeline.aggCh = none ∧ s.pipeline.watcher = .idle ∧
      s.pipeline.applier = .idle ∧ acceptedMessages (pipelineSteps h) = [onePassthrough, msg] ∧
      forwarded h = onePassthrough.passthrough := by
  obtain ⟨h, s, run, ready, unused, started, waiting, idle, empty, idle', accepted, startup⟩ :=
    passthrough_run
  have going : s.main ≠ .exited := by
    rw [ready]
    nofun
  have run := run.next (.pipeline going (by nofun) (by nofun) (by nofun)
    (.send msg (by simp [waiting])))
  have run := run.next (.pipeline going (by nofun) (by nofun) (by nofun)
    (.receive msg [] started idle (by simp [waiting])))
  have run := run.next (.pipeline going (by nofun) (by nofun) (by nofun)
    (.accept .stored msg rfl valid))
  have run := run.next (.pipeline going (by nofun) (by nofun) (by nofun) (.offer _ rfl empty))
  have run := run.next (.pipeline going (by nofun) (by nofun) (fun _ => unused)
    (.take _ started idle' rfl))
  have run := run.next (.pipeline going (by nofun) (by nofun) (by nofun) (.apply .stored _ rfl))
  have run := run.next (.publish going rfl (.publish _ rfl))
  refine ⟨_, _, run, ?_, rfl, rfl, rfl, rfl, ?_, startup⟩
  · rw [ready]
    trivial
  · exact List.reverse_cons.trans (congrArg (· ++ [msg]) accepted)

/-- A reload that adds a domain: it is merged and reported, and not forwarded. -/
theorem passthrough_added : ¬ ∀ (cfg : Settings), cfg.staticOnly = false →
    ∀ (h : List ProcessEvent) (s : Process Empty), (system Empty cfg).Run h s → s.main.pastSNI →
      s.pipeline.configCh = [] → s.pipeline.aggCh = none → s.pipeline.watcher = .idle →
      s.pipeline.applier = .idle → Agree h s := by
  intro agree
  obtain ⟨h, s, run, past, waiting, empty, idle, idle', accepted, startup⟩ :=
    passthrough_reload twoPassthrough rfl
  have stored := (Pipeline.run_sound (run_pipeline run)).stored
  rw [accepted] at stored
  have same := agree bareEnvironment.defaults rfl h s run past waiting empty idle idle'
  have added := (same.merged .stored { domain := lit "new.example", target := lit "10.0.0.9:8443" }).mpr
    (by rw [stored]; decide)
  rw [startup] at added
  exact absurd added (by decide)

/-- A reload that adds a route and keeps the domain. -/
theorem passthrough_agrees_reload :
    ∃ h, ∃ s : Process Empty, (system Empty bareEnvironment.defaults).Run h s ∧
      acceptedMessages (pipelineSteps h) = [onePassthrough, samePassthrough] ∧
      forwarded h = samePassthrough.passthrough ∧ Agree h s := by
  obtain ⟨h, s, run, past, _, empty, idle, idle', accepted, startup⟩ :=
    passthrough_reload samePassthrough rfl
  refine ⟨h, s, run, accepted, startup, ?_⟩
  refine (passthrough_agrees_iff rfl run past empty idle idle').2.mpr ?_
  rw [accepted]
  refine ⟨?_, fun _ => ⟨lit "file", samePassthrough, by decide, by decide⟩⟩
  intro provider msg last _ pt
  have member := List.mem_of_find?_eq_some last
  have kept : ∀ msg ∈ [onePassthrough, samePassthrough].reverse,
      msg.passthrough = onePassthrough.passthrough := by decide
  rw [kept msg member]
  rfl

end Process
end Pintle
