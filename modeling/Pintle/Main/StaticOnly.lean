import Pintle.Main.Run

/-!
# Static-only mode

In static-only mode the TCP router is nil and every part of `run` that would use it, or open more
than the two loopback listeners, is behind a guard of its own. `Closed` is the invariant: no such
event in the history, and neither goroutine is about to cause one. With the validation of the
configuration and of each message it gives the promise of the mode (`static_only_closed`).
-/

namespace Pintle
open Go Lib

/-- What static-only mode allows a process to do. -/
def ProcessEvent.allowed (c : Settings) : ProcessEvent → Prop
  | .https hostname port => hostname = c.loopbackAddress ∧ port = c.listenPort
  | .redirect hostname port => hostname = c.loopbackAddress ∧ port = c.httpPort
  | .sni _ _ => False
  | .certs => False
  | .tcp _ => False
  | .kept _ => False
  | .unavailable _ => False
  | .panicked => False
  | _ => True

namespace Process
variable {ρ : Type}

/-- The invariant of static-only mode. -/
structure Closed (c : Settings) (h : List ProcessEvent) (s : Process ρ) : Prop where
  allowed : ∀ e ∈ h, e.allowed c
  router : s.tcpRouter = none
  work : s.work = .idle
  main : ∀ ports, s.main ≠ .opening ports

/-- A step that is allowed and leaves the TCP router and its work alone. -/
lemma Closed.keep {c : Settings} {h : List ProcessEvent} {s t : Process ρ} (inv : Closed c h s)
    {e : ProcessEvent} (allowed : e.allowed c) (router : t.tcpRouter = s.tcpRouter)
    (work : t.work = s.work) (main : ∀ ports, t.main ≠ .opening ports) : Closed c (e :: h) t where
  allowed e' member := by
    rcases List.mem_cons.mp member with rfl | earlier
    · exact allowed
    · exact inv.allowed e' earlier
  router := router.trans inv.router
  work := work.trans inv.work
  main := main

/-- In static-only mode nothing is about to use the TCP router. -/
lemma Closed.unused {c : Settings} {h : List ProcessEvent} {s : Process ρ} (inv : Closed c h s)
    (static : c.staticOnly = true) : ¬ s.UsesTCP c := by
  rintro (⟨_, _, open_mode⟩ | ⟨_, _, opening⟩ | ⟨_, work⟩ | ⟨_, _, work⟩)
  · rw [static] at open_mode
    cases open_mode
  · exact inv.main _ opening
  · rw [inv.work] at work
    cases work
  · rw [inv.work] at work
    cases work

variable [Regexp ρ]

/-- Every step of a static-only process keeps the invariant. -/
lemma step_closed {c : Settings} (static : c.staticOnly = true) {h : List ProcessEvent}
    {s t : Process ρ} {e : ProcessEvent} (run : (system ρ c).Run h s) (inv : Closed c h s)
    (st : Step c s e t) : Closed c (e :: h) t := by
  have plain (passthrough : List PassthroughDomain) : c.needsSNI passthrough = false := by
    simp [Settings.needsSNI, static]
  cases st with
  | pipeline _ _ _ _ _ => exact inv.keep trivial rfl rfl inv.main
  | boot _ _ => exact inv.keep trivial rfl rfl nofun
  | publish _ routed _ =>
    -- the goroutine continues before it would set the TCP routes
    exact absurd routed (((Pipeline.run_sound (run_pipeline run)).static static).2 _)
  | refuse _ _ _ _ _ _ => exact inv.keep trivial rfl rfl nofun
  | https initial _ =>
    refine inv.keep ?_ rfl rfl nofun
    simp only [ProcessEvent.allowed, Settings.httpsAddress, plain, static, if_true]
    exact ⟨rfl, rfl⟩
  | redirect initial address _ found =>
    refine inv.keep ?_ rfl rfl nofun
    simp only [Settings.redirectAddress, static, if_true] at found
    split at found
    · cases found
    · split at found
      · cases found
        exact ⟨rfl, rfl⟩
      · cases found
  | fail _ _ => exact inv.keep trivial rfl rfl nofun
  | sni initial _ needed =>
    rw [plain] at needed
    cases needed
  | plain _ _ _ => exact inv.keep trivial rfl rfl nofun
  | certs _ _ _ _ open_mode _ =>
    rw [static] at open_mode
    cases open_mode
  | startPort opening _ _ => exact absurd opening (inv.main _)
  | opened _ => exact inv.keep trivial rfl rfl nofun
  | updateCerts _ _ _ _ work _ =>
    rw [inv.work] at work
    cases work
  | startNewPort _ work _ _ =>
    rw [inv.work] at work
    cases work
  | applied _ work =>
    rw [inv.work] at work
    cases work
  | panic _ uses _ => exact absurd uses (inv.unused static)
  | quit _ _ => exact inv.keep trivial rfl rfl nofun

/-- The invariant holds along every run. -/
theorem run_closed {c : Settings} (static : c.staticOnly = true) {h : List ProcessEvent}
    {s : Process ρ} (run : (system ρ c).Run h s) : Closed c h s := by
  refine System.Run.invariant (Closed c) ?_ ?_ run
  · rintro _ rfl
    exact ⟨nofun, by simp [initial, static], rfl, nofun⟩
  · intro h s e t run inv st
    exact step_closed static run inv st

end Process

namespace Pipeline

/-- What static-only mode lets into a merged configuration: routes of the last accepted message, and
neither TCP routes nor passthrough domains. -/
lemma mergedFrom_file {c : Config} (static : c.staticOnly = true) {msgs : List Message}
    (ok : ∀ msg ∈ msgs, c.accepts msg = true) {n : Nat} {merged : Configuration}
    (from_ : MergedFrom msgs n merged) :
    merged.tcpRoutes = [] ∧ merged.passthrough = [] ∧ ∀ route ∈ merged.routes,
      ∃ msg, (msgs.take n).getLast? = some msg ∧ msg.providerName = lit "file" ∧
        route ∈ msg.routes := by
  have tcp := mergedFrom_static static ok from_
  obtain ⟨ord, rfl⟩ := from_
  -- every entry of the map is the last message
  have entry {provider : GoString} {msg : Message}
      (visited : (provider, msg) ∈ ord.visit (Configs.storeAll (msgs.take n)).pairs) :
      (msgs.take n).getLast? = some msg ∧ msg.providerName = lit "file" ∧ msg.passthrough = [] := by
    have stored := GoMap.mem_pairs.mp (ord.mem_visit.mp visited)
    rw [storeAll_lookup] at stored
    have inside := List.mem_reverse.mp (List.mem_of_find?_eq_some stored)
    obtain ⟨_, file, _, empty⟩ := Config.accepts_static static (ok msg (List.mem_of_mem_take inside))
    refine ⟨?_, file, empty⟩
    have same : provider = lit "file" := by
      have named := List.find?_some stored
      simp only [decide_eq_true_eq] at named
      rw [← named, file]
    rw [← List.head?_reverse]
    cases listed : (msgs.take n).reverse with
    | nil => simp [listed] at stored
    | cons last older =>
      have member : last ∈ msgs.take n := by
        rw [← List.mem_reverse, listed]
        exact List.mem_cons_self
      have last_file := (Config.accepts_static static (ok last (List.mem_of_mem_take member))).2.1
      rw [listed, List.find?_cons, same, last_file] at stored
      simpa using stored
  refine ⟨tcp, ?_, ?_⟩
  · rw [merge_passthrough]
    have none_left : ((ord.visit (Configs.storeAll (msgs.take n)).pairs).map
        (·.2.passthrough)).filter (· ≠ []) = [] := by
      rw [List.filter_eq_nil_iff]
      intro passthrough member
      obtain ⟨⟨provider, msg⟩, visited, rfl⟩ := List.mem_map.mp member
      simp [(entry visited).2.2]
    rw [none_left]
    rfl
  · intro route member
    rw [merge_routes] at member
    obtain ⟨⟨provider, msg⟩, visited, inside⟩ := List.mem_flatMap.mp member
    obtain ⟨last, file, _⟩ := entry visited
    exact ⟨msg, last, file, inside⟩

end Pipeline

namespace Process
variable {ρ : Type} [Regexp ρ]

/-- Static-only mode never widens. For every static-only configuration that loads and every run: a
merged configuration has neither TCP routes nor passthrough domains, and its routes come from the
message of the file provider that was the last one accepted when it was merged; the TCP router stays
nil and is never used, and neither a TCP listener nor an SNI router is started; the HTTPS server and
the redirect server bind the loopback address of the configuration, on two distinct ports in
1..65535. -/
theorem static_only_closed {cfg : Settings}
    (loaded : ∃ parseFlags env args, Settings.load parseFlags env args = .ok cfg)
    (static : cfg.staticOnly = true) {h : List ProcessEvent} {s : Process ρ}
    (run : (system ρ cfg).Run h s) :
    (∀ merged ∈ Pipeline.stages (pipelineSteps h) s.pipeline,
      merged.tcpRoutes = [] ∧ merged.passthrough = [] ∧
      ∃ n ≤ (acceptedMessages (pipelineSteps h)).length, ∀ route ∈ merged.routes,
        ∃ msg, ((acceptedMessages (pipelineSteps h)).take n).getLast? = some msg ∧
          msg.providerName = lit "file" ∧ route ∈ msg.routes) ∧
    (∀ merged, (Pipeline.stages (pipelineSteps h) s.pipeline).getLast? = some merged →
      ∀ route ∈ merged.routes, ∃ msg, (acceptedMessages (pipelineSteps h)).getLast? = some msg ∧
        msg.providerName = lit "file" ∧ route ∈ msg.routes) ∧
    (s.tcpRouter = none ∧ .panicked ∉ h ∧ (∀ port, .tcp port ∉ h) ∧
      ∀ port passthrough, .sni port passthrough ∉ h) ∧
    (∀ hostname port, .https hostname port ∈ h →
      Settings.Loopback hostname ∧ port = cfg.listenPort) ∧
    (∀ hostname port, .redirect hostname port ∈ h →
      Settings.Loopback hostname ∧ port = cfg.httpPort) ∧
    (1 ≤ cfg.listenPort ∧ cfg.listenPort ≤ 65535) ∧ (1 ≤ cfg.httpPort ∧ cfg.httpPort ≤ 65535) ∧
      cfg.listenPort ≠ cfg.httpPort := by
  obtain ⟨parseFlags, env, args, loaded⟩ := loaded
  have ports := Settings.load_static loaded static
  have inv := run_closed static run
  have sound := Pipeline.run_sound (run_pipeline run)
  refine ⟨?_, ?_, ⟨inv.router, inv.allowed _, fun _ => inv.allowed _, fun _ _ => inv.allowed _⟩,
    ?_, ?_, ports.listenPort, ports.httpPort, ports.distinct⟩
  · intro merged member
    obtain ⟨n, bound, from_⟩ := sound.stage member
    obtain ⟨tcp, passthrough, routes⟩ := Pipeline.mergedFrom_file static sound.ok from_
    exact ⟨tcp, passthrough, n, bound, routes⟩
  · intro merged newest
    have routes := (Pipeline.mergedFrom_file static sound.ok (sound.last_stage newest)).2.2
    rw [List.take_length] at routes
    exact routes
  · intro hostname port member
    obtain ⟨rfl, same⟩ := inv.allowed _ member
    exact ⟨ports.loopback, same⟩
  · intro hostname port member
    obtain ⟨rfl, same⟩ := inv.allowed _ member
    exact ⟨ports.loopback, same⟩

/-- What `--static-only` alone loads there. -/
def staticSettings : Settings :=
  { bareEnvironment.defaults with
    staticOnly := true
    dashboardHost := lit "pintle.lvh.me"
    hostAddress := lit "127.0.0.1"
    loopbackAddress := lit "127.0.0.1" }

/-- A static-only process that is ready. -/
theorem static_only_closed_ready : ∃ h, ∃ s : Process Empty, (system Empty staticSettings).Run h s ∧
    s.main = .ready ∧ .https (lit "127.0.0.1") 9443 ∈ h ∧ .redirect (lit "127.0.0.1") 9080 ∈ h ∧
    Settings.Loopback (lit "127.0.0.1") := by
  have loaded : Settings.load (fun cfg _ => .ok { cfg with staticOnly := true }) bareEnvironment
      [lit "--static-only"] = .ok staticSettings := rfl
  have sent : Step staticSettings (initial (ρ := Empty) staticSettings)
      (.pipeline (.sent { providerName := lit "file" })) _ :=
    .pipeline nofun nofun nofun nofun (.send _ (by decide))
  have run := System.Run.next (M := system Empty staticSettings) (.start rfl) sent
  have run := run.next (.boot rfl (.boot .stored .stored _ [] rfl rfl rfl))
  have run := run.next (show Step _ _ (.https (lit "127.0.0.1") 9443) _ from .https _ rfl)
  have run := run.next (.redirect _ (lit "127.0.0.1", 9080) rfl rfl)
  have run := run.next (.plain _ rfl rfl)
  have run := run.next (.opened (.inr ⟨⟨_, rfl⟩, rfl⟩))
  have bound := (static_only_closed ⟨_, _, _, loaded⟩ rfl run).2.2.2.1
  exact ⟨_, _, run, rfl, by simp, by simp, (bound (lit "127.0.0.1") 9443 (by simp)).1⟩

end Process
end Pintle
