import Pintle.Go.Net
import Pintle.Router.Table
import Pintle.Server.Handle

/-!
# Which hosts are passed through

Model of the SNI router that `run` of `cmd/pintle/main.go` starts: `buildSNITargets`,
`resolvePassthroughTarget`, the wiring of `HasLocalRoute`, and the main HTTPS handler that decides
again by the host name. The resolver of the system is a parameter.

Three places decide who owns a host, and they differ on the dashboard: the main handler serves it,
but `HasHost` knows only routes, so a passthrough domain that covers the dashboard host takes it
away from pintle (`dashboard_passed_through`). Every other host is served as intended
(`served_locally_iff`).
-/

namespace Pintle
open Go

/-- The local HTTPS server behind the SNI router. -/
def localHTTPS : TCPAddr where
  ip := v4InV6Prefix ++ [127, 0, 0, 1]
  port := 9444

/-- Go `cfg.DashboardHost`. -/
def dashboardHost (baseDomain : GoString) : GoString := lit "pintle." ++ baseDomain

/-- Whether a passthrough domain is a hostname or a parent of it (the `Match` function of Go
`buildSNITargets`). -/
def PassthroughDomain.covers (pt : PassthroughDomain) (hostname : GoString) : Bool :=
  hasSuffix hostname (lit "." ++ pt.domain) || hostname = pt.domain

section
variable (resolveTCPAddr : GoString → Option TCPAddr) (discovered : GoString × Int)

/-- Go `resolvePassthroughTarget`. The error of `strconv.Atoi` needs no check of its own, as the
number is then out of range too. -/
def resolvePassthroughTarget (target : GoString) : Option TCPAddr :=
  if target = [] ∨ target = lit "traefik" then
    match parseIP discovered.1 with
    | none => none
    | some address =>
      if discovered.2 < 1 ∨ discovered.2 > 65535 then none
      else some { ip := address, port := discovered.2 }
  else
    match splitHostPort target with
    | none => none
    | some (host, rawPort) =>
      if host = [] then none
      else if atoi rawPort < 1 ∨ atoi rawPort > 65535 then none
      else resolveTCPAddr target

/-- Go `buildSNITargets`. -/
def buildSNITargets (passthrough : List PassthroughDomain) : List (SNIForwardTarget TCPAddr) :=
  passthrough.map fun pt =>
    { matchHost := pt.covers
      resolve := resolvePassthroughTarget resolveTCPAddr discovered pt.target }

/-- The SNI router that Go `run` starts. -/
def runSNIRouter {ρ : Type} [Regexp ρ] (passthrough : List PassthroughDomain) (rtr : Router ρ) :
    SNIRouter TCPAddr where
  localTarget := localHTTPS
  forwardTargets := buildSNITargets resolveTCPAddr discovered passthrough
  hasLocalRoute := some rtr.hasHost

end

/-- The handlers behind the HTTPS server. -/
inductive MainHandler where
  | api
  | dashboard
  | proxy
  deriving DecidableEq, Repr

/-- Go `IsAPIRequest`. -/
def isAPIRequest (path : GoString) : Bool :=
  [lit "/api/topology", lit "/api/stats", lit "/api/requests", lit "/api/health",
    lit "/api/backend-health", lit "/api/self"].contains path

/-- The main HTTPS handler of Go `run`: which handler a request goes to. -/
def mainHandler (baseDomain host path method : GoString) : MainHandler :=
  if host.takeWhile (· ≠ 58) = dashboardHost baseDomain then
    if isAPIRequest path || method = lit "OPTIONS" then .api else .dashboard
  else .proxy

/-- A request to the dashboard host never goes to the proxy. -/
lemma mainHandler_dashboard {baseDomain : GoString} (plain : (58 : UInt8) ∉ baseDomain)
    (path method : GoString) :
    mainHandler baseDomain (dashboardHost baseDomain) path method ≠ .proxy := by
  have free : 58 ∉ dashboardHost baseDomain := by
    intro member
    rcases List.mem_append.mp member with label | base
    · exact absurd label (by decide)
    · exact plain base
  have whole := takeWhile_free free
  rw [mainHandler, if_pos whole]
  split <;> nofun

namespace SNIRouter
variable {ρ : Type} [Regexp ρ] {resolveTCPAddr : GoString → Option TCPAddr}
  {discovered : GoString × Int}

/-- The first domain that covers a name decides. -/
lemma forward_passthrough {s : SNIRouter TCPAddr} {sni : GoString}
    (passthrough : List PassthroughDomain) :
    s.forward sni (buildSNITargets resolveTCPAddr discovered passthrough) =
      match passthrough.find? (·.covers sni) with
      | none => s.localTarget
      | some pt =>
        (resolvePassthroughTarget resolveTCPAddr discovered pt.target).getD s.localTarget := by
  induction passthrough with
  | nil => rfl
  | cons pt rest ih =>
    rw [buildSNITargets, List.map_cons, ← buildSNITargets, forward, List.find?_cons]
    cases covered : pt.covers sni with
    | false =>
      rw [if_neg (by simp [covered])]
      exact ih
    | true =>
      rw [if_pos covered]
      cases resolved : resolvePassthroughTarget resolveTCPAddr discovered pt.target with
      | none => simp [resolved]
      | some address => simp [resolved]

/-- The target of a name: local for a route of the router and for a name no domain covers, else
where the first domain that covers it resolves to. -/
lemma target_passthrough {passthrough : List PassthroughDomain} {rtr : Router ρ} {sni : GoString}
    (named : sni ≠ []) :
    (runSNIRouter resolveTCPAddr discovered passthrough rtr).target sni =
      if rtr.hasHost sni then localHTTPS
      else
        match passthrough.find? (·.covers sni) with
        | none => localHTTPS
        | some pt =>
          (resolvePassthroughTarget resolveTCPAddr discovered pt.target).getD localHTTPS := by
  rw [target, if_pos named]
  have wired : (runSNIRouter resolveTCPAddr discovered passthrough rtr).hasLocal sni =
      rtr.hasHost sni := rfl
  rw [wired]
  exact congrArg _ (forward_passthrough passthrough)

/-- A connection whose first read has a name goes where the name does. -/
lemma handle_named {s : SNIRouter TCPAddr} {client : Conn} {data : List UInt8} {sni : GoString}
    (read : client.read 16384 = some data) (parsed : parseSNI data = .ok sni) :
    s.handleConnection client = .ok (some (s.target sni, data)) := by
  simp only [handleConnection, read, parsed, bind, Except.bind, pure, Except.pure]

/-- A connection that goes to pintle itself goes nowhere else. -/
lemma not_elsewhere {data : List UInt8} {other : TCPAddr} {P : Prop}
    (sent : (.ok (some (localHTTPS, data)) : Except Panic _) = .ok (some (other, data)))
    (elsewhere : other ≠ localHTTPS) : P := by
  have same : localHTTPS = other := (Prod.mk.inj (Option.some.inj (Except.ok.inj sent))).1
  exact absurd same.symm elsewhere

/-- Hosts that pintle serves are not passed through, exactly for the names that are not the
dashboard host, or have a route, or are covered by no passthrough domain or first by one that
resolves to pintle itself. -/
theorem served_locally_iff {baseDomain : GoString} {passthrough : List PassthroughDomain}
    {rtr : Router ρ} {client : Conn} {data : List UInt8} {sni : GoString}
    (resolvable : ∀ pt ∈ passthrough,
      (resolvePassthroughTarget resolveTCPAddr discovered pt.target).isSome = true)
    (read : client.read 16384 = some data) (parsed : parseSNI data = .ok sni) :
    ((sni = dashboardHost baseDomain ∨ rtr.hasHost sni = true →
      (runSNIRouter resolveTCPAddr discovered passthrough rtr).handleConnection client =
        .ok (some (localHTTPS, data))) ∧
    (∀ other, (runSNIRouter resolveTCPAddr discovered passthrough rtr).handleConnection client =
        .ok (some (other, data)) → other ≠ localHTTPS →
      sni ≠ dashboardHost baseDomain ∧ rtr.hasHost sni = false ∧
        ∃ pt ∈ passthrough, pt.covers sni = true)) ↔
    (sni ≠ dashboardHost baseDomain ∨ rtr.hasHost sni = true ∨
      ∀ pt, passthrough.find? (·.covers sni) = some pt →
        resolvePassthroughTarget resolveTCPAddr discovered pt.target = some localHTTPS) := by
  rw [handle_named read parsed]
  by_cases named : sni = []
  · -- a connection without a name is served locally, and the dashboard host is not empty
    have other_host : sni ≠ dashboardHost baseDomain := by
      rw [named]
      nofun
    have target : (runSNIRouter resolveTCPAddr discovered passthrough rtr).target sni = localHTTPS := by
      rw [target, if_neg (by simpa using named)]
      rfl
    rw [target]
    exact ⟨fun _ => .inl other_host, fun _ => ⟨fun _ => rfl, fun _ => not_elsewhere⟩⟩
  · rw [target_passthrough named]
    cases routed : rtr.hasHost sni with
    | true =>
      exact ⟨fun _ => .inr (.inl rfl), fun _ => ⟨fun _ => rfl, fun _ => not_elsewhere⟩⟩
    | false =>
      simp only [Bool.false_eq_true, or_false, false_or, if_false]
      cases found : passthrough.find? (·.covers sni) with
      | none =>
        exact ⟨fun _ => .inr nofun, fun _ => ⟨fun _ => rfl, fun _ => not_elsewhere⟩⟩
      | some pt =>
        have member := List.mem_of_find?_eq_some found
        have covered := List.find?_some found
        obtain ⟨address, resolved⟩ := Option.isSome_iff_exists.mp (resolvable pt member)
        simp only [resolved, Option.getD_some, Option.some.injEq, forall_eq']
        constructor
        · intro served
          by_cases dashboard : sni = dashboardHost baseDomain
          · right
            have here := served.1 dashboard
            exact (Prod.mk.inj (Option.some.inj (Except.ok.inj here))).1
          · exact .inl dashboard
        · intro condition
          refine ⟨?_, ?_⟩
          · intro dashboard
            rcases condition with other_host | same
            · exact absurd dashboard other_host
            · rw [same]
          · rintro other ⟨⟩ elsewhere
            rcases condition with other_host | same
            · exact ⟨other_host, trivial, pt, member, covered⟩
            · exact absurd same elsewhere

end SNIRouter

/-- A resolver that knows addresses written out. -/
def resolveLiteral (target : GoString) : Option TCPAddr :=
  match splitHostPort target with
  | none => none
  | some (host, port) => (parseIP host).map fun ip => { ip, port := atoi port }

/-- The base domain passed through to another proxy. -/
def baseDomainPassed : List PassthroughDomain :=
  [{ domain := lit "lvh.me", target := lit "10.0.0.9:8443" }]

/-- A ClientHello for the dashboard of that domain. -/
def dashboardHello : ClientHello where
  toHelloFields :=
    { smallHello with extensions := some [.serverName (lit "pintle.lvh.me") [] (by decide)] }
  fits := by decide

namespace SNIRouter

/-- The main handler serves the dashboard host, and the SNI router connects it to another proxy. -/
theorem dashboard_passed_through :
    mainHandler (lit "lvh.me") (lit "pintle.lvh.me") (lit "/") (lit "GET") = .dashboard ∧
    ¬ ∀ (baseDomain : GoString) (passthrough : List PassthroughDomain) (rtr : Router Empty)
      (client : Conn) (data : List UInt8) (sni : GoString),
      (∀ pt ∈ passthrough,
        (resolvePassthroughTarget resolveLiteral ([], 0) pt.target).isSome = true) →
      client.read 16384 = some data → parseSNI data = .ok sni →
      sni = dashboardHost baseDomain ∨ rtr.hasHost sni = true →
      (runSNIRouter resolveLiteral ([], 0) passthrough rtr).handleConnection client =
        .ok (some (localHTTPS, data)) := by
  refine ⟨by decide, ?_⟩
  intro served
  have parsed : parseSNI (dashboardHello.encode #v[3, 1]) = .ok (lit "pintle.lvh.me") :=
    parseSNI_encode #v[3, 1] dashboardHello
  have read : Conn.read 16384 [dashboardHello.encode #v[3, 1]] =
      some (dashboardHello.encode #v[3, 1]) := by decide
  have here := served (lit "lvh.me") baseDomainPassed .new _ _ _ (by decide) read parsed
    (.inl (by decide))
  have elsewhere : (runSNIRouter resolveLiteral ([], 0) baseDomainPassed (.new : Router Empty)).target
      (lit "pintle.lvh.me") = { ip := v4InV6Prefix ++ [10, 0, 0, 9], port := 8443 } := by decide
  rw [handle_named read parsed, elsewhere] at here
  exact absurd (Prod.mk.inj (Option.some.inj (Except.ok.inj here))).1 (by decide)

theorem served_locally_routed :
    ∃ rtr : Router Empty, rtr.hasHost (lit "pintle.lvh.me") = true ∧
      (runSNIRouter resolveLiteral ([], 0) baseDomainPassed rtr).handleConnection
        [dashboardHello.encode #v[3, 1]] =
          .ok (some (localHTTPS, dashboardHello.encode #v[3, 1])) := by
  have parsed : parseSNI (dashboardHello.encode #v[3, 1]) = .ok (lit "pintle.lvh.me") :=
    parseSNI_encode #v[3, 1] dashboardHello
  refine ⟨Router.new.update .stored
    [{ hostname := lit "pintle.lvh.me", path := lit "/", target := lit "http://b" }], by decide, ?_⟩
  have served := @served_locally_iff Empty _ resolveLiteral ([], 0) (lit "lvh.me") baseDomainPassed
  exact ((served (by decide) (by decide) parsed).mpr (.inr (.inl (by decide)))).1 (.inr (by decide))

end SNIRouter

end Pintle
