import Mathlib.Data.List.Permutation
import Pintle.Aggregator.Merge
import Pintle.Router.Reference
import Pintle.Server.Handle

/-!
# The order of the merge

`merge` ranges over a Go map, so the routes of the file provider may come before or after those of
the Docker provider. `merge_order` says exactly for which accepted messages this order can be
observed, through `Resolve` with equal counters and health marks and through the route lookup of the
TCP router.

The messages are those the two providers send: the file provider declares exact hostnames from the
static source, in pools of at most 32 targets; the Docker provider declares no pools.
-/

namespace Pintle
open Go Lib

/-- What the file provider promises of a message. -/
structure FromFile (msg : Message) : Prop where
  name : msg.providerName = lit "file"
  exact : ∀ route ∈ msg.routes, route.isRegexp = false
  static : ∀ route ∈ msg.routes, route.source = lit "static"
  small : ∀ route ∈ msg.routes, route.backendPool ≠ [] →
    (msg.routes.filter route.samePool).length ≤ 32

/-- What the Docker provider promises of a message. -/
structure FromDocker (msg : Message) : Prop where
  name : msg.providerName = lit "docker"
  unpooled : ∀ route ∈ msg.routes, route.backendPool = []

/-- The last accepted message of each provider. The first message is the file provider's. -/
structure Accepted where
  file : Message
  docker : Option Message
  fromFile : FromFile file
  fromDocker : ∀ msg ∈ docker, FromDocker msg

namespace Accepted

/-- The map of messages. -/
def configs (acc : Accepted) : Configs :=
  match acc.docker with
  | none => Configs.store ∅ acc.file
  | some msg => (Configs.store ∅ acc.file).store msg

/-- The routes of the Docker provider. -/
def dockerRoutes (acc : Accepted) : List Route :=
  match acc.docker with
  | none => []
  | some msg => msg.routes

/-- The TCP routes of the Docker provider. -/
def dockerTcpRoutes (acc : Accepted) : List TcpRoute :=
  match acc.docker with
  | none => []
  | some msg => msg.tcpRoutes

lemma docker_unpooled (acc : Accepted) {route : Route} (member : route ∈ acc.dockerRoutes) :
    route.backendPool = [] := by
  unfold dockerRoutes at member
  split at member
  · cases member
  · rename_i msg found
    exact (acc.fromDocker msg found).unpooled route member

/-- No route of the Docker provider is in a pool. -/
lemma docker_no_pool (acc : Accepted) {a : Route} (pooled : a.backendPool ≠ []) (hostname : GoString) :
    (exactRoutes hostname acc.dockerRoutes).filter a.samePool = [] := by
  rw [List.filter_eq_nil_iff]
  intro m inside same
  simp only [Route.samePool, Bool.and_eq_true, decide_eq_true_eq] at same
  exact pooled (same.1.1.1.2 ▸ acc.docker_unpooled (List.mem_filter.mp inside).1)

/-- The file provider's entries come first. -/
structure FileFirst (acc : Accepted) (cfg : Configuration) : Prop where
  routes : cfg.routes = acc.file.routes ++ acc.dockerRoutes
  tcpRoutes : cfg.tcpRoutes = acc.file.tcpRoutes ++ acc.dockerTcpRoutes

/-- The Docker provider's entries come first. -/
structure DockerFirst (acc : Accepted) (cfg : Configuration) : Prop where
  routes : cfg.routes = acc.dockerRoutes ++ acc.file.routes
  tcpRoutes : cfg.tcpRoutes = acc.dockerTcpRoutes ++ acc.file.tcpRoutes

lemma pairs_one (msg : Message) :
    (Configs.store ∅ msg).pairs = [(msg.providerName, msg)] := by
  rfl

lemma pairs_two {file docker : Message} (fromFile : FromFile file) (fromDocker : FromDocker docker) :
    ((Configs.store ∅ file).store docker).pairs =
      [(docker.providerName, docker), (file.providerName, file)] := by
  have other : docker.providerName ≠ file.providerName := by
    rw [fromFile.name, fromDocker.name]
    decide
  simp [Configs.store, GoMap.pairs, AList.insert, List.kinsert, List.kerase, other]

/-- Every order puts one provider's entries before the other's. -/
lemma merge_blocks (acc : Accepted) (ord : RangeOrder (GoString × Message)) :
    acc.FileFirst (merge ord acc.configs) ∨ acc.DockerFirst (merge ord acc.configs) := by
  have visited := ord.perm acc.configs.pairs
  obtain ⟨file, docker, fromFile, fromDocker⟩ := acc
  cases docker with
  | none =>
    left
    rw [configs, pairs_one, List.perm_singleton] at visited
    refine ⟨?_, ?_⟩
    · rw [merge_routes, configs, pairs_one, visited]
      simp [dockerRoutes]
    · rw [merge_tcpRoutes, configs, pairs_one, visited]
      simp [dockerTcpRoutes]
  | some docker =>
    have pairs := pairs_two fromFile (fromDocker docker rfl)
    rw [configs, pairs, List.perm_pair] at visited
    rcases visited with first | second
    · right
      refine ⟨?_, ?_⟩
      · rw [merge_routes, configs, pairs, first]
        simp [dockerRoutes]
      · rw [merge_tcpRoutes, configs, pairs, first]
        simp [dockerTcpRoutes]
    · left
      refine ⟨?_, ?_⟩
      · rw [merge_routes, configs, pairs, second]
        simp [dockerRoutes]
      · rw [merge_tcpRoutes, configs, pairs, second]
        simp [dockerTcpRoutes]

/-- Both orders occur. -/
lemma merge_both (acc : Accepted) :
    ∃ ord ord', acc.FileFirst (merge ord acc.configs) ∧ acc.DockerFirst (merge ord' acc.configs) := by
  obtain ⟨file, docker, fromFile, fromDocker⟩ := acc
  cases docker with
  | none =>
    refine ⟨.stored, .stored, ⟨?_, ?_⟩, ⟨?_, ?_⟩⟩ <;>
      simp [merge_routes, merge_tcpRoutes, configs, pairs_one, RangeOrder.stored, dockerRoutes,
        dockerTcpRoutes]
  | some docker =>
    have pairs := pairs_two fromFile (fromDocker docker rfl)
    refine ⟨.reversed, .stored, ⟨?_, ?_⟩, ⟨?_, ?_⟩⟩ <;>
      simp [merge_routes, merge_tcpRoutes, configs, pairs, RangeOrder.stored, RangeOrder.reversed,
        dockerRoutes, dockerTcpRoutes]

end Accepted

namespace Router
variable {ρ : Type}

/-- The router with given counters and health marks, on the pools and records it has. -/
def assign (counts : GoString → UInt64) (marks : GoString → Bool) (r : Router ρ) : Router ρ :=
  { r with
    pools := r.pools.mapValues fun key _ => counts key
    health := r.health.mapValues fun key state => { state with healthy := marks key } }

/-- Where a request goes: whether its pool is unavailable, and the target. -/
def answer [Regexp ρ] (r : Router ρ) (hostname path : GoString) : Option (Bool × GoString) :=
  (r.resolve hostname path).1.map fun res => (res.unavailable, res.target)

variable [Regexp ρ]

lemma answer_eq_or {r : Router ρ} {routes : List Route} (inst : r.Installed routes)
    (hostname path : GoString) :
    r.answer hostname path =
      ((r.matchPool (byPathDesc (exactRoutes hostname routes)) path).1.or
        (r.resolveRegex hostname path r.regexRoutes).1).map
          fun res => (res.unavailable, res.target) := by
  rw [answer, resolve_eq_or, inst.exact]

lemma answer_of_match {r : Router ρ} {routes : List Route} (inst : r.Installed routes)
    {hostname path : GoString} {res : ResolveResult}
    (answered : (r.matchPool (byPathDesc (exactRoutes hostname routes)) path).1 = some res) :
    r.answer hostname path = some (res.unavailable, res.target) := by
  rw [answer_eq_or inst, answered]
  rfl

lemma assign_installed (ord : RangeOrder (GoString × List Route)) (routes : List Route) (r : Router ρ)
    (counts : GoString → UInt64) (marks : GoString → Bool) :
    ((r.update ord routes).assign counts marks).Installed routes :=
  (update_installed ord routes r).of_tables rfl rfl

/-- Lists with the same checked members leave the same marks. -/
lemma assign_marks {routes routes' : List Route}
    (same : ∀ key, Checked (ρ := ρ) routes key ↔ Checked (ρ := ρ) routes' key)
    (ord ord' : RangeOrder (GoString × List Route)) (r r' : Router ρ)
    (counts : GoString → UInt64) (marks : GoString → Bool) :
    ((r.update ord routes).assign counts marks).SameMarks
      ((r'.update ord' routes').assign counts marks) := by
  intro key
  have known := update_keys same ord ord' r r' key
  simp only [assign, GoMap.lookup_mapValues, Option.map_map]
  cases left : (r.update ord routes).health.lookup key <;>
    cases right : (r'.update ord' routes').health.lookup key <;> simp_all

/-- The counter of a declared pool is the assigned one. -/
lemma assign_counter {routes : List Route} {route : Route} (member : route ∈ routes)
    (pooled : route.backendPool ≠ []) (ord : RangeOrder (GoString × List Route)) (r : Router ρ)
    (counts : GoString → UInt64) (marks : GoString → Bool) :
    ((r.update ord routes).assign counts marks).pools.lookup (poolKey route) =
      some (counts (poolKey route)) := by
  have counter := (freshPools_lookup routes (poolKey route) 0).mpr ⟨rfl, route, member, pooled, rfl⟩
  have stored : (r.update ord routes).pools.lookup (poolKey route) = some 0 := counter
  simp [assign, stored]

/-- A static member of a pool may be selected when it has no check or is marked. -/
lemma assign_eligible {routes : List Route} {route : Route} (member : route ∈ routes)
    (exact : route.isRegexp = false) (pooled : route.backendPool ≠ [])
    (static : route.source = lit "static") (ord : RangeOrder (GoString × List Route)) (r : Router ρ)
    (counts : GoString → UInt64) (marks : GoString → Bool) :
    ((r.update ord routes).assign counts marks).eligible route =
      (route.health.isNone || marks (healthKey route)) := by
  unfold eligible
  cases checked : route.health with
  | none => rfl
  | some check =>
    have registered : route.registered = true := by simp [Route.registered, checked, pooled, static]
    have known : ((r.update ord routes).health.lookup (healthKey route)).isSome = true := by
      rw [update, reset_isSome (install_installed r routes)]
      exact ⟨route, member, by simp [exact], registered, rfl⟩
    obtain ⟨state, stored⟩ := Option.isSome_iff_exists.mp known
    simp [assign, stored]

end Router

lemma exactRoutes_append (hostname : GoString) (routes routes' : List Route) :
    exactRoutes hostname (routes ++ routes') =
      exactRoutes hostname routes ++ exactRoutes hostname routes' :=
  List.filter_append ..

/-- The routes of both providers for a hostname, as one conflict: the file provider's best match and
the Docker provider's have paths of one length. -/
structure Tied (acc : Accepted) (hostname path : GoString) (a b : Route) : Prop where
  file : longest path (exactRoutes hostname acc.file.routes) = some a
  docker : longest path (exactRoutes hostname acc.dockerRoutes) = some b
  length : a.path.length = b.path.length

/-- The file provider's answer is one target, whatever the counters and marks: the route's own, or
that of all members of its pool, one of which needs no check. -/
def OnlyTo (hostname : GoString) (routes : List Route) (a : Route) (target : GoString) : Prop :=
  if a.backendPool = [] then a.target = target
  else
    (∀ m ∈ exactRoutes hostname routes, a.samePool m = true → m.target = target) ∧
      ∃ m ∈ exactRoutes hostname routes, a.samePool m = true ∧ m.health = none

/-- The providers do not contradict each other: where their routes tie, the file provider sends only
to the Docker provider's target, and where both declare a TCP name on a port, they declare one
route. -/
structure Compatible (acc : Accepted) : Prop where
  http : ∀ hostname path a b, Tied acc hostname path a b →
    OnlyTo hostname acc.file.routes a b.target
  tcp : ∀ port sni, sni ≠ [] → ∀ a b,
    acc.file.tcpRoutes.find? (·.serves port sni) = some a →
    acc.dockerTcpRoutes.find? (·.serves port sni) = some b → a = b

section
variable {ρ : Type} [Regexp ρ]

/-- Two merged route lists answer every request alike, with equal counters and marks. -/
def AnswerAlike (ρ : Type) [Regexp ρ] (routes routes' : List Route) : Prop :=
  ∀ (ord ord' : RangeOrder (GoString × List Route)) (r r' : Router ρ) (counts : GoString → UInt64)
    (marks : GoString → Bool) (hostname path : GoString),
    ((r.update ord routes).assign counts marks).answer hostname path =
      ((r'.update ord' routes').assign counts marks).answer hostname path

/-- The order of the merge cannot be observed. -/
def OrderFree (ρ : Type) [Regexp ρ] (acc : Accepted) : Prop :=
  ∀ ord ord' : RangeOrder (GoString × Message),
    AnswerAlike ρ (merge ord acc.configs).routes (merge ord' acc.configs).routes ∧
    ∀ certs port sni, sni ≠ [] →
      TCPRouter.findRoute { certs, getRoutes := (merge ord acc.configs).tcpRoutes } port sni =
        TCPRouter.findRoute { certs, getRoutes := (merge ord' acc.configs).tcpRoutes } port sni

/-- The members of an exact match's pool that may be selected with given marks. -/
def liveMembers (marks : GoString → Bool) (group : List Route) (a : Route) : List Route :=
  (group.filter a.samePool).filter fun m => m.health.isNone || marks (healthKey m)

/-- What a pool of static members answers. -/
lemma pool_answer {routes : List Route} {hostname path : GoString} {a : Route}
    (found : longest path (exactRoutes hostname routes) = some a) (pooled : a.backendPool ≠ [])
    (static : ∀ m ∈ exactRoutes hostname routes, a.samePool m = true → m.source = lit "static")
    (ord : RangeOrder (GoString × List Route)) (r : Router ρ) (counts : GoString → UInt64)
    {marks : GoString → Bool} {members : List Route}
    (live : liveMembers marks (exactRoutes hostname routes) a = members) :
    ((r.update ord routes).assign counts marks).answer hostname path =
      if remain : members ≠ [] then
        some (false, (Router.pick (counts (poolKey a)) members remain).target)
      else some (true, []) := by
  have matched := (find?_byPathDesc (exactRoutes hostname routes) path).trans found
  obtain ⟨member, _⟩ := longest_mem found
  have listed := (List.mem_filter.mp member).1
  obtain ⟨res, answered, out⟩ := Router.matchPool_some
    (r := (r.update ord routes).assign counts marks) matched
  have live : ((r.update ord routes).assign counts marks).members
      (byPathDesc (exactRoutes hostname routes)) a = members := by
    rw [Router.members_eq_filter, byPathDesc_pool, ← live]
    apply List.filter_congr
    intro m inside
    obtain ⟨m_member, same⟩ := List.mem_filter.mp inside
    obtain ⟨m_listed, m_exact⟩ := List.mem_filter.mp m_member
    simp only [Bool.and_eq_true, Bool.not_eq_true'] at m_exact
    have m_pooled : m.backendPool ≠ [] := by
      simp only [Route.samePool, Bool.and_eq_true, decide_eq_true_eq] at same
      rw [same.1.1.1.2]
      exact pooled
    exact Router.assign_eligible m_listed m_exact.1 m_pooled (static m m_member same) ord r counts marks
  have counter := Router.assign_counter listed pooled ord r counts marks
  rw [Router.answer_of_match (Router.assign_installed ord routes r counts marks) answered]
  subst live
  cases out with
  | single unpooled => exact absurd unpooled pooled
  | unavailable _ none_left =>
    rw [counter] at none_left
    rw [dif_neg (not_not.mpr (none_left.resolve_left (by simp)))]
  | selected _ declared remain =>
    rw [counter] at declared
    cases declared
    rw [dif_pos remain]

/-- An exact match without a pool answers its own target. -/
lemma unpooled_answer {routes : List Route} {hostname path : GoString} {best : Route}
    (found : longest path (exactRoutes hostname routes) = some best) (unpooled : best.backendPool = [])
    (ord : RangeOrder (GoString × List Route)) (r : Router ρ) (counts : GoString → UInt64)
    (marks : GoString → Bool) :
    ((r.update ord routes).assign counts marks).answer hostname path = some (false, best.target) := by
  have matched := (find?_byPathDesc (exactRoutes hostname routes) path).trans found
  obtain ⟨res, answered, out⟩ := Router.matchPool_some
    (r := (r.update ord routes).assign counts marks) matched
  rw [Router.answer_of_match (Router.assign_installed ord routes r counts marks) answered]
  cases out with
  | single _ => rfl
  | unavailable pooled _ => exact absurd unpooled pooled
  | selected pooled _ _ => exact absurd unpooled pooled

lemma mem_liveMembers {marks : GoString → Bool} {group : List Route} {a m : Route} :
    m ∈ liveMembers marks group a ↔ m ∈ group ∧ a.samePool m = true ∧
      (m.health.isNone || marks (healthKey m)) = true := by
  rw [liveMembers, List.mem_filter, List.mem_filter, and_assoc]

/-- The counter can put any member of a small pool in front. -/
lemma pick_any {members : List Route} {m : Route} (member : m ∈ members)
    (small : members.length ≤ 32) (some : members ≠ []) :
    ∃ count : UInt64, Router.pick count members some = m := by
  obtain ⟨i, bound, rfl⟩ := List.getElem_of_mem member
  refine ⟨UInt64.ofNat i, ?_⟩
  have position : (UInt64.ofNat i + 1 - 1).toNat % members.length = i := by
    rw [UInt64.add_sub_cancel, UInt64.toNat_ofNat', Nat.mod_eq_of_lt (show i < 2 ^ 64 by omega),
      Nat.mod_eq_of_lt bound]
  simp only [Router.pick, position, List.get_eq_getElem]

/-- A pool of the file provider answers one target, whatever the counters and marks, exactly when it
only sends there. -/
lemma onlyTo_iff {acc : Accepted} {hostname : GoString} {a : Route}
    (member : a ∈ exactRoutes hostname acc.file.routes) (pooled : a.backendPool ≠ [])
    (target : GoString) :
    OnlyTo hostname acc.file.routes a target ↔
      ∀ (counts : GoString → UInt64) (marks : GoString → Bool),
        ∃ some : liveMembers marks (exactRoutes hostname acc.file.routes) a ≠ [],
          (Router.pick (counts (poolKey a)) _ some).target = target := by
  rw [OnlyTo, if_neg pooled]
  constructor
  · intro only counts marks
    obtain ⟨all, m, m_member, same, unchecked⟩ := only
    have live : m ∈ liveMembers marks (exactRoutes hostname acc.file.routes) a :=
      mem_liveMembers.mpr ⟨m_member, same, by simp [unchecked]⟩
    refine ⟨List.ne_nil_of_mem live, ?_⟩
    obtain ⟨inside, same', _⟩ := mem_liveMembers.mp
      (Router.pick_mem (List.ne_nil_of_mem live))
    exact all _ inside same'
  · intro answers
    refine ⟨?_, ?_⟩
    · intro m m_member same
      -- with every mark set, each member is live, and some counter selects it
      have live : m ∈ liveMembers (fun _ => true) (exactRoutes hostname acc.file.routes) a :=
        mem_liveMembers.mpr ⟨m_member, same, by simp⟩
      have small :
          (liveMembers (fun _ => true) (exactRoutes hostname acc.file.routes) a).length ≤ 32 := by
        have listed := (List.mem_filter.mp member).1
        refine le_trans ?_ (acc.fromFile.small a listed pooled)
        refine (List.length_filter_le _ _).trans ?_
        exact (List.filter_sublist.filter _).length_le
      obtain ⟨count, picked⟩ := pick_any live small (List.ne_nil_of_mem live)
      obtain ⟨_, target_eq⟩ := answers (fun _ => count) fun _ => true
      rw [picked] at target_eq
      exact target_eq
    · -- with no mark set, a live member has no check
      obtain ⟨some, _⟩ := answers (fun _ => 0) fun _ => false
      obtain ⟨m, live⟩ := List.exists_mem_of_ne_nil _ some
      obtain ⟨m_member, same, unchecked⟩ := mem_liveMembers.mp live
      exact ⟨m, m_member, same, by simpa using unchecked⟩

/-- Where the providers tie, the one whose entries come first answers. -/
lemma tied_alike {acc : Accepted} {hostname path : GoString} {a b : Route}
    (tied : Tied acc hostname path a b) :
    (∀ (ord ord' : RangeOrder (GoString × List Route)) (r r' : Router ρ)
      (counts : GoString → UInt64) (marks : GoString → Bool),
      ((r.update ord (acc.file.routes ++ acc.dockerRoutes)).assign counts marks).answer hostname path =
        ((r'.update ord' (acc.dockerRoutes ++ acc.file.routes)).assign counts marks).answer
          hostname path) ↔
      OnlyTo hostname acc.file.routes a b.target := by
  have member := (longest_mem tied.file).1
  have b_unpooled : b.backendPool = [] :=
    acc.docker_unpooled (List.mem_filter.mp (longest_mem tied.docker).1).1
  have file_first :
      longest path (exactRoutes hostname (acc.file.routes ++ acc.dockerRoutes)) = some a := by
    rw [exactRoutes_append, longest_append, tied.file, tied.docker]
    simp [tied.length]
  have docker_first :
      longest path (exactRoutes hostname (acc.dockerRoutes ++ acc.file.routes)) = some b := by
    rw [exactRoutes_append, longest_append, tied.file, tied.docker]
    simp [tied.length]
  by_cases pooled : a.backendPool = []
  · -- both best matches answer by themselves, whatever the marks
    rw [OnlyTo, if_pos pooled]
    constructor
    · intro alike
      have same := alike .stored .stored .new .new (fun _ => 0) fun _ => false
      rw [unpooled_answer file_first pooled, unpooled_answer docker_first b_unpooled] at same
      exact congrArg Prod.snd (Option.some.inj same)
    · intro target ord ord' r r' counts marks
      rw [unpooled_answer file_first pooled, unpooled_answer docker_first b_unpooled, target]
  · -- the file provider's best match is one of a pool, which no Docker route joins
    have live (marks : GoString → Bool) :
        liveMembers marks (exactRoutes hostname (acc.file.routes ++ acc.dockerRoutes)) a =
          liveMembers marks (exactRoutes hostname acc.file.routes) a := by
      rw [liveMembers, exactRoutes_append, List.filter_append, acc.docker_no_pool pooled,
        List.append_nil]
      rfl
    have static (m : Route) (inside : m ∈ exactRoutes hostname (acc.file.routes ++ acc.dockerRoutes))
        (same : a.samePool m = true) : m.source = lit "static" := by
      rw [exactRoutes_append, List.mem_append] at inside
      rcases inside with file | docker
      · exact acc.fromFile.static m (List.mem_filter.mp file).1
      · have pool_member := List.mem_filter.mpr ⟨docker, same⟩
        rw [acc.docker_no_pool pooled] at pool_member
        cases pool_member
    rw [onlyTo_iff member pooled]
    constructor
    · intro alike counts marks
      have same := alike .stored .stored .new .new counts marks
      rw [unpooled_answer docker_first b_unpooled,
        pool_answer file_first pooled static .stored (.new : Router ρ) counts (live marks)] at same
      split at same
      · rename_i some
        exact ⟨some, congrArg Prod.snd (Option.some.inj same)⟩
      · cases same
    · intro answers ord ord' r r' counts marks
      obtain ⟨some, target⟩ := answers counts marks
      rw [unpooled_answer docker_first b_unpooled,
        pool_answer file_first pooled static ord r counts (live marks), dif_pos some, target]

/-- Lists with the same routes, the same regex groups, one best match for a request and one pool
around it answer the request alike. -/
lemma answer_agree {routes routes' : List Route} (same : ∀ route, route ∈ routes ↔ route ∈ routes')
    (pats : patterns ρ routes = patterns ρ routes')
    (groups : ∀ pattern, patternRoutes pattern routes = patternRoutes pattern routes')
    {hostname path : GoString}
    (best : longest path (exactRoutes hostname routes) = longest path (exactRoutes hostname routes'))
    (pool : ∀ a : Route, a.backendPool ≠ [] →
      (exactRoutes hostname routes).filter a.samePool =
        (exactRoutes hostname routes').filter a.samePool)
    (ord ord' : RangeOrder (GoString × List Route)) (r r' : Router ρ) (counts : GoString → UInt64)
    (marks : GoString → Bool) :
    ((r.update ord routes).assign counts marks).answer hostname path =
      ((r'.update ord' routes').assign counts marks).answer hostname path := by
  have inst := Router.assign_installed ord routes r counts marks
  have inst' := Router.assign_installed ord' routes' r' counts marks
  have checked (key : GoString) :
      Router.Checked (ρ := ρ) routes key ↔ Router.Checked (ρ := ρ) routes' key := by
    simp only [Router.Checked, same]
  have alike := Router.assign_marks checked ord ord' r r' counts marks
  have counters (route : Route) (listed : route ∈ routes) (pooled : route.backendPool ≠ []) :
      ((r.update ord routes).assign counts marks).pools.lookup (poolKey route) =
        ((r'.update ord' routes').assign counts marks).pools.lookup (poolKey route) := by
    rw [Router.assign_counter listed pooled, Router.assign_counter ((same route).mp listed) pooled]
  have tables : ((r.update ord routes).assign counts marks).regexRoutes =
      ((r'.update ord' routes').assign counts marks).regexRoutes :=
    Router.regex_unique inst.regex (pats ▸ inst'.regex) groups
  rw [Router.answer_eq_or inst, Router.answer_eq_or inst', ← tables]
  congr 2
  · -- the exact hosts: one best match, and one pool around it
    cases found : longest path (exactRoutes hostname routes) with
    | none =>
      have unmatched := (find?_byPathDesc (exactRoutes hostname routes) path).trans found
      have unmatched' := (find?_byPathDesc (exactRoutes hostname routes') path).trans (best ▸ found)
      rw [Router.matchPool_none unmatched, Router.matchPool_none unmatched']
    | some a =>
      have matched := (find?_byPathDesc (exactRoutes hostname routes) path).trans found
      have matched' := (find?_byPathDesc (exactRoutes hostname routes') path).trans (best ▸ found)
      refine Router.matchPool_agree alike matched matched' ?_ ?_
      · intro pooled
        rw [byPathDesc_pool, byPathDesc_pool, pool a pooled]
      · exact counters a (List.mem_filter.mp (longest_mem found).1).1
  · -- the patterns: the groups are the same lists
    refine Router.resolveRegex_congr alike ?_ hostname path
    intro rr inside route member
    apply counters
    have flat : route ∈ ((r.update ord routes).assign counts marks).flattenLocked .stored := by
      rw [Router.flattenLocked, List.mem_append]
      exact .inr (List.mem_flatMap.mpr ⟨rr, inside, member⟩)
    exact ((Router.mem_flattenLocked inst .stored route).mp flat).1

/-- Where the providers do not tie, the order of their entries is no matter. -/
lemma untied_alike {acc : Accepted} {hostname path : GoString}
    (untied : ∀ a b, ¬ Tied acc hostname path a b) (ord ord' : RangeOrder (GoString × List Route))
    (r r' : Router ρ) (counts : GoString → UInt64) (marks : GoString → Bool) :
    ((r.update ord (acc.file.routes ++ acc.dockerRoutes)).assign counts marks).answer hostname path =
      ((r'.update ord' (acc.dockerRoutes ++ acc.file.routes)).assign counts marks).answer
        hostname path := by
  have no_pattern (pattern : GoString) : patternRoutes pattern acc.file.routes = [] := by
    rw [patternRoutes, List.filter_eq_nil_iff]
    intro route member
    simp [acc.fromFile.exact route member]
  apply answer_agree
  · intro route
    rw [List.mem_append, List.mem_append, or_comm]
  · have none_valid : (acc.file.routes.filter fun route =>
        route.isRegexp && compiles ρ route.hostname) = [] := by
      rw [List.filter_eq_nil_iff]
      intro route member
      simp [acc.fromFile.exact route member]
    rw [patterns, patterns, List.filter_append, List.filter_append, none_valid, List.append_nil,
      List.nil_append]
  · intro pattern
    rw [patternRoutes, patternRoutes, List.filter_append, List.filter_append]
    change patternRoutes pattern acc.file.routes ++ _ = _ ++ patternRoutes pattern acc.file.routes
    rw [no_pattern, List.nil_append, List.append_nil]
  · rw [exactRoutes_append, exactRoutes_append, longest_append, longest_append]
    cases file : longest path (exactRoutes hostname acc.file.routes) with
    | none => cases longest path (exactRoutes hostname acc.dockerRoutes) <;> rfl
    | some a =>
      cases docker : longest path (exactRoutes hostname acc.dockerRoutes) with
      | none => rfl
      | some b =>
        have apart : a.path.length ≠ b.path.length := fun length => untied a b ⟨file, docker, length⟩
        dsimp only
        split <;> split <;> first | rfl | omega
  · intro a pooled
    rw [exactRoutes_append, exactRoutes_append, List.filter_append, List.filter_append,
      acc.docker_no_pool pooled, List.append_nil, List.nil_append]

/-- The two orders answer alike exactly when the file provider sends only to the Docker provider's
target wherever they tie. -/
lemma swap_alike (acc : Accepted) :
    AnswerAlike ρ (acc.file.routes ++ acc.dockerRoutes) (acc.dockerRoutes ++ acc.file.routes) ↔
      ∀ hostname path a b, Tied acc hostname path a b → OnlyTo hostname acc.file.routes a b.target := by
  constructor
  · intro alike hostname path a b tied
    exact (tied_alike (ρ := ρ) tied).mp fun ord ord' r r' counts marks =>
      alike ord ord' r r' counts marks hostname path
  · intro compatible ord ord' r r' counts marks hostname path
    by_cases tie : ∃ a b, Tied acc hostname path a b
    · obtain ⟨a, b, tied⟩ := tie
      exact (tied_alike tied).mpr (compatible hostname path a b tied) ord ord' r r' counts marks
    · exact untied_alike (fun a b tied => tie ⟨a, b, tied⟩) ord ord' r r' counts marks

/-- One list answers alike however its tables are visited. -/
lemma answer_self (routes : List Route) : AnswerAlike ρ routes routes := by
  intro ord ord' r r' counts marks hostname path
  exact answer_agree (fun _ => Iff.rfl) rfl (fun _ => rfl) rfl (fun _ _ => rfl) ord ord' r r' counts
    marks

lemma AnswerAlike.symm {routes routes' : List Route} (alike : AnswerAlike ρ routes routes') :
    AnswerAlike ρ routes' routes :=
  fun ord ord' r r' counts marks hostname path =>
    (alike ord' ord r' r counts marks hostname path).symm

/-- The two orders of the TCP routes find one route exactly when the first of each provider is one.
-/
lemma find?_swap {tcp tcp' : List TcpRoute} (p : TcpRoute → Bool) :
    (tcp ++ tcp').find? p = (tcp' ++ tcp).find? p ↔
      ∀ a b, tcp.find? p = some a → tcp'.find? p = some b → a = b := by
  rw [List.find?_append, List.find?_append]
  cases tcp.find? p <;> cases tcp'.find? p <;> simp

/-- The order in which the providers' messages are merged cannot be observed, through the target of
any request or the TCP route of any name, exactly when the providers do not contradict each other.
-/
theorem merge_order (acc : Accepted) : OrderFree ρ acc ↔ Compatible acc := by
  constructor
  · intro free
    obtain ⟨ord, ord', first, second⟩ := acc.merge_both
    obtain ⟨alike, tcp⟩ := free ord ord'
    rw [first.routes, second.routes] at alike
    refine ⟨(swap_alike acc).mp alike, ?_⟩
    intro port sni named
    have same := tcp [] port sni named
    simp only [TCPRouter.findRoute, first.tcpRoutes, second.tcpRoutes] at same
    exact (find?_swap _).mp same
  · intro compatible ord ord'
    obtain ⟨http, tcp⟩ := compatible
    have swap : AnswerAlike ρ _ _ := (swap_alike acc).mpr http
    have find (port : Int) (sni : GoString) (named : sni ≠ []) :=
      (find?_swap (TcpRoute.serves · port sni)).mpr (tcp port sni named)
    rcases acc.merge_blocks ord with one | one <;> rcases acc.merge_blocks ord' with two | two <;>
      rw [one.routes, two.routes, one.tcpRoutes, two.tcpRoutes]
    · exact ⟨answer_self _, fun _ _ _ _ => rfl⟩
    · exact ⟨swap, fun _ port sni named => find port sni named⟩
    · exact ⟨swap.symm, fun _ port sni named => (find port sni named).symm⟩
    · exact ⟨answer_self _, fun _ _ _ _ => rfl⟩

end

/-- The file provider and the Docker provider declare one host with different targets. -/
def contested : Accepted where
  file :=
    { providerName := lit "file"
      routes :=
      [{ hostname := lit "a", path := lit "/", target := lit "http://f", source := lit "static" }] }
  docker := some
    { providerName := lit "docker"
      routes :=
      [{ hostname := lit "a", path := lit "/", target := lit "http://d", source := lit "docker" }] }
  fromFile := ⟨rfl, by simp, by simp, by simp⟩
  fromDocker := by
    rintro _ ⟨⟩
    exact ⟨rfl, by simp⟩

theorem merge_order_contested : ¬ ∀ acc : Accepted, OrderFree Empty acc := by
  intro free
  obtain ⟨ord, ord', first, second⟩ := contested.merge_both
  have alike := (free contested ord ord').1
  rw [first.routes, second.routes] at alike
  have only := (swap_alike contested).mp alike (lit "a") (lit "/") _ _ ⟨rfl, rfl, rfl⟩
  rw [OnlyTo, if_pos rfl] at only
  exact absurd only (by decide)

end Pintle
