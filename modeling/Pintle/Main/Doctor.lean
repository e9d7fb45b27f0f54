import Pintle.Main.Deployment
import Pintle.Main.Hosts

/-!
# What the doctor reports

Model of `GetCurrentExpected` of `internal/aggregator/aggregator.go` and of the part of `runDoctor` of
`cmd/pintle/doctor.go` behind the request to `/api/self`: the lines about the expected hosts and the
exit status. The lines about the configuration and the running process are left out.

The report goes a long way: the routes file declares the hosts, the aggregator keeps the declaration,
the router is asked for each of them, and the answers come back over HTTP. At rest after an orderly run
it says what the last accepted file and the running containers say (`doctor_verdict`).
-/

namespace Pintle
open Go Lib

/-- Go `GetCurrentExpected`. -/
def getCurrentExpected (ord : RangeOrder (GoString × Message)) (configs : Configs) :
    List ExpectedHost :=
  match (ord.visit configs.pairs).find? (·.2.expected.length > 0) with
  | none => []
  | some (_, msg) => msg.expected

/-- What Go `runDoctor` prints about the expected hosts, and the status it exits with. -/
structure DoctorReport where
  lines : List GoString
  missing : Nat
  exit : Nat
  deriving DecidableEq, Repr

/-- A field of a given width, padded on the right (Go `%-8s` for 8). -/
def padRight (width : Nat) (s : GoString) : GoString := s ++ List.replicate (width - s.length) 32

/-- The lines of one expected host. -/
def ExpectedStatus.lines (exp : ExpectedStatus) : List GoString :=
  (lit "  " ++ padRight 8 (if exp.routed then lit "ok " else lit "MISSING") ++ lit " " ++ exp.host) ::
    if !exp.routed && exp.why ≠ [] then [lit "           why it matters: " ++ exp.why] else []

/-- The part of Go `runDoctor` about the expected hosts of the report it fetched. -/
def runDoctor (expected : List ExpectedStatus) : DoctorReport :=
  if expected = [] then
    { lines := [[], lit "No expected hosts declared (add an `expect:` list to routes.yaml)."]
      missing := 0
      exit := 0 }
  else
    let missing := expected.countP fun exp => !exp.routed
    let lines := [] :: lit "Expected hosts" :: expected.flatMap (·.lines)
    if missing > 0 then
      { lines := lines ++
          [[], itoa missing ++ lit (" expected host(s) have no route. A missing route means " ++
              "the service behind it"),
            lit "is down — routes for label-discovered containers only exist while they run."]
        missing
        exit := 1 }
    else { lines, missing, exit := 0 }

/-- Whether a route answers for a hostname on some path. -/
def Route.answersFor (ρ : Type) [Regexp ρ] (route : Route) (hostname : GoString) : Bool :=
  if route.isRegexp then patternMatches ρ route.hostname hostname else route.hostname = hostname

/-- Where the only messages with expected hosts are one provider's, every order of the map gives them. -/
lemma getCurrentExpected_provider (provider : GoString) {configs : Configs}
    (only : ∀ other msg, configs.lookup other = some msg → msg.expected ≠ [] → other = provider)
    (ord : RangeOrder (GoString × Message)) :
    getCurrentExpected ord configs = ((configs.lookup provider).map (·.expected)).getD [] := by
  unfold getCurrentExpected
  split
  · rename_i found
    cases stored : configs.lookup provider with
    | none => rfl
    | some msg =>
      have visited := ord.mem_visit.mpr (GoMap.mem_pairs.mpr stored)
      have empty := List.find?_eq_none.mp found _ visited
      simpa [eq_comm] using empty
  · rename_i other msg found
    have stored := GoMap.mem_pairs.mp (ord.mem_visit.mp (List.mem_of_find?_eq_some found))
    have declared : msg.expected ≠ [] :=
      List.ne_nil_of_length_pos (by simpa using List.find?_some found)
    rw [only other msg stored declared] at stored
    rw [stored]
    rfl

/-- The doctor counts the hosts without a route, and its exit status says whether there are any. -/
lemma runDoctor_statuses {ρ : Type} [Regexp ρ] (router : Router ρ) (expected : List ExpectedHost) :
    (runDoctor (expectedStatuses router (some expected))).missing =
      expected.countP (fun exp => !router.hasHost exp.host) ∧
    (runDoctor (expectedStatuses router (some expected))).exit =
      if expected.all (fun exp => router.hasHost exp.host) then 0 else 1 := by
  have counted : (expectedStatuses router (some expected)).countP (fun exp => !exp.routed) =
      expected.countP (fun exp => !router.hasHost exp.host) := by
    rw [expectedStatuses, List.countP_map]
    rfl
  have all : expected.all (fun exp => router.hasHost exp.host) = true ↔
      expected.countP (fun exp => !router.hasHost exp.host) = 0 := by
    simp [List.countP_eq_zero]
  unfold runDoctor
  split
  · rename_i empty
    have none_expected : expected = [] := List.map_eq_nil_iff.mp empty
    subst none_expected
    exact ⟨rfl, rfl⟩
  · dsimp only
    rw [counted]
    split
    · rename_i some_missing
      exact ⟨rfl, (if_neg fun found => Nat.ne_of_gt some_missing (all.mp found)).symm⟩
    · rename_i none_missing
      exact ⟨rfl, (if_pos (all.mpr (by omega))).symm⟩

namespace Router
variable {ρ : Type} [Regexp ρ]

/-- Each declared pattern has its entry in the regex table. -/
lemma Installed.patternGroup {r : Router ρ} {routes : List Route} (inst : r.Installed routes)
    {pattern : GoString} (declared : pattern ∈ patterns ρ routes) :
    ∃ rr ∈ r.regexRoutes, Regexp.compile pattern = some rr.re := by
  obtain ⟨i, bound, rfl⟩ := List.getElem_of_mem declared
  have here := inst.regex
  rw [List.forall₂_iff_get] at here
  have bound' : i < r.regexRoutes.length := here.1 ▸ bound
  exact ⟨_, List.getElem_mem bound', (here.2 i bound bound').1⟩

/-- A router knows the hosts that its routes answer for. -/
lemma Installed.hasHost_iff {r : Router ρ} {routes : List Route} (inst : r.Installed routes)
    (hostname : GoString) :
    r.hasHost hostname = true ↔ ∃ route ∈ routes, route.answersFor ρ hostname = true := by
  have known : r.hasHost hostname = true ↔ byPathDesc (exactRoutes hostname routes) ≠ [] ∨
      ∃ rr ∈ r.regexRoutes, Regexp.matchString rr.re hostname = true := by
    rw [hasHost, inst.exact, Bool.or_eq_true, decide_eq_true_eq, gt_iff_lt, List.length_pos_iff,
      List.any_eq_true]
  rw [known]
  constructor
  · rintro (exact | ⟨rr, member, covers⟩)
    · obtain ⟨route, inside⟩ := List.exists_mem_of_ne_nil _ exact
      simp only [byPathDesc, mem_sortDesc, exactRoutes, List.mem_filter, Bool.and_eq_true, Bool.not_eq_true',
        decide_eq_true_eq] at inside
      exact ⟨route, inside.1, by simp [Route.answersFor, inside.2.1, inside.2.2]⟩
    · obtain ⟨pattern, declared, compiled, _⟩ := inst.group member
      obtain ⟨_, route, listed, regexp, named⟩ := (mem_patterns ρ).mp declared
      exact ⟨route, listed, by simp [Route.answersFor, regexp, named, patternMatches, compiled, covers]⟩
  · rintro ⟨route, listed, answers⟩
    cases regexp : route.isRegexp with
    | false =>
      left
      refine List.ne_nil_of_mem (a := route) ((mem_sortDesc _).mpr ?_)
      simpa [exactRoutes, listed, regexp, Route.answersFor] using answers
    | true =>
      right
      rw [Route.answersFor, regexp, if_pos rfl, patternMatches] at answers
      split at answers
      · cases answers
      · rename_i re compiled
        have declared : route.hostname ∈ patterns ρ routes :=
          (mem_patterns ρ).mpr ⟨by rw [compiles, compiled]; rfl, route, listed, regexp, rfl⟩
        obtain ⟨rr, member, group⟩ := inst.patternGroup declared
        rw [compiled] at group
        exact ⟨rr, member, Option.some.inj group ▸ answers⟩

end Router

namespace Deployment
variable {ρ : Type} [Regexp ρ] {c : Config} {networkName : GoString}
  {load : Except GoString GoString → Message} {h : List DeploymentEvent} {s : Deployment ρ}

/-- At rest the expected hosts are those of the accepted file. -/
lemma Serves.expected {t : Pipeline ρ} (serves : Serves c networkName load h s t)
    {found : Docker.Found} (docker : (t.configs.lookup (lit "docker")).getD
      { providerName := lit "docker" } = Docker.discoveryMessage found)
    (visit : RangeOrder (GoString × Message)) :
    getCurrentExpected visit t.configs = (acceptedFile c h).expected := by
  rw [getCurrentExpected_provider (lit "file"), serves.file, acceptedFile]
  · cases (File.fileMessages (DeploymentEvent.fileSteps h)).find? c.accepts <;> rfl
  · intro other msg stored declared
    by_contra not_file
    by_cases is_docker : other = lit "docker"
    · rw [is_docker] at stored
      rw [stored, Option.getD_some] at docker
      rw [docker] at declared
      exact declared rfl
    · rw [serves.others other is_docker not_file] at stored
      cases stored

/-- The doctor's verdict. After every orderly run (container changes are in time, no Docker call fails,
no discoveries overlap, file changes are noticed), once both providers are at rest and the pipeline has
finished, in whatever order the aggregator's map is visited: the doctor counts the hosts of the last
accepted routes file that neither a route of that file nor a route of a running container answers for,
and exits with status 0 exactly when there is none, that is when each of them resolves on some path. -/
theorem doctor_verdict {υ : Type} [Url υ] {f : File.FileProvider} {pkg : File.Packages}
    (run : ((system c networkName (f.loadFile υ pkg) ρ).restrict (Orderly (f.loadFile υ pkg))).Run h s)
    (docker : c.staticOnly = false → s.docker.AtRest) (file : s.file.AtRest) {t : Pipeline ρ}
    (finished : Pipeline.Finished c (DeploymentEvent.pipelineSteps h) s.pipeline t) :
    ∃ ord, ∀ visit,
      let served := (acceptedFile c h).routes ++ (s.discovered c networkName ord).1
      let report := runDoctor
        (expectedStatuses t.router (some (getCurrentExpected visit t.configs)))
      report.missing = (acceptedFile c h).expected.countP
        (fun exp => !served.any (·.answersFor ρ exp.host)) ∧
      (report.exit = 0 ↔ ∀ exp ∈ (acceptedFile c h).expected,
        ∃ route ∈ served, route.answersFor ρ exp.host = true) ∧
      (report.exit = 0 ↔ ∀ exp ∈ (acceptedFile c h).expected,
        ∃ path, (t.router.resolve exp.host path).1 ≠ none) := by
  have named (read) (accepted : c.accepts (f.loadFile υ pkg read) = true) := loadFile_named accepted
  have serves := finished_serves run named docker file finished
  obtain ⟨ord, _, found⟩ := finished_discovered run named docker finished
  obtain ⟨visit', installed, _⟩ := serves.tables
  refine ⟨ord, fun visit => ?_⟩
  intro served report
  have known (host : GoString) : t.router.hasHost host = true ↔
      ∃ route ∈ served, route.answersFor ρ host = true := by
    have routes := serves.entries_perm found Message.routes (fun _ => rfl) visit'
    rw [← merge_routes] at routes
    rw [installed.hasHost_iff]
    exact exists_congr fun route => and_congr_left' routes.mem_iff
  have answered (host : GoString) :
      t.router.hasHost host = served.any (·.answersFor ρ host) := by
    rw [Bool.eq_iff_iff, known, List.any_eq_true]
  obtain ⟨missing, exit⟩ := runDoctor_statuses t.router (acceptedFile c h).expected
  rw [← serves.expected found visit] at missing exit
  have verdict : report.exit = 0 ↔
      ∀ exp ∈ (acceptedFile c h).expected, t.router.hasHost exp.host = true := by
    rw [show report.exit = _ from exit, serves.expected found visit, ← List.all_eq_true]
    split
    · rename_i all
      exact iff_of_true rfl all
    · rename_i some_missing
      exact iff_of_false Nat.one_ne_zero some_missing
  refine ⟨?_, ?_, ?_⟩
  · rw [show report.missing = _ from missing, serves.expected found visit]
    simp only [answered]
  · rw [verdict]
    exact forall₂_congr fun exp _ => known exp.host
  · rw [verdict]
    exact forall₂_congr fun exp _ => installed.hasHost_resolves exp.host

/-- What the packages say about a file that expects a host. -/
def expectingPackages : File.Packages where
  unmarshal _ := .ok (File.Watch.routesNode [])
  decode _ := .ok { expect := [{ host := lit "gone.lvh.me", why := lit "the docs link to it" }] }
  quote s := s

theorem doctor_verdict_missing :
    ∃ h, ∃ s : Deployment Empty, s.docker.running = [Docker.app] ∧
      (acceptedFile { staticOnly := false } h).expected =
        [{ host := lit "gone.lvh.me", why := lit "the docs link to it" }] ∧
      ∃ t : Pipeline Empty, t.AtRest ∧ ∃ ord, ∀ visit,
        (runDoctor (expectedStatuses t.router (some (getCurrentExpected visit t.configs)))).missing =
          if ((Docker.discover (lit "n") ord s.docker.running).1).any
            (·.answersFor Empty (lit "gone.lvh.me")) then 0 else 1 := by
  obtain ⟨h, s, run, docker, file, going, running, _, sent⟩ := started_run
    (File.Watch.exampleProvider.loadFile Origin expectingPackages)
    (lit "expect: [gone.lvh.me]") (by decide)
  have accepted : acceptedFile { staticOnly := false } h =
      { providerName := lit "file"
        expected := [{ host := lit "gone.lvh.me", why := lit "the docs link to it" }] } := by
    rw [acceptedFile, sent]
    decide
  obtain ⟨_, t, _, _, finished⟩ := Pipeline.exists_finished (run_pipeline run.of_restrict) going
  obtain ⟨ord, verdict⟩ := doctor_verdict run (fun _ => docker) file finished
  refine ⟨h, s, running, by rw [accepted], t, finished.rest, ord, fun visit => ?_⟩
  rw [(verdict visit).1, accepted, List.nil_append, List.countP_singleton]
  change (if (!(Docker.discover (lit "n") ord s.docker.running).1.any
    (·.answersFor Empty (lit "gone.lvh.me"))) = true then 1 else 0) = _
  cases (Docker.discover (lit "n") ord s.docker.running).1.any
    (·.answersFor Empty (lit "gone.lvh.me")) <;> rfl

end Deployment
end Pintle
