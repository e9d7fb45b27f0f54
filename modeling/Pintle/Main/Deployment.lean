import Pintle.Docker.Events
import Pintle.Docker.Overlap
import Pintle.File.Pools
import Pintle.File.Reload
import Pintle.Go.Ranges
import Pintle.Pipeline.Progress

/-!
# The providers and the pipeline together

`run` of `cmd/pintle/main.go` starts the file provider and, outside static-only mode, the Docker
provider, which send their messages on the one channel of the pipeline. A deployment is the two
providers, with the containers and the file they watch, and the pipeline; a send is one step of a
provider and of the channel, so it waits while the channel is full.

Each provider's own invariant says what its last message is once it is at rest, and the pipeline
handles every message once and in order. Together: after a run that is `Orderly`, when nothing changes
any more, the router comes to serve the running containers and the last file that was accepted
(`Serves`).
-/

namespace Pintle
open Go Lib

/-- The two providers and the pipeline. -/
structure Deployment (ρ : Type) where
  docker : Docker.Watch
  file : File.Watch
  pipeline : Pipeline ρ

/-- The labels of a run. -/
inductive DeploymentEvent where
  | docker (e : Docker.WatchEvent)
  | file (e : File.Event)
  | pipeline (e : PipelineEvent)

namespace DeploymentEvent

/-- The step of the Docker provider. -/
def docker? : DeploymentEvent → Option Docker.WatchEvent
  | .docker e => some e
  | _ => none

/-- The step of the file provider. -/
def file? : DeploymentEvent → Option File.Event
  | .file e => some e
  | _ => none

/-- The message a provider sends. -/
def message? : DeploymentEvent → Option Message
  | .docker e => e.sent?.map fun sent => Docker.discoveryMessage sent.2
  | .file e => e.sent?
  | .pipeline _ => none

/-- The step of the pipeline: its own, or the send of a provider. -/
def pipeline? : DeploymentEvent → Option PipelineEvent
  | .pipeline e => some e
  | e => e.message?.map .sent

/-- The steps of the Docker provider in a history. -/
def dockerSteps (h : List DeploymentEvent) : List Docker.WatchEvent := h.filterMap (·.docker?)

/-- The steps of the file provider in a history. -/
def fileSteps (h : List DeploymentEvent) : List File.Event := h.filterMap (·.file?)

/-- The steps of the pipeline in a history. -/
def pipelineSteps (h : List DeploymentEvent) : List PipelineEvent := h.filterMap (·.pipeline?)

end DeploymentEvent

namespace File

/-- The messages sent in a history of the file provider, newest first. -/
def fileMessages (h : List Event) : List Message := h.filterMap (·.sent?)

namespace Watch
variable {load : Except GoString GoString → Message}

/-- Every message that is sent, or about to be, is what the file loaded as. -/
def Loaded (load : Except GoString GoString → Message) (h : List Event) (s : Watch) : Prop :=
  (∀ watched msg, s.phase = .sending watched msg → ∃ read, msg = load read) ∧
    ∀ msg ∈ fileMessages h, ∃ read, msg = load read

/-- A step that begins no send and sends nothing. -/
lemma Loaded.quiet {h : List Event} {s t : Watch} {e : Event} (loaded : s.Loaded load h)
    (silent : e.sent? = none)
    (phase : ∀ watched msg, t.phase = .sending watched msg → s.phase = .sending watched msg) :
    t.Loaded load (e :: h) := by
  refine ⟨fun watched msg sending => loaded.1 watched msg (phase watched msg sending), ?_⟩
  rw [fileMessages, List.filterMap_cons_none silent]
  exact loaded.2

lemma touch_sending {phase : Phase} {watched : Bool} {msg : Message}
    (sending : phase.touch = .sending watched msg) : phase = .sending watched msg := by
  cases phase <;> first | exact sending | cases sending

lemma step_loaded {h : List Event} {s t : Watch} {e : Event} (loaded : s.Loaded load h)
    (st : Step load s e t) : t.Loaded load (e :: h) := by
  cases st with
  | finish read _ _ =>
    refine ⟨?_, loaded.2⟩
    rintro watched msg ⟨⟩
    exact ⟨read, rfl⟩
  | @send watched msg sending =>
    refine ⟨?_, ?_⟩
    · intro watched' msg' phase
      dsimp only at phase
      split at phase <;> cases phase
    · intro msg' member
      rcases List.mem_cons.mp member with rfl | old
      · exact loaded.1 watched _ sending
      · exact loaded.2 msg' old
  | receive op rest _ _ =>
    refine loaded.quiet rfl ?_
    intro watched msg phase
    dsimp only at phase
    split at phase <;> cases phase
  | write _ => exact loaded.quiet rfl fun _ _ => touch_sending
  | merge _ _ _ => exact loaded.quiet rfl fun _ _ => touch_sending
  | replace _ _ _ => exact loaded.quiet rfl fun _ _ => touch_sending
  | error _ => exact loaded.quiet rfl fun _ _ => id
  | _ => exact loaded.quiet rfl nofun

/-- Along every run the messages sent are what the file loaded as. -/
lemma run_loaded {h : List Event} {s : Watch} (run : (stepSystem load).Run h s) :
    s.Loaded load h := by
  refine System.Run.invariant (fun h s => s.Loaded load h) ?_ ?_ run
  · intro s init
    refine ⟨?_, List.forall_mem_nil _⟩
    intro watched msg sending
    rw [init.1] at sending
    cases sending
  · intro h s e t _ loaded st
    exact step_loaded loaded st

end Watch
end File

namespace Docker

/-- What the provider publishes at rest is a discovery of the containers now running. -/
lemma Watch.InTouch.atRest {networkName : GoString} {h : List WatchEvent} {s : Watch}
    (inv : s.InTouch networkName h) (rest : s.AtRest) : s.Current networkName h := by
  rcases inv.reach with waiting | ⟨i, listing⟩ | kept
  · exact absurd waiting (by simp [Pending, rest.empty, rest.unarmed])
  · rw [rest.idle i] at listing
    cases listing
  · exact kept.1.current rest.idle

end Docker

namespace Deployment
variable {ρ : Type} [Regexp ρ]

section
variable (c : Config) (networkName : GoString) (load : Except GoString GoString → Message)

/-- One step of a provider, of what it watches, or of the pipeline. -/
inductive Step : Deployment ρ → DeploymentEvent → Deployment ρ → Prop where
  | docker {s e d p} :
    -- the Docker provider is not started in static-only mode
    c.staticOnly = false →
    Docker.Watch.Step networkName s.docker e d →
    (Pipeline.system ρ c).Moves s.pipeline (DeploymentEvent.docker e).pipeline? p →
    Step s (.docker e) { s with docker := d, pipeline := p }
  | file {s e f p} :
    File.Watch.Step load s.file e f →
    (Pipeline.system ρ c).Moves s.pipeline (DeploymentEvent.file e).pipeline? p →
    Step s (.file e) { s with file := f, pipeline := p }
  | pipeline {s e p} :
    (∀ msg, e ≠ .sent msg) →
    Pipeline.Step c s.pipeline e p →
    Step s (.pipeline e) { s with pipeline := p }

/-- The system of all interleavings. -/
def system (ρ : Type) [Regexp ρ] : System (Deployment ρ) DeploymentEvent where
  init s := (∃ running, s.docker = .initial running) ∧
    (s.file.phase = .starting ∧ s.file.watched = none ∧ s.file.pending = []) ∧
    s.pipeline = .initial
  step := Step c networkName load

/-- A container change is in time, no Docker call fails and no discoveries overlap, and a change of
the file is noticed. -/
def Orderly (s : Deployment ρ) : DeploymentEvent → Prop
  | .docker e => s.docker.Undisturbed e ∧ s.docker.InTime e
  | .file e => File.Watch.Noticed load s.file e
  | .pipeline _ => True

/-- The pipeline serves what the providers watch: the containers now running, outside static-only
mode, and the last file that was accepted, which is the one on disk if that is accepted. -/
structure Serves (h : List DeploymentEvent) (s : Deployment ρ) (t : Pipeline ρ) : Prop where
  docker : c.staticOnly = false → ∃ ord, t.configs.lookup (lit "docker") =
    some (Docker.discoveryMessage (Docker.discover networkName ord s.docker.running))
  file : t.configs.lookup (lit "file") =
    (File.fileMessages (DeploymentEvent.fileSteps h)).find? c.accepts
  newest : (File.fileMessages (DeploymentEvent.fileSteps h)).head? = some (load s.file.read)
  others : ∀ provider, provider ≠ lit "docker" → provider ≠ lit "file" →
    t.configs.lookup provider = none
  tables : ∃ ord, t.router.Installed (merge ord t.configs).routes ∧
    t.allTcpRoutes = (merge ord t.configs).tcpRoutes

end

variable {c : Config} {networkName : GoString} {load : Except GoString GoString → Message}
  {h : List DeploymentEvent} {s : Deployment ρ}

/-- A run, as the Docker provider takes it. -/
lemma run_docker (run : ((system c networkName load ρ).restrict (Orderly load)).Run h s) :
    ((Docker.Watch.system networkName).restrict fun s e => s.Undisturbed e ∧ s.InTime e).Run
      (DeploymentEvent.dockerSteps h) s.docker := by
  refine run.simulate Deployment.docker DeploymentEvent.docker? ?_ ?_
  · intro s init
    exact init.1
  · intro _ s e t _ st
    obtain ⟨st, ok⟩ := st
    cases st with
    | docker _ st _ => exact ⟨st, ok⟩
    | file _ _ => exact rfl
    | pipeline _ _ => exact rfl

/-- A run, as the file provider takes it. -/
lemma run_file (run : ((system c networkName load ρ).restrict (Orderly load)).Run h s) :
    ((File.Watch.stepSystem load).restrict (File.Watch.Noticed load)).Run
      (DeploymentEvent.fileSteps h) s.file := by
  refine run.simulate Deployment.file DeploymentEvent.file? ?_ ?_
  · intro s init
    exact init.2.1
  · intro _ s e t _ st
    obtain ⟨st, ok⟩ := st
    cases st with
    | docker _ _ _ => exact rfl
    | file st _ => exact ⟨st, ok⟩
    | pipeline _ _ => exact rfl

/-- A run, as the pipeline takes it. -/
lemma run_pipeline (run : (system c networkName load ρ).Run h s) :
    (Pipeline.system ρ c).Run (DeploymentEvent.pipelineSteps h) s.pipeline := by
  refine run.simulate Deployment.pipeline DeploymentEvent.pipeline? ?_ ?_
  · intro s init
    exact init.2.2
  · intro _ s e t _ st
    cases st with
    | docker _ _ moved => exact moved
    | file _ moved => exact moved
    | pipeline _ st => exact st

end Deployment

namespace DeploymentEvent

/-- What the pipeline is sent is what the providers send. -/
lemma sent_message (e : DeploymentEvent) (own : ∀ d, e = .pipeline d → ∀ msg, d ≠ .sent msg) :
    e.pipeline?.bind (·.sent?) = e.message? := by
  cases e with
  | docker e =>
    cases sent : e.sent? <;> simp only [pipeline?, message?, sent, Option.map_none, Option.map_some] <;>
      rfl
  | file e =>
    cases sent : e.sent? <;> simp only [pipeline?, message?, sent, Option.map_none, Option.map_some] <;>
      rfl
  | pipeline d =>
    cases d with
    | sent msg => exact absurd rfl (own _ rfl msg)
    | _ => rfl

/-- The accepted messages of the file provider carry its name. -/
def Named (c : Config) (h : List DeploymentEvent) : Prop :=
  ∀ msg ∈ File.fileMessages (fileSteps h), c.accepts msg = true → msg.providerName = lit "file"

lemma Named.tail {c : Config} {e : DeploymentEvent} {h : List DeploymentEvent}
    (named : Named c (e :: h)) : Named c h := by
  intro msg member
  refine named msg ?_
  cases step : e.file? with
  | none =>
    rw [fileSteps, List.filterMap_cons_none step]
    exact member
  | some d =>
    rw [fileSteps, List.filterMap_cons_some step, File.fileMessages]
    cases sent : d.sent? with
    | none =>
      rw [List.filterMap_cons_none sent]
      exact member
    | some _ =>
      rw [List.filterMap_cons_some sent]
      exact List.mem_cons_of_mem _ member

lemma Named.head {c : Config} {e : File.Event} {h : List DeploymentEvent} {msg : Message}
    (named : Named c (.file e :: h)) (sent : e.sent? = some msg) (accepted : c.accepts msg = true) :
    msg.providerName = lit "file" := by
  refine named msg ?_ accepted
  rw [show fileSteps (.file e :: h) = e :: fileSteps h from rfl, File.fileMessages,
    List.filterMap_cons_some sent]
  exact List.mem_cons_self

/-- A step that is not of one provider sends no message of it. -/
lemma message_cons (c : Config) (provider : GoString) {e : DeploymentEvent}
    (h : List DeploymentEvent)
    (other : ∀ msg, e.message? = some msg → c.accepts msg = true → msg.providerName ≠ provider) :
    (((e :: h).filterMap (·.message?)).filter c.accepts).find? (·.providerName = provider) =
      ((h.filterMap (·.message?)).filter c.accepts).find? (·.providerName = provider) := by
  cases message : e.message? with
  | none => rw [List.filterMap_cons_none message]
  | some msg =>
    rw [List.filterMap_cons_some message]
    cases accepted : c.accepts msg with
    | false => rw [List.filter_cons_of_neg (by simp [accepted])]
    | true =>
      rw [List.filter_cons_of_pos accepted, List.find?_cons_of_neg]
      simpa using other msg message accepted

/-- The last accepted message of the file provider. -/
lemma find_file (c : Config) {h : List DeploymentEvent} (named : Named c h) :
    ((h.filterMap (·.message?)).filter c.accepts).find? (·.providerName = lit "file") =
      (File.fileMessages (fileSteps h)).find? c.accepts := by
  induction h with
  | nil => rfl
  | cons e h ih =>
    have tail := ih named.tail
    cases e with
    | docker e =>
      rw [message_cons c _ h, tail]
      · rfl
      · intro msg message _
        obtain ⟨sent, _, rfl⟩ := Option.map_eq_some_iff.mp message
        simp only [Docker.discoveryMessage]
        decide
    | pipeline e =>
      rw [message_cons c _ h (fun _ message => by cases message), tail]
      rfl
    | file e =>
      have step : fileSteps (.file e :: h) = e :: fileSteps h := rfl
      rw [step, File.fileMessages]
      cases sent : e.sent? with
      | none =>
        rw [message_cons c _ h (by simp [message?, sent]), tail, List.filterMap_cons_none sent]
        rfl
      | some msg =>
        rw [List.filterMap_cons_some (show (DeploymentEvent.file e).message? = some msg from sent),
          List.filterMap_cons_some sent]
        cases accepted : c.accepts msg with
        | false =>
          rw [List.filter_cons_of_neg (by simp [accepted]), tail,
            List.find?_cons_of_neg (by simp [accepted])]
          rfl
        | true =>
          have name := named.head sent accepted
          rw [List.filter_cons_of_pos accepted, List.find?_cons_of_pos (by simpa using name),
            List.find?_cons_of_pos accepted]

lemma file_not_docker : lit "file" ≠ lit "docker" := by decide

/-- The last message of the Docker provider, whose messages are all accepted. -/
lemma find_docker {c : Config} (open_mode : c.staticOnly = false) {h : List DeploymentEvent}
    (named : Named c h) :
    ((h.filterMap (·.message?)).filter c.accepts).find? (·.providerName = lit "docker") =
      (Docker.publishedMessages (dockerSteps h)).getLast? := by
  induction h with
  | nil => rfl
  | cons e h ih =>
    have tail := ih named.tail
    cases e with
    | file e =>
      rw [message_cons c _ h, tail]
      · rfl
      · intro msg message accepted
        rw [named.head message accepted]
        exact file_not_docker
    | pipeline e =>
      rw [message_cons c _ h (fun _ message => by cases message), tail]
      rfl
    | docker e =>
      have step : dockerSteps (.docker e :: h) = e :: dockerSteps h := rfl
      rw [step, Docker.publishedMessages, Docker.published_cons]
      cases sent : e.sent? with
      | none =>
        rw [message_cons c _ h (by simp [message?, sent]), tail, Option.toList_none, List.append_nil]
        rfl
      | some found =>
        have message : (DeploymentEvent.docker e).message? =
            some (Docker.discoveryMessage found.2) := by
          rw [message?, sent]
          rfl
        have accepted : c.accepts (Docker.discoveryMessage found.2) = true := by
          simp [Config.accepts, Config.validateMessage, open_mode, Docker.discoveryMessage]
        rw [List.filterMap_cons_some message, List.filter_cons_of_pos accepted,
          List.find?_cons_of_pos (by rfl), Option.toList_some, List.map_append, List.map_singleton,
          List.getLast?_concat]

/-- In static-only mode no message of the Docker provider is accepted. -/
lemma find_docker_static {c : Config} (static : c.staticOnly = true) (h : List DeploymentEvent) :
    ((h.filterMap (·.message?)).filter c.accepts).find? (·.providerName = lit "docker") = none := by
  rw [List.find?_eq_none]
  intro msg member docker
  have name := (Config.accepts_static static (List.mem_filter.mp member).2).2.1
  rw [decide_eq_true_eq, name] at docker
  exact file_not_docker docker

/-- No other provider has a message. -/
lemma find_other {c : Config} {h : List DeploymentEvent} (named : Named c h) {provider : GoString}
    (docker : provider ≠ lit "docker") (file : provider ≠ lit "file") :
    ((h.filterMap (·.message?)).filter c.accepts).find? (·.providerName = provider) = none := by
  induction h with
  | nil => rfl
  | cons e h ih =>
    rw [message_cons c _ h, ih named.tail]
    intro msg message accepted same
    cases e with
    | pipeline _ => cases message
    | docker e =>
      obtain ⟨sent, _, rfl⟩ := Option.map_eq_some_iff.mp message
      exact docker same.symm
    | file e => exact file (same.symm.trans (named.head message accepted))

end DeploymentEvent

namespace Deployment
variable {ρ : Type} [Regexp ρ] {c : Config} {networkName : GoString}
  {load : Except GoString GoString → Message} {h : List DeploymentEvent} {s : Deployment ρ}

/-- The pipeline is sent what the providers send, in order. -/
lemma run_sent (run : (system c networkName load ρ).Run h s) :
    (sentMessages (DeploymentEvent.pipelineSteps h)).reverse = h.filterMap (·.message?) := by
  rw [sentMessages, List.reverse_reverse, DeploymentEvent.pipelineSteps, List.filterMap_filterMap]
  induction run with
  | start _ => rfl
  | @next h s e t _ st ih =>
    have same : e.pipeline?.bind (·.sent?) = e.message? := by
      refine e.sent_message ?_
      rintro d rfl
      cases st with
      | pipeline own _ => exact own
    rw [List.filterMap_cons, List.filterMap_cons, same, ih]

/-- When the goroutines of the pipeline have finished, each provider's last accepted message is
stored. -/
lemma finished_lookup (run : (system c networkName load ρ).Run h s) {t : Pipeline ρ}
    (finished : Pipeline.Finished c (DeploymentEvent.pipelineSteps h) s.pipeline t)
    (provider : GoString) : t.configs.lookup provider =
      ((h.filterMap (·.message?)).filter c.accepts).find? (·.providerName = provider) := by
  rw [finished.configs, ← Pipeline.run_waiting (run_pipeline run), storeAll_lookup,
    ← List.filter_reverse, run_sent run]

/-- The accepted messages of a file that loads under the provider's name. -/
lemma run_named (run : ((system c networkName load ρ).restrict (Orderly load)).Run h s)
    (named : ∀ read, c.accepts (load read) = true → (load read).providerName = lit "file") :
    DeploymentEvent.Named c h := by
  intro msg member accepted
  obtain ⟨read, rfl⟩ := (File.Watch.run_loaded (run_file run).of_restrict).2 msg member
  exact named read accepted

lemma finished_serves (run : ((system c networkName load ρ).restrict (Orderly load)).Run h s)
    (named : ∀ read, c.accepts (load read) = true → (load read).providerName = lit "file")
    (docker : c.staticOnly = false → s.docker.AtRest) (file : s.file.AtRest) {t : Pipeline ρ}
    (finished : Pipeline.Finished c (DeploymentEvent.pipelineSteps h) s.pipeline t) :
    Serves c networkName load h s t := by
  have lookup := finished_lookup run.of_restrict finished
  have named := run_named run named
  refine ⟨?_, ?_, ?_, ?_, finished.tables⟩
  · intro open_mode
    obtain ⟨ord, last⟩ := (Docker.Watch.run_inTouch (run_docker run)).atRest (docker open_mode)
    exact ⟨ord, by rw [lookup, DeploymentEvent.find_docker open_mode named, last]⟩
  · rw [lookup, DeploymentEvent.find_file c named]
  · have last := (File.Watch.run_inSync (run_file run)).atRest file
    rw [File.lastSent] at last
    rw [File.fileMessages, List.head?_filterMap, last]
  · intro provider not_docker not_file
    rw [lookup, DeploymentEvent.find_other named not_docker not_file]

/-- What the Docker provider has discovered at rest. In static-only mode it is not started. -/
def discovered (c : Config) (networkName : GoString) (ord : Docker.Orders) (s : Deployment ρ) :
    Docker.Found :=
  if c.staticOnly then ([], []) else Docker.discover networkName ord s.docker.running

/-- The routes file that the process goes by: the last one that was accepted. -/
def acceptedFile (c : Config) (h : List DeploymentEvent) : Message :=
  ((File.fileMessages (DeploymentEvent.fileSteps h)).find? c.accepts).getD
    { providerName := lit "file" }

/-- In static-only mode the Docker provider does nothing. -/
lemma run_static (run : (system c networkName load ρ).Run h s) (static : c.staticOnly = true) :
    DeploymentEvent.dockerSteps h = [] ∧ s.docker.dockerRoutes = [] := by
  induction run with
  | start init =>
    obtain ⟨running, begun⟩ := init.1
    exact ⟨rfl, by rw [begun]; rfl⟩
  | next _ st ih =>
    cases st with
    | docker open_mode _ _ =>
      rw [static] at open_mode
      cases open_mode
    | file _ _ => exact ih
    | pipeline _ _ => exact ih

/-- At rest the dashboard's list of containers and the message in force are of one discovery. -/
lemma finished_discovered
    (run : ((system c networkName load ρ).restrict (Orderly load)).Run h s)
    (named : ∀ read, c.accepts (load read) = true → (load read).providerName = lit "file")
    (docker : c.staticOnly = false → s.docker.AtRest) {t : Pipeline ρ}
    (finished : Pipeline.Finished c (DeploymentEvent.pipelineSteps h) s.pipeline t) :
    ∃ ord, s.docker.dockerRoutes = (s.discovered c networkName ord).1 ∧
      (t.configs.lookup (lit "docker")).getD { providerName := lit "docker" } =
        Docker.discoveryMessage (s.discovered c networkName ord) := by
  have lookup := finished_lookup run.of_restrict finished (lit "docker")
  have named := run_named run named
  cases static : c.staticOnly with
  | true =>
    obtain ⟨silent, empty⟩ := run_static run.of_restrict static
    rw [DeploymentEvent.find_docker_static static] at lookup
    refine ⟨fun _ => .stored, ?_⟩
    rw [lookup, empty, discovered, static]
    exact ⟨rfl, rfl⟩
  | false =>
    have rest := docker static
    obtain ⟨ord, current⟩ := (Docker.Watch.run_inTouch (run_docker run)).atRest rest
    rw [DeploymentEvent.find_docker static named, current] at lookup
    have ordered := Docker.Watch.run_inOrder ((run_docker run).weaken fun _ _ ok => ok.1.1)
    obtain ⟨last, sent, routes, _⟩ := (ordered.settled rest.idle).2
    rw [Docker.publishedMessages, List.getLast?_map, sent, Option.map_some] at current
    refine ⟨ord, ?_, ?_⟩
    · rw [routes, discovered, static]
      exact congrArg Message.routes (Option.some.inj current)
    · rw [lookup, discovered, static]
      rfl

/-- The last accepted message of each provider is all there is to merge: for each kind of entry, those
of the routes file and those of the containers. -/
lemma Serves.entries_perm {t : Pipeline ρ} (serves : Serves c networkName load h s t)
    {found : Docker.Found} (docker : (t.configs.lookup (lit "docker")).getD
      { providerName := lit "docker" } = Docker.discoveryMessage found)
    {α : Type} (entries : Message → List α) (none : ∀ name, entries { providerName := name } = [])
    (ord : RangeOrder (GoString × Message)) :
    ((ord.visit t.configs.pairs).flatMap fun entry => entries entry.2).Perm
      (entries (acceptedFile c h) ++ entries (Docker.discoveryMessage found)) := by
  have stored (provider : GoString) : ((t.configs.lookup provider).map entries).getD [] =
      entries ((t.configs.lookup provider).getD { providerName := provider }) := by
    cases t.configs.lookup provider with
    | none => exact (none provider).symm
    | some _ => rfl
  have apart : [lit "file", lit "docker"].Nodup := by decide
  refine (GoMap.flatMap_pairs_perm t.configs entries apart ?_ ord).trans (.of_eq ?_)
  · intro provider msg stored
    by_contra other
    rw [List.mem_cons, List.mem_singleton, not_or] at other
    rw [serves.others provider other.2 other.1] at stored
    cases stored
  · rw [List.flatMap_cons, List.flatMap_cons, List.flatMap_nil, List.append_nil, stored, stored,
      docker, serves.file]
    rfl

/-- An accepted message of the file provider is of a file that loaded. -/
lemma loadFile_loaded {υ : Type} [Url υ] {f : File.FileProvider} {pkg : File.Packages}
    {read : Except GoString GoString} (accepted : c.accepts (f.loadFile υ pkg read) = true) :
    (f.loadFile υ pkg read).err = none := by
  by_contra failed
  obtain ⟨err, failed⟩ := Option.ne_none_iff_exists'.mp failed
  rw [Config.accepts, Config.validateMessage, failed] at accepted
  cases accepted

/-- An accepted message of the file provider carries its name. -/
lemma loadFile_named {υ : Type} [Url υ] {f : File.FileProvider} {pkg : File.Packages}
    {read : Except GoString GoString} (accepted : c.accepts (f.loadFile υ pkg read) = true) :
    (f.loadFile υ pkg read).providerName = lit "file" :=
  (File.FileProvider.loadFile_blocks (loadFile_loaded accepted)).1

/-- A deployment in which nothing changes any more comes to serve what is there. After every run whose
container changes are in time, in which no Docker call fails and no discoveries overlap, and whose file
changes are noticed, from a state where both providers are at rest and neither goroutine of the pipeline
has stopped, whatever is still on its way: every order of the steps of the two goroutines that leads as
far as they can go leads to a router with the routes of the containers now running and of the last file
that was accepted, and some order does. -/
theorem deployment_settles {υ : Type} [Url υ] {f : File.FileProvider} {pkg : File.Packages}
    (run : ((system c networkName (f.loadFile υ pkg) ρ).restrict (Orderly (f.loadFile υ pkg))).Run h s)
    (docker : c.staticOnly = false → s.docker.AtRest) (file : s.file.AtRest)
    (going : s.pipeline.Going) :
    (∀ k t, (Pipeline.system ρ c).Path s.pipeline k t → (∀ e ∈ k, e.own = true) →
      (∀ e u, e.own = true → ¬ Pipeline.Step c t e u) →
      Serves c networkName (f.loadFile υ pkg) h s t) ∧
    ∃ k t, (Pipeline.system ρ c).Path s.pipeline k t ∧ (∀ e ∈ k, e.own = true) ∧
      Serves c networkName (f.loadFile υ pkg) h s t := by
  have named : ∀ read, c.accepts (f.loadFile υ pkg read) = true →
      (f.loadFile υ pkg read).providerName = lit "file" := fun _ => loadFile_named
  have run' := run_pipeline run.of_restrict
  refine ⟨?_, ?_⟩
  · intro k t path own stuck
    exact finished_serves run named docker file (Pipeline.path_finished run' going path own stuck)
  · obtain ⟨k, t, path, own, finished⟩ := Pipeline.exists_finished run' going
    exact ⟨k, t, path, own, finished_serves run named docker file finished⟩

/-- A container and a file, watched from the start, and messages of both sent. -/
lemma started_run (load : Except GoString GoString → Message) (data : GoString)
    (valid : (load (.ok data)).err = none) :
    ∃ h, ∃ s : Deployment Empty,
      ((system { staticOnly := false } (lit "n") load Empty).restrict (Orderly load)).Run h s ∧
      s.docker.AtRest ∧ s.file.AtRest ∧ s.pipeline.Going ∧ s.docker.running = [Docker.app] ∧
      s.file.read = .ok data ∧
      File.fileMessages (DeploymentEvent.fileSteps h) = [load (.ok data)] := by
  have accepted : Config.validateMessage { staticOnly := false } (load (.ok data)) = none := by
    rw [Config.validateMessage, valid]
    rfl
  have run := System.Run.start
    (M := (system { staticOnly := false } (lit "n") load Empty).restrict (Orderly load))
    (s := { docker := .initial [Docker.app], file := File.Watch.unloaded data,
            pipeline := .initial }) ⟨⟨_, rfl⟩, ⟨rfl, rfl, rfl⟩, rfl⟩
  have run := run.next ⟨.file (.open rfl) rfl, trivial⟩
  have run := run.next ⟨.file (.finish (.ok data) rfl fun _ => rfl) rfl, trivial⟩
  have run := run.next ⟨.file (.send rfl) (.send _ (Nat.succ_pos 3)), trivial⟩
  have run := run.next
    ⟨.pipeline (by nofun) (.boot .stored .stored _ [] rfl rfl accepted), trivial⟩
  have run := run.next ⟨.file (.create rfl) rfl, trivial⟩
  have run := run.next ⟨.file (.add data rfl rfl) rfl, trivial⟩
  have run := run.next ⟨.docker rfl (.list 0 _ _ true rfl .proxy) rfl, ⟨trivial, rfl⟩, trivial⟩
  have run := run.next ⟨.docker rfl (.list 0 _ _ true rfl .traefik) rfl, ⟨trivial, rfl⟩, trivial⟩
  have run := run.next ⟨.docker rfl (.list 0 _ _ true rfl (.all fun _ => .stored)) rfl,
    ⟨trivial, rfl⟩, trivial⟩
  have run := run.next ⟨.docker rfl (.store 0 _ rfl) rfl, ⟨trivial, trivial⟩, trivial⟩
  have single := (Docker.Watch.run_inTouch (run_docker run)).single
  have run := run.next ⟨.docker rfl (.send 0 _ rfl) (.send _ (Nat.succ_pos 3)), ⟨trivial, trivial⟩, trivial⟩
  have run := run.next ⟨.docker rfl (.watch rfl rfl) rfl, ⟨trivial, trivial⟩, trivial⟩
  have run := run.next ⟨.docker rfl (.subscribe rfl) rfl, ⟨trivial, trivial⟩, trivial⟩
  exact ⟨_, _, run, ⟨rfl, rfl, rfl, single.idle (i := 0) rfl⟩, ⟨.inl rfl, rfl⟩, ⟨rfl, nofun, nofun⟩,
    rfl, rfl, rfl⟩

theorem deployment_settles_started :
    ∃ h, ∃ s : Deployment Empty,
      s.docker.running = [Docker.app] ∧ s.file.read = .ok File.Watch.newFile ∧
      ∃ t, Serves { staticOnly := false } (lit "n")
        (File.Watch.exampleProvider.loadFile Origin File.Watch.examplePackages) h s t := by
  obtain ⟨h, s, run, docker, file, going, running, read, _⟩ := started_run
    (File.Watch.exampleProvider.loadFile Origin File.Watch.examplePackages)
    File.Watch.newFile (by decide)
  obtain ⟨_, t, _, _, serves⟩ := (deployment_settles run (fun _ => docker) file going).2
  exact ⟨h, s, running, read, t, serves⟩

end Deployment
end Pintle
