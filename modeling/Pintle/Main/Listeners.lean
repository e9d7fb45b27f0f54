import Pintle.Main.Run
import Pintle.Pipeline.Skew

/-!
# Opening the TCP listeners

`StartPort` of `internal/server/tcp.go` looks the port up under the mutex, opens it without, and takes
the mutex again to store the listener. The main goroutine and the applying goroutine call it for ports
that may be the same, so both may find a port missing and try to open it.

A listening process is a process together with the ports it has open and where the two callers stand
inside `StartPort`. The operating system gives a port to one socket only. That decides between the
callers, and `listeners_atomic` justifies the model of `Run.lean`, in which `StartPort` is one step:
every run of the finer system is a run of that one, in which a call takes effect where it opens its
port or gives up.
-/

namespace Pintle
open Go Lib

/-- Where a caller stands inside Go `StartPort`: outside it, before `net.Listen`, or before it stores
the listener. -/
inductive PortPhase where
  | outside
  | listening
  | storing
  deriving DecidableEq

/-- The port that a caller has opened and not stored, if it is at some port. -/
def PortPhase.pending (call : PortPhase) (port : Option Int) : List Int :=
  if call = .storing then port.toList else []

/-- What happens to a port inside a call: it is found in the map, found missing, opened, not opened, or
stored. A port that is not opened may be open already, as a socket of the process itself. -/
inductive PortEvent where
  | found (port : Int)
  | missing (port : Int)
  | opened (port : Int)
  | failed (port : Int) (held : Bool)
  | stored (port : Int)
  deriving DecidableEq

/-- One step of a call of Go `StartPort`: the phase of the caller, the keys of Go `ports` and the ports
that are open, before and after it. -/
inductive PortStep (port : Int) : PortPhase → List Int → List Int → PortEvent →
    PortPhase → List Int → List Int → Prop where
  | found {ports sockets} :
    port ∈ ports →
    PortStep port .outside ports sockets (.found port) .outside ports sockets
  | missing {ports sockets} :
    port ∉ ports →
    PortStep port .outside ports sockets (.missing port) .listening ports sockets
  | open {ports sockets} :
    -- a port is bound once
    port ∉ sockets →
    PortStep port .listening ports sockets (.opened port) .storing ports (port :: sockets)
  | fail {ports sockets} (held : Bool) :
    (held = true ↔ port ∈ sockets) →
    PortStep port .listening ports sockets (.failed port held) .outside ports sockets
  | store {ports sockets} :
    PortStep port .storing ports sockets (.stored port) .outside (ports.insert port) sockets

/-- A call that is over moves on to the next port. -/
def MainPhase.after : MainPhase → PortPhase → MainPhase
  | .opening (_ :: rest), .outside => .opening rest
  | main, _ => main

/-- The port that the main goroutine opens next. -/
def MainPhase.port : MainPhase → Option Int
  | .opening (port :: _) => some port
  | _ => none

/-- The port that the applying goroutine opens next. -/
def TcpWork.port : TcpWork → Option Int
  | .opening (port :: _) => some port
  | _ => none

/-- A call that is over moves on to the next port. -/
def TcpWork.after : TcpWork → PortPhase → TcpWork
  | .opening (_ :: rest), .outside => .opening rest
  | work, _ => work

/-- A process, the ports it has open, newest first, and where the main goroutine and the applying
goroutine stand inside `StartPort`. The process's `tcpRouter` holds the keys of Go `ports`. -/
structure Listening (ρ : Type) where
  process : Process ρ
  sockets : List Int
  mainCall : PortPhase
  workCall : PortPhase

/-- The labels of a run: a step of the process outside `StartPort`, or a step of one caller. -/
inductive ListeningEvent where
  | process (e : ProcessEvent)
  | main (e : PortEvent)
  | work (e : PortEvent)

/-- Whether an event is not one of `StartPort`. -/
def ProcessEvent.outsideStartPort : ProcessEvent → Bool
  | .tcp _ => false
  | .kept _ => false
  | .unavailable _ => false
  | _ => true

namespace Listening
variable {ρ : Type} [Regexp ρ]

/-- One step of the process or inside a call of `StartPort`. -/
inductive Step (c : Settings) : Listening ρ → ListeningEvent → Listening ρ → Prop where
  | process {s e p} :
    e.outsideStartPort = true →
    Process.Step c s.process e p →
    Step c s (.process e) { s with process := p }
  | main {s port rest ports e call ports' sockets} :
    s.process.main = .opening (port :: rest) →
    s.process.tcpRouter = some ports →
    PortStep port s.mainCall ports s.sockets e call ports' sockets →
    Step c s (.main e)
      { s with
        process := { s.process with main := s.process.main.after call, tcpRouter := some ports' }
        sockets := sockets
        mainCall := call }
  | work {s port rest ports e call ports' sockets} :
    s.process.main ≠ .exited →
    s.process.work = .opening (port :: rest) →
    s.process.tcpRouter = some ports →
    PortStep port s.workCall ports s.sockets e call ports' sockets →
    Step c s (.work e)
      { s with
        process := { s.process with work := s.process.work.after call, tcpRouter := some ports' }
        sockets := sockets
        workCall := call }

/-- The state before any message. -/
def initial (c : Settings) : Listening ρ where
  process := .initial c
  sockets := []
  mainCall := .outside
  workCall := .outside

/-- The system of all interleavings. -/
def system (ρ : Type) [Regexp ρ] (c : Settings) : System (Listening ρ) ListeningEvent where
  init s := s = initial c
  step := Step c

/-- The process in which a call takes effect where it opens its port: the open ports are those of the
TCP router, and a caller that has only to store its listener is done with the port. -/
def atomic (s : Listening ρ) : Process ρ :=
  { s.process with
    main := if s.mainCall = .storing then s.process.main.after .outside else s.process.main
    work := if s.workCall = .storing then s.process.work.after .outside else s.process.work
    tcpRouter := s.process.tcpRouter.map fun _ => s.sockets }

end Listening

/-- Where a step of a call takes effect. A port that is not opened because the process has it open is
as good as found. -/
def PortEvent.effect : PortEvent → Option ProcessEvent
  | .found port => some (.kept port)
  | .missing _ => none
  | .opened port => some (.tcp port)
  | .failed port held => some (if held then .kept port else .unavailable port)
  | .stored _ => none

/-- Where a step takes effect. -/
def ListeningEvent.effect : ListeningEvent → Option ProcessEvent
  | .process e => some e
  | .main e => e.effect
  | .work e => e.effect

namespace Process

/-- The applying goroutine is done with the listeners of one configuration before it takes the next. -/
def Free {ρ : Type} (s : Process ρ) : Prop :=
  s.work = .idle ∨ (∀ merged, s.pipeline.applier ≠ .received merged) ∧
    ∀ merged, s.pipeline.applier ≠ .routed merged

end Process

namespace Listening
variable {ρ : Type}

/-- The ports that are open and not yet stored. -/
def unstored (s : Listening ρ) : List Int :=
  s.mainCall.pending s.process.main.port ++ s.workCall.pending s.process.work.port

/-- The invariant: a caller inside `StartPort` is at a port of the TCP router, the open ports are
distinct, and each of them is stored or about to be stored by one caller. -/
structure Sound (s : Listening ρ) : Prop where
  main : s.mainCall ≠ .outside → s.process.main.port.isSome = true
  work : s.workCall ≠ .outside → s.process.work.port.isSome = true
  router : s.mainCall ≠ .outside ∨ s.workCall ≠ .outside → s.process.tcpRouter.isSome = true
  free : s.process.Free
  nodup : s.sockets.Nodup
  ports : s.sockets.Perm (s.unstored ++ s.process.tcpRouter.getD [])

end Listening

lemma MainPhase.elsewhere {main main' : MainPhase} {P : Prop} (phase : main = main')
    (none_next : main'.port = none) (opening : main.port.isSome = true) : P := by
  rw [phase, none_next] at opening
  cases opening

lemma TcpWork.elsewhere {work work' : TcpWork} {P : Prop} (phase : work = work')
    (none_next : work'.port = none) (opening : work.port.isSome = true) : P := by
  rw [phase, none_next] at opening
  cases opening

namespace Process
variable {ρ : Type} [Regexp ρ] {c : Settings}

/-- A pipeline step that takes no configuration leaves the applier where it is or lets go of one. -/
lemma step_applier {s t : Pipeline ρ} {e : PipelineEvent} {c : Config} (st : Pipeline.Step c s e t)
    (other : e ≠ .taken) (free : (∀ merged, s.applier ≠ .received merged) ∧
      ∀ merged, s.applier ≠ .routed merged) :
    (∀ merged, t.applier ≠ .received merged) ∧ ∀ merged, t.applier ≠ .routed merged := by
  cases st with
  | take _ _ _ _ => exact absurd rfl other
  | apply _ merged received => exact absurd received (free.1 merged)
  | publish _ _ => exact ⟨nofun, nofun⟩
  | quitApplier _ _ _ => exact ⟨nofun, nofun⟩
  | _ => exact free

lemma step_free {s t : Process ρ} {e : ProcessEvent} (free : s.Free) (st : Step c s e t) :
    t.Free := by
  cases st with
  | @pipeline e p _ _ _ unused st =>
    by_cases taken : e = PipelineEvent.taken
    · exact .inl (unused (.inl taken))
    · rcases free with idle | free
      · exact .inl idle
      · exact .inr (step_applier st taken free)
  | boot _ st =>
    rcases free with idle | free
    · exact .inl idle
    · exact .inr (step_applier st nofun free)
  | publish _ _ st =>
    cases st with
    | publish _ _ => exact .inr ⟨nofun, nofun⟩
  | updateCerts _ _ _ _ work _ =>
    refine .inr (free.resolve_left ?_)
    rw [work]
    nofun
  | startNewPort _ work _ _ =>
    refine .inr (free.resolve_left ?_)
    rw [work]
    nofun
  | applied _ _ => exact .inl rfl
  | _ => exact free

/-- While a goroutine opens a port, no other step moves it. -/
lemma step_opening {s t : Process ρ} {e : ProcessEvent} (free : s.Free)
    (outside : e.outsideStartPort = true) (st : Step c s e t)
    (router : s.tcpRouter.isSome = true) : t.tcpRouter = s.tcpRouter ∧
      (s.main.port.isSome = true → t.main = s.main) ∧
      (s.work.port.isSome = true → t.work = s.work) := by
  cases st with
  | publish _ routed _ =>
    rcases free with idle | free
    · exact ⟨rfl, fun _ => rfl, TcpWork.elsewhere idle rfl⟩
    · exact absurd routed (free.2 _)
  | panic _ _ unrouted =>
    rw [unrouted] at router
    cases router
  | startPort _ _ started => cases started <;> cases outside
  | startNewPort _ _ _ started => cases started <;> cases outside
  | boot starting _ => exact ⟨rfl, MainPhase.elsewhere starting rfl, fun _ => rfl⟩
  | refuse _ _ _ starting _ _ =>
    exact ⟨rfl, MainPhase.elsewhere starting rfl, fun _ => rfl⟩
  | https _ phase => exact ⟨rfl, MainPhase.elsewhere phase rfl, fun _ => rfl⟩
  | redirect _ _ phase _ =>
    exact ⟨rfl, MainPhase.elsewhere phase rfl, fun _ => rfl⟩
  | fail _ phase =>
    rcases phase with phase | phase <;>
      exact ⟨rfl, MainPhase.elsewhere phase rfl, fun _ => rfl⟩
  | sni _ phase _ => exact ⟨rfl, MainPhase.elsewhere phase rfl, fun _ => rfl⟩
  | plain _ phase _ => exact ⟨rfl, MainPhase.elsewhere phase rfl, fun _ => rfl⟩
  | certs _ _ _ phase _ _ =>
    exact ⟨rfl, MainPhase.elsewhere phase rfl, fun _ => rfl⟩
  | opened phase =>
    rcases phase with phase | ⟨⟨_, phase⟩, _⟩ <;>
      exact ⟨rfl, MainPhase.elsewhere phase rfl, fun _ => rfl⟩
  | quit phase _ => exact ⟨rfl, MainPhase.elsewhere phase rfl, fun _ => rfl⟩
  | updateCerts _ _ _ _ phase _ =>
    exact ⟨rfl, fun _ => rfl, TcpWork.elsewhere phase rfl⟩
  | applied _ phase =>
    exact ⟨rfl, fun _ => rfl, TcpWork.elsewhere phase rfl⟩
  | pipeline _ _ _ _ _ => exact ⟨rfl, fun _ => rfl, fun _ => rfl⟩

/-- Only `StartPort` changes the ports of the TCP router. -/
lemma step_router {s t : Process ρ} {e : ProcessEvent} (outside : e.outsideStartPort = true)
    (st : Step c s e t) : t.tcpRouter = s.tcpRouter := by
  cases st with
  | startPort _ _ started => cases started <;> cases outside
  | startNewPort _ _ _ started => cases started <;> cases outside
  | _ => rfl

end Process

/-- A step of a call keeps the open ports distinct, each stored or about to be stored. -/
lemma PortStep.sound {port : Int} {call call' : PortPhase} {ports sockets ports' sockets' : List Int}
    {e : PortEvent} (st : PortStep port call ports sockets e call' ports' sockets') {others : List Int}
    (nodup : sockets.Nodup)
    (stored : sockets.Perm (call.pending (some port) ++ others ++ ports)) :
    sockets'.Nodup ∧
      sockets'.Perm (call'.pending (some port) ++ others ++ ports') := by
  cases st with
  | found _ => exact ⟨nodup, stored⟩
  | missing _ => exact ⟨nodup, stored⟩
  | «open» free => exact ⟨List.nodup_cons.mpr ⟨free, nodup⟩, stored.cons port⟩
  | fail held _ => exact ⟨nodup, stored⟩
  | store =>
    refine ⟨nodup, ?_⟩
    have distinct := (List.nodup_cons.mp (stored.nodup nodup)).1
    have missing : port ∉ ports := fun member => distinct (List.mem_append_right others member)
    rw [List.insert_of_not_mem missing]
    exact stored.trans List.perm_middle.symm

/-- A stored port is open. -/
lemma stored_open {sockets unstored ports : List Int} (stored : sockets.Perm (unstored ++ ports))
    {port : Int} (member : port ∈ ports) : port ∈ sockets :=
  stored.mem_iff.mpr (List.mem_append_right unstored member)

namespace Listening
variable {ρ : Type} [Regexp ρ] {c : Settings}

/-- A call that goes on is at the same port. -/
lemma pending_main {main : MainPhase} {port : Int} {rest : List Int} (call : PortPhase)
    (opening : main = .opening (port :: rest)) :
    call.pending (main.after call).port = call.pending (some port) ∧
      (call ≠ .outside → (main.after call).port.isSome = true) := by
  subst opening
  cases call with
  | outside => exact ⟨rfl, fun inside => absurd rfl inside⟩
  | _ => exact ⟨rfl, fun _ => rfl⟩

lemma pending_work {work : TcpWork} {port : Int} {rest : List Int} (call : PortPhase)
    (opening : work = .opening (port :: rest)) :
    call.pending (work.after call).port = call.pending (some port) ∧
      (call ≠ .outside → (work.after call).port.isSome = true) := by
  subst opening
  cases call with
  | outside => exact ⟨rfl, fun inside => absurd rfl inside⟩
  | _ => exact ⟨rfl, fun _ => rfl⟩

lemma pending_same {call : PortPhase} {port port' : Option Int}
    (same : call ≠ .outside → port' = port) : call.pending port' = call.pending port := by
  cases call with
  | storing => rw [same nofun]
  | _ => rfl

lemma step_sound {s t : Listening ρ} {e : ListeningEvent} (sound : s.Sound) (st : Step c s e t) :
    t.Sound := by
  cases st with
  | @process e p outside st =>
    have router := Process.step_router outside st
    have main : s.mainCall ≠ .outside → p.main = s.process.main := fun inside =>
      (Process.step_opening sound.free outside st (sound.router (.inl inside))).2.1 (sound.main inside)
    have work : s.workCall ≠ .outside → p.work = s.process.work := fun inside =>
      (Process.step_opening sound.free outside st (sound.router (.inr inside))).2.2 (sound.work inside)
    refine ⟨?_, ?_, ?_, Process.step_free sound.free st, sound.nodup, ?_⟩
    · intro inside
      rw [main inside]
      exact sound.main inside
    · intro inside
      rw [work inside]
      exact sound.work inside
    · rw [router]
      exact sound.router
    · rw [router, unstored]
      simp only
      rw [pending_same fun inside => congrArg MainPhase.port (main inside),
        pending_same fun inside => congrArg TcpWork.port (work inside)]
      exact sound.ports
  | @main port rest ports e call ports' sockets opening router st =>
    have stored := sound.ports
    rw [unstored, router, opening] at stored
    obtain ⟨nodup, stored'⟩ := st.sound sound.nodup stored
    obtain ⟨pending, inside⟩ := pending_main call opening
    refine ⟨inside, sound.work, fun _ => rfl, sound.free, nodup, ?_⟩
    rw [unstored]
    simp only
    rw [pending]
    exact stored'
  | @work port rest ports e call ports' sockets going opening router st =>
    have stored := sound.ports
    have swap (a b ports : List Int) : (a ++ b ++ ports).Perm (b ++ a ++ ports) :=
      List.perm_append_comm.append_right ports
    rw [unstored, router, opening] at stored
    obtain ⟨nodup, stored'⟩ := st.sound sound.nodup (stored.trans (swap _ _ _))
    obtain ⟨pending, inside⟩ := pending_work call opening
    refine ⟨sound.main, inside, fun _ => rfl, ?_, nodup, ?_⟩
    · refine .inr (sound.free.resolve_left ?_)
      rw [opening]
      nofun
    · rw [unstored]
      simp only
      rw [pending]
      exact stored'.trans (swap _ _ _)

lemma run_sound {h : List ListeningEvent} {s : Listening ρ} (run : (system ρ c).Run h s) :
    s.Sound := by
  refine System.Run.invariant (fun _ s => s.Sound) ?_ ?_ run
  · rintro _ rfl
    refine ⟨fun inside => absurd rfl inside, fun inside => absurd rfl inside, ?_, .inl rfl, .nil, ?_⟩
    · rintro (inside | inside) <;> exact absurd rfl inside
    · simp only [initial, Process.initial, unstored, PortPhase.pending]
      cases c.staticOnly <;> exact .nil
  · intro _ s e t _ sound st
    exact step_sound sound st

omit [Regexp ρ] in
/-- A caller that is not at a port is not about to store one. -/
lemma atomic_main {s : Listening ρ} (sound : s.Sound) (elsewhere : s.process.main.port = none) :
    s.mainCall ≠ .storing := by
  intro storing
  have opening := sound.main (by rw [storing]; nofun)
  rw [elsewhere] at opening
  cases opening

omit [Regexp ρ] in
lemma atomic_work {s : Listening ρ} (sound : s.Sound) (elsewhere : s.process.work.port = none) :
    s.workCall ≠ .storing := by
  intro storing
  have opening := sound.work (by rw [storing]; nofun)
  rw [elsewhere] at opening
  cases opening

omit [Regexp ρ] in
lemma atomic_going {s : Listening ρ} (going : s.process.main ≠ .exited) :
    s.atomic.main ≠ .exited := by
  simp only [atomic]
  split
  · intro exited
    apply going
    unfold MainPhase.after at exited
    split at exited
    · cases exited
    · exact exited
  · exact going

/-- A step outside `StartPort` is a step of the atomic process. -/
lemma process_atomic {s : Listening ρ} {e : ProcessEvent} {p : Process ρ} (sound : s.Sound)
    (outside : e.outsideStartPort = true) (st : Process.Step c s.process e p) :
    Process.Step c s.atomic e ({ s with process := p } : Listening ρ).atomic := by
  cases st with
  | pipeline going later unpublished unused st =>
    refine .pipeline (s := s.atomic) (atomic_going going) later unpublished ?_ st
    intro taking
    have idle := unused taking
    simp only [atomic, if_neg (atomic_work sound (by rw [idle]; rfl)), idle]
  | boot starting st =>
    have settled := atomic_main sound (by rw [starting]; rfl)
    have step := Process.Step.boot (s := s.atomic) (c := c) ?_ st
    · simpa only [atomic, if_neg settled] using step
    · simp only [atomic, if_neg settled, starting]
  | @publish merged p going routed st =>
    have idle : s.process.work = .idle := by
      rcases sound.free with idle | free
      · exact idle
      · exact absurd routed (free.2 merged)
    have settled := atomic_work sound (by rw [idle]; rfl)
    have step := Process.Step.publish (s := s.atomic) (c := c) (atomic_going going) routed st
    simpa only [atomic, if_neg settled] using step
  | refuse msg rest err starting waiting invalid =>
    have settled := atomic_main sound (by rw [starting]; rfl)
    have step := Process.Step.refuse (s := s.atomic) (c := c) msg rest err ?_ waiting invalid
    · simpa only [atomic, if_neg settled] using step
    · simp only [atomic, if_neg settled, starting]
  | https initial phase =>
    have settled := atomic_main sound (by rw [phase]; rfl)
    have step := Process.Step.https (s := s.atomic) (c := c) initial ?_
    · simpa only [atomic, if_neg settled] using step
    · simp only [atomic, if_neg settled, phase]
  | redirect initial address phase allowed =>
    have settled := atomic_main sound (by rw [phase]; rfl)
    have step := Process.Step.redirect (s := s.atomic) (c := c) initial address ?_ allowed
    · simpa only [atomic, if_neg settled] using step
    · simp only [atomic, if_neg settled, phase]
  | fail initial phase =>
    have settled := atomic_main sound (by rcases phase with phase | phase <;> rw [phase] <;> rfl)
    have step := Process.Step.fail (s := s.atomic) (c := c) initial ?_
    · simpa only [atomic, if_neg settled] using step
    · simpa only [atomic, if_neg settled] using phase
  | sni initial phase needed =>
    have settled := atomic_main sound (by rw [phase]; rfl)
    have step := Process.Step.sni (s := s.atomic) (c := c) initial ?_ needed
    · simpa only [atomic, if_neg settled] using step
    · simp only [atomic, if_neg settled, phase]
  | plain initial phase unneeded =>
    have settled := atomic_main sound (by rw [phase]; rfl)
    have step := Process.Step.plain (s := s.atomic) (c := c) initial ?_ unneeded
    · simpa only [atomic, if_neg settled] using step
    · simp only [atomic, if_neg settled, phase]
  | certs ord initial ports phase open_mode router =>
    have settled := atomic_main sound (by rw [phase]; rfl)
    have step := Process.Step.certs (s := s.atomic) (c := c) ord initial s.sockets ?_ open_mode ?_
    · simpa only [atomic, if_neg settled] using step
    · simp only [atomic, if_neg settled, phase]
    · simp only [atomic, router, Option.map_some]
  | startPort _ _ started => cases started <;> cases outside
  | opened phase =>
    have settled := atomic_main sound (by
      rcases phase with phase | ⟨⟨_, phase⟩, _⟩ <;> rw [phase] <;> rfl)
    have step := Process.Step.opened (s := s.atomic) (c := c) ?_
    · simpa only [atomic, if_neg settled] using step
    · simpa only [atomic, if_neg settled] using phase
  | updateCerts ord merged ports going phase router =>
    have settled := atomic_work sound (by rw [phase]; rfl)
    have step := Process.Step.updateCerts (s := s.atomic) (c := c) ord merged s.sockets
      (atomic_going going) ?_ ?_
    · simpa only [atomic, if_neg settled] using step
    · simp only [atomic, if_neg settled, phase]
    · simp only [atomic, router, Option.map_some]
  | startNewPort _ _ _ started => cases started <;> cases outside
  | applied going phase =>
    have settled := atomic_work sound (by rw [phase]; rfl)
    have step := Process.Step.applied (s := s.atomic) (c := c) (atomic_going going) ?_
    · simpa only [atomic, if_neg settled] using step
    · simp only [atomic, if_neg settled, phase]
  | panic going uses unrouted =>
    -- without a TCP router no caller is inside `StartPort`
    have outside : ¬ (s.mainCall ≠ .outside ∨ s.workCall ≠ .outside) := by
      intro inside
      have routed := sound.router inside
      rw [unrouted] at routed
      cases routed
    have settled : s.mainCall ≠ .storing := fun storing => outside (.inl (by rw [storing]; nofun))
    have settled' : s.workCall ≠ .storing := fun storing => outside (.inr (by rw [storing]; nofun))
    have step := Process.Step.panic (s := s.atomic) (c := c) (atomic_going going) ?_ ?_
    · simpa only [atomic, if_neg settled] using step
    · simpa only [Process.UsesTCP, atomic, if_neg settled, if_neg settled'] using uses
    · simp only [atomic, unrouted, Option.map_none]
  | quit phase ended =>
    have settled := atomic_main sound (by rw [phase]; rfl)
    have step := Process.Step.quit (s := s.atomic) (c := c) ?_ ended
    · simpa only [atomic, if_neg settled] using step
    · simp only [atomic, if_neg settled, phase]

/-- Inside a call of the main goroutine a step is one of the atomic process, or changes nothing. -/
lemma main_atomic {s : Listening ρ} (sound : s.Sound) {port : Int} {rest ports ports' sockets' : List Int}
    {before call : PortPhase} {e : PortEvent} (called : s.mainCall = before)
    (opening : s.process.main = .opening (port :: rest)) (router : s.process.tcpRouter = some ports)
    (st : PortStep port before ports s.sockets e call ports' sockets') :
    (Process.system ρ c).Moves s.atomic e.effect
      ({ s with
        process := { s.process with main := s.process.main.after call, tcpRouter := some ports' }
        sockets := sockets'
        mainCall := call } : Listening ρ).atomic := by
  have stored := sound.ports
  rw [router] at stored
  have opened : s.atomic.tcpRouter = some s.sockets := by simp only [atomic, router, Option.map_some]
  have start {e : ProcessEvent} {sockets : List Int} (outside : before ≠ .storing)
      (st : StartPort port s.sockets e sockets) := Process.Step.startPort (s := s.atomic) (c := c)
    (show s.atomic.main = .opening (port :: rest) by
      simp only [atomic, called, if_neg outside, opening]) opened st
  cases st with
  | found member =>
    simpa [System.Moves, Process.system, PortEvent.effect, atomic, called, opening, MainPhase.after]
      using start (by decide) (.exists (stored_open stored member))
  | missing _ =>
    simp [System.Moves, PortEvent.effect, atomic, called, opening, router, MainPhase.after]
  | «open» free =>
    simpa [System.Moves, Process.system, PortEvent.effect, atomic, called, opening, MainPhase.after]
      using start (by decide) (.listen free)
  | fail held same =>
    cases held with
    | true =>
      simpa [System.Moves, Process.system, PortEvent.effect, atomic, called, opening, MainPhase.after]
        using start (by decide) (.exists (same.mp rfl))
    | false =>
      simpa [System.Moves, Process.system, PortEvent.effect, atomic, called, opening, MainPhase.after]
        using start (by decide) (.fail fun member => Bool.false_ne_true (same.mpr member))
  | store => simp [System.Moves, PortEvent.effect, atomic, called, opening, router, MainPhase.after]

/-- Inside a call of the applying goroutine a step is one of the atomic process, or changes nothing. -/
lemma work_atomic {s : Listening ρ} (sound : s.Sound) {port : Int} {rest ports ports' sockets' : List Int}
    {before call : PortPhase} {e : PortEvent} (called : s.workCall = before)
    (going : s.process.main ≠ .exited) (opening : s.process.work = .opening (port :: rest))
    (router : s.process.tcpRouter = some ports)
    (st : PortStep port before ports s.sockets e call ports' sockets') :
    (Process.system ρ c).Moves s.atomic e.effect
      ({ s with
        process := { s.process with work := s.process.work.after call, tcpRouter := some ports' }
        sockets := sockets'
        workCall := call } : Listening ρ).atomic := by
  have stored := sound.ports
  rw [router] at stored
  have opened : s.atomic.tcpRouter = some s.sockets := by simp only [atomic, router, Option.map_some]
  have start {e : ProcessEvent} {sockets : List Int} (outside : before ≠ .storing)
      (st : StartPort port s.sockets e sockets) := Process.Step.startNewPort (s := s.atomic) (c := c)
    (atomic_going going) (show s.atomic.work = .opening (port :: rest) by
      simp only [atomic, called, if_neg outside, opening]) opened st
  cases st with
  | found member =>
    simpa [System.Moves, Process.system, PortEvent.effect, atomic, called, opening, TcpWork.after]
      using start (by decide) (.exists (stored_open stored member))
  | missing _ =>
    simp [System.Moves, PortEvent.effect, atomic, called, opening, router, TcpWork.after]
  | «open» free =>
    simpa [System.Moves, Process.system, PortEvent.effect, atomic, called, opening, TcpWork.after]
      using start (by decide) (.listen free)
  | fail held same =>
    cases held with
    | true =>
      simpa [System.Moves, Process.system, PortEvent.effect, atomic, called, opening, TcpWork.after]
        using start (by decide) (.exists (same.mp rfl))
    | false =>
      simpa [System.Moves, Process.system, PortEvent.effect, atomic, called, opening, TcpWork.after]
        using start (by decide) (.fail fun member => Bool.false_ne_true (same.mpr member))
  | store => simp [System.Moves, PortEvent.effect, atomic, called, opening, router, TcpWork.after]

/-- Every run is a run of the process in which `StartPort` is one step. -/
lemma run_atomic {h : List ListeningEvent} {s : Listening ρ} (run : (system ρ c).Run h s) :
    (Process.system ρ c).Run (h.filterMap (·.effect)) s.atomic := by
  refine run.simulate atomic ListeningEvent.effect ?_ ?_
  · rintro _ rfl
    cases static : c.staticOnly <;> simp [initial, atomic, Process.system, Process.initial, static]
  · intro h s e t run st
    have sound := run_sound run
    cases st with
    | process outside st => exact process_atomic sound outside st
    | main opening router st => exact main_atomic sound rfl opening router st
    | work going opening router st => exact work_atomic sound rfl going opening router st

end Listening

/-- The configuration that the main goroutine opens listeners for. -/
def MainPhase.configuration? : MainPhase → Option Configuration
  | .wired initial => some initial
  | .serving initial => some initial
  | .redirecting initial => some initial
  | .routing initial => some initial
  | _ => none

/-- The ports that the main goroutine still opens. -/
def MainPhase.ports : MainPhase → List Int
  | .opening ports => ports
  | _ => []

/-- The ports that the applying goroutine still opens. -/
def TcpWork.ports : TcpWork → List Int
  | .opening ports => ports
  | _ => []

/-- A configuration that was applied has a TCP route on a port. -/
def Announces (h : List ProcessEvent) (port : Int) : Prop :=
  ∃ merged ∈ appliedConfigs (pipelineSteps h), ∃ route ∈ merged.tcpRoutes, route.listenPort = port

lemma applied_mono (e : ProcessEvent) {h : List ProcessEvent} {merged : Configuration}
    (member : merged ∈ appliedConfigs (pipelineSteps h)) :
    merged ∈ appliedConfigs (pipelineSteps (e :: h)) := by
  cases step : e.pipeline? with
  | none =>
    rw [pipelineSteps, List.filterMap_cons_none step]
    exact member
  | some d =>
    rw [pipelineSteps, List.filterMap_cons_some step, appliedConfigs_cons]
    exact List.mem_append_left _ member

lemma Announces.cons {h : List ProcessEvent} {port : Int} (announces : Announces h port)
    (e : ProcessEvent) : Announces (e :: h) port := by
  obtain ⟨merged, member, route⟩ := announces
  exact ⟨merged, applied_mono e member, route⟩

lemma mem_tcpPorts {ord : RangeOrder Int} {routes : List TcpRoute} {port : Int} :
    port ∈ tcpPorts ord routes ↔ ∃ route ∈ routes, route.listenPort = port := by
  rw [tcpPorts, ord.mem_visit, List.mem_dedup, List.mem_map]

namespace Process
variable {ρ : Type}

/-- Every configuration the two goroutines work on was applied, and every port they open is one of
its. -/
structure Announced (h : List ProcessEvent) (s : Process ρ) : Prop where
  initial : ∀ merged, s.main.configuration? = some merged → merged ∈ appliedConfigs (pipelineSteps h)
  opening : ∀ port ∈ s.main.ports, Announces h port
  routed : ∀ merged, s.pipeline.applier = .routed merged → merged ∈ appliedConfigs (pipelineSteps h)
  certs : ∀ merged, s.work = .certs merged → merged ∈ appliedConfigs (pipelineSteps h)
  working : ∀ port ∈ s.work.ports, Announces h port
  router : ∀ ports, s.tcpRouter = some ports → ∀ port ∈ ports, Announces h port

variable [Regexp ρ] {c : Settings} {h : List ProcessEvent} {s t : Process ρ} {e : ProcessEvent}

omit [Regexp ρ] in
lemma Announced.cons (inv : s.Announced h) (e : ProcessEvent) : s.Announced (e :: h) where
  initial merged phase := applied_mono e (inv.initial merged phase)
  opening port member := (inv.opening port member).cons e
  routed merged phase := applied_mono e (inv.routed merged phase)
  certs merged phase := applied_mono e (inv.certs merged phase)
  working port member := (inv.working port member).cons e
  router ports found port member := (inv.router ports found port member).cons e

/-- A pipeline step hands the applier nothing that is not applied. -/
lemma step_routed {p p' : Pipeline ρ} {d : PipelineEvent} {c : Config} {merged : Configuration}
    (st : Pipeline.Step c p d p') (routed : p'.applier = .routed merged) :
    p.applier = .routed merged ∨ d.applied? = some merged := by
  cases st with
  | apply visit merged' received =>
    right
    dsimp only at routed
    split at routed
    · cases routed
    · cases routed
      rfl
  | take _ _ _ _ => cases routed
  | publish _ _ => cases routed
  | quitApplier _ _ _ => cases routed
  | _ => exact .inl routed

lemma applied_mem {d : PipelineEvent} {merged : Configuration} (applied : d.applied? = some merged)
    (h : List ProcessEvent) : merged ∈ appliedConfigs (pipelineSteps (.pipeline d :: h)) := by
  rw [show pipelineSteps (.pipeline d :: h) = d :: pipelineSteps h from rfl, appliedConfigs_cons,
    applied]
  exact List.mem_append_right _ List.mem_cons_self

/-- A pipeline step keeps the invariant, wherever the applier goes. -/
lemma Announced.pipeline (inv : s.Announced h) {d : PipelineEvent} {p : Pipeline ρ}
    (st : Pipeline.Step c.toConfig s.pipeline d p) :
    ({ s with pipeline := p } : Process ρ).Announced (.pipeline d :: h) := by
  have kept := inv.cons (.pipeline d)
  refine ⟨kept.initial, kept.opening, ?_, kept.certs, kept.working, kept.router⟩
  intro merged routed
  rcases step_routed st routed with before | applied
  · exact kept.routed merged before
  · exact applied_mem applied h

/-- A caller of `StartPort` moves on to its next port. -/
lemma startPort_announced {port : Int} {ports ports' : List Int} {e : ProcessEvent}
    (st : StartPort port ports e ports') (here : Announces h port)
    (all : ∀ p ∈ ports, Announces h p) : ∀ p ∈ ports', Announces h p := by
  cases st with
  | «exists» _ => exact all
  | listen _ => exact List.forall_mem_cons.mpr ⟨here, all⟩
  | fail _ => exact all

lemma step_announced (inv : s.Announced h) (st : Step c s e t) : t.Announced (e :: h) := by
  have kept := inv.cons e
  cases st with
  | pipeline _ _ _ _ st => exact inv.pipeline st
  | @boot msg merged p _ st =>
    have moved := inv.pipeline st
    refine ⟨?_, by simp [MainPhase.ports], moved.routed, moved.certs, moved.working, moved.router⟩
    rintro _ ⟨⟩
    exact applied_mem rfl h
  | @publish merged p _ routed st =>
    have moved := inv.pipeline st
    refine ⟨moved.initial, moved.opening, moved.routed, ?_, by simp [TcpWork.ports], moved.router⟩
    rintro _ ⟨⟩
    exact kept.routed merged routed
  | refuse _ _ _ _ _ _ =>
    exact ⟨nofun, by simp [MainPhase.ports], kept.routed, kept.certs, kept.working, kept.router⟩
  | fail _ _ =>
    exact ⟨nofun, by simp [MainPhase.ports], kept.routed, kept.certs, kept.working, kept.router⟩
  | panic _ _ _ =>
    exact ⟨nofun, by simp [MainPhase.ports], kept.routed, kept.certs, kept.working, kept.router⟩
  | quit _ _ =>
    exact ⟨nofun, by simp [MainPhase.ports], kept.routed, kept.certs, kept.working, kept.router⟩
  | opened _ =>
    exact ⟨nofun, by simp [MainPhase.ports], kept.routed, kept.certs, kept.working, kept.router⟩
  | https initial phase =>
    refine ⟨?_, by simp [MainPhase.ports], kept.routed, kept.certs, kept.working, kept.router⟩
    rintro _ ⟨⟩
    exact kept.initial initial (by rw [phase]; rfl)
  | redirect initial _ phase _ =>
    refine ⟨?_, by simp [MainPhase.ports], kept.routed, kept.certs, kept.working, kept.router⟩
    rintro _ ⟨⟩
    exact kept.initial initial (by rw [phase]; rfl)
  | sni initial phase _ =>
    refine ⟨?_, by simp [MainPhase.ports], kept.routed, kept.certs, kept.working, kept.router⟩
    rintro _ ⟨⟩
    exact kept.initial initial (by rw [phase]; rfl)
  | plain initial phase _ =>
    refine ⟨?_, by simp [MainPhase.ports], kept.routed, kept.certs, kept.working, kept.router⟩
    rintro _ ⟨⟩
    exact kept.initial initial (by rw [phase]; rfl)
  | certs ord initial _ phase _ _ =>
    refine ⟨nofun, ?_, kept.routed, kept.certs, kept.working, kept.router⟩
    intro port member
    exact ⟨initial, kept.initial initial (by rw [phase]; rfl), mem_tcpPorts.mp member⟩
  | @startPort port rest ports e ports' phase router st =>
    have queued := kept.opening
    rw [phase] at queued
    obtain ⟨here, later⟩ := List.forall_mem_cons.mp queued
    refine ⟨nofun, later, kept.routed, kept.certs, kept.working, ?_⟩
    rintro _ ⟨⟩
    exact startPort_announced st here (kept.router ports router)
  | updateCerts ord merged _ _ phase _ =>
    refine ⟨kept.initial, kept.opening, kept.routed, nofun, ?_, kept.router⟩
    intro port member
    exact ⟨merged, kept.certs merged phase, mem_tcpPorts.mp member⟩
  | @startNewPort port rest ports e ports' _ phase router st =>
    have queued := kept.working
    rw [phase] at queued
    obtain ⟨here, later⟩ := List.forall_mem_cons.mp queued
    refine ⟨kept.initial, kept.opening, kept.routed, nofun, later, ?_⟩
    rintro _ ⟨⟩
    exact startPort_announced st here (kept.router ports router)
  | applied _ _ =>
    exact ⟨kept.initial, kept.opening, kept.routed, nofun, by simp [TcpWork.ports], kept.router⟩

lemma run_announced (run : (system ρ c).Run h s) : s.Announced h := by
  refine System.Run.invariant (fun h s => s.Announced h) ?_ ?_ run
  · rintro _ rfl
    refine ⟨nofun, by simp [initial, MainPhase.ports], nofun, nofun,
      by simp [initial, TcpWork.ports], ?_⟩
    intro ports found
    simp only [initial] at found
    split at found
    · cases found
    · cases found
      exact List.forall_mem_nil _
  · intro _ s e t _ inv st
    exact step_announced inv st

end Process

namespace Listening
variable {ρ : Type} [Regexp ρ] {c : Settings}

/-- What `StartPort` does when its callers interleave. Every run is a run of the process in which
`StartPort` is one step, with a call taking effect where it opens its port or gives up. The process
never has a port open twice; each open port is stored in Go `ports` or about to be stored by the one
caller that opened it, so with both callers outside the stored ports are the open ones; and each open
port is that of a TCP route of a configuration that was applied. -/
theorem listeners_atomic {h : List ListeningEvent} {s : Listening ρ} (run : (system ρ c).Run h s) :
    (Process.system ρ c).Run (h.filterMap (·.effect)) s.atomic ∧
    s.sockets.Nodup ∧ s.sockets.Perm (s.unstored ++ s.process.tcpRouter.getD []) ∧
    (s.mainCall = .outside → s.workCall = .outside →
      s.sockets.Perm (s.process.tcpRouter.getD [])) ∧
    ∀ port ∈ s.sockets, Announces (h.filterMap (·.effect)) port := by
  have sound := run_sound run
  have run' := run_atomic run
  refine ⟨run', sound.nodup, sound.ports, ?_, ?_⟩
  · intro main work
    have stored := sound.ports
    rw [unstored, main, work] at stored
    exact stored
  · intro port member
    have opened : ∃ ports, s.process.tcpRouter = some ports := by
      cases router : s.process.tcpRouter with
      | some ports => exact ⟨ports, rfl⟩
      | none =>
        -- without a TCP router no port is open
        have stored := sound.ports
        have outside : ¬ (s.mainCall ≠ .outside ∨ s.workCall ≠ .outside) := by
          intro inside
          have routed := sound.router inside
          rw [router] at routed
          cases routed
        obtain ⟨main, work⟩ := not_or.mp outside
        rw [unstored, not_not.mp main, not_not.mp work, router] at stored
        rw [List.perm_nil.mp stored] at member
        cases member
    obtain ⟨ports, router⟩ := opened
    exact (Process.run_announced run').router s.sockets
      (by simp only [atomic, router, Option.map_some]) port member

/-- Both callers find the port missing; one opens it, and the other cannot. -/
theorem listeners_atomic_race :
    ∃ h, ∃ s : Listening Empty, (system Empty bareEnvironment.defaults).Run h s ∧
      h.take 5 = [.main (.stored 5432), .work (.failed 5432 true), .main (.opened 5432),
        .work (.missing 5432), .main (.missing 5432)] ∧
      s.sockets = [5432] ∧ s.sockets.Perm (s.process.tcpRouter.getD []) := by
  have run := System.Run.start (M := system Empty bareEnvironment.defaults) 
    (s := initial bareEnvironment.defaults) rfl
  have run := run.next (.process rfl (.pipeline (by nofun) (by nofun) (by nofun) (by nofun)
    (.send Pipeline.oneTcp (by decide))))
  have run := run.next (.process rfl (.boot rfl (.boot .stored .stored _ [] rfl rfl rfl)))
  have run := run.next (.process rfl (.https _ rfl))
  have run := run.next (.process rfl (.redirect _ ([], 9080) rfl rfl))
  have run := run.next (.process rfl (.plain _ rfl rfl))
  have run := run.next (.process rfl (.certs .stored _ [] rfl rfl rfl))
  have run := run.next (.process rfl (.pipeline (by nofun) (by nofun) (by nofun) (by nofun)
    (.send Pipeline.oneTcp (by decide))))
  have run := run.next (.process rfl (.pipeline (by nofun) (by nofun) (by nofun) (by nofun)
    (.receive Pipeline.oneTcp [] rfl rfl rfl)))
  have run := run.next (.process rfl (.pipeline (by nofun) (by nofun) (by nofun) (by nofun)
    (.accept .stored Pipeline.oneTcp rfl rfl)))
  have run := run.next (.process rfl (.pipeline (by nofun) (by nofun) (by nofun)
    (by nofun) (.offer _ rfl rfl)))
  have run := run.next (.process rfl (.pipeline (by nofun) (by nofun) (by nofun)
    (fun _ => rfl) (.take _ rfl rfl rfl)))
  have run := run.next (.process rfl (.pipeline (by nofun) (by nofun) (by nofun)
    (by nofun) (.apply .stored _ rfl)))
  have run := run.next (.process rfl (.publish (by nofun) rfl (.publish _ rfl)))
  have run := run.next (.process rfl (.updateCerts .stored _ [] (by nofun) rfl rfl))
  have run := run.next (.main
    (show _ = MainPhase.opening [5432] from rfl) rfl (.missing (by decide)))
  have run := run.next (.work (by nofun)
    (show _ = TcpWork.opening [5432] from rfl) rfl (.missing (by decide)))
  have run := run.next (.main
    (show _ = MainPhase.opening [5432] from rfl) rfl (.open (by decide)))
  have run := run.next (.work (by nofun)
    (show _ = TcpWork.opening [5432] from rfl) rfl (.fail true (by decide)))
  have run := run.next (.main
    (show _ = MainPhase.opening [5432] from rfl) rfl .store)
  exact ⟨_, _, run, rfl, rfl, (listeners_atomic run).2.2.2.1 rfl rfl⟩

end Listening
end Pintle
