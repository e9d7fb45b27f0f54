import Pintle.File.Watch

/-!
# What reaches a reload

Nothing watches the directory of the routes file. So a change is missed when it falls between the
first load and the watch, or when it is made by a rename or after one (`replacement_missed`). Along a
run whose changes are all noticed the file is loaded or will be (`InSync`), and after a change that
is not noticed the provider may come to rest with the old content (`unnoticed_missed`).
-/

namespace Pintle.File
open Go Lib

namespace Watch
variable {load : Except GoString GoString → Message}

/-- A change of the file that makes no difference to the provider: its run has not begun or is over,
or the file loads as before, and is not being read. -/
def Harmless (load : Except GoString GoString → Message) (s : Watch) (data : GoString) : Prop :=
  s.phase = .starting ∨ s.phase = .stopped ∨
    (∀ watched changed, s.phase ≠ .reading watched changed) ∧ load (.ok data) = load s.read

/-- A change of the file will be followed by a load or is harmless: it is made in place while the
watch is on the file, or while an event waits for which the file will be reloaded. -/
def Noticed (load : Except GoString GoString → Message) (s : Watch) : Event → Prop
  | .written data => s.watched = some s.inode ∨ s.Waiting ∨ Harmless load s data
  | .replaced data => s.Waiting ∨ Harmless load s data
  | _ => True

/-- What the provider is doing about the content of the file. -/
def Settled (load : Except GoString GoString → Message) (h : List Event) (s : Watch) : Prop :=
  match s.phase with
  | .starting => True
  | .reading _ changed => changed = false
  | .sending _ msg => msg = load s.read
  | .stopped => True
  | _ => lastSent h = some (load s.read)

/-- The invariant: the file is loaded, or will be. -/
def InSync (load : Except GoString GoString → Message) (h : List Event) (s : Watch) : Prop :=
  s.Waiting ∨ Settled load h s

lemma lastSent_cons {e : Event} (silent : e.sent? = none) (h : List Event) :
    lastSent (e :: h) = lastSent h := by
  rw [lastSent, List.findSome?_cons, silent, lastSent]

/-- An event that waits is still there when more are reported. -/
lemma mem_report {s : Watch} (ops : List Op) {op : Op} (member : op ∈ s.pending) :
    op ∈ s.report ops := by
  rw [report]
  split
  · exact List.mem_append_left ops member
  · exact member

/-- Where nothing is read or sent, the last message is settled. -/
lemma settled_between {h : List Event} {s : Watch} (between : s.phase.between) :
    Settled load h s ↔ lastSent h = some (load s.read) := by
  unfold Settled
  generalize s.phase = phase at between ⊢
  cases phase with
  | starting => exact between.elim
  | reading _ _ => exact between.elim
  | sending _ _ => exact between.elim
  | stopped => exact between.elim
  | _ => exact Iff.rfl

/-- A step that keeps the events that wait. -/
lemma InSync.keep {h : List Event} {s t : Watch} (inv : InSync load h s) {e : Event}
    (pending : t.pending = s.pending) (settled : Settled load h s → Settled load (e :: h) t) :
    InSync load (e :: h) t := by
  rcases inv with ⟨op, member, reloads⟩ | loaded
  · exact .inl ⟨op, pending ▸ member, reloads⟩
  · exact .inr (settled loaded)

/-- A step between two sends. -/
lemma InSync.pass {h : List Event} {s t : Watch} (inv : InSync load h s) {e : Event}
    (silent : e.sent? = none) (pending : t.pending = s.pending) (read : t.read = s.read)
    (between : s.phase.between) (between' : t.phase.between) : InSync load (e :: h) t := by
  refine inv.keep pending ?_
  rw [settled_between between, settled_between between', lastSent_cons silent, read]
  exact id

/-- A harmless change. -/
lemma InSync.harmless {h : List Event} {s t : Watch} (inv : InSync load h s) {e : Event}
    {data : GoString} (harmless : Harmless load s data) (silent : e.sent? = none)
    (pending : ∀ op ∈ s.pending, op ∈ t.pending) (read : t.read = .ok data)
    (phase : t.phase = s.phase.touch) : InSync load (e :: h) t := by
  rcases inv with ⟨op, member, reloads⟩ | loaded
  · exact .inl ⟨op, pending op member, reloads⟩
  · right
    unfold Settled at loaded ⊢
    rw [phase, read, lastSent_cons silent]
    rcases harmless with starting | stopped | ⟨unread, same⟩
    · rw [starting]
      trivial
    · rw [stopped]
      trivial
    · rw [same]
      cases here : s.phase with
      | reading watched changed => exact absurd here (unread watched changed)
      | _ =>
        rw [here] at loaded
        exact loaded

/-- Every step keeps the invariant, if a change is noticed. -/
lemma step_inSync {h : List Event} {s t : Watch} {e : Event} (inv : InSync load h s)
    (noticed : Noticed load s e) (st : Step load s e t) : InSync load (e :: h) t := by
  cases st with
  | «open» _ => exact .inr rfl
  | finish read reading whole =>
    refine inv.keep rfl ?_
    intro loaded
    rw [Settled, reading] at loaded
    exact congrArg load (whole loaded)
  | @send watched msg sending =>
    refine inv.keep rfl ?_
    intro loaded
    rw [Settled, sending] at loaded
    rw [show msg = load s.read from loaded]
    cases watched <;> rfl
  | create creating => exact inv.pass rfl rfl rfl (creating ▸ trivial) trivial
  | add data adding _ => exact inv.pass rfl rfl rfl (adding ▸ trivial) trivial
  | fail phase =>
    refine inv.pass rfl rfl rfl ?_ trivial
    rcases phase with creating | adding
    · exact creating ▸ trivial
    · exact adding ▸ trivial
  | receive op rest watching waiting =>
    cases reloads : op.reloads with
    | true =>
      -- the file is about to be read
      exact .inr (by simp [Settled])
    | false =>
      rcases inv with ⟨op', member, reloads'⟩ | loaded
      · left
        rw [waiting] at member
        rcases List.mem_cons.mp member with rfl | later
        · rw [reloads] at reloads'
          cases reloads'
        · exact ⟨op', later, reloads'⟩
      · right
        rw [settled_between (watching ▸ trivial)] at loaded
        exact loaded
  | error watching => exact inv.pass rfl rfl rfl (watching ▸ trivial) (watching ▸ trivial)
  | stop _ => exact .inr trivial
  | write data =>
    rcases noticed with attached | waiting | harmless
    · -- the watch reports the write
      left
      refine ⟨.write, ?_, rfl⟩
      simp only [report, if_pos attached]
      exact List.mem_append_right _ List.mem_cons_self
    · obtain ⟨op, member, reloads⟩ := waiting
      exact .inl ⟨op, mem_report _ member, reloads⟩
    · exact inv.harmless harmless rfl (fun _ => mem_report _) rfl rfl
  | merge data _ last => exact .inl ⟨.write, List.mem_of_getLast? last, rfl⟩
  | replace data ops _ =>
    rcases noticed with waiting | harmless
    · obtain ⟨op, member, reloads⟩ := waiting
      exact .inl ⟨op, mem_report ops member, reloads⟩
    · exact inv.harmless harmless rfl (fun _ => mem_report ops) rfl rfl

/-- The invariant holds along every run whose changes are noticed. -/
lemma run_inSync {h : List Event} {s : Watch}
    (run : ((stepSystem load).restrict (Noticed load)).Run h s) : InSync load h s := by
  induction run with
  | start init =>
    right
    rw [Settled, init.1]
    trivial
  | next _ taken ih =>
    obtain ⟨st, noticed⟩ := taken
    exact step_inSync ih noticed st

/-- At rest the file is loaded. -/
lemma InSync.atRest {h : List Event} {s : Watch} (inv : InSync load h s) (rest : s.AtRest) :
    lastSent h = some (load s.read) := by
  obtain ⟨phase, empty⟩ := rest
  rcases inv with ⟨op, member, _⟩ | loaded
  · rw [empty] at member
    cases member
  · refine (settled_between ?_).mp loaded
    rcases phase with watching | blocked
    · exact watching ▸ trivial
    · exact blocked ▸ trivial

/-- No event is reported without a watch. -/
def Quiet (s : Watch) : Prop := s.phase.watches = false → s.watched = none ∧ s.pending = []

lemma touch_watches (phase : Phase) : phase.touch.watches = phase.watches := by
  cases phase <;> rfl

lemma report_unwatched {s : Watch} (unwatched : s.watched = none) (ops : List Op) :
    s.report ops = s.pending := by
  simp [report, unwatched]

lemma step_quiet {s t : Watch} {e : Event} (quiet : s.Quiet) (st : Step load s e t) : t.Quiet := by
  cases st with
  | «open» starting => exact fun _ => quiet (by rw [starting]; rfl)
  | finish _ reading _ => exact fun unwatched => quiet (by rw [reading]; exact unwatched)
  | @send watched _ sending =>
    intro unwatched
    cases watched with
    | true => cases unwatched
    | false => exact quiet (by rw [sending]; rfl)
  | create creating => exact fun _ => quiet (by rw [creating]; rfl)
  | add _ _ _ => nofun
  | fail phase =>
    refine fun _ => quiet ?_
    rcases phase with creating | adding
    · rw [creating]
      rfl
    · rw [adding]
      rfl
  | receive op rest _ _ =>
    intro unwatched
    cases reloads : op.reloads <;> simp [reloads, Phase.watches] at unwatched
  | error _ => exact quiet
  | stop _ => nofun
  | write data =>
    intro unwatched
    obtain ⟨none_watched, empty⟩ := quiet ((touch_watches _).symm.trans unwatched)
    exact ⟨none_watched, (report_unwatched none_watched _).trans empty⟩
  | merge data attached _ =>
    intro unwatched
    obtain ⟨none_watched, _⟩ := quiet ((touch_watches _).symm.trans unwatched)
    rw [none_watched] at attached
    cases attached
  | replace data ops _ =>
    intro unwatched
    obtain ⟨none_watched, empty⟩ := quiet ((touch_watches _).symm.trans unwatched)
    exact ⟨rfl, (report_unwatched none_watched _).trans empty⟩

/-- A state comes to rest, without another change of the file, with some message as the last one. -/
def ComesTo (load : Except GoString GoString → Message) (h : List Event) (t : Watch)
    (msg : Message) : Prop :=
  ∃ k u, (stepSystem load).Path t k u ∧ (∀ e ∈ k, e.changes = false) ∧ u.AtRest ∧
    u.read = t.read ∧ lastSent (k ++ h) = some msg

lemma ComesTo.step {h : List Event} {s t : Watch} {e : Event} {msg : Message} (st : Step load s e t)
    (other : e.changes = false) (read : t.read = s.read) (comes : ComesTo load (e :: h) t msg) :
    ComesTo load h s msg := by
  obtain ⟨k, u, path, others, rest, same, last⟩ := comes
  refine ⟨k ++ [e], u, (System.Path.refl.next st).trans path, ?_, rest, same.trans read, ?_⟩
  · intro e' member
    rcases List.mem_append.mp member with later | first
    · exact others e' later
    · rw [List.mem_singleton.mp first]
      exact other
  · rw [List.append_assoc]
    exact last

/-- Events that are not for a reload are handled one by one. -/
lemma comes_watching {h : List Event} {t : Watch} {msg : Message} (watching : t.phase = .watching)
    (still : ¬ t.Waiting) (last : lastSent h = some msg) : ComesTo load h t msg := by
  induction pending : t.pending generalizing h t with
  | nil => exact ⟨[], t, .refl, nofun, ⟨.inl watching, pending⟩, rfl, last⟩
  | cons op ops ih =>
    have silent : op.reloads = false := by
      by_contra reloads
      exact still ⟨op, pending ▸ List.mem_cons_self, by simpa using reloads⟩
    refine ComesTo.step (.receive op ops watching pending) rfl rfl ?_
    refine ih ?_ ?_ ((lastSent_cons rfl h).trans last) rfl
    · simp [silent]
    · rintro ⟨op', member, reloads⟩
      exact still ⟨op', pending ▸ List.mem_cons_of_mem op member, reloads⟩

lemma comes_adding {h : List Event} {t : Watch} {msg : Message} {data : GoString}
    (adding : t.phase = .adding) (read : t.read = .ok data) (still : ¬ t.Waiting)
    (last : lastSent h = some msg) : ComesTo load h t msg :=
  .step (.add data adding read) rfl rfl
    (comes_watching rfl still ((lastSent_cons rfl h).trans last))

lemma comes_creating {h : List Event} {t : Watch} {msg : Message} {data : GoString}
    (creating : t.phase = .creating) (read : t.read = .ok data) (still : ¬ t.Waiting)
    (last : lastSent h = some msg) : ComesTo load h t msg :=
  .step (.create creating) rfl rfl
    (comes_adding rfl read still ((lastSent_cons rfl h).trans last))

lemma comes_sending {h : List Event} {t : Watch} {watched : Bool} {msg : Message} {data : GoString}
    (sending : t.phase = .sending watched msg) (read : t.read = .ok data) (still : ¬ t.Waiting) :
    ComesTo load h t msg := by
  refine .step (.send sending) rfl rfl ?_
  cases watched with
  | true => exact comes_watching rfl still rfl
  | false => exact comes_creating rfl read still rfl

/-- A change that is not noticed, and after which the file loads as another message: the last message
sent may stay the old one. -/
lemma unnoticed_missed {h : List Event} {s t : Watch} {e : Event} (inv : InSync load h s)
    (quiet : s.Quiet) (st : Step load s e t) (unnoticed : ¬ Noticed load s e) :
    ComesTo load (e :: h) t (load s.read) := by
  have quiet' := step_quiet quiet st
  obtain ⟨data, read, phase, silent, still, still', begun, going⟩ :
      ∃ data, t.read = .ok data ∧ t.phase = s.phase.touch ∧ e.sent? = none ∧ ¬ s.Waiting ∧
        ¬ t.Waiting ∧ s.phase ≠ .starting ∧ s.phase ≠ .stopped := by
    cases st with
    | write data =>
      simp only [Noticed, Harmless, not_or] at unnoticed
      obtain ⟨detached, still, begun, going, _⟩ := unnoticed
      refine ⟨data, rfl, rfl, rfl, still, ?_, begun, going⟩
      simpa only [Waiting, report, if_neg detached] using still
    | merge data attached _ => exact absurd (.inl attached) unnoticed
    | replace data ops silent =>
      simp only [Noticed, Harmless, not_or] at unnoticed
      obtain ⟨still, begun, going, _⟩ := unnoticed
      refine ⟨data, rfl, rfl, rfl, still, ?_, begun, going⟩
      rintro ⟨op, member, reloads⟩
      simp only [report] at member
      split at member
      · rcases List.mem_append.mp member with old | new
        · exact still ⟨op, old, reloads⟩
        · rw [silent op new] at reloads
          cases reloads
      · exact still ⟨op, member, reloads⟩
    | _ => exact absurd trivial unnoticed
  have loaded := inv.resolve_left still
  rw [Settled] at loaded
  have last : ∀ {m}, lastSent h = some m → lastSent (e :: h) = some m := by
    intro m sent
    rw [lastSent_cons silent, sent]
  cases here : s.phase with
  | starting => exact absurd here begun
  | stopped => exact absurd here going
  | reading watched changed =>
    -- the read may still see the old content
    rw [here] at phase
    refine .step (.finish s.read phase nofun) rfl rfl ?_
    exact comes_sending rfl read still'
  | sending watched msg =>
    rw [here] at phase loaded
    rw [← show msg = load s.read from loaded]
    exact comes_sending phase read still'
  | creating =>
    rw [here] at phase loaded
    exact comes_creating phase read still' (last loaded)
  | adding =>
    rw [here] at phase loaded
    exact comes_adding phase read still' (last loaded)
  | watching =>
    rw [here] at phase loaded
    exact comes_watching phase still' (last loaded)
  | blocked =>
    rw [here] at phase loaded
    have empty := (quiet' (by rw [phase]; rfl)).2
    exact ⟨[], t, .refl, nofun, ⟨.inr phase, empty⟩, rfl, last loaded⟩

lemma run_quiet {h : List Event} {s : Watch}
    (run : ((stepSystem load).restrict (Noticed load)).Run h s) : s.Quiet := by
  induction run with
  | start init => exact fun _ => init.2
  | next _ taken ih => exact step_quiet ih taken.1

/-- Along every run in which each change of the file is made in place while the watch is on it, or
while an event waits for which the file will be reloaded, or is harmless: once every event is
handled, the last message sent is what the file loads as. After any other change to a file that
loads differently, the provider may handle every event and rest with another message. -/
theorem reload_quiescent {υ : Type} [Url υ] {f : FileProvider} {pkg : Packages} {h : List Event}
    {s : Watch} (run : ((system υ f pkg).restrict (Noticed (f.loadFile υ pkg))).Run h s) :
    (s.AtRest → lastSent h = some (f.loadFile υ pkg s.read)) ∧
    ∀ e t, (system υ f pkg).step s e t → ¬ Noticed (f.loadFile υ pkg) s e →
      f.loadFile υ pkg t.read ≠ f.loadFile υ pkg s.read →
      ∃ k u, (system υ f pkg).Path t k u ∧ (∀ e' ∈ k, e'.changes = false) ∧ u.AtRest ∧
        lastSent (k ++ e :: h) ≠ some (f.loadFile υ pkg u.read) := by
  have inv := run_inSync run
  refine ⟨inv.atRest, ?_⟩
  intro e t st unnoticed differs
  obtain ⟨k, u, path, others, rest, same, last⟩ :=
    unnoticed_missed inv (run_quiet run) st unnoticed
  refine ⟨k, u, path, others, rest, ?_⟩
  rw [last, same]
  exact fun loaded => differs (Option.some.inj loaded).symm

/-- A routes file without routes. -/
def oldFile : GoString := lit "routes: []\n"

/-- A routes file with one route. -/
def newFile : GoString := lit "routes:\n  - host: a.lvh.me\n    target: http://b.lvh.me\n"

/-- A scalar node. -/
def scalar (value : String) : Node := .node .scalar (lit value) []

/-- The node of a document with some routes. -/
def routesNode (routes : List Node) : Node :=
  .node .document [] [.node .mapping [] [scalar "routes", .node .sequence [] routes]]

/-- What the packages say about the two files. -/
def examplePackages : Packages where
  unmarshal data :=
    if data = oldFile then .ok (routesNode [])
    else if data = newFile then
      .ok (routesNode [.node .mapping [] [scalar "host", scalar "a.lvh.me", scalar "target",
        scalar "http://b.lvh.me"]])
    else .error (lit "yaml: line 1: did not find expected node content")
  decode
    | .node _ _ [.node _ _ [_, .node _ _ [.node _ _ [_, host, _, target]]]] =>
      .ok { routes := [{ host := host.value, target := .string target.value }] }
    | _ => .ok {}
  quote s := lit "\"" ++ s ++ lit "\""

/-- The provider that loads the two files. -/
def exampleProvider : FileProvider where
  hostAddress := lit "127.0.0.1"

/-- A file that no provider has loaded yet. -/
def unloaded (data : GoString) : Watch where
  inode := 0
  read := .ok data
  watched := none
  pending := []
  phase := .starting

/-- The steps up to the `select`, without a change of the file. -/
lemma watching_path (data : GoString) :
    ((stepSystem load).restrict (Noticed load)).Path (unloaded data)
      [.added, .created, .sent (load (.ok data)), .finished, .opened]
      { unloaded data with watched := some 0, phase := .watching } := by
  have path := System.Path.refl (M := (stepSystem load).restrict (Noticed load)) (s := unloaded data)
  have path := path.next ⟨.open rfl, trivial⟩
  have path := path.next ⟨.finish _ rfl fun _ => rfl, trivial⟩
  have path := path.next ⟨.send rfl, trivial⟩
  have path := path.next ⟨.create rfl, trivial⟩
  exact path.next ⟨.add data rfl rfl, trivial⟩

/-- A file that was renamed over the path is never loaded. -/
theorem replacement_missed : ¬ ∀ (f : FileProvider) (pkg : Packages) (h : List Event) (s : Watch),
    (system Origin f pkg).Run h s → s.AtRest → lastSent h = some (f.loadFile Origin pkg s.read) := by
  intro latest
  have run := System.Run.start (M := system Origin exampleProvider examplePackages)
    (s := unloaded oldFile) ⟨rfl, rfl, rfl⟩
  have run := run.append (watching_path oldFile).of_restrict
  have run := run.next (.replace newFile [.chmod, .remove] (by decide))
  have run := run.next (.receive .chmod [.remove] rfl rfl)
  have run := run.next (.receive .remove [] rfl rfl)
  have last := Option.some.inj (latest _ _ _ _ run ⟨.inl rfl, rfl⟩)
  have routes : (exampleProvider.loadFile Origin examplePackages (.ok oldFile)).routes =
      (exampleProvider.loadFile Origin examplePackages (.ok newFile)).routes :=
    congrArg Message.routes last
  exact absurd routes (by decide)

theorem reload_quiescent_written :
    ∃ h, ∃ s : Watch, s.read = .ok newFile ∧
      lastSent h = some (exampleProvider.loadFile Origin examplePackages s.read) ∧
      (exampleProvider.loadFile Origin examplePackages s.read).err = none := by
  have run := System.Run.start (M := (system Origin exampleProvider examplePackages).restrict
    (Noticed (exampleProvider.loadFile Origin examplePackages))) (s := unloaded oldFile)
    ⟨rfl, rfl, rfl⟩
  have run := run.append (watching_path oldFile)
  have run := run.next ⟨.write newFile, .inl rfl⟩
  have run := run.next ⟨.receive .write [] rfl rfl, trivial⟩
  have run := run.next ⟨.finish (.ok newFile) rfl fun _ => rfl, trivial⟩
  have run := run.next ⟨.send rfl, trivial⟩
  refine ⟨_, _, ?_, (reload_quiescent run).1 ⟨.inl rfl, rfl⟩, ?_⟩
  · rfl
  · decide

end Watch
end Pintle.File
