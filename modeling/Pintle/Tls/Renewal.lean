import Pintle.Lib.Progress
import Pintle.Tls.Reading

/-!
# Certificates that change while they are read

The certificates in use over whole runs of the two goroutines that read the certs directory, with
changes of the directory anywhere between their system calls. A renewal writes two files, and a
reload may come between them: HTTPS keeps the certificate it has until the two files load, TCP
termination is given what there is. A reload that begins after the last change ends in the state of
`Terminators.reload`, in which the directory is read at once (`certificates_follow`).
-/

namespace Pintle
open Go Lib

/-- What the directory holds after a history. -/
def contents : List CertEvent → CertsDir
  | [] => none
  | .changed dir :: _ => dir
  | _ :: h => contents h

/-- Both files of a domain were read, the certificate first, and each was there at the time. -/
def ReadDuring (h : List CertEvent) (raw : RawCert) : Prop :=
  ∃ before after, before <:+ after ∧ after <:+ h ∧
    (contents before).readFile (certFile raw.domain) = some raw.cert ∧
    (contents after).readFile (keyFile raw.domain) = some raw.key

lemma ReadDuring.cons {h : List CertEvent} {raw : RawCert} (read : ReadDuring h raw)
    (e : CertEvent) : ReadDuring (e :: h) raw := by
  obtain ⟨before, after, earlier, inside, cert, key⟩ := read
  exact ⟨before, after, earlier, inside.trans (List.suffix_cons ..), cert, key⟩

/-- The certificate that waits for its key was read. -/
def CertScan.Sound (h : List CertEvent) : CertScan → Prop
  | readingKey domain cert _ =>
    ∃ before, before <:+ h ∧ (contents before).readFile (certFile domain) = some cert
  | _ => True

namespace CertScan

lemma Sound.cons {h : List CertEvent} {scan : CertScan} (sound : scan.Sound h) (e : CertEvent) :
    scan.Sound (e :: h) := by
  cases scan with
  | readingKey domain cert domains =>
    obtain ⟨before, inside, read⟩ := sound
    exact ⟨before, inside.trans (List.suffix_cons ..), read⟩
  | _ => trivial

/-- What a system call reads is what the directory holds. -/
lemma Sound.next {h : List CertEvent} {scan scan' : CertScan} {raw : Option RawCert}
    (sound : scan.Sound h) (step : scan.next (contents h) = some (scan', raw)) :
    scan'.Sound h ∧ ∀ r ∈ raw, ReadDuring h r := by
  cases scan with
  | opening =>
    cases listed : contents h with
    | none =>
      rw [listed] at step
      cases step
      exact ⟨trivial, nofun⟩
    | some files =>
      rw [listed] at step
      cases step
      exact ⟨trivial, nofun⟩
  | statting names domains =>
    cases names with
    | nil =>
      cases step
      exact ⟨trivial, nofun⟩
    | cons name names =>
      cases step
      exact ⟨trivial, nofun⟩
  | reading domains =>
    cases domains with
    | nil => cases step
    | cons domain domains =>
      rw [CertScan.next] at step
      split at step
      · cases step
        exact ⟨trivial, nofun⟩
      · rename_i cert read
        cases step
        exact ⟨⟨h, List.suffix_rfl, read⟩, nofun⟩
  | readingKey domain cert domains =>
    cases step
    obtain ⟨before, inside, read⟩ := sound
    refine ⟨trivial, fun r member => ?_⟩
    obtain ⟨key, found, rfl⟩ := Option.map_eq_some_iff.mp member
    exact ⟨before, h, inside, List.suffix_rfl, read, found⟩

end CertScan

section
variable {κ : Type} (keyPair : List UInt8 → List UInt8 → Option κ)

/-- Every certificate was read, and loads. -/
def AllLoad (h : List CertEvent) (certs : GoMap GoString κ) : Prop :=
  ∀ domain cert, certs.lookup domain = some cert →
    ∃ raw, raw.domain = domain ∧ ReadDuring h raw ∧ keyPair raw.cert raw.key = some cert

/-- What a call has so far was read. -/
def CertCall.Sound (h : List CertEvent) : CertCall κ → Prop
  | loading scan certs => scan.Sound h ∧ AllLoad keyPair h certs
  | listing scan certs => scan.Sound h ∧ ∀ raw ∈ certs, ReadDuring h raw
  | _ => True

/-- What was loaded stays loaded when the call ends. -/
def CertCall.Keeps (m : Manager κ) : CertCall κ → Prop
  | loading _ certs =>
    ∀ domain, (m.certs.lookup domain).isSome = true → (certs.lookup domain).isSome = true
  | _ => True

/-- What holds in every state of a run. -/
structure CertRun.Sound (h : List CertEvent) (s : CertRun κ) : Prop where
  dir : s.dir = contents h
  manager : AllLoad keyPair h s.served.manager.certs
  tcpRouter : ∀ cert ∈ s.served.tcpRouter.certs, ∃ raw, ReadDuring h raw ∧ raw.toTCPCert = cert
  main : s.main.Sound keyPair h
  work : s.work.Sound keyPair h
  main_keeps : s.main.Keeps s.served.manager
  work_keeps : s.work.Keeps s.served.manager
  alone : s.main.isLoading = true → s.work = .waiting
  going : s.work.isReturned = false

variable {keyPair} {h : List CertEvent}

lemma AllLoad.cons {certs : GoMap GoString κ} (accepted : AllLoad keyPair h certs)
    (e : CertEvent) : AllLoad keyPair (e :: h) certs := by
  intro domain cert stored
  obtain ⟨raw, named, read, pair⟩ := accepted domain cert stored
  exact ⟨raw, named, read.cons e, pair⟩

lemma AllLoad.load {certs : GoMap GoString κ} (accepted : AllLoad keyPair h certs)
    {raw : RawCert} (read : ReadDuring h raw) :
    AllLoad keyPair h (RawCert.load keyPair certs raw) := by
  intro domain cert stored
  rw [RawCert.load] at stored
  split at stored
  · exact accepted domain cert stored
  · rename_i loaded pair
    by_cases here : domain = raw.domain
    · subst here
      rw [AList.lookup_insert] at stored
      exact ⟨raw, rfl, read, pair.trans stored⟩
    · rw [AList.lookup_insert_ne here] at stored
      exact accepted domain cert stored

lemma CertCall.Sound.cons {call : CertCall κ} (sound : call.Sound keyPair h) (e : CertEvent) :
    call.Sound keyPair (e :: h) := by
  cases call with
  | waiting => trivial
  | loading scan certs => exact ⟨sound.1.cons e, sound.2.cons e⟩
  | listing scan certs => exact ⟨sound.1.cons e, fun raw member => (sound.2 raw member).cons e⟩
  | returned => trivial

/-- A system call inside a call. -/
lemma CertCall.Sound.read {call call' : CertCall κ} (sound : call.Sound keyPair h)
    (step : call.read keyPair (contents h) = some call') : call'.Sound keyPair h := by
  cases call with
  | waiting => cases step
  | loading scan certs =>
    obtain ⟨⟨scan', raw⟩, next, rfl⟩ := Option.map_eq_some_iff.mp step
    obtain ⟨scanning, read⟩ := sound.1.next next
    refine ⟨scanning, ?_⟩
    cases raw with
    | none => exact sound.2
    | some raw => exact sound.2.load (read raw rfl)
  | listing scan certs =>
    obtain ⟨⟨scan', raw⟩, next, rfl⟩ := Option.map_eq_some_iff.mp step
    obtain ⟨scanning, read⟩ := sound.1.next next
    refine ⟨scanning, fun r member => ?_⟩
    rcases List.mem_append.mp member with earlier | last
    · exact sound.2 r earlier
    · exact read r (Option.mem_toList.mp last)
  | returned => cases step

lemma CertCall.Keeps.read {m : Manager κ} {dir : CertsDir} {call call' : CertCall κ}
    (keeps : call.Keeps m) (step : call.read keyPair dir = some call') : call'.Keeps m := by
  cases call with
  | waiting => cases step
  | loading scan certs =>
    obtain ⟨⟨scan', raw⟩, next, rfl⟩ := Option.map_eq_some_iff.mp step
    intro domain loaded
    rw [RawCert.loads_lookup, Option.isSome_or, keeps domain loaded, Bool.or_true]
  | listing scan certs =>
    obtain ⟨⟨scan', raw⟩, next, rfl⟩ := Option.map_eq_some_iff.mp step
    trivial
  | returned => cases step

/-- A system call does not end a call. -/
lemma CertCall.read_same {dir : CertsDir} {call call' : CertCall κ}
    (step : call.read keyPair dir = some call') :
    call'.isLoading = call.isLoading ∧ call'.isReturned = call.isReturned := by
  cases call with
  | waiting => cases step
  | loading scan certs =>
    obtain ⟨_, _, rfl⟩ := Option.map_eq_some_iff.mp step
    exact ⟨rfl, rfl⟩
  | listing scan certs =>
    obtain ⟨_, _, rfl⟩ := Option.map_eq_some_iff.mp step
    exact ⟨rfl, rfl⟩
  | returned => cases step

lemma CertCall.read_busy {dir : CertsDir} {call call' : CertCall κ}
    (step : call.read keyPair dir = some call') : call' ≠ .waiting := by
  rintro rfl
  cases call with
  | waiting => cases step
  | loading scan certs =>
    obtain ⟨_, _, same⟩ := Option.map_eq_some_iff.mp step
    cases same
  | listing scan certs =>
    obtain ⟨_, _, same⟩ := Option.map_eq_some_iff.mp step
    cases same
  | returned => cases step

/-- Outside `LoadCerts` there is nothing to keep. -/
lemma CertCall.Keeps.outside {m : Manager κ} {call : CertCall κ}
    (outside : call.isLoading = false) : call.Keeps m := by
  cases call with
  | loading scan certs => cases outside
  | waiting => trivial
  | listing scan certs => trivial
  | returned => trivial

namespace CertRun
variable {staticOnly : Bool} {s t : CertRun κ} {e : CertEvent}

/-- What `GetRawCerts` has read is what it hands to the TCP router. -/
lemma listed_read {scan : CertScan} {certs : List RawCert}
    (call : (CertCall.listing (κ := κ) scan certs).Sound keyPair h) (e : CertEvent) :
    ∀ cert ∈ certs.map RawCert.toTCPCert,
      ∃ raw, ReadDuring (e :: h) raw ∧ raw.toTCPCert = cert := by
  intro cert member
  obtain ⟨raw, read, rfl⟩ := List.mem_map.mp member
  exact ⟨raw, (call.2 raw read).cons e, rfl⟩

lemma Sound.main_outside (sound : s.Sound keyPair h) (busy : s.work ≠ .waiting) :
    s.main.isLoading = false := by
  cases loading : s.main.isLoading with
  | true => exact absurd (sound.alone loading) busy
  | false => rfl

/-- What happens later takes nothing back. -/
lemma Sound.later (sound : s.Sound keyPair h) (e : CertEvent) {dir : CertsDir}
    (same : dir = contents (e :: h)) : ({ s with dir } : CertRun κ).Sound keyPair (e :: h) := by
  refine { sound with
    dir := same
    manager := sound.manager.cons e
    tcpRouter := ?_
    main := sound.main.cons e
    work := sound.work.cons e }
  intro cert member
  obtain ⟨raw, read, rfl⟩ := sound.tcpRouter cert member
  exact ⟨raw, read.cons e, rfl⟩

lemma Sound.step (sound : s.Sound keyPair h) (st : Step keyPair staticOnly s e t) :
    t.Sound keyPair (e :: h) := by
  cases st with
  | change dir => exact sound.later _ rfl
  | mainRead call read =>
    have later := sound.later .mainRead sound.dir
    have same := CertCall.read_same read
    have reads := read
    rw [sound.dir] at reads
    exact { later with
      main := (sound.main.read reads).cons _
      main_keeps := sound.main_keeps.read read
      alone := fun loading => sound.alone (same.1 ▸ loading) }
  | mainLoaded scan certs loading done =>
    have later := sound.later .mainLoaded sound.dir
    have call := sound.main
    rw [loading] at call
    have waiting := sound.alone (by rw [loading]; rfl)
    have ended : (if staticOnly then .returned else .waiting : CertCall κ).isLoading = false := by
      cases staticOnly <;> rfl
    refine { later with
      manager := call.2.cons _
      main := ?_
      main_keeps := .outside ended
      work_keeps := .outside (by rw [waiting]; rfl)
      alone := fun _ => waiting }
    cases staticOnly <;> trivial
  | mainBegan waiting =>
    have later := sound.later .mainBegan sound.dir
    exact { later with
      main := ⟨trivial, List.forall_mem_nil _⟩
      main_keeps := trivial
      alone := fun loading => by cases loading }
  | mainListed scan certs listing done =>
    have later := sound.later .mainListed sound.dir
    have call := sound.main
    rw [listing] at call
    exact { later with
      tcpRouter := listed_read call _
      main := trivial
      main_keeps := trivial
      alone := fun loading => by cases loading }
  | began waiting apart =>
    have later := sound.later .began sound.dir
    exact { later with
      work := ⟨trivial, later.manager⟩
      work_keeps := fun _ => id
      alone := fun loading => by rw [apart] at loading; cases loading
      going := rfl }
  | read call read =>
    have later := sound.later .read sound.dir
    have same := CertCall.read_same read
    have reads := read
    rw [sound.dir] at reads
    refine { later with
      work := (sound.work.read reads).cons _
      work_keeps := sound.work_keeps.read read
      alone := ?_
      going := same.2.trans sound.going }
    intro loading
    rw [sound.alone loading] at read
    cases read
  | loaded scan certs loading done =>
    have later := sound.later .loaded sound.dir
    have call := sound.work
    rw [loading] at call
    have apart := sound.main_outside (by rw [loading]; intro same; cases same)
    have ended : (if staticOnly then .waiting else .listing .opening [] : CertCall κ).isLoading =
        false := by
      cases staticOnly <;> rfl
    refine { later with
      manager := call.2.cons _
      work := ?_
      main_keeps := .outside apart
      work_keeps := .outside ended
      alone := fun loading => by rw [apart] at loading; cases loading
      going := by cases staticOnly <;> rfl }
    cases staticOnly
    · exact ⟨trivial, List.forall_mem_nil _⟩
    · trivial
  | listed scan certs listing done =>
    have later := sound.later .listed sound.dir
    have call := sound.work
    rw [listing] at call
    exact { later with
      tcpRouter := listed_read call _
      work := trivial
      work_keeps := trivial
      alone := fun _ => rfl
      going := rfl }

lemma run_sound (run : (system keyPair staticOnly).Run h s) : s.Sound keyPair h := by
  induction run with
  | start ini =>
    cases ini
    have none_yet : AllLoad keyPair [] (∅ : GoMap GoString κ) := by
      intro domain cert stored
      cases stored
    exact {
      dir := rfl
      manager := none_yet
      tcpRouter := List.forall_mem_nil _
      main := ⟨trivial, none_yet⟩
      work := trivial
      main_keeps := fun _ => id
      work_keeps := trivial
      alone := fun _ => rfl
      going := rfl }
  | next _ st ih => exact ih.step st

/-- A domain that has a certificate keeps one. -/
lemma Sound.kept (sound : s.Sound keyPair h) (st : Step keyPair staticOnly s e t)
    {domain : GoString} (loaded : (s.served.manager.certs.lookup domain).isSome = true) :
    (t.served.manager.certs.lookup domain).isSome = true := by
  cases st with
  | mainLoaded scan certs loading done =>
    have keeps := sound.main_keeps
    rw [loading] at keeps
    exact keeps domain loaded
  | loaded scan certs loading done =>
    have keeps := sound.work_keeps
    rw [loading] at keeps
    exact keeps domain loaded
  | _ => exact loaded

lemma path_kept (run : (system keyPair staticOnly).Run h s) {k : List CertEvent}
    (path : (system keyPair staticOnly).Path s k t) {domain : GoString}
    (loaded : (s.served.manager.certs.lookup domain).isSome = true) :
    (t.served.manager.certs.lookup domain).isSome = true := by
  induction path with
  | refl => exact loaded
  | next path st ih => exact (run_sound (run.append path)).kept st ih

/-- What a reload of the directory of a state leads to from there. -/
def renewed (keyPair : List UInt8 → List UInt8 → Option κ) (s : CertRun κ) (domain : GoString) :
    Option κ :=
  (RawCert.latest keyPair (getRawCerts s.dir) domain).or (s.served.manager.certs.lookup domain)

/-- The files in a state's directory, or those that the main goroutine began to read before. -/
def Lists (s : CertRun κ) (raws : List RawCert) : Prop :=
  raws = getRawCerts s.dir ∨
    ∃ scan certs, s.main = .listing scan certs ∧ raws = certs ++ scan.rest s.dir

/-- The files that a call of the applying goroutine has read are those of the directory. -/
def CallSettles (keyPair : List UInt8 → List UInt8 → Option κ) (s t : CertRun κ) :
    CertCall κ → Prop
  | .loading scan certs => ∀ domain,
    (RawCert.latest keyPair (scan.rest s.dir) domain).or (certs.lookup domain) =
      s.renewed keyPair domain
  | .listing scan certs =>
    (∀ domain, t.served.manager.certs.lookup domain = s.renewed keyPair domain) ∧
      certs ++ scan.rest s.dir = getRawCerts s.dir
  | _ => True

/-- What holds while the directory does not change. -/
structure Settling (keyPair : List UInt8 → List UInt8 → Option κ) (staticOnly : Bool)
    (s : CertRun κ) (k : List CertEvent) (t : CertRun κ) : Prop where
  dir : t.dir = s.dir
  manager : ∀ domain, t.served.manager.certs.lookup domain = s.served.manager.certs.lookup domain ∨
    t.served.manager.certs.lookup domain = s.renewed keyPair domain
  main : ∀ scan certs, t.main = .listing scan certs → s.Lists (certs ++ scan.rest s.dir)
  outside : t.main.isLoading = false
  work : CallSettles keyPair s t t.work
  tcpRouter : t.served.tcpRouter.certs = s.served.tcpRouter.certs ∨
    ∃ raws, s.Lists raws ∧ t.served.tcpRouter.certs = raws.map RawCert.toTCPCert
  ended : t.work = .waiting → .began ∈ k →
    (∀ domain, t.served.manager.certs.lookup domain = s.renewed keyPair domain) ∧
      (staticOnly = false →
        ∃ raws, s.Lists raws ∧ t.served.tcpRouter.certs = raws.map RawCert.toTCPCert)

/-- A call that goes on reads what was left to read. -/
lemma CallSettles.read {u v : CertRun κ} {call call' : CertCall κ}
    (settles : CallSettles keyPair s u call) (step : call.read keyPair s.dir = some call')
    (same : v.served = u.served) : CallSettles keyPair s v call' := by
  cases call with
  | waiting => cases step
  | loading scan certs =>
    obtain ⟨⟨scan', raw⟩, next, rfl⟩ := Option.map_eq_some_iff.mp step
    intro domain
    rw [RawCert.loads_lookup, ← Option.or_assoc, ← RawCert.latest_append, ← CertScan.rest_next next]
    exact settles domain
  | listing scan certs =>
    obtain ⟨⟨scan', raw⟩, next, rfl⟩ := Option.map_eq_some_iff.mp step
    refine ⟨fun domain => by rw [same]; exact settles.1 domain, ?_⟩
    rw [List.append_assoc, ← CertScan.rest_next next]
    exact settles.2
  | returned => cases step

lemma Settling.step {k : List CertEvent} (settling : Settling keyPair staticOnly s k t)
    {u : CertRun κ} (st : Step keyPair staticOnly t e u) (quiet : ∀ dir, e ≠ .changed dir) :
    Settling keyPair staticOnly s (e :: k) u := by
  have outside := settling.outside
  have dir := settling.dir
  have earlier (other : e ≠ .began) (begun : .began ∈ e :: k) : .began ∈ k :=
    (List.mem_cons.mp begun).resolve_left other.symm
  cases st with
  | change dir => exact absurd rfl (quiet dir)
  | mainRead call read =>
    have same := CertCall.read_same read
    refine { settling with
      main := ?_
      outside := same.1.trans outside
      ended := fun waiting begun => settling.ended waiting (earlier (by intro h; cases h) begun) }
    intro scan' certs' listing
    subst listing
    cases before : t.main with
    | waiting =>
      rw [before] at read
      cases read
    | loading scan certs =>
      rw [before] at outside
      cases outside
    | listing scan certs =>
      rw [before] at read
      obtain ⟨⟨scan'', raw⟩, next, here⟩ := Option.map_eq_some_iff.mp read
      cases here
      rw [dir] at next
      rw [List.append_assoc, ← CertScan.rest_next next]
      exact settling.main scan certs before
    | returned =>
      rw [before] at read
      cases read
  | mainLoaded scan certs loading done =>
    rw [loading] at outside
    cases outside
  | mainBegan waiting =>
    refine { settling with
      main := ?_
      outside := rfl
      ended := fun waiting begun => settling.ended waiting (earlier (by intro h; cases h) begun) }
    intro scan certs listing
    cases listing
    exact .inl rfl
  | mainListed scan certs listing done =>
    have lists := settling.main scan certs listing
    rw [dir] at done
    rw [CertScan.rest_done done, List.append_nil] at lists
    have stored : ∃ raws, s.Lists raws ∧ certs.map RawCert.toTCPCert = raws.map RawCert.toTCPCert :=
      ⟨certs, lists, rfl⟩
    exact { settling with
      main := fun scan certs listing => by cases listing
      outside := rfl
      tcpRouter := .inr stored
      ended := fun waiting begun =>
        ⟨(settling.ended waiting (earlier (by intro h; cases h) begun)).1, fun _ => stored⟩ }
  | began waiting apart =>
    refine { settling with
      work := ?_
      ended := fun waiting => by cases waiting }
    intro domain
    rcases settling.manager domain with same | same
    · rw [same]
      rfl
    · show (RawCert.latest keyPair (getRawCerts s.dir) domain).or _ = _
      rw [same, renewed, ← Option.or_assoc, Option.or_self]
  | read call read =>
    rw [dir] at read
    exact { settling with
      work := settling.work.read read rfl
      ended := fun waiting => absurd waiting (CertCall.read_busy read) }
  | loaded scan certs loading done =>
    have work := settling.work
    rw [loading] at work
    rw [dir] at done
    have published (domain) : certs.lookup domain = s.renewed keyPair domain := by
      rw [← work domain, CertScan.rest_done done, RawCert.latest_nil, Option.none_or]
    refine { settling with
      manager := fun domain => .inr (published domain)
      work := ?_
      ended := ?_ }
    · cases staticOnly with
      | true => trivial
      | false => exact ⟨published, rfl⟩
    · intro waiting _
      cases staticOnly with
      | true => exact ⟨published, fun on => by cases on⟩
      | false => cases waiting
  | listed scan certs listing done =>
    have work := settling.work
    rw [listing] at work
    rw [dir] at done
    have whole : certs = getRawCerts s.dir := by
      rw [← work.2, CertScan.rest_done done, List.append_nil]
    have stored : ∃ raws, s.Lists raws ∧ certs.map RawCert.toTCPCert = raws.map RawCert.toTCPCert :=
      ⟨certs, .inl whole, rfl⟩
    exact { settling with
      work := trivial
      tcpRouter := .inr stored
      ended := fun _ _ => ⟨work.1, fun _ => stored⟩ }

lemma path_settling {k : List CertEvent} (path : (system keyPair staticOnly).Path s k t)
    (quiet : ∀ dir, .changed dir ∉ k) (waiting : s.work = .waiting)
    (outside : s.main.isLoading = false) : Settling keyPair staticOnly s k t := by
  induction path with
  | refl =>
    exact {
      dir := rfl
      manager := fun _ => .inl rfl
      main := fun scan certs listing => .inr ⟨scan, certs, listing, rfl⟩
      outside := outside
      work := by rw [waiting]; trivial
      tcpRouter := .inl rfl
      ended := fun _ begun => by cases begun }
  | next path st ih =>
    have before := ih fun dir member => quiet dir (List.mem_cons_of_mem _ member)
    exact before.step st fun dir same => quiet dir (same ▸ List.mem_cons_self)

lemma reload_lookup (s : CertRun κ) (domain : GoString) :
    (s.served.reload keyPair s.dir).manager.certs.lookup domain = s.renewed keyPair domain := by
  rw [Terminators.reload, RawCert.loadCerts_eq, RawCert.loads_lookup]
  rfl

end CertRun
end

/-- Whether an event is a step inside a call. -/
def CertEvent.own : CertEvent → Bool
  | changed _ => false
  | began => false
  | _ => true

/-- The number of files in the directory. -/
def CertsDir.size (dir : CertsDir) : Nat := (dir.map fun files => files.keys.length).getD 0

/-- The system calls that are left, at most. -/
def CertScan.left (dir : CertsDir) : CertScan → Nat
  | opening => 3 * dir.size + 3
  | statting names domains => 3 * names.length + 2 * domains.length + 2
  | reading domains => 2 * domains.length + 1
  | readingKey _ _ domains => 2 * domains.length + 2

lemma CertScan.left_next {dir : CertsDir} {scan scan' : CertScan} {raw : Option RawCert}
    (step : scan.next dir = some (scan', raw)) : scan'.left dir < scan.left dir := by
  cases scan with
  | opening =>
    cases dir with
    | none =>
      cases step
      exact Nat.lt_of_lt_of_le (by decide : 1 < 3) (Nat.le_add_left _ _)
    | some files =>
      cases step
      exact Nat.lt_succ_self _
  | statting names domains =>
    cases names with
    | nil =>
      cases step
      simp only [left, List.length_insertionSort, List.length_nil]
      omega
    | cons name names =>
      cases step
      have one : (dir.discover name).toList.length ≤ 1 := Option.length_toList_le
      simp only [left, List.length_append, List.length_cons]
      omega
  | reading domains =>
    cases domains with
    | nil => cases step
    | cons domain domains =>
      rw [next] at step
      split at step
      · cases step
        simp only [left, List.length_cons]
        omega
      · cases step
        simp only [left, List.length_cons]
        omega
  | readingKey domain cert domains =>
    cases step
    exact Nat.lt_succ_self _

namespace CertCall
variable {κ : Type}

/-- The steps that are left of a goroutine, with those to come after it waits. -/
def left (dir : CertsDir) (idle : Nat) : CertCall κ → Nat
  | waiting => idle
  | loading scan _ => scan.left dir + (3 * dir.size + 5)
  | listing scan _ => scan.left dir
  | returned => 0

lemma left_read {keyPair : List UInt8 → List UInt8 → Option κ} {dir : CertsDir}
    {call call' : CertCall κ} (step : call.read keyPair dir = some call') (idle : Nat) :
    call'.left dir idle < call.left dir idle := by
  cases call with
  | waiting => cases step
  | loading scan certs =>
    obtain ⟨⟨scan', raw⟩, next, rfl⟩ := Option.map_eq_some_iff.mp step
    exact Nat.add_lt_add_right (CertScan.left_next next) _
  | listing scan certs =>
    obtain ⟨⟨scan', raw⟩, next, rfl⟩ := Option.map_eq_some_iff.mp step
    exact CertScan.left_next next
  | returned => cases step

end CertCall

namespace CertRun
variable {κ : Type} {keyPair : List UInt8 → List UInt8 → Option κ} {staticOnly : Bool}
  {h : List CertEvent} {s t : CertRun κ}

/-- The steps that are left of both goroutines. -/
def left (s : CertRun κ) : Nat := s.main.left s.dir (3 * s.dir.size + 4) + s.work.left s.dir 0

lemma scan_left (dir : CertsDir) (scan : CertScan) : 0 < scan.left dir := by
  cases scan <;> exact Nat.succ_pos _

lemma step_left {e : CertEvent} (st : Step keyPair staticOnly s e t) (own : e.own = true) :
    t.left < s.left := by
  cases st with
  | change dir => cases own
  | mainRead call read => exact Nat.add_lt_add_right (CertCall.left_read read _) _
  | mainLoaded scan certs loading done =>
    rw [left, left, loading]
    refine Nat.add_lt_add_right ?_ _
    cases staticOnly
    · exact Nat.lt_add_left _ (Nat.lt_succ_self _)
    · exact Nat.add_pos_right _ (Nat.succ_pos _)
  | mainBegan waiting =>
    rw [left, left, waiting]
    exact Nat.add_lt_add_right (Nat.lt_succ_self _) _
  | mainListed scan certs listing done =>
    rw [left, left, listing]
    exact Nat.add_lt_add_right (scan_left s.dir scan) _
  | began waiting apart => cases own
  | read call read => exact Nat.add_lt_add_left (CertCall.left_read read _) _
  | loaded scan certs loading done =>
    rw [left, left, loading]
    refine Nat.add_lt_add_left ?_ _
    cases staticOnly
    · exact Nat.lt_add_left _ (Nat.add_lt_add_left (by decide : 3 < 5) _)
    · exact Nat.add_pos_right _ (Nat.succ_pos _)
  | listed scan certs listing done =>
    rw [left, left, listing]
    exact Nat.add_lt_add_left (scan_left s.dir scan) _

/-- Where no step inside a call is possible, no call is under way. -/
lemma Sound.stuck (sound : s.Sound keyPair h)
    (stuck : ∀ e t, e.own = true → ¬ Step keyPair staticOnly s e t) :
    s.main = .returned ∧ s.work = .waiting := by
  constructor
  · have blocked : s.main.read keyPair s.dir = none := by
      cases read : s.main.read keyPair s.dir with
      | none => rfl
      | some call => exact absurd (.mainRead call read) (stuck .mainRead _ rfl)
    cases main : s.main with
    | waiting => exact absurd (.mainBegan main) (stuck .mainBegan _ rfl)
    | loading scan certs =>
      rw [main] at blocked
      exact absurd (.mainLoaded scan certs main (Option.map_eq_none_iff.mp blocked))
        (stuck .mainLoaded _ rfl)
    | listing scan certs =>
      rw [main] at blocked
      exact absurd (.mainListed scan certs main (Option.map_eq_none_iff.mp blocked))
        (stuck .mainListed _ rfl)
    | returned => rfl
  · have blocked : s.work.read keyPair s.dir = none := by
      cases read : s.work.read keyPair s.dir with
      | none => rfl
      | some call => exact absurd (.read call read) (stuck .read _ rfl)
    cases work : s.work with
    | waiting => rfl
    | loading scan certs =>
      rw [work] at blocked
      exact absurd (.loaded scan certs work (Option.map_eq_none_iff.mp blocked))
        (stuck .loaded _ rfl)
    | listing scan certs =>
      rw [work] at blocked
      exact absurd (.listed scan certs work (Option.map_eq_none_iff.mp blocked))
        (stuck .listed _ rfl)
    | returned =>
      have going := sound.going
      rw [work] at going
      cases going

/-- Both goroutines come to the end of their calls. -/
lemma run_calls (run : (system keyPair staticOnly).Run h s) :
    ∃ k t, (system keyPair staticOnly).Path s k t ∧ (∀ e ∈ k, e.own = true) ∧
      t.main = .returned ∧ t.work = .waiting := by
  obtain ⟨k, t, path, all, stuck⟩ := System.exhaust
    (M := system keyPair staticOnly) (fun _ _ _ st own => step_left st own) s
  exact ⟨k, t, path, all, (run_sound (run.append path)).stuck stuck⟩

lemma run_reload (run : (system keyPair staticOnly).Run h s) :
    ∃ k t, (system keyPair staticOnly).Path s k t ∧ (∀ dir, .changed dir ∉ k) ∧ .began ∈ k ∧
      t.work = .waiting := by
  obtain ⟨k, t, path, own, main, work⟩ := run_calls run
  have begun : (system keyPair staticOnly).step t .began _ := .began work (by rw [main]; rfl)
  obtain ⟨k', u, path', own', _, work'⟩ := run_calls ((run.append path).next begun)
  refine ⟨k' ++ .began :: k, u, (path.next begun).trans path', ?_, ?_, work'⟩
  · intro dir member
    rcases List.mem_append.mp member with later | earlier
    · cases own' _ later
    · rcases List.mem_cons.mp earlier with same | earlier
      · cases same
      · cases own _ earlier
  · exact List.mem_append_right _ List.mem_cons_self

/-- The certificates in use follow the certs directory, whatever is written there while it is read.
In every run:
a certificate that HTTPS presents was read from the directory, before its key, and the two load;
the files given to the TCP router were read likewise, but need not load;
a domain that has a certificate keeps one;
from the last change of the directory on, when the applying goroutine is at no call, a reload ends
with the certificates of the directory, as if it had been read at once, unless the main goroutine
was inside `GetRawCerts` then, in which case its list may be the one that stays;
and such a reload can always happen. -/
theorem certificates_follow (run : (system keyPair staticOnly).Run h s) :
    AllLoad keyPair h s.served.manager.certs ∧
    (∀ cert ∈ s.served.tcpRouter.certs, ∃ raw, ReadDuring h raw ∧ raw.toTCPCert = cert) ∧
    (∀ k t domain, (system keyPair staticOnly).Path s k t →
      (s.served.manager.certs.lookup domain).isSome = true →
        (t.served.manager.certs.lookup domain).isSome = true) ∧
    (∀ k t, (system keyPair staticOnly).Path s k t → (∀ dir, .changed dir ∉ k) →
      s.work = .waiting → s.main.isLoading = false → .began ∈ k → t.work = .waiting →
        (∀ domain, t.served.manager.certs.lookup domain =
          (s.served.reload keyPair s.dir).manager.certs.lookup domain) ∧
        (staticOnly = false →
          t.served.tcpRouter.certs = (s.served.reload keyPair s.dir).tcpRouter.certs ∨
            ∃ scan certs, s.main = .listing scan certs ∧
              t.served.tcpRouter.certs = (certs ++ scan.rest s.dir).map RawCert.toTCPCert)) ∧
    ∃ k t, (system keyPair staticOnly).Path s k t ∧ (∀ dir, .changed dir ∉ k) ∧ .began ∈ k ∧
      t.work = .waiting := by
  have sound := run_sound run
  refine ⟨sound.manager, sound.tcpRouter, fun k t domain path => path_kept run path, ?_,
    run_reload run⟩
  intro k t path quiet waiting outside begun ended
  obtain ⟨manager, listed⟩ := (path_settling path quiet waiting outside).ended ended begun
  refine ⟨fun domain => (manager domain).trans (reload_lookup s domain).symm, fun tcp => ?_⟩
  obtain ⟨raws, here | ⟨scan, certs, listing, earlier⟩, stored⟩ := listed tcp
  · rw [stored, here]
    exact .inl rfl
  · rw [stored, earlier]
    exact .inr ⟨scan, certs, listing, rfl⟩

lemma step_dir {e : CertEvent} (st : Step keyPair staticOnly s e t) (own : e.own = true) :
    t.dir = s.dir := by
  cases st with
  | change dir => cases own
  | _ => rfl

lemma path_dir {k : List CertEvent} (path : (system keyPair staticOnly).Path s k t)
    (own : ∀ e ∈ k, e.own = true) : t.dir = s.dir := by
  induction path with
  | refl => rfl
  | next _ st ih =>
    have same := ih fun e member => own e (List.mem_cons_of_mem _ member)
    exact (step_dir st (own _ List.mem_cons_self)).trans same

/-- A reload after startup finds the certificate that is in the directory. -/
theorem certificates_follow_renewed :
    ∃ h s, (system Terminators.filePair false).Run h s ∧
      s.served.manager.certs.lookup (lit "b") = some (lit "b", lit "b") := by
  have started : (system Terminators.filePair false).Run
      [.changed (Terminators.certsOf [lit "b"])] _ := .next (.start rfl) (.change _)
  obtain ⟨k, s, path, own, main, work⟩ := run_calls started
  have dir : s.dir = Terminators.certsOf [lit "b"] :=
    path_dir path own
  obtain ⟨_, _, _, reloads, k', t, path', quiet, begun, ended⟩ :=
    certificates_follow (started.append path)
  obtain ⟨manager, _⟩ := reloads k' t path' quiet work (by rw [main]; rfl) begun ended
  refine ⟨_, t, (started.append path).append path', ?_⟩
  rw [manager, reload_lookup, renewed, dir]
  have found : RawCert.latest Terminators.filePair
      (getRawCerts (Terminators.certsOf [lit "b"])) (lit "b") = some (lit "b", lit "b") := by decide
  rw [found, Option.some_or]

end CertRun
end Pintle
