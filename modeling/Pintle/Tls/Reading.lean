import Mathlib.Algebra.GroupWithZero.Nat
import Pintle.Lib.Transition
import Pintle.Tls.Termination

/-!
# Certificates read one file at a time

Model of `LoadCerts` and `GetRawCerts` of `internal/tls/manager.go` one system call at a time, and
of the two goroutines of Go `run` of `cmd/pintle/main.go` that call them. Between any two calls the
certs directory may change, so what is read need not be what the directory ever held at once. A
directory listing is read whole. Log lines are left out.

`LoadCerts` holds the lock of the manager throughout, so a handshake sees the certificates before or
after it; the main goroutine is done with its own before the other goroutine starts. `GetRawCerts`
takes no lock, and its two callers may be in it at once.

While nobody writes, a scan reads what it reads in a directory that does not change (`rest_next`).
-/

namespace Pintle
open Go Lib

/-- What Go `discoverDomains` and the loops over its result have yet to read: the names to look for
a key of, the domains to read, or the key that goes with a certificate. -/
inductive CertScan where
  | opening
  | statting (names domains : List GoString)
  | reading (domains : List GoString)
  | readingKey (domain : GoString) (cert : List UInt8) (domains : List GoString)

namespace CertScan

/-- One system call, with the files of a domain when it is the last of the two reads. -/
def next (dir : CertsDir) : CertScan → Option (CertScan × Option RawCert)
  | opening =>
    match dir with
    | none => some (reading [], none)
    | some files => some (statting files.keys [], none)
  | statting [] domains => some (reading (domains.insertionSort (· ≤ ·)), none)
  | statting (name :: names) domains =>
    some (statting names (domains ++ (dir.discover name).toList), none)
  | reading [] => none
  | reading (domain :: domains) =>
    match dir.readFile (certFile domain) with
    | none => some (reading domains, none)
    | some cert => some (readingKey domain cert domains, none)
  | readingKey domain cert domains =>
    some (reading domains, (dir.readFile (keyFile domain)).map fun key => { cert, key, domain })

/-- What is read from here on if the directory does not change. -/
def rest (dir : CertsDir) : CertScan → List RawCert
  | opening => getRawCerts dir
  | statting names domains =>
    ((domains ++ names.filterMap dir.discover).insertionSort (· ≤ ·)).filterMap dir.rawCert
  | reading domains => domains.filterMap dir.rawCert
  | readingKey domain cert domains =>
    ((dir.readFile (keyFile domain)).map fun key => { cert, key, domain : RawCert }).toList ++
      domains.filterMap dir.rawCert

lemma filterMap_cons_toList {α β : Type} (f : α → Option β) (a : α) (l : List α) :
    (a :: l).filterMap f = (f a).toList ++ l.filterMap f := by
  cases found : f a <;> simp [found]

/-- A call reads the first of what is left to read. -/
lemma rest_next {dir : CertsDir} {scan scan' : CertScan} {raw : Option RawCert}
    (step : scan.next dir = some (scan', raw)) :
    scan.rest dir = raw.toList ++ scan'.rest dir := by
  cases scan with
  | opening =>
    cases dir with
    | none =>
      cases step
      rfl
    | some files =>
      cases step
      rfl
  | statting names domains =>
    cases names with
    | nil =>
      cases step
      rw [rest, List.filterMap_nil, List.append_nil]
      rfl
    | cons name names =>
      cases step
      rw [rest, filterMap_cons_toList, ← List.append_assoc]
      rfl
  | reading domains =>
    cases domains with
    | nil => cases step
    | cons domain domains =>
      rw [rest, filterMap_cons_toList, CertsDir.rawCert]
      cases cert : dir.readFile (certFile domain) with
      | none =>
        rw [next, cert] at step
        cases step
        rfl
      | some cert =>
        rw [next, ‹dir.readFile (certFile domain) = _›] at step
        cases step
        cases key : dir.readFile (keyFile domain) <;> simp [rest, key]
  | readingKey domain cert domains =>
    cases step
    rfl

/-- Where no call is left, there is nothing left to read. -/
lemma rest_done {dir : CertsDir} {scan : CertScan} (done : scan.next dir = none) :
    scan.rest dir = [] := by
  cases scan with
  | opening => cases dir <;> cases done
  | statting names domains => cases names <;> cases done
  | reading domains =>
    cases domains with
    | nil => rfl
    | cons domain domains =>
      rw [next] at done
      split at done
      · cases done
      · cases done
  | readingKey domain cert domains => cases done

end CertScan

/-- One iteration of the loop of Go `LoadCerts` after the two reads. -/
def RawCert.load {κ : Type} (keyPair : List UInt8 → List UInt8 → Option κ)
    (certs : GoMap GoString κ) (raw : RawCert) : GoMap GoString κ :=
  match keyPair raw.cert raw.key with
  | none => certs
  | some cert => certs.insert raw.domain cert

namespace RawCert
variable {κ : Type} (keyPair : List UInt8 → List UInt8 → Option κ)

/-- The certificate that the last of some files gives a domain. -/
def latest (raws : List RawCert) (domain : GoString) : Option κ :=
  raws.reverse.findSome? fun raw => if raw.domain = domain then keyPair raw.cert raw.key else none

variable {keyPair}

lemma latest_nil (domain : GoString) : latest keyPair [] domain = none := rfl

lemma latest_append (raws raws' : List RawCert) (domain : GoString) :
    latest keyPair (raws ++ raws') domain =
      (latest keyPair raws' domain).or (latest keyPair raws domain) := by
  rw [latest, List.reverse_append, List.findSome?_append]
  rfl

lemma load_lookup (certs : GoMap GoString κ) (raw : RawCert) (domain : GoString) :
    (load keyPair certs raw).lookup domain =
      (latest keyPair [raw] domain).or (certs.lookup domain) := by
  have single : latest keyPair [raw] domain =
      if raw.domain = domain then keyPair raw.cert raw.key else none := by
    rw [latest, List.reverse_singleton, List.findSome?_singleton]
  rw [single, load]
  cases pair : keyPair raw.cert raw.key with
  | none => rw [ite_self, Option.none_or]
  | some cert =>
    by_cases here : raw.domain = domain
    · subst here
      rw [if_pos rfl, AList.lookup_insert, Option.some_or]
    · rw [if_neg here, AList.lookup_insert_ne (Ne.symm here), Option.none_or]

/-- The files of a domain that are read last win, if they load. -/
lemma loads_lookup (raws : List RawCert) (certs : GoMap GoString κ) (domain : GoString) :
    (raws.foldl (load keyPair) certs).lookup domain =
      (latest keyPair raws domain).or (certs.lookup domain) := by
  induction raws generalizing certs with
  | nil => rw [latest_nil, Option.none_or, List.foldl_nil]
  | cons raw raws ih =>
    rw [List.foldl_cons, ih, load_lookup, ← Option.or_assoc, ← latest_append]
    rfl

/-- `LoadCerts` on a directory that does not change. -/
lemma loadCerts_eq (dir : CertsDir) (m : Manager κ) :
    m.loadCerts keyPair dir = ⟨(getRawCerts dir).foldl (load keyPair) m.certs⟩ := by
  rw [Manager.loadCerts, getRawCerts, List.foldl_filterMap]
  congr 2
  funext certs domain
  rw [Manager.loadDomain, Manager.loadKeyPair]
  cases read : dir.rawCert domain with
  | none => rfl
  | some raw =>
    rw [← CertsDir.rawCert_domain read]
    rfl

end RawCert

/-- Where a goroutine is: at no call, inside `LoadCerts` or `GetRawCerts` with what it has so far,
or past its last call. -/
inductive CertCall (κ : Type) where
  | waiting
  | loading (scan : CertScan) (certs : GoMap GoString κ)
  | listing (scan : CertScan) (certs : List RawCert)
  | returned

namespace CertCall
variable {κ : Type}

/-- Whether the lock of the manager is held. -/
def isLoading : CertCall κ → Bool
  | loading _ _ => true
  | _ => false

def isReturned : CertCall κ → Bool
  | returned => true
  | _ => false

end CertCall

/-- A system call inside a call. -/
def CertCall.read {κ : Type} (keyPair : List UInt8 → List UInt8 → Option κ) (dir : CertsDir) :
    CertCall κ → Option (CertCall κ)
  | loading scan certs =>
    (scan.next dir).map fun (scan', raw) =>
      loading scan' (raw.toList.foldl (RawCert.load keyPair) certs)
  | listing scan certs =>
    (scan.next dir).map fun (scan', raw) => listing scan' (certs ++ raw.toList)
  | _ => none

/-- What happens to the certificates: the directory changes, or a goroutine begins a call, makes a
system call, or ends a call. -/
inductive CertEvent where
  | changed (dir : CertsDir)
  | mainRead
  | mainLoaded
  | mainBegan
  | mainListed
  | began
  | read
  | loaded
  | listed

/-- The certs directory, the certificates in use, and the two goroutines of Go `run`. -/
structure CertRun (κ : Type) where
  dir : CertsDir
  served : Terminators κ
  main : CertCall κ
  work : CertCall κ

namespace CertRun
variable {κ : Type} (keyPair : List UInt8 → List UInt8 → Option κ) (staticOnly : Bool)

/-- The main goroutine is about to load the certificates for the first time. -/
def initial : CertRun κ where
  dir := none
  served := { manager := .new, tcpRouter := { certs := [], getRoutes := [] } }
  main := .loading .opening ∅
  work := .waiting

/-- The certificates in use after Go `LoadCerts`. -/
def publish (s : CertRun κ) (certs : GoMap GoString κ) : Terminators κ :=
  { s.served with manager := ⟨certs⟩ }

/-- The certificates in use after Go `UpdateCerts`. -/
def update (s : CertRun κ) (certs : List RawCert) : Terminators κ :=
  { s.served with tcpRouter := s.served.tcpRouter.updateCerts (certs.map RawCert.toTCPCert) }

/-- A step. In static-only mode neither goroutine reads the certificates for TCP termination. -/
inductive Step : CertRun κ → CertEvent → CertRun κ → Prop where
  | change {s} dir :
    Step s (.changed dir) { s with dir }
  | mainRead {s} call :
    s.main.read keyPair s.dir = some call →
    Step s .mainRead { s with main := call }
  | mainLoaded {s} scan certs :
    s.main = .loading scan certs →
    scan.next s.dir = none →
    Step s .mainLoaded
      { s with served := s.publish certs, main := if staticOnly then .returned else .waiting }
  | mainBegan {s} :
    s.main = .waiting →
    Step s .mainBegan { s with main := .listing .opening [] }
  | mainListed {s} scan certs :
    s.main = .listing scan certs →
    scan.next s.dir = none →
    Step s .mainListed { s with served := s.update certs, main := .returned }
  | began {s} :
    s.work = .waiting →
    s.main.isLoading = false →
    Step s .began { s with work := .loading .opening s.served.manager.certs }
  | read {s} call :
    s.work.read keyPair s.dir = some call →
    Step s .read { s with work := call }
  | loaded {s} scan certs :
    s.work = .loading scan certs →
    scan.next s.dir = none →
    Step s .loaded
      { s with
        served := s.publish certs
        work := if staticOnly then .waiting else .listing .opening [] }
  | listed {s} scan certs :
    s.work = .listing scan certs →
    scan.next s.dir = none →
    Step s .listed { s with served := s.update certs, work := .waiting }

/-- The system of the certs directory and the two goroutines. -/
def system : System (CertRun κ) CertEvent where
  init s := s = initial
  step := Step keyPair staticOnly

end CertRun
end Pintle
