import Mathlib.Data.List.Sort
import Pintle.Go.Values
import Pintle.Lib.Labels

/-!
# The certificate manager

Model of `internal/tls/manager.go`. The certs directory is a map from file names to contents, or
nothing when it cannot be read. The files are sorted by domain before use, so the order in which the
directory is read does not matter. What `crypto/tls` makes of a certificate and its key is a
parameter (`keyPair`). Log lines are left out, and with them the base domain, which only one of them
names.

`GetCertificate` walks from the whole name to its last label; it finds the longest label suffix of
the name that was ever loaded (`walk_some`, `walk_none`).
-/

namespace Pintle
open Go Lib

/-- The contents of the certs directory. -/
abbrev CertsDir := Option (GoMap GoString (List UInt8))

/-- The name of a domain's certificate file. -/
def certFile (domain : GoString) : GoString := domain ++ lit ".pem"

/-- The name of a domain's key file. -/
def keyFile (domain : GoString) : GoString := domain ++ lit "-key.pem"

namespace CertsDir

/-- Go `os.ReadFile` of a file of the directory. -/
def readFile (dir : CertsDir) (name : GoString) : Option (List UInt8) :=
  match dir with
  | none => none
  | some files => files.lookup name

/-- One iteration of the loop of Go `discoverDomains`. -/
def discover (dir : CertsDir) (name : GoString) : Option GoString :=
  if !hasSuffix name (lit ".pem") || hasSuffix name (lit "-key.pem") then none
  else
    match dir.readFile (keyFile (trimSuffix name (lit ".pem"))) with
    | none => none
    | some _ => some (trimSuffix name (lit ".pem"))

/-- Go `discoverDomains`. -/
def discoverDomains (dir : CertsDir) : List GoString :=
  match dir with
  | none => []
  | some files => (files.keys.filterMap dir.discover).insertionSort (· ≤ ·)

end CertsDir

/-- Go `RawCert`. -/
structure RawCert where
  cert : List UInt8
  key : List UInt8
  domain : GoString
  deriving DecidableEq, Repr

/-- The certificate and key of a domain. -/
def CertsDir.rawCert (dir : CertsDir) (domain : GoString) : Option RawCert :=
  match dir.readFile (certFile domain), dir.readFile (keyFile domain) with
  | some cert, some key => some { cert, key, domain }
  | _, _ => none

/-- Go `GetRawCerts`. -/
def getRawCerts (dir : CertsDir) : List RawCert := dir.discoverDomains.filterMap dir.rawCert

/-- Go `Manager`, without its mutex: the loaded certificates by domain. -/
structure Manager (κ : Type) where
  certs : GoMap GoString κ

namespace Manager
variable {κ : Type}

/-- Go `NewManager`. -/
def new : Manager κ where
  certs := ∅

section
variable (keyPair : List UInt8 → List UInt8 → Option κ)

/-- Go `tls.LoadX509KeyPair` on the files of a domain. -/
def loadKeyPair (dir : CertsDir) (domain : GoString) : Option κ :=
  match dir.rawCert domain with
  | none => none
  | some raw => keyPair raw.cert raw.key

/-- One iteration of the loop of Go `LoadCerts`. -/
def loadDomain (dir : CertsDir) (certs : GoMap GoString κ) (domain : GoString) : GoMap GoString κ :=
  match loadKeyPair keyPair dir domain with
  | none => certs
  | some cert => certs.insert domain cert

/-- Go `LoadCerts`. Certificates of domains that are gone stay loaded. -/
def loadCerts (dir : CertsDir) (m : Manager κ) : Manager κ where
  certs := dir.discoverDomains.foldl (loadDomain keyPair dir) m.certs

end

/-- The walk up the labels of Go `GetCertificate`: the first domain with a certificate. -/
def walk (m : Manager κ) : List GoString → Option (GoString × κ)
  | [] => none
  | part :: parts =>
    match m.certs.lookup ([46].intercalate (part :: parts)) with
    | some cert => some ([46].intercalate (part :: parts), cert)
    | none => m.walk parts

/-- The fallback of Go `GetCertificate`: the first domain in order. -/
def fallback (m : Manager κ) : Option (GoString × κ) :=
  match m.certs.keys.insertionSort (· ≤ ·) with
  | [] => none
  | first :: _ => (m.certs.lookup first).map (first, ·)

/-- The domain whose certificate Go `GetCertificate` returns, with the certificate. -/
def choose (m : Manager κ) (serverName : GoString) : Option (GoString × κ) :=
  match m.walk (serverName.splitOn 46) with
  | some found => some found
  | none => m.fallback

/-- Go `GetCertificate`. -/
def getCertificate (m : Manager κ) (serverName : GoString) : Option κ :=
  (m.choose serverName).map (·.2)

/-- The walk looks up the name, then what follows its first label. -/
lemma walk_split (m : Manager κ) {first rest : GoString} (free : (46 : UInt8) ∉ first) :
    m.walk ((first ++ 46 :: rest).splitOn 46) =
      match m.certs.lookup (first ++ 46 :: rest) with
      | some cert => some (first ++ 46 :: rest, cert)
      | none => m.walk (rest.splitOn 46) := by
  have whole : List.intercalate [46] ((first ++ 46 :: rest).splitOn 46) = first ++ 46 :: rest :=
    List.intercalate_splitOn 46
  rw [List.splitOn_append_cons_self_of_not_mem free] at whole ⊢
  rw [walk, whole]

/-- What the walk finds has a certificate, and is the longest label suffix that has one. -/
lemma walk_spec (m : Manager κ) (name : GoString) :
    match m.walk (name.splitOn 46) with
    | some (domain, cert) => m.certs.lookup domain = some cert ∧ LabelSuffix 46 domain name ∧
        ∀ d, LabelSuffix 46 d name → (m.certs.lookup d).isSome = true → d.length ≤ domain.length
    | none => ∀ d, LabelSuffix 46 d name → m.certs.lookup d = none := by
  induction n : name.length using Nat.strong_induction_on generalizing name with
  | _ n ih =>
    by_cases dotted : (46 : UInt8) ∈ name
    · obtain ⟨first, rest, rfl, free⟩ := List.eq_append_cons_of_mem dotted
      rw [walk_split m free]
      cases found : m.certs.lookup (first ++ 46 :: rest) with
      | some cert => exact ⟨found, .inl rfl, fun d label _ => label.length_le⟩
      | none =>
        have shorter := ih rest.length (by simp at n; omega) rest rfl
        cases walked : m.walk (rest.splitOn 46) with
        | none =>
          rw [walked] at shorter
          intro d label
          rcases (labelSuffix_split free).mp label with rfl | later
          · exact found
          · exact shorter d later
        | some chosen =>
          rw [walked] at shorter
          obtain ⟨stored, label, longest⟩ := shorter
          refine ⟨stored, (labelSuffix_split free).mpr (.inr label), ?_⟩
          intro d label loaded
          rcases (labelSuffix_split free).mp label with rfl | later
          · rw [found] at loaded
            cases loaded
          · exact longest d later loaded
    · have single : m.walk (name.splitOn 46) =
          match m.certs.lookup name with
          | some cert => some (name, cert)
          | none => none := by
        have whole : List.intercalate [46] (name.splitOn 46) = name := List.intercalate_splitOn 46
        rw [List.splitOn_eq_singleton dotted] at whole ⊢
        rw [walk, whole, walk]
      rw [single]
      cases found : m.certs.lookup name with
      | some cert => exact ⟨found, .inl rfl, fun d label _ => label.length_le⟩
      | none =>
        intro d label
        rw [← (labelSuffix_single dotted).mp label]
        exact found

end Manager
end Pintle
