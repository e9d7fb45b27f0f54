import Pintle.Server.Handle
import Pintle.Tls.Manager

/-!
# The certificate of HTTPS and of TCP termination

The HTTPS server asks the certificate manager, the TCP router searches its own list; `run` of
`cmd/pintle/main.go` gives both the certs directory anew on each change (`Terminators.reload`). They
look a name up in different ways. The manager takes the longest label suffix that was ever loaded,
the TCP router the first present domain in the order of names, which need not be the longest; and a
domain whose files are gone stays with the manager alone. `certs_agree_iff` says when both present
the certificate of the same domain.
-/

namespace Pintle
open Go Lib

lemma covers_iff {cert : TCPCert} {hostname : GoString} :
    cert.covers hostname = true ↔ LabelSuffix 46 cert.domain hostname := by
  have dot : lit "." ++ cert.domain = 46 :: cert.domain := rfl
  rw [TCPCert.covers, Bool.or_eq_true, dot, hasSuffix, List.isSuffixOf_iff_suffix, decide_eq_true_eq,
    LabelSuffix, or_comm]

/-- The conversion of the certificate list in Go `run`. -/
def RawCert.toTCPCert (raw : RawCert) : TCPCert where
  cert := raw.cert
  key := raw.key
  domain := raw.domain

/-- Go `UpdateCerts`. -/
def TCPRouter.updateCerts (certs : List TCPCert) (t : TCPRouter) : TCPRouter := { t with certs }

namespace CertsDir

lemma rawCert_domain {dir : CertsDir} {domain : GoString} {raw : RawCert}
    (found : dir.rawCert domain = some raw) : raw.domain = domain := by
  unfold rawCert at found
  split at found
  · cases found
    rfl
  · cases found

/-- A discovered domain has both its files. -/
lemma rawCert_discovered {dir : CertsDir} {domain : GoString} (present : domain ∈ dir.discoverDomains) :
    (dir.rawCert domain).isSome = true := by
  cases dir with
  | none => cases present
  | some files =>
    have member := (List.perm_insertionSort _ _).mem_iff.mp present
    obtain ⟨name, listed, discovered⟩ := List.mem_filterMap.mp member
    obtain ⟨cert, cert_read⟩ := Option.isSome_iff_exists.mp (AList.lookup_isSome.mpr listed)
    unfold discover at discovered
    split at discovered
    · cases discovered
    · rename_i pem
      split at discovered
      · cases discovered
      · rename_i key key_read
        cases discovered
        -- the name is the domain with its extension
        have suffix : hasSuffix name (lit ".pem") = true := by
          cases plain : hasSuffix name (lit ".pem") with
          | true => rfl
          | false => simp [plain] at pem
        have file : certFile (trimSuffix name (lit ".pem")) = name := by
          obtain ⟨stem, rfl⟩ := List.isSuffixOf_iff_suffix.mp suffix
          simp [certFile, trimSuffix, suffix]
        have cert_read : CertsDir.readFile (some files) (certFile (trimSuffix name (lit ".pem"))) =
            some cert := by
          rw [file]
          exact cert_read
        rw [rawCert, cert_read, key_read]
        rfl

lemma getRawCerts_domains (dir : CertsDir) :
    (getRawCerts dir).map (·.domain) = dir.discoverDomains := by
  have whole (domains : List GoString) (present : ∀ domain ∈ domains, domain ∈ dir.discoverDomains) :
      (domains.filterMap dir.rawCert).map (·.domain) = domains := by
    induction domains with
    | nil => rfl
    | cons domain domains ih =>
      obtain ⟨raw, found⟩ := Option.isSome_iff_exists.mp
        (rawCert_discovered (present domain List.mem_cons_self))
      rw [List.filterMap_cons_some found, List.map_cons, rawCert_domain found,
        ih fun domain member => present domain (List.mem_cons_of_mem _ member)]
  exact whole dir.discoverDomains fun _ member => member

lemma discoverDomains_sorted (dir : CertsDir) : dir.discoverDomains.Pairwise (· ≤ ·) := by
  cases dir with
  | none => exact .nil
  | some files => exact List.pairwise_insertionSort (· ≤ ·) _

/-- Every pair of files of the directory loads. -/
def Loadable {κ : Type} (keyPair : List UInt8 → List UInt8 → Option κ) (dir : CertsDir) : Prop :=
  ∀ domain ∈ dir.discoverDomains, (Manager.loadKeyPair keyPair dir domain).isSome = true

instance {κ : Type} (keyPair : List UInt8 → List UInt8 → Option κ) (dir : CertsDir) :
    Decidable (dir.Loadable keyPair) :=
  inferInstanceAs (Decidable (∀ _ ∈ _, _))

end CertsDir

/-- A list in order holds nothing before the first element found in it. -/
lemma find?_first {l : List GoString} {p : GoString → Bool} {first : GoString}
    (sorted : l.Pairwise (· ≤ ·)) (found : l.find? p = some first) :
    ∀ d ∈ l, p d = true → first ≤ d := by
  obtain ⟨_, before, after, rfl, none_before⟩ := List.find?_eq_some_iff_append.mp found
  intro d member satisfied
  rcases List.mem_append.mp member with earlier | later
  · have unsatisfied := none_before d earlier
    rw [satisfied] at unsatisfied
    cases unsatisfied
  · rcases List.mem_cons.mp later with rfl | after_it
    · exact List.le_refl d
    · exact (List.pairwise_cons.mp (List.pairwise_append.mp sorted).2.1).1 d after_it

/-- The TCP router with the certificates of a directory finds the first domain in order. -/
lemma findCert_first {t : TCPRouter} {dir : CertsDir} {sni : GoString} {cert : TCPCert}
    (found : (t.updateCerts ((getRawCerts dir).map RawCert.toTCPCert)).findCert sni = some cert) :
    cert.domain ∈ dir.discoverDomains ∧ LabelSuffix 46 cert.domain sni ∧
      dir.rawCert cert.domain = some { cert := cert.cert, key := cert.key, domain := cert.domain } ∧
      ∀ d ∈ dir.discoverDomains, LabelSuffix 46 d sni → cert.domain ≤ d := by
  rw [TCPRouter.findCert, TCPRouter.updateCerts, List.find?_map, Option.map_eq_some_iff] at found
  obtain ⟨raw, found, rfl⟩ := found
  have member := List.mem_of_find?_eq_some found
  have covered := List.find?_some found
  obtain ⟨domain, present, loaded⟩ := List.mem_filterMap.mp member
  have same := CertsDir.rawCert_domain loaded
  subst same
  refine ⟨present, covers_iff.mp covered, loaded, ?_⟩
  have first : dir.discoverDomains.find? (fun d => hasSuffix sni (lit "." ++ d) || sni = d) =
      some raw.domain := by
    rw [← CertsDir.getRawCerts_domains, List.find?_map]
    exact Option.map_eq_some_iff.mpr ⟨raw, found, rfl⟩
  intro d inside label
  refine find?_first dir.discoverDomains_sorted first d inside ?_
  exact covers_iff.mpr (show LabelSuffix 46 (TCPCert.mk [] [] d).domain sni from label)

namespace Manager
variable {κ : Type} {keyPair : List UInt8 → List UInt8 → Option κ}

/-- Loading a directory replaces the certificates of its domains and keeps the others. -/
lemma loadCerts_lookup {dir : CertsDir} (loadable : dir.Loadable keyPair) (m : Manager κ)
    (domain : GoString) :
    (m.loadCerts keyPair dir).certs.lookup domain =
      if domain ∈ dir.discoverDomains then loadKeyPair keyPair dir domain
      else m.certs.lookup domain := by
  have whole (domains : List GoString) (certs : GoMap GoString κ)
      (present : ∀ d ∈ domains, d ∈ dir.discoverDomains) :
      (domains.foldl (loadDomain keyPair dir) certs).lookup domain =
        if domain ∈ domains then loadKeyPair keyPair dir domain else certs.lookup domain := by
    induction domains generalizing certs with
    | nil => simp
    | cons d domains ih =>
      obtain ⟨cert, loaded⟩ := Option.isSome_iff_exists.mp (loadable d (present d List.mem_cons_self))
      rw [List.foldl_cons, ih _ fun d member => present d (List.mem_cons_of_mem _ member), loadDomain,
        loaded]
      by_cases later : domain ∈ domains
      · simp [later]
      · by_cases here : domain = d
        · subst here
          simp [later, loaded]
        · simp [later, here, AList.lookup_insert_ne here]
  exact whole dir.discoverDomains m.certs fun _ member => member

/-- When a label suffix of a name is loaded, the manager chooses the longest one. -/
lemma choose_longest {m : Manager κ} {name d : GoString} (label : LabelSuffix 46 d name)
    (loaded : (m.certs.lookup d).isSome = true) :
    ∃ domain cert, m.choose name = some (domain, cert) ∧ m.certs.lookup domain = some cert ∧
      LabelSuffix 46 domain name ∧
      ∀ d, LabelSuffix 46 d name → (m.certs.lookup d).isSome = true → d.length ≤ domain.length := by
  have spec := m.walk_spec name
  cases walked : m.walk (name.splitOn 46) with
  | none =>
    rw [walked] at spec
    rw [spec d label] at loaded
    cases loaded
  | some found =>
    rw [walked] at spec
    exact ⟨found.1, found.2, by rw [choose, walked], spec⟩

end Manager

/-- The certificate manager and the TCP router of a process. -/
structure Terminators (κ : Type) where
  manager : Manager κ
  tcpRouter : TCPRouter

/-- The domains present in the newest directory of a history. -/
def presentDomains : List CertsDir → List GoString
  | [] => []
  | dir :: _ => dir.discoverDomains

/-- The domains that were ever present. -/
def everPresent (h : List CertsDir) : List GoString := h.flatMap (·.discoverDomains)

namespace Terminators
variable {κ : Type} (keyPair : List UInt8 → List UInt8 → Option κ)

/-- The loading of both on a change of the directory in Go `run`. -/
def reload (dir : CertsDir) (t : Terminators κ) : Terminators κ where
  manager := t.manager.loadCerts keyPair dir
  tcpRouter := t.tcpRouter.updateCerts ((getRawCerts dir).map RawCert.toTCPCert)

/-- The state after a history of directory contents, newest first. -/
def after : List CertsDir → Terminators κ
  | [] => { manager := .new, tcpRouter := { certs := [], getRoutes := [] } }
  | dir :: h => (after h).reload keyPair dir

/-- Where TCP termination finds a certificate, HTTPS presents the one of the same domain, which is
the most specific present domain. -/
def Agree (t : Terminators κ) (present : List GoString) (sni : GoString) : Prop :=
  ∀ cert, t.tcpRouter.findCert sni = some cert →
    ∃ c, t.manager.choose sni = some (cert.domain, c) ∧ keyPair cert.cert cert.key = some c ∧
      ∀ d ∈ present, LabelSuffix 46 d sni → d.length ≤ cert.domain.length

variable {keyPair}

/-- The loaded domains are those that were ever present. -/
lemma after_loaded {h : List CertsDir} (loadable : ∀ dir ∈ h, dir.Loadable keyPair)
    (domain : GoString) :
    ((after keyPair h).manager.certs.lookup domain).isSome = true ↔ domain ∈ everPresent h := by
  induction h with
  | nil => simp [after, Manager.new, everPresent]
  | cons dir h ih =>
    have here := loadable dir List.mem_cons_self
    have earlier := ih fun dir member => loadable dir (List.mem_cons_of_mem _ member)
    rw [after, reload, Manager.loadCerts_lookup here, everPresent, List.flatMap_cons,
      List.mem_append, ← everPresent, ← earlier]
    by_cases present : domain ∈ dir.discoverDomains
    · simp [present, here domain present]
    · simp [present]

lemma mem_everPresent {dir : CertsDir} {d : GoString} (present : d ∈ dir.discoverDomains)
    (h : List CertsDir) : d ∈ everPresent (dir :: h) := by
  rw [everPresent, List.flatMap_cons]
  exact List.mem_append_left _ present

/-- A present domain has its certificate in the manager. -/
lemma lookup_present {dir : CertsDir} {h : List CertsDir}
    (loadable : ∀ d ∈ dir :: h, d.Loadable keyPair) {domain : GoString}
    (present : domain ∈ dir.discoverDomains) :
    ((after keyPair (dir :: h)).manager.certs.lookup domain).isSome = true :=
  (after_loaded loadable domain).mpr (mem_everPresent present h)

/-- The TCP router finds a certificate where a present domain covers the name. -/
lemma findCert_present {dir : CertsDir} {h : List CertsDir} {domain sni : GoString}
    (present : domain ∈ dir.discoverDomains) (label : LabelSuffix 46 domain sni) :
    ∃ cert, (after keyPair (dir :: h)).tcpRouter.findCert sni = some cert := by
  apply Option.ne_none_iff_exists'.mp
  intro missing
  rw [after, reload, TCPRouter.findCert, TCPRouter.updateCerts, List.find?_eq_none] at missing
  rw [← CertsDir.getRawCerts_domains] at present
  obtain ⟨raw, member, rfl⟩ := List.mem_map.mp present
  exact missing raw.toTCPCert (List.mem_map_of_mem member) (covers_iff.mpr label)

/-- HTTPS and TCP termination agree on a name, on the most specific present domain, exactly when the
longest domain that ever was present and covers the name is present now and comes first in the order
of the present domains that cover it, or none of these covers it. -/
theorem certs_agree_iff {h : List CertsDir} (loadable : ∀ dir ∈ h, dir.Loadable keyPair)
    (sni : GoString) :
    (after keyPair h).Agree keyPair (presentDomains h) sni ↔
      ∀ domain ∈ presentDomains h, LabelSuffix 46 domain sni →
        ∃ best ∈ presentDomains h, LabelSuffix 46 best sni ∧
          (∀ d ∈ everPresent h, LabelSuffix 46 d sni → d.length ≤ best.length) ∧
          ∀ d ∈ presentDomains h, LabelSuffix 46 d sni → best ≤ d := by
  cases h with
  | nil =>
    constructor
    · intro _ domain member
      cases member
    · intro _ cert found
      cases found
  | cons dir h =>
    constructor
    · intro agree domain present label
      obtain ⟨cert, found⟩ := @findCert_present _ keyPair dir h _ _ present label
      obtain ⟨inside, covered, _, first⟩ := findCert_first found
      obtain ⟨c, chosen, _⟩ := agree cert found
      obtain ⟨longest, c', chosen', _, _, bound⟩ :=
        Manager.choose_longest covered (lookup_present loadable inside)
      rw [chosen] at chosen'
      cases chosen'
      refine ⟨cert.domain, inside, covered, ?_, first⟩
      intro d was_present label'
      exact bound d label' ((after_loaded loadable d).mpr was_present)
    · intro ordered cert found
      obtain ⟨inside, covered, raw, first⟩ := findCert_first found
      obtain ⟨best, best_present, best_covers, best_longest, best_first⟩ :=
        ordered cert.domain inside covered
      have same : best = cert.domain :=
        Std.Antisymm.antisymm _ _ (best_first _ inside covered) (first _ best_present best_covers)
      subst same
      obtain ⟨longest, c, chosen, stored, label, bound⟩ :=
        Manager.choose_longest covered (lookup_present loadable inside)
      have is_ever : longest ∈ everPresent (dir :: h) :=
        (after_loaded loadable longest).mp (by rw [stored]; rfl)
      have length : longest.length = cert.domain.length :=
        Nat.le_antisymm (best_longest longest is_ever label)
          (bound cert.domain covered (lookup_present loadable inside))
      have same := label.eq_of_length covered length
      subst same
      refine ⟨c, chosen, ?_, fun d present label => best_longest d (mem_everPresent present h) label⟩
      rw [after, reload, Manager.loadCerts_lookup (loadable dir List.mem_cons_self), if_pos inside,
        Manager.loadKeyPair, raw] at stored
      exact stored

/-- A directory with the pairs of some domains. -/
def certsOf (domains : List GoString) : CertsDir :=
  some (domains.foldl (fun files domain =>
    (files.insert (certFile domain) domain).insert (keyFile domain) domain) ∅)

/-- A certificate is its two files. -/
def filePair (cert key : List UInt8) : Option (List UInt8 × List UInt8) := some (cert, key)

/-- With nested domains the TCP router presents the certificate of the outer one, and when the
inner one is removed HTTPS keeps presenting its certificate. -/
theorem certs_disagree :
    (¬ ∀ h : List CertsDir, (∀ dir ∈ h, dir.Loadable filePair) →
      ∀ sni, (after filePair h).Agree filePair (presentDomains h) sni) ∧
    (((after filePair [certsOf [lit "b", lit "z.b"]]).tcpRouter.findCert
        (lit "a.z.b")).map (·.domain) = some (lit "b") ∧
      ((after filePair [certsOf [lit "b", lit "z.b"]]).manager.choose
        (lit "a.z.b")).map (·.1) = some (lit "z.b")) ∧
    ((after filePair [certsOf [lit "b"], certsOf [lit "a.b", lit "b"]]).tcpRouter.findCert
        (lit "a.b")).map (·.domain) = some (lit "b") ∧
      ((after filePair [certsOf [lit "b"], certsOf [lit "a.b", lit "b"]]).manager.choose
        (lit "a.b")).map (·.1) = some (lit "a.b") := by
  have tcp : ((after filePair [certsOf [lit "b", lit "z.b"]]).tcpRouter.findCert
      (lit "a.z.b")).map (·.domain) = some (lit "b") := by decide
  have https : ((after filePair [certsOf [lit "b", lit "z.b"]]).manager.choose
      (lit "a.z.b")).map (·.1) = some (lit "z.b") := by decide
  refine ⟨?_, ⟨tcp, https⟩, by decide, by decide⟩
  intro agree
  obtain ⟨cert, found, outer⟩ := Option.map_eq_some_iff.mp tcp
  obtain ⟨c, chosen, _⟩ := agree [certsOf [lit "b", lit "z.b"]] (by decide) (lit "a.z.b") cert found
  rw [chosen, Option.map_some, outer] at https
  have clash : lit "b" = lit "z.b" := Option.some.inj https
  exact absurd clash (by decide)

theorem certs_agree_inner :
    (after filePair [certsOf [lit "a.b", lit "b"]]).Agree filePair
      (presentDomains [certsOf [lit "a.b", lit "b"]]) (lit "c.a.b") :=
  (certs_agree_iff (by decide) (lit "c.a.b")).mpr (by decide)

end Terminators
end Pintle
