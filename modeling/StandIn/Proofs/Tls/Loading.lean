import Mathlib.Data.List.Basic
import Mathlib.Tactic.Lemma
import StandIn.Proofs.Basic
import StandIn.Proofs.Pem.Writing
import StandIn.Tls.Bundle

/-!
# What a bundle is loaded from

A bundle comes from three files, all of which are read before any is looked into.  Of what they say,
a bundle takes the certificates, in order, and the first private key; a file of certificates has to
be read to its end, the file of the key only up to the key.

* `certificatesOf`, `keysOf` — what is taken from the sections of a file.
* `HoldsCertificates`, `HoldsKey` — the files that give certificates and a key.
* `CertificateFault`, `KeyFault` — the files that do not, with the reason.
* `Bundle.Refusal` — why there is no bundle: the first file that cannot be read, or else the first
  one that does not give what it should.
* `load_eq_ok_iff`, `load_eq_error_iff` — the two results of loading.
* `load_of_writes` — whatever is written in the files is loaded, and all else is refused.
-/

namespace StandIn.Tls

open Pem (lines outcome Reads Writes)

/-! ## What is taken from a file -/

/-- The certificates among some sections. -/
def certificatesOf (ss : List Pem.Section) : List Octets :=
  (ss.filter (·.kind = .certificate)).map (·.content)

/-- The key in a section, if it is a key's. -/
def keyOf? (s : Pem.Section) : Option PrivateKey :=
  (keyForm? s.kind).map (⟨·, s.content⟩)

/-- The private keys among some sections. -/
def keysOf (ss : List Pem.Section) : List PrivateKey :=
  ss.filterMap keyOf?

/-- The file gives these certificates, of which there is at least one. -/
def HoldsCertificates (pem : Octets) (certs : List Octets) : Prop :=
  ∃ ss, Reads (lines pem) ss none ∧ certificatesOf ss = certs ∧ certs ≠ []

/-- The first private key in the file is this one.  It does not matter how the file goes on. -/
def HoldsKey (pem : Octets) (key : PrivateKey) : Prop :=
  ∃ ss o, Reads (lines pem) ss o ∧ (keysOf ss).head? = some key

/-- Why a file gives no certificates: it cannot be read to its end, or there are none. -/
inductive CertificateFault (pem : Octets) : (reason : String) → Prop
  | malformed {ss : List Pem.Section} {f : Pem.Fault} :
    Reads (lines pem) ss (some f) → CertificateFault pem f.message
  | none {ss : List Pem.Section} :
    Reads (lines pem) ss none → certificatesOf ss = [] →
      CertificateFault pem "no certificates found"

/-- Why a file gives no key: there is none in front of a fault, or none at all. -/
inductive KeyFault (pem : Octets) : (reason : String) → Prop
  | malformed {ss : List Pem.Section} {f : Pem.Fault} :
    Reads (lines pem) ss (some f) → keysOf ss = [] → KeyFault pem f.message
  | none {ss : List Pem.Section} :
    Reads (lines pem) ss none → keysOf ss = [] → KeyFault pem "no private key found"

/-- A fault keeps a file from giving certificates, wherever it stands. -/
lemma certificates_outcome (ss : List Pem.Section) (o : Option Pem.Fault) :
    certificates (outcome ss o) =
      match o with
      | none => .ok (certificatesOf ss)
      | some f => .error f := by
  induction ss with
  | nil => cases o <;> rfl
  | cons s ss ih =>
      rw [Pem.outcome_cons, certificates, ih, certificatesOf, certificatesOf, List.filter_cons]
      by_cases hkind : s.kind = .certificate <;> cases o <;> simp [hkind, Except.map]

/-- A fault keeps a file from giving a key only if there is none in front of it. -/
lemma firstKey_outcome (ss : List Pem.Section) (o : Option Pem.Fault) :
    firstKey (outcome ss o) =
      match (keysOf ss).head?, o with
      | some key, _ => .ok (some key)
      | none, some f => .error f
      | none, none => .ok none := by
  induction ss with
  | nil => cases o <;> rfl
  | cons s ss ih =>
      rw [Pem.outcome_cons, firstKey, keysOf, List.filterMap_cons, keyOf?]
      cases keyForm? s.kind with
      | none => exact ih
      | some form => rfl

section Files

variable {files : Files} {path : String} {pem : Octets}

lemma readFile_eq_ok_iff : readFile files path = .ok pem ↔ files path = .ok pem := by
  rw [readFile]
  cases files path <;> simp

lemma readFile_eq_error_iff {f : Failure} :
    readFile files path = .error f ↔
      ∃ cause, files path = .error cause ∧ f = .unreadableCertificate path cause := by
  rw [readFile]
  cases files path <;> simp [eq_comm]

lemma readCertificates_eq_ok_iff {certs : List Octets} :
    readCertificates path pem = .ok certs ↔ HoldsCertificates pem certs := by
  obtain ⟨ss, o, hreads⟩ := Pem.exists_reads (lines pem)
  rw [readCertificates, Pem.sections_eq_outcome_iff.2 hreads, certificates_outcome]
  constructor
  · intro h
    cases o with
    | some f => cases h
    | none =>
        cases hcerts : certificatesOf ss with
        | nil => simp [hcerts] at h
        | cons c cs =>
            simp only [hcerts, Except.ok.injEq] at h
            exact ⟨ss, hreads, hcerts.trans h, by simp [← h]⟩
  · rintro ⟨ss', hreads', rfl, hne⟩
    obtain ⟨rfl, rfl⟩ := hreads.unique hreads'
    obtain ⟨c, cs, hcerts⟩ := List.exists_cons_of_ne_nil hne
    simp only [hcerts]

lemma readCertificates_eq_error_iff {f : Failure} :
    readCertificates path pem = .error f ↔
      ∃ reason, CertificateFault pem reason ∧ f = .malformedCertificate path reason := by
  obtain ⟨ss, o, hreads⟩ := Pem.exists_reads (lines pem)
  rw [readCertificates, Pem.sections_eq_outcome_iff.2 hreads, certificates_outcome]
  constructor
  · intro h
    cases o with
    | some fault =>
        cases h
        exact ⟨_, .malformed hreads, rfl⟩
    | none =>
        cases hcerts : certificatesOf ss with
        | nil =>
            simp only [hcerts, Except.error.injEq] at h
            exact ⟨_, .none hreads hcerts, h.symm⟩
        | cons c cs => simp [hcerts] at h
  · rintro ⟨reason, hfault, rfl⟩
    cases hfault with
    | malformed hreads' =>
        obtain ⟨rfl, rfl⟩ := hreads.unique hreads'
        rfl
    | none hreads' hcerts =>
        obtain ⟨rfl, rfl⟩ := hreads.unique hreads'
        simp only [hcerts]

lemma readKey_eq_ok_iff {key : PrivateKey} :
    readKey path pem = .ok key ↔ HoldsKey pem key := by
  obtain ⟨ss, o, hreads⟩ := Pem.exists_reads (lines pem)
  rw [readKey, Pem.sections_eq_outcome_iff.2 hreads, firstKey_outcome]
  constructor
  · intro h
    cases hkey : (keysOf ss).head? with
    | none => cases o <;> simp [hkey] at h
    | some k =>
        simp only [hkey, Except.ok.injEq] at h
        exact ⟨ss, o, hreads, by rw [hkey, h]⟩
  · rintro ⟨ss', o', hreads', hkey⟩
    obtain ⟨rfl, rfl⟩ := hreads.unique hreads'
    simp only [hkey]

lemma readKey_eq_error_iff {f : Failure} :
    readKey path pem = .error f ↔
      ∃ reason, KeyFault pem reason ∧ f = .malformedCertificate path reason := by
  obtain ⟨ss, o, hreads⟩ := Pem.exists_reads (lines pem)
  rw [readKey, Pem.sections_eq_outcome_iff.2 hreads, firstKey_outcome]
  constructor
  · intro h
    cases hkeys : keysOf ss with
    | cons k ks => simp [hkeys] at h
    | nil =>
        cases o with
        | some fault =>
            simp only [hkeys, List.head?_nil, Except.error.injEq] at h
            exact ⟨_, .malformed hreads hkeys, h.symm⟩
        | none =>
            simp only [hkeys, List.head?_nil, Except.error.injEq] at h
            exact ⟨_, .none hreads hkeys, h.symm⟩
  · rintro ⟨reason, hfault, rfl⟩
    cases hfault with
    | malformed hreads' hkeys =>
        obtain ⟨rfl, rfl⟩ := hreads.unique hreads'
        simp only [hkeys, List.head?_nil]
    | none hreads' hkeys =>
        obtain ⟨rfl, rfl⟩ := hreads.unique hreads'
        simp only [hkeys, List.head?_nil]

end Files

/-! ## Bundles -/

/-- All files of a bundle can be read, and this is what is in them. -/
structure Contents (files : Files) (paths : Paths) (certPem keyPem caPem : Octets) : Prop where
  cert : files paths.cert = .ok certPem
  key : files paths.key = .ok keyPem
  ca : files paths.ca = .ok caPem

/-- **Why there is no bundle.**  Files that cannot be read come first, in the order of certificate,
key and authorities, and then in the same order files that do not give what they should. -/
inductive Bundle.Refusal (files : Files) (paths : Paths) : Failure → Prop
  | unreadableCert {cause : String} : files paths.cert = .error cause →
    Bundle.Refusal files paths (.unreadableCertificate paths.cert cause)
  | unreadableKey {certPem : Octets} {cause : String} : files paths.cert = .ok certPem →
    files paths.key = .error cause →
    Bundle.Refusal files paths (.unreadableCertificate paths.key cause)
  | unreadableCa {certPem keyPem : Octets} {cause : String} : files paths.cert = .ok certPem →
    files paths.key = .ok keyPem → files paths.ca = .error cause →
    Bundle.Refusal files paths (.unreadableCertificate paths.ca cause)
  | malformedCert {certPem keyPem caPem : Octets} {reason : String} :
    Contents files paths certPem keyPem caPem → CertificateFault certPem reason →
    Bundle.Refusal files paths (.malformedCertificate paths.cert reason)
  | malformedKey {certPem keyPem caPem : Octets} {chain : List Octets} {reason : String} :
    Contents files paths certPem keyPem caPem → HoldsCertificates certPem chain →
    KeyFault keyPem reason → Bundle.Refusal files paths (.malformedCertificate paths.key reason)
  | malformedCa {certPem keyPem caPem : Octets} {chain : List Octets} {key : PrivateKey}
      {reason : String} :
    Contents files paths certPem keyPem caPem → HoldsCertificates certPem chain →
    HoldsKey keyPem key → CertificateFault caPem reason →
    Bundle.Refusal files paths (.malformedCertificate paths.ca reason)

section Load

variable {files : Files} {paths : Paths}

lemma Contents.load_eq {certPem keyPem caPem : Octets}
    (h : Contents files paths certPem keyPem caPem) :
    Bundle.load files paths =
      (readCertificates paths.cert certPem).bind fun chain =>
        (readKey paths.key keyPem).bind fun key =>
          (readCertificates paths.ca caPem).bind fun authorities =>
            .ok ⟨certPem, keyPem, caPem, chain, key, authorities⟩ := by
  rw [Bundle.load, readFile, readFile, readFile, h.cert, h.key, h.ca]
  rfl

/-- What a bundle is loaded from. -/
theorem load_eq_ok_iff {b : Bundle} :
    Bundle.load files paths = .ok b ↔
      Contents files paths b.certPem b.keyPem b.caPem ∧ HoldsCertificates b.certPem b.chain ∧
        HoldsKey b.keyPem b.key ∧ HoldsCertificates b.caPem b.authorities := by
  constructor
  · intro h
    obtain ⟨certPem, hcert, h⟩ := bind_eq_ok_iff.1 h
    obtain ⟨keyPem, hkey, h⟩ := bind_eq_ok_iff.1 h
    obtain ⟨caPem, hca, h⟩ := bind_eq_ok_iff.1 h
    obtain ⟨chain, hchain, h⟩ := bind_eq_ok_iff.1 h
    obtain ⟨key, hkey', h⟩ := bind_eq_ok_iff.1 h
    obtain ⟨authorities, hauthorities, h⟩ := bind_eq_ok_iff.1 h
    cases h
    exact ⟨⟨readFile_eq_ok_iff.1 hcert, readFile_eq_ok_iff.1 hkey, readFile_eq_ok_iff.1 hca⟩,
      readCertificates_eq_ok_iff.1 hchain, readKey_eq_ok_iff.1 hkey',
      readCertificates_eq_ok_iff.1 hauthorities⟩
  · rintro ⟨hcontents, hchain, hkey, hauthorities⟩
    rw [hcontents.load_eq, readCertificates_eq_ok_iff.2 hchain, readKey_eq_ok_iff.2 hkey,
      readCertificates_eq_ok_iff.2 hauthorities]
    rfl

/-- Why no bundle is loaded. -/
theorem load_eq_error_iff {f : Failure} :
    Bundle.load files paths = .error f ↔ Bundle.Refusal files paths f := by
  constructor
  · intro h
    obtain hcert | ⟨certPem, hcert, h⟩ := bind_eq_error_iff.1 h
    · obtain ⟨cause, hcause, rfl⟩ := readFile_eq_error_iff.1 hcert
      exact .unreadableCert hcause
    rw [readFile_eq_ok_iff] at hcert
    obtain hkey | ⟨keyPem, hkey, h⟩ := bind_eq_error_iff.1 h
    · obtain ⟨cause, hcause, rfl⟩ := readFile_eq_error_iff.1 hkey
      exact .unreadableKey hcert hcause
    rw [readFile_eq_ok_iff] at hkey
    obtain hca | ⟨caPem, hca, h⟩ := bind_eq_error_iff.1 h
    · obtain ⟨cause, hcause, rfl⟩ := readFile_eq_error_iff.1 hca
      exact .unreadableCa hcert hkey hcause
    rw [readFile_eq_ok_iff] at hca
    have hcontents : Contents files paths certPem keyPem caPem := ⟨hcert, hkey, hca⟩
    obtain hchain | ⟨chain, hchain, h⟩ := bind_eq_error_iff.1 h
    · obtain ⟨reason, hreason, rfl⟩ := readCertificates_eq_error_iff.1 hchain
      exact .malformedCert hcontents hreason
    rw [readCertificates_eq_ok_iff] at hchain
    obtain hkey' | ⟨key, hkey', h⟩ := bind_eq_error_iff.1 h
    · obtain ⟨reason, hreason, rfl⟩ := readKey_eq_error_iff.1 hkey'
      exact .malformedKey hcontents hchain hreason
    rw [readKey_eq_ok_iff] at hkey'
    obtain hauthorities | ⟨authorities, -, h⟩ := bind_eq_error_iff.1 h
    · obtain ⟨reason, hreason, rfl⟩ := readCertificates_eq_error_iff.1 hauthorities
      exact .malformedCa hcontents hchain hkey' hreason
    · cases h
  · intro h
    cases h with
    | unreadableCert hcause =>
        rw [Bundle.load, readFile_eq_error_iff.2 ⟨_, hcause, rfl⟩]
        rfl
    | unreadableKey hcert hcause =>
        rw [Bundle.load, readFile_eq_ok_iff.2 hcert, readFile_eq_error_iff.2 ⟨_, hcause, rfl⟩]
        rfl
    | unreadableCa hcert hkey hcause =>
        rw [Bundle.load, readFile_eq_ok_iff.2 hcert, readFile_eq_ok_iff.2 hkey,
          readFile_eq_error_iff.2 ⟨_, hcause, rfl⟩]
        rfl
    | malformedCert hcontents hreason =>
        rw [hcontents.load_eq, readCertificates_eq_error_iff.2 ⟨_, hreason, rfl⟩]
        rfl
    | malformedKey hcontents hchain hreason =>
        rw [hcontents.load_eq, readCertificates_eq_ok_iff.2 hchain,
          readKey_eq_error_iff.2 ⟨_, hreason, rfl⟩]
        rfl
    | malformedCa hcontents hchain hkey hreason =>
        rw [hcontents.load_eq, readCertificates_eq_ok_iff.2 hchain, readKey_eq_ok_iff.2 hkey,
          readCertificates_eq_error_iff.2 ⟨_, hreason, rfl⟩]
        rfl

end Load

/-- **What is written in its files is what a bundle is loaded from**: all certificates and all
authorities in order, and the first key, whatever stands around them.  For any files at all it is
known which one is blamed if there is no bundle, and why. -/
theorem load_of_writes (files : Files) (paths : Paths) :
    (∀ {certPem keyPem caPem : Octets} {certSections keySections caSections : List Pem.Section}
        {key : PrivateKey},
      Contents files paths certPem keyPem caPem →
      Writes (lines certPem) certSections → Writes (lines keyPem) keySections →
      Writes (lines caPem) caSections →
      certificatesOf certSections ≠ [] → (keysOf keySections).head? = some key →
      certificatesOf caSections ≠ [] →
      Bundle.load files paths =
        .ok ⟨certPem, keyPem, caPem, certificatesOf certSections, key, certificatesOf caSections⟩) ∧
    ∀ f, Bundle.load files paths = .error f ↔ Bundle.Refusal files paths f := by
  refine ⟨?_, fun f => load_eq_error_iff⟩
  intro certPem keyPem caPem certSections keySections caSections key hcontents hcert hkey hca
    hchain hfirst hauthorities
  exact load_eq_ok_iff.2 ⟨hcontents, ⟨certSections, hcert.reads, rfl, hchain⟩,
    ⟨keySections, none, hkey.reads, hfirst⟩, ⟨caSections, hca.reads, rfl, hauthorities⟩⟩

/-- A section of a label that is not known. -/
def foreignPem : Octets :=
  Pem.beginMark ++ Utf8.encode "X" ++ Pem.dashes ++ 10 :: (Utf8.encode "a: b" ++ 10 ::
    (Pem.endMark ++ Utf8.encode "X" ++ Pem.dashes ++ [10]))

/-- Two certificates, with text in front of them and another section between them. -/
def chainPem : Octets :=
  Utf8.encode "two" ++ 10 ::
    (Pem.render [13, 10] (Utf8.encode Pem.Kind.certificate.label) [1, 2, 3] ++
      (foreignPem ++ Pem.renderAll [10] [⟨.certificate, [4]⟩]))

/-- A key on a curve, and one that is wrapped. -/
def keysPem : Octets :=
  Pem.renderAll [10] [⟨.ecKey, [5]⟩, ⟨.pkcs8Key, [6]⟩]

/-- One authority. -/
def authorityPem : Octets :=
  Pem.renderAll [13, 10] [⟨.certificate, [7]⟩]

lemma writes_foreignPem {rest : Octets} {ss : List Pem.Section} (h : Writes (lines rest) ss) :
    Writes (lines (foreignPem ++ rest)) ss := by
  have hlabel : Pem.IsLabel (Utf8.encode "X") := by
    have hlast : (Utf8.encode "X").getLast? = some 88 := by decide
    rw [Pem.IsLabel, hlast]
    rintro b ⟨⟩
    decide
  have hfirst := Pem.not_isLineEnd_of_all
    (show (Pem.beginMark ++ Utf8.encode "X" ++ Pem.dashes).all (!Pem.isLineEnd ·) = true by decide)
  have hinner := Pem.not_isLineEnd_of_all
    (show (Utf8.encode "a: b").all (!Pem.isLineEnd ·) = true by decide)
  have hlast := Pem.not_isLineEnd_of_all
    (show (Pem.endMark ++ Utf8.encode "X" ++ Pem.dashes).all (!Pem.isLineEnd ·) = true by decide)
  have hfeed : ∀ b ∈ [(10 : UInt8)], Pem.isTrail b = true := List.forall_mem_singleton.2 rfl
  have hlines : lines (foreignPem ++ rest) =
      (Pem.beginMark ++ Utf8.encode "X" ++ Pem.dashes ++ [10]) ::
        ([Utf8.encode "a: b" ++ [10]] ++
          (Pem.endMark ++ Utf8.encode "X" ++ Pem.dashes ++ [10]) :: lines rest) := by
    rw [← Pem.lines_append_cons hlast rfl, List.singleton_append,
      ← Pem.lines_append_cons hinner rfl, ← Pem.lines_append_cons hfirst rfl]
    simp [foreignPem]
  rw [hlines]
  exact .foreign hlabel (by decide) ⟨[10], hfeed, rfl⟩ (by decide) ⟨[10], hfeed, rfl⟩ h

lemma writes_chainPem :
    Writes (lines chainPem) [⟨.certificate, [1, 2, 3]⟩, ⟨.certificate, [4]⟩] := by
  have htext := Pem.not_isLineEnd_of_all
    (show (Utf8.encode "two").all (!Pem.isLineEnd ·) = true by decide)
  rw [chainPem, Pem.lines_append_cons htext rfl]
  refine .text (by decide) (Pem.writes_render_append (by decide) (by simp [Pem.isLineEnd])
    ⟨.certificate, [1, 2, 3]⟩ (writes_foreignPem ?_))
  exact Pem.writes_renderAll (by decide) (by simp [Pem.isLineEnd]) [⟨.certificate, [4]⟩]

/-- A bundle of such files, and what is blamed if the first two are mixed up. -/
theorem load_of_mixed_files :
    let files := Files.ofList [("cert", chainPem), ("key", keysPem), ("ca", authorityPem)]
    Bundle.load files ⟨"cert", "key", "ca"⟩ =
        .ok ⟨chainPem, keysPem, authorityPem, [[1, 2, 3], [4]], ⟨.sec1, [5]⟩, [[7]]⟩ ∧
      Bundle.load files ⟨"key", "cert", "ca"⟩ =
        .error (.malformedCertificate "key" "no certificates found") := by
  have hkeys : Writes (lines keysPem) [⟨.ecKey, [5]⟩, ⟨.pkcs8Key, [6]⟩] :=
    Pem.writes_renderAll (by decide) (by simp [Pem.isLineEnd]) _
  have hauthority : Writes (lines authorityPem) [⟨.certificate, [7]⟩] :=
    Pem.writes_renderAll (by decide) (by simp [Pem.isLineEnd]) _
  exact ⟨(load_of_writes _ _).1 ⟨rfl, rfl, rfl⟩ writes_chainPem hkeys hauthority (by decide) rfl
      (by decide),
    ((load_of_writes _ _).2 _).2 (.malformedCert ⟨rfl, rfl, rfl⟩ (.none hkeys.reads rfl))⟩

end StandIn.Tls
