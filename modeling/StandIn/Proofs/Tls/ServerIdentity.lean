import Mathlib.Data.List.Basic
import Mathlib.Tactic.Lemma
import StandIn.Proofs.Tls.Loading
import StandIn.Proofs.Tls.Verdict

/-!
# What a server presents of a bundle

A server is not given what was loaded, but the texts of the files, and reads them on its own.  It
finds in them what was loaded from them, also where keys of several forms or other sections stand in
one file.  It is content with a bundle iff a client is, which is given what was loaded.

* `serverKey?_eq_some_iff` — the key that a server takes is the first one in the file.
* `serverTls_eq_ok_iff` — when a server is content with its files, and what it makes of them.
* `exists_clientTls_iff` — when a client is content with a bundle.
* `serverTls_of_load` — what a server makes of the files of a bundle.
-/

namespace StandIn.Tls

open Pem (lines Reads)

/-! ## What a server takes from a file -/

/-- What was loaded from a file is what is read from it again. -/
lemma certificates_of_holdsCertificates {pem : Octets} {certs : List Octets}
    (h : HoldsCertificates pem certs) : certificates (Pem.sections pem) = .ok certs := by
  obtain ⟨ss, hreads, rfl, -⟩ := h
  rw [Pem.sections_eq_outcome_iff.2 hreads, certificates_outcome]

/-- **The key that a server takes** is the first one in the file, whatever its form. -/
theorem serverKey?_eq_some_iff {pem : Octets} {k : PrivateKey} :
    serverKey? pem = some k ↔ HoldsKey pem k := by
  obtain ⟨ss, o, hreads⟩ := Pem.exists_reads (lines pem)
  rw [serverKey?, Pem.sections_eq_outcome_iff.2 hreads, firstKey_outcome]
  constructor
  · intro h
    cases hkey : (keysOf ss).head? with
    | none => cases o <;> simp [hkey, Except.toOption] at h
    | some first =>
        simp only [hkey, Except.toOption, Option.join_some, Option.some.injEq] at h
        exact ⟨ss, o, hreads, by rw [hkey, h]⟩
  · rintro ⟨ss', o', hreads', hkey⟩
    obtain ⟨rfl, rfl⟩ := hreads.unique hreads'
    simp only [hkey, Except.toOption, Option.join_some]

/-! ## What a server makes of its files -/

/-- The texts that a server is content with: there is an authority, and all of them can be read, and
the key that is taken can sign. -/
theorem serverTls_eq_ok_iff {certPem keyPem caPem : Octets} {t : ServerTls} :
    serverTls certPem keyPem caPem = .ok t ↔
      certificates (Pem.sections certPem) = .ok t.chain ∧
        serverKey? keyPem = some t.key ∧ t.key.isUsable = true ∧
        certificates (Pem.sections caPem) = .ok t.authorities ∧
        ∃ first rest, Bundle.anchorsOf t.authorities = .ok (first :: rest) := by
  constructor
  · intro h
    rw [serverTls] at h
    cases hca : certificates (Pem.sections caPem) with
    | error f => simp [hca, Except.toOption] at h
    | ok found =>
        rw [hca] at h
        cases hanchors : Bundle.anchorsOf found with
        | error f => simp [Except.toOption, hanchors] at h
        | ok anchors =>
            cases anchors with
            | nil => simp [Except.toOption, hanchors] at h
            | cons first rest =>
                cases hcert : certificates (Pem.sections certPem) with
                | error f => simp [Except.toOption, hanchors, hcert] at h
                | ok chain =>
                    cases hkey : serverKey? keyPem with
                    | none => simp [Except.toOption, hanchors, hcert, hkey] at h
                    | some key =>
                        by_cases husable : key.isUsable = true
                        · simp only [Except.toOption, hanchors, hcert, hkey, husable, if_true,
                            Except.ok.injEq] at h
                          subst h
                          exact ⟨rfl, rfl, husable, rfl, first, rest, hanchors⟩
                        · simp [Except.toOption, hanchors, hcert, hkey, husable] at h
  · rintro ⟨hcert, hkey, husable, hca, first, rest, hanchors⟩
    rw [serverTls, hca, hcert, hkey]
    simp only [Except.toOption, hanchors, husable, if_true]

/-! ## What is made of a bundle -/

/-- There are as many anchors as authorities. -/
lemma length_of_anchorsOf {ders : List Octets} {anchors : List Certificate.Anchor}
    (h : Bundle.anchorsOf ders = .ok anchors) : anchors.length = ders.length := by
  induction ders generalizing anchors with
  | nil =>
      cases h
      rfl
  | cons der ders ih =>
      rw [Bundle.anchorsOf] at h
      cases hder : Certificate.Anchor.ofOctets der with
      | error d => simp [hder] at h
      | ok a =>
          rw [hder] at h
          obtain ⟨as, has, rfl⟩ := map_eq_ok_iff.1 h
          rw [List.length_cons, List.length_cons, ih has]

/-- A client is content with a bundle of which the key can sign and all authorities can be read. -/
lemma exists_clientTls_iff {b : Bundle} :
    (∃ c, clientTls b = .ok c) ↔ b.key.isUsable = true ∧ ∃ anchors, b.anchors = .ok anchors := by
  constructor
  · rintro ⟨c, hc⟩
    obtain ⟨anchors, hanchors, hc⟩ := bind_eq_ok_iff.1 hc
    by_cases husable : b.key.isUsable = true
    · exact ⟨husable, anchors, hanchors⟩
    · rw [if_neg husable] at hc
      cases hc
  · rintro ⟨husable, anchors, hanchors⟩
    refine ⟨⟨anchors, b.chain, b.key⟩, bind_eq_ok_iff.2 ⟨anchors, hanchors, ?_⟩⟩
    rw [if_pos husable]
    rfl

/-- **What a server makes of the files of a bundle** is what was loaded from them: the chain and the
authorities in their order, and the key.  Servers are content with the same bundles as clients. -/
theorem serverTls_of_load {files : Files} {paths : Paths} {b : Bundle}
    (hload : Bundle.load files paths = .ok b) :
    (∀ t, serverTls b.certPem b.keyPem b.caPem = .ok t ↔
      t = ⟨b.chain, b.key, b.authorities⟩ ∧ ∃ c, clientTls b = .ok c) ∧
    HoldsCertificates b.certPem b.chain ∧ HoldsKey b.keyPem b.key ∧
      HoldsCertificates b.caPem b.authorities := by
  obtain ⟨-, hchain, hkey, hauthorities⟩ := load_eq_ok_iff.1 hload
  refine ⟨fun t => ?_, hchain, hkey, hauthorities⟩
  rw [serverTls_eq_ok_iff, certificates_of_holdsCertificates hchain,
    serverKey?_eq_some_iff.2 hkey, certificates_of_holdsCertificates hauthorities,
    exists_clientTls_iff]
  constructor
  · obtain ⟨chain, key, authorities⟩ := t
    rintro ⟨hchain', hkey', husable, hauthorities', first, rest, hanchors⟩
    cases hchain'
    cases hkey'
    cases hauthorities'
    exact ⟨rfl, husable, first :: rest, hanchors⟩
  · rintro ⟨rfl, husable, anchors, hanchors⟩
    obtain ⟨-, -, -, hne⟩ := hauthorities
    have hlength := length_of_anchorsOf hanchors
    have hanchors' : anchors ≠ [] := by
      rintro rfl
      exact hne (List.eq_nil_of_length_eq_zero hlength.symm)
    obtain ⟨first, rest, rfl⟩ := List.exists_cons_of_ne_nil hanchors'
    exact ⟨rfl, rfl, husable, rfl, first, rest, hanchors⟩

namespace Sample

/-- A key that is not wrapped, and cannot sign. -/
def plainKey : PrivateKey := ⟨.sec1, item 0x30 []⟩

/-- The wrapped key that belongs to the certificate of the authority. -/
def wrappedKey : PrivateKey :=
  ⟨.pkcs8, item 0x30 [[2, 1, 0], algorithm, item 0x04 [item 0x04 [Number.toBigEndian 32
    0x080ddb9f210044cd6c40238062cc9bead3e8e7bf70945166449d92193971f274]]]⟩

def certificateSection : Pem.Section := ⟨.certificate, authority⟩

def plainSection : Pem.Section := ⟨.ecKey, plainKey.der⟩

def wrappedSection : Pem.Section := ⟨.pkcs8Key, wrappedKey.der⟩

/-- A file of some sections. -/
def file (ss : List Pem.Section) : Octets :=
  Pem.renderAll [10] ss

/-- The files of a bundle that trusts what it presents. -/
def filesWith (keys : List Pem.Section) : Files :=
  .ofList [("cert", file [certificateSection]), ("key", file keys),
    ("ca", file [certificateSection])]

def paths : Paths := ⟨"cert", "key", "ca"⟩

/-- The bundle in these files, if its key is the given one. -/
def bundleWith (keys : List Pem.Section) (key : PrivateKey) : Bundle :=
  ⟨file [certificateSection], file keys, file [certificateSection], [authority], key, [authority]⟩

lemma reads_file (ss : List Pem.Section) : Reads (lines (file ss)) ss none :=
  (Pem.writes_renderAll (by decide) (by simp [Pem.isLineEnd]) ss).reads

lemma holdsCertificates_file : HoldsCertificates (file [certificateSection]) [authority] :=
  ⟨[certificateSection], reads_file _, by simp [certificatesOf, certificateSection],
    List.cons_ne_nil _ _⟩

lemma load_filesWith {keys : List Pem.Section} {key : PrivateKey}
    (h : (keysOf keys).head? = some key) :
    Bundle.load (filesWith keys) paths = .ok (bundleWith keys key) :=
  load_eq_ok_iff.2 ⟨⟨rfl, rfl, rfl⟩, holdsCertificates_file, ⟨keys, none, reads_file keys, h⟩,
    holdsCertificates_file⟩

lemma isUsable_wrappedKey : wrappedKey.isUsable = true := by
  decide +kernel

lemma not_isUsable_plainKey : ¬plainKey.isUsable = true := by
  decide +kernel

end Sample

/-- A file with a certificate and keys of two forms.  The first key is loaded and presented; where
it cannot sign, the server does not look for the other one. -/
theorem same_identity_of_mixed_keys :
    let keys := [Sample.certificateSection, Sample.wrappedSection, Sample.plainSection]
    let b := Sample.bundleWith keys Sample.wrappedKey
    let keys' := [Sample.plainSection, Sample.wrappedSection]
    let b' := Sample.bundleWith keys' Sample.plainKey
    (Bundle.load (Sample.filesWith keys) Sample.paths = .ok b ∧
      serverTls b.certPem b.keyPem b.caPem = .ok ⟨b.chain, b.key, b.authorities⟩) ∧
    Bundle.load (Sample.filesWith keys') Sample.paths = .ok b' ∧
      ∀ t, serverTls b'.certPem b'.keyPem b'.caPem ≠ .ok t := by
  intro keys b keys' b'
  have hload : Bundle.load (Sample.filesWith keys) Sample.paths = .ok b := Sample.load_filesWith rfl
  have hload' : Bundle.load (Sample.filesWith keys') Sample.paths = .ok b' :=
    Sample.load_filesWith rfl
  refine ⟨⟨hload, ?_⟩, hload', fun t ht => ?_⟩
  · refine ((serverTls_of_load hload).1 _).2 ⟨rfl, exists_clientTls_iff.2 ?_⟩
    exact ⟨Sample.isUsable_wrappedKey, [Sample.anchor], Sample.anchors_bundle⟩
  · obtain ⟨-, hclient⟩ := ((serverTls_of_load hload').1 t).1 ht
    exact Sample.not_isUsable_plainKey (exists_clientTls_iff.1 hclient).1

end StandIn.Tls
