import StandIn.Crypto.Number
import StandIn.Proofs.Certificate.Blame
import StandIn.Proofs.Certificate.Trust
import StandIn.Tls.Bundle

/-!
# Which servers the relay believes

The relay asks for everything that a client asks for, and excuses one thing: a certificate may name
other servers.  What is excused hides nothing else, because names are compared last and no earlier
step complains about them.

The names themselves still have to be readable as far as they are read, which is up to the one that
is looked for.  So a server may be believed under one name and not under another.

* `Covers`, `Names`, `HasReadableNames` — what the names in a certificate say about a server.
* `isValidFor_eq_ok_iff`, `isValidFor_eq_notValidForName_iff` — the two results that are accepted.
* `accepts_iff` — when a server is believed.
* `nameAgnosticVerdict_sound` — a server that is believed has a trusted certificate.
* `accepts_iff_accepts` — when two names are treated alike.
-/

namespace StandIn.Tls

open Certificate

/-! ## What a certificate says about a server -/

/-- A name in a certificate stands for the server. -/
def Covers (server : ServerName) (name : Name) : Prop :=
  match server, name with
  | .host reference, .host presented => hostMatches .reference presented reference = .ok true
  | .address ip, .address octets => octets = addressOctets ip
  | _, _ => False

/-- The names start with readable ones, and the last of these stands for the server. -/
def Mention (server : ServerName) (names : List (Except Defect Name)) : Prop :=
  ∃ (earlier : List Name) (name : Name) (later : List (Except Defect Name)),
    names = earlier.map .ok ++ .ok name :: later ∧ Covers server name

/-- The certificate names the server, in front of anything malformed. -/
def Names (c : Certificate) (server : ServerName) : Prop :=
  Mention server (namesOf c)

/-- No name in the certificate is malformed. -/
def HasReadableNames (c : Certificate) : Prop :=
  ∀ n ∈ namesOf c, ∃ name, n = .ok name

lemma compareHosts_error {presented other : Octets} {d : Defect}
    (h : compareHosts presented other = .error d) : d = .malformedName := by
  fun_induction compareHosts presented other with
  | case1 => cases h
  | case2 =>
      cases h
      rfl
  | case3 _ _ _ _ _ _ ih => exact ih h
  | case4 => cases h
  | case5 => cases h

/-- Looking for a host name fails in one way only, and this way is no verdict. -/
lemma hostMatches_reference_error {presented reference : Octets} {d : Defect}
    (h : hostMatches .reference presented reference = .error d) : d = .malformedName := by
  rw [hostMatches] at h
  by_cases hpresented : isHostFor .presented presented = true
  · rw [hpresented] at h
    by_cases hreference : isHostFor .reference reference = true
    · rw [hreference] at h
      simp only [Bool.not_true, Bool.false_eq_true, if_false, reduceCtorEq] at h
      split at h
      · cases h
      · obtain h | ⟨rest, -, h⟩ := bind_eq_error_iff.1 h
        · exact compareHosts_error h
        · cases rest <;> cases h
    · rw [Bool.not_eq_true] at hreference
      rw [hreference] at h
      cases h
      rfl
  · rw [Bool.not_eq_true] at hpresented
    rw [hpresented] at h
    cases h
    rfl

lemma nameCovers_of_covers {server : ServerName} {name : Name} (h : Covers server name) :
    nameCovers server name = some (.ok ()) := by
  cases server <;> cases name <;> simp_all [Covers, nameCovers]

lemma nameCovers_of_not_covers {server : ServerName} {name : Name} (h : ¬ Covers server name) :
    nameCovers server name = none := by
  cases server with
  | address ip => cases name <;> simp_all [Covers, nameCovers]
  | host reference =>
      cases name with
      | host presented =>
          rw [nameCovers]
          cases hmatch : hostMatches .reference presented reference with
          | error d =>
              obtain rfl := hostMatches_reference_error hmatch
              rfl
          | ok covers =>
              cases covers with
              | false => rfl
              | true => exact absurd hmatch h
      | _ => rfl

lemma mention_cons_error {server : ServerName} {d : Defect} {names : List (Except Defect Name)} :
    ¬ Mention server (.error d :: names) := by
  rintro ⟨earlier, name, later, h, -⟩
  cases earlier <;> cases h

lemma mention_cons_ok {server : ServerName} {name : Name} {names : List (Except Defect Name)} :
    Mention server (.ok name :: names) ↔ Covers server name ∨ Mention server names := by
  constructor
  · rintro ⟨earlier, found, later, h, hcovers⟩
    cases earlier with
    | nil =>
        cases h
        exact .inl hcovers
    | cons first earlier =>
        cases h
        exact .inr ⟨earlier, found, later, rfl, hcovers⟩
  · rintro (hcovers | ⟨earlier, found, later, rfl, hcovers⟩)
    · exact ⟨[], name, names, rfl, hcovers⟩
    · exact ⟨name :: earlier, found, later, rfl, hcovers⟩

lemma firstVerdict_eq_ok_iff {server : ServerName} {names : List (Except Defect Name)} :
    firstVerdict server names = .ok () ↔ Mention server names := by
  induction names with
  | nil =>
      refine iff_of_false nofun ?_
      rintro ⟨earlier, name, later, h, -⟩
      cases earlier <;> cases h
  | cons n names ih =>
      cases n with
      | error d => exact iff_of_false nofun mention_cons_error
      | ok name =>
          rw [firstVerdict, mention_cons_ok]
          by_cases hcovers : Covers server name
          · rw [nameCovers_of_covers hcovers]
            exact iff_of_true rfl (.inl hcovers)
          · rw [nameCovers_of_not_covers hcovers, or_iff_right hcovers]
            exact ih

/-- A wrong name is reported if all names are readable, and none of them is the right one. -/
lemma firstVerdict_eq_notValidForName_iff {server : ServerName}
    {names : List (Except Defect Name)} (hspares : ∀ n ∈ names, SparesName n) :
    firstVerdict server names = .error .notValidForName ↔
      (∀ n ∈ names, ∃ name, n = .ok name) ∧ ¬ Mention server names := by
  induction names with
  | nil =>
      refine iff_of_true rfl ⟨nofun, ?_⟩
      rintro ⟨earlier, name, later, h, -⟩
      cases earlier <;> cases h
  | cons n names ih =>
      rw [List.forall_mem_cons] at hspares
      cases n with
      | error d =>
          refine iff_of_false hspares.1.pass.ne fun h => ?_
          obtain ⟨name, hname⟩ := h.1 _ List.mem_cons_self
          cases hname
      | ok name =>
          rw [firstVerdict, mention_cons_ok, List.forall_mem_cons, not_or]
          by_cases hcovers : Covers server name
          · rw [nameCovers_of_covers hcovers]
            exact iff_of_false nofun fun h => h.2.1 hcovers
          · rw [nameCovers_of_not_covers hcovers]
            refine (ih hspares.2).trans ⟨fun h => ?_, fun h => ⟨h.1.2, h.2.2⟩⟩
            exact ⟨⟨⟨name, rfl⟩, h.1⟩, hcovers, h.2⟩

lemma isValidFor_eq_ok_iff {c : Certificate} {server : ServerName} :
    isValidFor c server = .ok () ↔ Names c server :=
  firstVerdict_eq_ok_iff

lemma isValidFor_eq_notValidForName_iff {c : Certificate} {server : ServerName} :
    isValidFor c server = .error .notValidForName ↔ HasReadableNames c ∧ ¬ Names c server :=
  firstVerdict_eq_notValidForName_iff fun _ => sparesName_of_mem_namesOf

/-! ## The verdict -/

/-- The trusted certificates of a bundle. -/
def Bundle.Trusts (b : Bundle) (a : Anchor) : Prop :=
  ∃ der ∈ b.authorities, Anchor.ofOctets der = .ok a

lemma Bundle.trusts_of_mem_anchorsOf {ders : List Octets} {anchors : List Anchor}
    (h : Bundle.anchorsOf ders = .ok anchors) :
    ∀ a ∈ anchors, ∃ der ∈ ders, Anchor.ofOctets der = .ok a := by
  induction ders generalizing anchors with
  | nil =>
      cases h
      nofun
  | cons der ders ih =>
      rw [Bundle.anchorsOf] at h
      split at h
      · cases h
      · next a ha =>
        obtain ⟨rest, hrest, rfl⟩ := map_eq_ok_iff.1 h
        rw [List.forall_mem_cons]
        refine ⟨⟨der, List.mem_cons_self, ha⟩, fun a' ha' => ?_⟩
        obtain ⟨der', hder', hread⟩ := ih hrest a' ha'
        exact ⟨der', List.mem_cons_of_mem der hder', hread⟩

section Verdict

variable {anchors : List Anchor} {leaf : Octets} {sent : List Octets} {now : Instant}
variable {name name' : ServerName} {c : Certificate} {d : Defect}

/-- The part of the verdict in which the name of the server does not occur. -/
def unnamedVerdict (anchors : List Anchor) (leaf : Octets) (sent : List Octets) (now : Instant) :
    Except Defect Certificate := do
  let c ← Certificate.ofOctets leaf
  let _ ← verifyPath anchors c sent now serverPurpose
  return c

/-- Names are compared when all else has been found to be right. -/
lemma serverVerdict_eq_bind (anchors : List Anchor) (leaf : Octets) (sent : List Octets)
    (now : Instant) (name : ServerName) :
    serverVerdict anchors leaf sent name now
      = (unnamedVerdict anchors leaf sent now).bind fun c => isValidFor c name := by
  rw [serverVerdict, unnamedVerdict]
  cases Certificate.ofOctets leaf with
  | error d => rfl
  | ok c =>
      simp only [bind, Except.bind]
      cases verifyPath anchors c sent now serverPurpose <;> rfl

lemma unnamedVerdict_eq_ok_iff :
    unnamedVerdict anchors leaf sent now = .ok c ↔
      Certificate.ofOctets leaf = .ok c ∧
        ∃ a, verifyPath anchors c sent now serverPurpose = .ok a := by
  constructor
  · intro h
    obtain ⟨c', hread, h⟩ := bind_eq_ok_iff.1 h
    obtain ⟨a, hpath, h⟩ := bind_eq_ok_iff.1 h
    cases h
    exact ⟨hread, a, hpath⟩
  · rintro ⟨hread, a, hpath⟩
    exact bind_eq_ok_iff.2 ⟨c, hread, bind_eq_ok_iff.2 ⟨a, hpath, rfl⟩⟩

lemma sparesName_unnamedVerdict : SparesName (unnamedVerdict anchors leaf sent now) :=
  .bind (sparesName_ofOctets leaf) fun c => .bind (sparesName_verifyPath c) fun _ => .ok

lemma serverVerdict_eq_ok_iff : serverVerdict anchors leaf sent name now = .ok () ↔
    ∃ c, unnamedVerdict anchors leaf sent now = .ok c ∧ Names c name := by
  rw [serverVerdict_eq_bind]
  exact bind_eq_ok_iff.trans (exists_congr fun c => and_congr_right' isValidFor_eq_ok_iff)

/-- A wrong name is reported if nothing else is wrong. -/
lemma serverVerdict_eq_notValidForName_iff :
    serverVerdict anchors leaf sent name now = .error .notValidForName ↔
      ∃ c, unnamedVerdict anchors leaf sent now = .ok c ∧ HasReadableNames c ∧
        ¬ Names c name := by
  rw [serverVerdict_eq_bind]
  refine bind_eq_error_iff.trans ((or_iff_right sparesName_unnamedVerdict.ne).trans ?_)
  exact exists_congr fun c => and_congr_right' isValidFor_eq_notValidForName_iff

lemma nameAgnosticVerdict_eq_misnamed_iff :
    nameAgnosticVerdict anchors leaf sent name now = .ok .misnamed ↔
      serverVerdict anchors leaf sent name now = .error .notValidForName := by
  rw [nameAgnosticVerdict]
  cases serverVerdict anchors leaf sent name now with
  | ok u => exact iff_of_false nofun nofun
  | error d => cases d <;> simp

lemma nameAgnosticVerdict_eq_error_iff :
    nameAgnosticVerdict anchors leaf sent name now = .error d ↔
      serverVerdict anchors leaf sent name now = .error d ∧ d ≠ .notValidForName := by
  rw [nameAgnosticVerdict]
  cases hverdict : serverVerdict anchors leaf sent name now with
  | ok u => exact iff_of_false nofun fun h => nomatch h.1
  | error d' => cases d' <;> simp <;> rintro rfl <;> simp

/-- The server is believed. -/
def Accepts (anchors : List Anchor) (leaf : Octets) (sent : List Octets) (now : Instant)
    (name : ServerName) : Prop :=
  ∃ how, nameAgnosticVerdict anchors leaf sent name now = .ok how

lemma accepts_iff_serverVerdict : Accepts anchors leaf sent now name ↔
    serverVerdict anchors leaf sent name now = .ok () ∨
      serverVerdict anchors leaf sent name now = .error .notValidForName := by
  rw [Accepts, nameAgnosticVerdict]
  cases serverVerdict anchors leaf sent name now with
  | ok u => simp
  | error d => cases d <;> simp

/-- **When a server is believed.** -/
theorem accepts_iff : Accepts anchors leaf sent now name ↔
    ∃ c, unnamedVerdict anchors leaf sent now = .ok c ∧ (HasReadableNames c ∨ Names c name) := by
  rw [accepts_iff_serverVerdict, serverVerdict_eq_ok_iff, serverVerdict_eq_notValidForName_iff,
    ← exists_or]
  refine exists_congr fun c => ?_
  tauto

end Verdict

/-! ## A certificate with a name that breaks off

An authority `ca`, and a certificate that it issued.  The certificate gives the name `a`, and then
one of which the last octet is missing. -/

namespace Sample

/-- An item, whose value has at most 255 octets. -/
def item (tag : UInt8) (parts : List Octets) : Octets :=
  let value := parts.flatten
  let length := value.length.toUInt8
  if value.length < 128 then tag :: length :: value else tag :: 0x81 :: length :: value

def algorithm : Octets :=
  item 0x30 [Signature.ed25519Name]

/-- The key of the authority, which is also the key in the certificate. -/
def publicKey : Octets :=
  algorithm ++ item 0x03 [[0], Number.toBigEndian 32
    0x91be5ec7468bfe5d8a62e6ba6d966da333c3d64bec64a0f86591c28fd96ac16a]

def issuer : Octets :=
  item 0x31 [item 0x30 [[6, 3, 0x55, 4, 3], item 0x0C [Utf8.encode "ca"]]]

/-- A certificate from 2020 to 2049. -/
def certificate (serial : UInt8) (subject : Octets) (extension signature : List Octets) : Octets :=
  item 0x30 [
    item 0x30 [[0xA0, 3, 2, 1, 2], [2, 1, serial], algorithm, item 0x30 [issuer],
      item 0x30 [item 0x17 [Utf8.encode "200101000000Z"], item 0x17 [Utf8.encode "490101000000Z"]],
      item 0x30 [subject], item 0x30 [publicKey], item 0xA3 [item 0x30 [item 0x30 extension]]],
    algorithm, item 0x03 ([0] :: signature)]

def authority : Octets :=
  certificate 1 issuer
    [[6, 3, 0x55, 0x1D, 19], [1, 1, 0xFF], item 0x04 [item 0x30 [[1, 1, 0xFF]]]]
    [Number.toBigEndian 32 0xfe38a219915c7bff81fb5e668c41ba09713e8b96769bbc1c395d29d104398673,
      Number.toBigEndian 32 0x3678cd90162cf54500751e0da671b4348e94ff495b9f17cfb587e94fe15cb306]

def names : Octets :=
  item 0x82 [Utf8.encode "a"] ++ [0x82, 2, 0x62]

def leaf : Octets :=
  certificate 2 [] [[6, 3, 0x55, 0x1D, 17], item 0x04 [item 0x30 [names]]]
    [Number.toBigEndian 32 0x6ba23ba50375e98582eeb85239787fb19d1dbf88b00a9cdb1035b00fe99308a7,
      Number.toBigEndian 32 0x594bc3a95357a091c04073a943e1f2806adfe6e91ff4c43fc7fd2c90a9eea801]

def anchor : Anchor := ⟨issuer, publicKey, none⟩

/-- A bundle that trusts the authority. -/
def bundle : Bundle := ⟨[], [], [], [], ⟨.pkcs8, []⟩, [authority]⟩

/-- A day in November 2023. -/
def now : Instant := 1700000000

lemma anchors_bundle : bundle.anchors = .ok [anchor] := by
  decide +kernel

/-- The signature is good, and the names have not been looked into. -/
lemma unnamedVerdict_leaf :
    (unnamedVerdict [anchor] leaf [] now).map (·.alternativeNames) = .ok (some names) := by
  decide +kernel

lemma serverVerdict_leaf (name : ServerName) :
    serverVerdict [anchor] leaf [] name now = firstVerdict name (namesIn names.length names) := by
  obtain ⟨c, hverdict, hnames⟩ := map_eq_ok_iff.1 unnamedVerdict_leaf
  have hresult : serverVerdict [anchor] leaf [] name now = isValidFor c name := by
    rw [serverVerdict_eq_bind, hverdict]
    rfl
  rw [hresult, isValidFor, namesOf, hnames]

def a : ServerName := .host (Utf8.encode "a")

def b : ServerName := .host (Utf8.encode "b")

lemma nameAgnosticVerdict_a : nameAgnosticVerdict [anchor] leaf [] a now = .ok .named := by
  rw [nameAgnosticVerdict, serverVerdict_leaf]
  decide

lemma nameAgnosticVerdict_b :
    nameAgnosticVerdict [anchor] leaf [] b now = .error .badEncoding := by
  rw [nameAgnosticVerdict, serverVerdict_leaf]
  decide

end Sample

/-! ## What the verdict is worth -/

section Worth

variable {anchors : List Anchor} {leaf : Octets} {sent : List Octets} {now : Instant}
variable {name name' : ServerName}

/-- **A server that is believed can be trusted.**  Its certificate is trusted, is no authority's and
may be used by a server.  A certificate that is refused for any reason but its names is refused for
that reason under every name.  A wrong name is excused if nothing else is wrong and all names can be
read.  And what is complained about is what the full verdict complains about. -/
theorem nameAgnosticVerdict_sound (b : Bundle) (h : b.anchors = .ok anchors) (leaf : Octets)
    (sent : List Octets) (now : Instant) (name : ServerName) :
    (Accepts anchors leaf sent now name → ∃ c, Certificate.ofOctets leaf = .ok c ∧
      IsTrusted b.Trusts sent now serverPurpose 0 c ∧ IsSubordinate c ∧ Serves serverPurpose c) ∧
    (∀ d, unnamedVerdict anchors leaf sent now = .error d →
      nameAgnosticVerdict anchors leaf sent name now = .error d) ∧
    (nameAgnosticVerdict anchors leaf sent name now = .ok .misnamed ↔
      ∃ c, unnamedVerdict anchors leaf sent now = .ok c ∧ HasReadableNames c ∧ ¬ Names c name) ∧
    ∀ d, nameAgnosticVerdict anchors leaf sent name now = .error d ↔
      serverVerdict anchors leaf sent name now = .error d ∧ d ≠ .notValidForName := by
  refine ⟨fun haccepts => ?_, fun d hd => ?_, ?_, fun d => nameAgnosticVerdict_eq_error_iff⟩
  · obtain ⟨c, hverdict, -⟩ := accepts_iff.1 haccepts
    obtain ⟨hread, a, hpath⟩ := unnamedVerdict_eq_ok_iff.1 hverdict
    exact ⟨c, hread, isTrusted_of_verifyPath (Bundle.trusts_of_mem_anchorsOf h) hpath⟩
  · have hspares : SparesName (unnamedVerdict anchors leaf sent now) := sparesName_unnamedVerdict
    rw [hd] at hspares
    rw [nameAgnosticVerdict_eq_error_iff, serverVerdict_eq_bind, hd]
    exact ⟨rfl, fun hname => hspares.ne (congrArg Except.error hname)⟩
  · rw [nameAgnosticVerdict_eq_misnamed_iff, serverVerdict_eq_notValidForName_iff]

theorem trusted_of_sample : Sample.bundle.anchors = .ok [Sample.anchor] ∧
    ∃ c, Certificate.ofOctets Sample.leaf = .ok c ∧
      IsTrusted Sample.bundle.Trusts [] Sample.now serverPurpose 0 c ∧ IsSubordinate c ∧
      Serves serverPurpose c :=
  ⟨Sample.anchors_bundle,
    (nameAgnosticVerdict_sound Sample.bundle Sample.anchors_bundle Sample.leaf [] Sample.now
      Sample.a).1 ⟨.named, Sample.nameAgnosticVerdict_a⟩⟩

/-- **Whether two names are treated alike.**  They are if all names in the certificate are readable;
otherwise it has to be the same with both whether the certificate names them in front of what cannot
be read. -/
theorem accepts_iff_accepts :
    (Accepts anchors leaf sent now name ↔ Accepts anchors leaf sent now name') ↔
      ∀ c, unnamedVerdict anchors leaf sent now = .ok c →
        HasReadableNames c ∨ (Names c name ↔ Names c name') := by
  rw [accepts_iff, accepts_iff]
  cases unnamedVerdict anchors leaf sent now with
  | error d => exact iff_of_true (iff_of_false nofun nofun) nofun
  | ok c =>
      simp only [Except.ok.injEq, exists_eq_left', forall_eq']
      tauto

/-- A name that breaks off is no obstacle for the server that is named in front of it, and is one
for all others. -/
theorem believed_under_one_name : Sample.bundle.anchors = .ok [Sample.anchor] ∧
    nameAgnosticVerdict [Sample.anchor] Sample.leaf [] Sample.a Sample.now = .ok .named ∧
    nameAgnosticVerdict [Sample.anchor] Sample.leaf [] Sample.b Sample.now = .error .badEncoding ∧
    ¬ (Accepts [Sample.anchor] Sample.leaf [] Sample.now Sample.a ↔
      Accepts [Sample.anchor] Sample.leaf [] Sample.now Sample.b) := by
  have ha := Sample.nameAgnosticVerdict_a
  have hb := Sample.nameAgnosticVerdict_b
  refine ⟨Sample.anchors_bundle, ha, hb, fun hsame => ?_⟩
  obtain ⟨how, haccepts⟩ := hsame.1 ⟨.named, ha⟩
  rw [hb] at haccepts
  cases haccepts

end Worth

end StandIn.Tls
