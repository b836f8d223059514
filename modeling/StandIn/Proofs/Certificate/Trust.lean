import Mathlib.Tactic.Lemma
import Mathlib.Tactic.SplitIfs
import StandIn.Certificate.Path
import StandIn.Proofs.Basic

/-!
# What a path of certificates proves

The search for a path tries what the peer sent along in any order, goes back when it is stuck, and
counts what it does.  All of this is about finding a path.  What it finds can be said without it.

* `IsSignedFor`, `IsValidAt`, `IsAuthority`, `Serves` — what is asked of a certificate.
* `IsTrusted` — a certificate was issued by an anchor, or by an authority that is trusted itself.
* `IsPath` — the paths that the search has on its way.  `gives_search` follows it, a step at a time.
* `isTrusted_of_closes` — a path that an anchor closes passes its trust on, down to its end.
* `isTrusted_of_verifyPath` — the search finds a path only for a certificate that is trusted.
-/

namespace StandIn.Certificate

variable {α β : Type}

/-! ## What is asked of a certificate -/

/-- The certificate's signature was made with the given key, by a supported algorithm that is made
for keys of its kind. -/
def IsSignedFor (publicKey : Octets) (c : Certificate) : Prop :=
  ∃ a ∈ Signature.supported, a.name = c.algorithm ∧ ∃ key,
    keyParts publicKey = .ok (a.keyName, key) ∧ a.verify key c.signedPart c.signature = true

/-- The instant lies within the certificate's validity. -/
def IsValidAt (now : Instant) (c : Certificate) : Prop :=
  ∃ start stop rest, readInstant c.validity = .ok (start, rest) ∧
    readInstant rest = .ok (stop, []) ∧ start ≤ now ∧ now ≤ stop

/-- The certificate is an authority's, which may have so many authorities below it. -/
def IsAuthority (below : Nat) (c : Certificate) : Prop :=
  ∃ bs limit, c.basicConstraints = some bs ∧ readConstraints bs = .ok ((true, limit), []) ∧
    ∀ n ∈ limit, below ≤ n

/-- The certificate is no authority's. -/
def IsSubordinate (c : Certificate) : Prop :=
  ∀ bs ∈ c.basicConstraints, ∃ limit, readConstraints bs = .ok ((false, limit), [])

/-- The purpose is among those in the octets. -/
inductive ListsPurpose (purpose : Octets) : Octets → Prop where
  | here {bs rest : Octets} (hread : Der.expect .oid bs = some (purpose, rest)) :
      ListsPurpose purpose bs
  | later {bs rest other : Octets} (hread : Der.expect .oid bs = some (other, rest))
      (hrest : ListsPurpose purpose rest) : ListsPurpose purpose bs

/-- The certificate may be used for the purpose. -/
def Serves (purpose : Octets) (c : Certificate) : Prop :=
  ∀ bs ∈ c.purposes, ListsPurpose purpose bs

/-- The certificate is one of those that were sent along. -/
def IsSent (sent : List Octets) (c : Certificate) : Prop :=
  ∃ der ∈ sent, Certificate.ofOctets der = .ok c

/-- A certificate is trusted if it is valid, and is signed by an anchor or by an authority that was
sent along and is trusted itself.  `depth` is the number of authorities below the issuer. -/
inductive IsTrusted (IsAnchor : Anchor → Prop) (sent : List Octets) (now : Instant)
    (purpose : Octets) : (depth : Nat) → Certificate → Prop where
  | anchored {depth : Nat} {c : Certificate} {a : Anchor} (hanchor : IsAnchor a)
      (hissuer : c.issuer = a.subject) (hsigned : IsSignedFor a.publicKey c)
      (hvalid : IsValidAt now c) : IsTrusted IsAnchor sent now purpose depth c
  | issued {depth : Nat} {c authority : Certificate} (hsent : IsSent sent authority)
      (hissuer : c.issuer = authority.subject) (hsigned : IsSignedFor authority.publicKey c)
      (hvalid : IsValidAt now c) (hauthority : IsAuthority depth authority)
      (hserves : Serves purpose authority)
      (htrusted : IsTrusted IsAnchor sent now purpose (depth + 1) authority) :
      IsTrusted IsAnchor sent now purpose depth c

/-! ## What the checks of a certificate establish -/

lemma whole_eq_ok_iff {d : Defect} {r : Except Defect (α × Octets)} {a : α} :
    whole d r = .ok a ↔ r = .ok (a, []) := by
  rw [whole.eq_def]
  split <;> simp_all

lemma orElse_eq_ok_iff {r : Option α} {d : Defect} {a : α} : orElse r d = .ok a ↔ r = some a := by
  cases r <;> simp [orElse]

/-- What is read goes on only where no reason to refuse holds. -/
lemma ite_throw_eq_ok_iff {p : Prop} [Decidable p] {d : Defect} {f : β → Except Defect α}
    {x : Except Defect α} {a : α} :
    (if p then (throw d : Except Defect β) >>= f else x) = .ok a ↔ ¬p ∧ x = .ok a := by
  split_ifs with h
  · exact iff_of_false nofun fun hx => hx.1 h
  · exact ⟨fun hx => ⟨h, hx⟩, And.right⟩

lemma isValidAt_of_checkValidity {c : Certificate} {now : Instant}
    (h : checkValidity c.validity now = .ok ()) : IsValidAt now c := by
  obtain ⟨⟨start, rest⟩, hstart, h⟩ := bind_eq_ok_iff.1 (whole_eq_ok_iff.1 h)
  obtain ⟨⟨stop, rest'⟩, hstop, h⟩ := bind_eq_ok_iff.1 h
  obtain ⟨-, h⟩ := ite_throw_eq_ok_iff.1 h
  obtain ⟨hearly, h⟩ := ite_throw_eq_ok_iff.1 h
  obtain ⟨hlate, h⟩ := ite_throw_eq_ok_iff.1 h
  cases h
  exact ⟨start, stop, rest, hstart, hstop, Nat.le_of_not_lt hearly, Nat.le_of_not_lt hlate⟩

lemma checkBasicConstraints_some {bs : Octets} {role : Role} {below : Nat}
    (h : checkBasicConstraints (some bs) role below = .ok ()) :
    ∃ authority limit, readConstraints bs = .ok ((authority, limit), []) ∧
      checkRole role below authority limit = .ok () := by
  obtain ⟨⟨⟨authority, limit⟩, rest⟩, hread, h⟩ := bind_eq_ok_iff.1 h
  obtain ⟨⟨⟩, hrole, h⟩ := bind_eq_ok_iff.1 h
  cases rest with
  | nil => exact ⟨authority, limit, hread, hrole⟩
  | cons b rest => cases h

lemma isAuthority_of_checkBasicConstraints {c : Certificate} {below : Nat}
    (h : checkBasicConstraints c.basicConstraints .authority below = .ok ()) :
    IsAuthority below c := by
  cases hbs : c.basicConstraints with
  | none =>
      rw [hbs] at h
      cases h
  | some bs =>
      rw [hbs] at h
      obtain ⟨authority, limit, hread, hrole⟩ := checkBasicConstraints_some h
      cases authority with
      | false => cases hrole
      | true =>
          refine ⟨bs, limit, hbs, hread, fun n hn => ?_⟩
          cases hn
          by_contra hlt
          rw [checkRole, if_pos (Nat.lt_of_not_le hlt)] at hrole
          cases hrole

lemma isSubordinate_of_checkBasicConstraints {c : Certificate} {below : Nat}
    (h : checkBasicConstraints c.basicConstraints .leaf below = .ok ()) : IsSubordinate c := by
  intro bs hbs
  rw [hbs] at h
  obtain ⟨authority, limit, hread, hrole⟩ := checkBasicConstraints_some h
  cases authority with
  | false => exact ⟨limit, hread⟩
  | true => cases hrole

lemma listsPurpose_of_findPurpose {purpose bs : Octets} {fuel : Nat}
    (h : findPurpose purpose fuel bs = .ok ()) : ListsPurpose purpose bs := by
  induction fuel generalizing bs with
  | zero => cases h
  | succ fuel ih =>
      obtain ⟨⟨found, rest⟩, hread, h⟩ := bind_eq_ok_iff.1 h
      have hread := orElse_eq_ok_iff.1 hread
      dsimp only at h
      by_cases hfound : found = purpose
      · exact .here (hfound ▸ hread)
      · rw [if_neg hfound] at h
        obtain ⟨-, h⟩ := ite_throw_eq_ok_iff.1 h
        exact .later hread (ih h)

/-- What a certificate is found to be when it is checked by itself. -/
structure IsSound (now : Instant) (purpose : Octets) (role : Role) (below : Nat)
    (c : Certificate) : Prop where
  valid : IsValidAt now c
  serves : Serves purpose c
  authority : role = .authority → IsAuthority below c
  subordinate : role = .leaf → IsSubordinate c

lemma isSound_of_checkAlone {c : Certificate} {now : Instant} {role : Role} {below : Nat}
    {purpose : Octets} (h : checkAlone c now role below purpose = .ok ()) :
    IsSound now purpose role below c := by
  obtain ⟨⟨⟩, hvalid, h⟩ := bind_eq_ok_iff.1 h
  obtain ⟨⟨⟩, hrole, hserves⟩ := bind_eq_ok_iff.1 h
  refine ⟨isValidAt_of_checkValidity hvalid, fun bs hbs => ?_, ?_, ?_⟩
  · rw [hbs] at hserves
    exact listsPurpose_of_findPurpose hserves
  · rintro rfl
    exact isAuthority_of_checkBasicConstraints hrole
  · rintro rfl
    exact isSubordinate_of_checkBasicConstraints hrole

/-! ## Signatures -/

lemma verifyWith_eq_ok {a : Signature.Algorithm} {publicKey message signature : Octets}
    (h : verifyWith a publicKey message signature = .ok ()) :
    ∃ key, keyParts publicKey = .ok (a.keyName, key) ∧ a.verify key message signature = true := by
  obtain ⟨⟨kind, key⟩, hparts, h⟩ := bind_eq_ok_iff.1 h
  obtain ⟨hkind, h⟩ := ite_throw_eq_ok_iff.1 h
  obtain rfl := not_not.1 hkind
  dsimp only at h
  split_ifs at h with hverify
  exact ⟨key, hparts, hverify⟩

lemma verifyWithAny_eq_ok {publicKey message signature : Octets}
    {algorithms : List Signature.Algorithm}
    (h : verifyWithAny publicKey message signature algorithms = .ok ()) :
    ∃ a ∈ algorithms, verifyWith a publicKey message signature = .ok () := by
  induction algorithms with
  | nil => cases h
  | cons a rest ih =>
      rw [verifyWithAny] at h
      split at h
      · obtain ⟨a', ha', hverify⟩ := ih h
        exact ⟨a', List.mem_cons_of_mem a ha', hverify⟩
      · exact ⟨a, List.mem_cons_self, h⟩

lemma isSignedFor_of_isSignedWith {publicKey : Octets} {c : Certificate}
    (h : isSignedWith publicKey c = .ok ()) : IsSignedFor publicKey c := by
  rw [isSignedWith] at h
  split at h
  · cases h
  · obtain ⟨a, ha, hverify⟩ := verifyWithAny_eq_ok h
    obtain ⟨hsupported, hname⟩ := List.mem_filter.1 ha
    exact ⟨a, hsupported, of_decide_eq_true hname, verifyWith_eq_ok hverify⟩

/-! ## Steps of the search -/

namespace Search

/-- The step may end with the given result, if enough may be spent. -/
def Gives (s : Search α) (a : α) : Prop :=
  ∃ budget, (s budget).1 = .ok a

variable {s : Search α} {a : α} {d : Defect}

lemma not_gives_fail : ¬ (fail d : Search α).Gives a :=
  nofun

lemma gives_ofExcept {r : Except Defect α} (h : (ofExcept r).Gives a) : r = .ok a :=
  h.elim fun _ h => h

lemma Gives.andThen {f : α → Search β} {b : β} (h : (s.andThen f).Gives b) :
    ∃ a, s.Gives a ∧ (f a).Gives b := by
  obtain ⟨budget, h⟩ := h
  rw [Search.andThen] at h
  split at h
  · cases h
  · next a rest heq => exact ⟨a, ⟨budget, by rw [heq]⟩, rest, h⟩

/-- What is found among candidates is found with one of them. -/
lemma Gives.firstOf {f : β → Search α} {items : List β} (h : (Search.firstOf f d items).Gives a) :
    ∃ x ∈ items, (f x).Gives a := by
  induction items generalizing d with
  | nil => exact absurd h not_gives_fail
  | cons x items ih =>
      obtain ⟨budget, h⟩ := h
      rw [Search.firstOf] at h
      dsimp only at h
      split at h
      · next b rest heq => exact ⟨x, List.mem_cons_self, budget, by rw [heq]; exact h⟩
      · split_ifs at h
        obtain ⟨y, hy, hgives⟩ := ih ⟨_, h⟩
        exact ⟨y, List.mem_cons_of_mem x hy, hgives⟩

end Search

/-! ## Paths -/

section Paths

variable {anchors : List Anchor} {sent : List Octets} {now : Instant} {purpose : Octets}
variable {leaf c head : Certificate} {below path : List Certificate} {a : Anchor}

/-- What is found of the head of a path when it is checked by itself. -/
def HeadIsSound (now : Instant) (purpose : Octets) (head : Certificate)
    (below : List Certificate) : Prop :=
  IsSound now purpose (headRole (head :: below)) ((head :: below).length - 2) head

/-- A path from the certificate on which the search may be: each member was issued in the name of
the one in front of it, and all but the head have been checked. -/
inductive IsPath (sent : List Octets) (now : Instant) (purpose : Octets) (leaf : Certificate) :
    List Certificate → Prop where
  | start : IsPath sent now purpose leaf [leaf]
  | extend {c head : Certificate} {below : List Certificate} (hsent : IsSent sent c)
      (hissuer : head.issuer = c.subject) (hhead : HeadIsSound now purpose head below)
      (hpath : IsPath sent now purpose leaf (head :: below)) :
      IsPath sent now purpose leaf (c :: head :: below)

/-- An anchor closes the path, whose head has been checked as well. -/
structure IsClosed (anchors : List Anchor) (sent : List Octets) (now : Instant)
    (purpose : Octets) (leaf : Certificate) (a : Anchor) (head : Certificate)
    (below : List Certificate) : Prop where
  path : IsPath sent now purpose leaf (head :: below)
  sound : HeadIsSound now purpose head below
  anchor : a ∈ anchors
  closes : (closes (head :: below) a).Gives ()

/-- What a certificate that continues a path has to do with it. -/
lemma issuer_of_continues (h : continues (head :: below) c = true) : head.issuer = c.subject := by
  rw [continues, Bool.and_eq_true] at h
  exact (of_decide_eq_true h.1).symm

/-- **A step of the search.**  It ends with an anchor that closes the path, or goes on from a longer
one. -/
lemma gives_extendSearch {deeper : Option (List Certificate → Search Anchor)}
    (hpath : IsPath sent now purpose leaf (head :: below))
    (h : (extendSearch anchors sent now purpose deeper (head :: below)).Gives a) :
    IsClosed anchors sent now purpose leaf a head below ∨
      ∃ go ∈ deeper, ∃ c, IsPath sent now purpose leaf (c :: head :: below) ∧
        (go (c :: head :: below)).Gives a := by
  obtain ⟨⟨⟩, halone, budget, h⟩ := h.andThen
  have hhead : HeadIsSound now purpose head below :=
    isSound_of_checkAlone (Search.gives_ofExcept halone)
  dsimp only at h
  split at h
  · next a' rest heq =>
    cases h
    obtain ⟨a', ha', hclose⟩ := Search.Gives.firstOf ⟨budget, congrArg Prod.fst heq⟩
    obtain ⟨⟨⟩, hcloses, _, hsame⟩ := hclose.andThen
    cases hsame
    exact .inl ⟨hpath, hhead, ha', hcloses⟩
  · split_ifs at h
    obtain ⟨der, hder, hstep⟩ := Search.Gives.firstOf ⟨_, h⟩
    obtain ⟨c, hread, hstep⟩ := hstep.andThen
    split_ifs at hstep with hcontinues
    · obtain ⟨⟨⟩, -, hstep⟩ := hstep.andThen
      cases deeper with
      | none => exact absurd hstep Search.not_gives_fail
      | some go =>
          exact .inr ⟨go, rfl, c, .extend ⟨der, hder, Search.gives_ofExcept hread⟩
            (issuer_of_continues hcontinues) hhead hpath, hstep⟩
    · exact absurd hstep Search.not_gives_fail

/-- **A run of the search.**  Whatever it tried, it ends with an anchor only if that closes a path
from the certificate. -/
lemma gives_search {room : Nat} (hpath : IsPath sent now purpose leaf (head :: below))
    (h : (search anchors sent now purpose room (head :: below)).Gives a) :
    ∃ head below, IsClosed anchors sent now purpose leaf a head below := by
  induction room generalizing head below with
  | zero =>
      obtain hclosed | ⟨go, hgo, -⟩ := gives_extendSearch hpath h
      · exact ⟨head, below, hclosed⟩
      · cases hgo
  | succ room ih =>
      obtain hclosed | ⟨go, hgo, c, hlonger, hgives⟩ := gives_extendSearch hpath h
      · exact ⟨head, below, hclosed⟩
      · cases hgo
        exact ih hlonger hgives

/-! ## Trust -/

variable {IsAnchor : Anchor → Prop}

lemma isSignedFor_of_checkSigned {publicKey : Octets}
    (h : (checkSigned publicKey c).Gives ()) : IsSignedFor publicKey c := by
  obtain ⟨⟨⟩, -, hsigned⟩ := h.andThen
  exact isSignedFor_of_isSignedWith (Search.gives_ofExcept hsigned)

/-- Trust in the head of a path is passed on to the certificate at its end. -/
lemma isTrusted_of_checkSignatures (hpath : IsPath sent now purpose leaf (head :: below))
    (hhead : HeadIsSound now purpose head below)
    (htrusted : IsTrusted IsAnchor sent now purpose below.length head)
    (hsigned : (checkSignatures head.publicKey below).Gives ()) :
    IsTrusted IsAnchor sent now purpose 0 leaf ∧ HeadIsSound now purpose leaf [] := by
  induction below generalizing head with
  | nil =>
      cases hpath
      exact ⟨htrusted, hhead⟩
  | cons c below ih =>
      obtain - | ⟨hsent, hissuer, hc, hpath⟩ := hpath
      obtain ⟨⟨⟩, hfirst, hsigned⟩ := hsigned.andThen
      refine ih hpath hc ?_ hsigned
      exact .issued hsent hissuer (isSignedFor_of_checkSigned hfirst) hc.valid
        (hhead.authority rfl) hhead.serves htrusted

/-- **A closed path establishes trust.** -/
lemma isTrusted_of_isClosed (hanchors : ∀ a ∈ anchors, IsAnchor a)
    (h : IsClosed anchors sent now purpose leaf a head below) :
    IsTrusted IsAnchor sent now purpose 0 leaf ∧ HeadIsSound now purpose leaf [] := by
  have hcloses := h.closes
  rw [closes] at hcloses
  split_ifs at hcloses with hissuer
  · exact absurd hcloses Search.not_gives_fail
  · obtain ⟨⟨⟩, hsigned, -⟩ := hcloses.andThen
    obtain ⟨⟨⟩, hfirst, hsigned⟩ := hsigned.andThen
    refine isTrusted_of_checkSignatures h.path h.sound ?_ hsigned
    exact .anchored (hanchors a h.anchor) (not_not.1 hissuer) (isSignedFor_of_checkSigned hfirst)
      h.sound.valid

/-- **A path leads only from what is trusted.** -/
theorem isTrusted_of_verifyPath (hanchors : ∀ a ∈ anchors, IsAnchor a)
    (h : verifyPath anchors leaf sent now purpose = .ok a) :
    IsTrusted IsAnchor sent now purpose 0 leaf ∧ IsSubordinate leaf ∧ Serves purpose leaf := by
  have hgives : (search anchors sent now purpose maxLevels [leaf]).Gives a := ⟨{}, h⟩
  obtain ⟨head, below, hclosed⟩ := gives_search .start hgives
  obtain ⟨htrusted, hleaf⟩ := isTrusted_of_isClosed hanchors hclosed
  exact ⟨htrusted, hleaf.subordinate rfl, hleaf.serves⟩

end Paths

end StandIn.Certificate
