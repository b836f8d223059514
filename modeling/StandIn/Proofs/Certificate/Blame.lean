import Mathlib.Tactic.Lemma
import Mathlib.Tactic.SplitIfs
import StandIn.Certificate.Path

/-!
# What the search for a path never complains about

A wrong name is excused, so it matters that nothing but the comparison of names complains about
one.  Reading a certificate and seeking a path have many ways to fail, and none of them is this one.

* `SparesName` — a result that is no complaint about the name.  There is a lemma for each way in
  which results are put together, and one for each reader of a certificate's parts.
* `Search.SparesName` — the same for steps of the search.
* `sparesName_verifyPath` — seeking a path never ends in a complaint about the name.
-/

namespace StandIn.Certificate

variable {α β : Type}

/-- The result is anything but the complaint that a certificate is not valid for the name. -/
structure SparesName (r : Except Defect α) : Prop where
  ne : r ≠ .error .notValidForName

namespace SparesName

variable {x y : Except Defect α} {f : α → Except Defect β} {d : Defect}

lemma ok {a : α} : SparesName (.ok a) := ⟨nofun⟩

lemma error (hd : d ≠ .notValidForName) : SparesName (.error d : Except Defect α) :=
  ⟨fun h => hd (Except.error.inj h)⟩

/-- A failure that is passed on. -/
lemma pass (hx : SparesName (.error d : Except Defect α)) :
    SparesName (.error d : Except Defect β) :=
  error fun hd => hx.ne (congrArg Except.error hd)

lemma bind (hx : SparesName x) (hf : ∀ a, SparesName (f a)) : SparesName (x >>= f) := by
  cases x with
  | error d => exact hx.pass
  | ok a => exact hf a

lemma throw_bind (hd : d ≠ .notValidForName) : SparesName ((throw d : Except Defect α) >>= f) :=
  (error hd : SparesName (.error d : Except Defect β))

lemma ite {p : Prop} [Decidable p] (hx : SparesName x) (hy : SparesName y) :
    SparesName (if p then x else y) := by
  split_ifs
  · exact hx
  · exact hy

lemma map {g : α → β} (hx : SparesName x) : SparesName (x.map g) := by
  cases x with
  | error d => exact hx.pass
  | ok a => exact ok

lemma orElse {r : Option α} (hd : d ≠ .notValidForName) :
    SparesName (Certificate.orElse r d) := by
  cases r with
  | none => exact error hd
  | some a => exact ok

lemma whole {r : Except Defect (α × Octets)} (hd : d ≠ .notValidForName) (hr : SparesName r) :
    SparesName (Certificate.whole d r) := by
  rw [Certificate.whole.eq_def]
  split
  · exact hr.pass
  · exact ok
  · exact error hd

lemma nested {tag : Der.Tag} {inner : Octets → Except Defect (α × Octets)} {bs : Octets}
    (hd : d ≠ .notValidForName) (hinner : ∀ value, SparesName (inner value)) :
    SparesName (Certificate.nested tag d inner bs) :=
  .bind (.orElse hd) fun ⟨value, _⟩ => .bind (.whole hd (hinner value)) fun _ => .ok

end SparesName

/-! ## Reading a certificate -/

lemma sparesName_boolean (bs : Octets) : SparesName (boolean bs) := by
  refine .ite (.nested nofun fun value => ?_) .ok
  cases value with
  | nil => exact .error nofun
  | cons b rest => exact .ite .ok (.ite .ok (.error nofun))

lemma sparesName_smallNumber (bs : Octets) : SparesName (smallNumber bs) := by
  refine .bind (.orElse nofun) fun ⟨value, rest⟩ => ?_
  dsimp only
  split
  · exact .ok
  · exact .error nofun

lemma sparesName_extension (bs : Octets) : SparesName (extension bs) :=
  .bind (.orElse nofun) fun ⟨_, bs⟩ => .bind (sparesName_boolean bs) fun _ =>
    .bind (.orElse nofun) fun _ => .ok

lemma sparesName_once {old : Option α} {new : Except Defect α} (hnew : SparesName new) :
    SparesName (once old new) := by
  cases old with
  | none => exact hnew.map
  | some a => exact .error nofun

lemma sparesName_note (c : Certificate) (e : Extension) : SparesName (note c e) := by
  have hsequence {old : Option Octets} {f : Option Octets → Certificate} :
      SparesName (once old (sequenceValue e) >>= fun x => .ok (f x)) :=
    .bind (sparesName_once (.whole nofun (.orElse nofun))) fun _ => .ok
  rw [note.eq_def]
  split
  · exact .bind (sparesName_once .ok) fun _ => .ok
  · exact hsequence
  · exact hsequence
  · exact hsequence
  · exact hsequence
  · exact hsequence
  · exact .ite (.error nofun) .ok

lemma sparesName_extensions (c : Certificate) (fuel : Nat) (bs : Octets) :
    SparesName (extensions c fuel bs) := by
  induction fuel generalizing c bs with
  | zero => exact .error nofun
  | succ fuel ih =>
      refine .bind (.nested nofun fun inner => ?_) fun ⟨c', rest⟩ => .ite .ok (ih c' rest)
      exact .bind (sparesName_extension inner) fun ⟨e, _⟩ =>
        .bind (sparesName_note c e) fun _ => .ok

/-- The bits of a key or of a signature. -/
lemma sparesName_nestedBits (bs : Octets) :
    SparesName (nested .bitString .trailingData (fun bits => do
      return (← orElse (Der.filledBits bits), [])) bs) :=
  .nested nofun fun _ => .bind (.orElse nofun) fun _ => .ok

lemma sparesName_envelope (bs : Octets) : SparesName (envelope bs) :=
  .whole nofun <| .nested nofun fun _ => .bind (.orElse nofun) fun _ =>
    .bind (.orElse nofun) fun ⟨_, bs⟩ => .bind (sparesName_nestedBits bs) fun _ => .ok

lemma sparesName_version (bs : Octets) : SparesName (version bs) :=
  .nested nofun fun inner => .bind (sparesName_smallNumber inner) fun _ => .ite .ok (.error nofun)

lemma sparesName_optionalExtensions (c : Certificate) (bs : Octets) :
    SparesName (optionalExtensions c bs) :=
  .ite .ok <| .nested nofun fun _ => .nested nofun fun list =>
    .bind (sparesName_extensions c list.length list) fun _ => .ok

lemma sparesName_ofOctets (bs : Octets) : SparesName (Certificate.ofOctets bs) := by
  refine .bind (sparesName_envelope bs) fun ⟨signedPart, body, algorithm, signature⟩ => ?_
  refine .whole nofun <| .bind (sparesName_version body) fun _ => .bind (.orElse nofun) fun _ =>
    .bind (.orElse nofun) fun _ => .ite (.throw_bind nofun) ?_
  exact .bind (.orElse nofun) fun _ => .bind (.orElse nofun) fun _ =>
    .bind (.orElse nofun) fun _ => .bind (.orElse nofun) fun ⟨_, bs⟩ =>
      sparesName_optionalExtensions _ bs

/-! ## A certificate by itself -/

lemma sparesName_twoDigits (low high : Nat) (bs : Octets) : SparesName (twoDigits low high bs) := by
  rw [twoDigits.eq_def]
  split
  · exact .ite .ok (.error nofun)
  · exact .error nofun

lemma sparesName_readInstant (bs : Octets) : SparesName (readInstant bs) := by
  have hnumber := sparesName_twoDigits
  have hshort (bs : Octets) : SparesName (shortYear bs) :=
    .bind (hnumber 0 99 bs) fun _ => .ok
  have hlong (bs : Octets) : SparesName (longYear bs) :=
    .bind (hnumber 0 99 bs) fun ⟨_, bs⟩ => .bind (hnumber 0 99 bs) fun _ => .ok
  rw [readInstant]
  refine .nested nofun fun value => .ite (.bind (hshort value) fun _ => ?_)
    (.bind (hlong value) fun _ => ?_)
  -- The rest does not depend on the number of digits of the year.
  all_goals
    refine .bind (hnumber ..) fun _ => .bind (hnumber ..) fun _ => .bind (hnumber ..) fun _ =>
      .bind (hnumber ..) fun _ => .bind (hnumber ..) fun ⟨_, value⟩ => ?_
    dsimp only
    split
    · exact .bind (.orElse nofun) fun _ => .ok
    · exact .error nofun

lemma sparesName_checkValidity (validity : Octets) (now : Instant) :
    SparesName (checkValidity validity now) :=
  .whole nofun <| .bind (sparesName_readInstant validity) fun ⟨_, bs⟩ =>
    .bind (sparesName_readInstant bs) fun _ => .ite (.throw_bind nofun) <|
      .ite (.throw_bind nofun) <| .ite (.throw_bind nofun) .ok

lemma sparesName_checkRole (role : Role) (below : Nat) (authority : Bool) (limit : Option Nat) :
    SparesName (checkRole role below authority limit) := by
  rw [checkRole.eq_def]
  split
  · exact .error nofun
  · exact .error nofun
  · exact .ite (.error nofun) .ok
  · exact .ok

lemma sparesName_checkBasicConstraints (constraints : Option Octets) (role : Role) (below : Nat) :
    SparesName (checkBasicConstraints constraints role below) := by
  cases constraints with
  | none => exact sparesName_checkRole ..
  | some bs =>
      have hread : SparesName (readConstraints bs) :=
        .bind (sparesName_boolean bs) fun ⟨_, bs⟩ =>
          .ite .ok (.bind (sparesName_smallNumber bs) fun _ => .ok)
      exact .bind hread fun _ => .bind (sparesName_checkRole ..) fun _ => .ite (.error nofun) .ok

lemma sparesName_findPurpose (purpose : Octets) (fuel : Nat) (bs : Octets) :
    SparesName (findPurpose purpose fuel bs) := by
  induction fuel generalizing bs with
  | zero => exact .error nofun
  | succ fuel ih =>
      exact .bind (.orElse nofun) fun ⟨_, rest⟩ => .ite .ok (.ite (.throw_bind nofun) (ih rest))

lemma sparesName_checkAlone (c : Certificate) (now : Instant) (role : Role) (below : Nat)
    (purpose : Octets) : SparesName (checkAlone c now role below purpose) := by
  refine .bind (sparesName_checkValidity ..) fun _ =>
    .bind (sparesName_checkBasicConstraints ..) fun _ => ?_
  rw [checkPurpose.eq_def]
  split
  · exact .ok
  · exact sparesName_findPurpose ..

/-! ## Signatures -/

lemma sparesName_verifyWith (a : Signature.Algorithm) (publicKey message signature : Octets) :
    SparesName (verifyWith a publicKey message signature) := by
  have hparts : SparesName (keyParts publicKey) :=
    .whole nofun <| .bind (.orElse nofun) fun ⟨_, bs⟩ =>
      .bind (sparesName_nestedBits bs) fun _ => .ok
  refine .bind hparts fun ⟨kind, key⟩ => ?_
  dsimp only
  exact .ite (.throw_bind nofun) (.ite .ok (.error nofun))

lemma sparesName_isSignedWith (publicKey : Octets) (c : Certificate) :
    SparesName (isSignedWith publicKey c) := by
  have hany (algorithms : List Signature.Algorithm) :
      SparesName (verifyWithAny publicKey c.signedPart c.signature algorithms) := by
    induction algorithms with
    | nil => exact .error nofun
    | cons a rest ih =>
        rw [verifyWithAny]
        split
        · exact ih
        · exact sparesName_verifyWith ..
  rw [isSignedWith]
  generalize Signature.supported.filter _ = candidates
  cases candidates with
  | nil => exact .error nofun
  | cons a rest => exact hany (a :: rest)

/-! ## Names and constraints -/

lemma sparesName_read (bs : Octets) : SparesName (Name.read bs) := by
  refine .bind (.orElse nofun) fun ⟨item, rest⟩ => ?_
  dsimp only
  split <;> first | exact .ok | exact .error nofun

/-- A malformed name is no wrong name. -/
lemma sparesName_of_mem_namesIn {n : Except Defect Name} {fuel : Nat} {bs : Octets}
    (h : n ∈ namesIn fuel bs) : SparesName n := by
  induction fuel generalizing bs with
  | zero => cases bs <;> cases h
  | succ fuel ih =>
      cases bs with
      | nil => cases h
      | cons b bs =>
          have hread := sparesName_read (b :: bs)
          rw [namesIn] at h
          · split at h
            · next d hd =>
              rw [hd] at hread
              rw [List.mem_singleton.1 h]
              exact hread.pass
            · rcases List.mem_cons.1 h with rfl | h
              · exact .ok
              · exact ih h
          · nofun

lemma sparesName_of_mem_namesOf {c : Certificate} {n : Except Defect Name} (h : n ∈ namesOf c) :
    SparesName n := by
  rw [namesOf] at h
  split at h
  · cases h
  · exact sparesName_of_mem_namesIn h

lemma sparesName_of_mem_allNamesOf {c : Certificate} {n : Except Defect Name}
    (h : n ∈ allNamesOf c) : SparesName n := by
  rw [allNamesOf] at h
  split_ifs at h
  · exact sparesName_of_mem_namesOf h
  · rcases List.mem_append.1 h with h | h
    · exact sparesName_of_mem_namesOf h
    · rw [List.mem_singleton.1 h]
      exact .ok

lemma sparesName_compareHosts (presented other : Octets) :
    SparesName (compareHosts presented other) := by
  induction presented generalizing other with
  | nil => exact .ok
  | cons p ps ih =>
      cases other with
      | nil => exact .ok
      | cons q qs => exact .ite (.ite (.error nofun) (ih qs)) .ok

lemma sparesName_hostMatches (role : HostRole) (presented other : Octets) :
    SparesName (hostMatches role presented other) := by
  have hcause : (if role = .constraint then Defect.malformedNameConstraint else .malformedName)
      ≠ .notValidForName := by
    split_ifs <;> nofun
  refine .ite (.throw_bind nofun) <| .ite (.throw_bind hcause) ?_
  dsimp only
  split
  · exact .ok
  · split
    · exact .ok
    · refine .bind (sparesName_compareHosts ..) fun rest => ?_
      cases rest with
      | none => exact .ok
      | some rest => exact .ok

lemma sparesName_inNetwork (full : Bool) (address network mask : Octets) :
    SparesName (inNetwork full address network mask) := by
  fun_induction inNetwork full address network mask with
  | case1 => exact .error nofun
  | case2 => exact .ok
  | case3 _ _ _ _ _ _ _ _ _ ih => exact ih
  | case4 => exact .ok

lemma sparesName_addressMatches (address constraint : Octets) :
    SparesName (addressMatches address constraint) := by
  rw [addressMatches]
  split
  · exact sparesName_inNetwork ..
  · exact sparesName_inNetwork ..
  · exact .ok
  · exact .ok
  · exact .error nofun
  · exact .error nofun
  · exact .error nofun

lemma sparesName_of_matchesBase {subtrees : Subtrees} {name base : Name} {r : Except Defect Bool}
    (h : matchesBase subtrees name base = some r) : SparesName r := by
  rw [matchesBase.eq_def] at h
  split at h
  · cases h
    exact sparesName_hostMatches ..
  · cases h
    exact .ok
  · cases h
    exact sparesName_addressMatches ..
  · split_ifs at h
    cases h
    exact .error nofun
  · cases h

lemma sparesName_readBase (bs : Octets) : SparesName (readBase bs) :=
  .bind (.orElse nofun) fun ⟨value, _⟩ =>
    .bind (.whole nofun (sparesName_read value)) fun _ => .ok

lemma sparesName_splitConstraints (bs : Octets) : SparesName (splitConstraints bs) := by
  refine .bind (.ite (.bind (.orElse nofun) fun _ => .ok) .ok) fun ⟨_, bs⟩ => ?_
  exact .bind (.ite (.bind (.orElse nofun) fun _ => .ok) .ok) fun _ => .ok

/-! ## Steps of the search -/

namespace Search

/-- However much may be spent, a step never ends in a complaint about the name. -/
structure SparesName (s : Search α) : Prop where
  result : ∀ budget, Certificate.SparesName (s budget).1

namespace SparesName

variable {s : Search α} {f : α → Search β} {d : Defect}

lemma pure {a : α} : SparesName (Search.pure a) := ⟨fun _ => .ok⟩

lemma fail (hd : d ≠ .notValidForName) : SparesName (Search.fail d : Search α) :=
  ⟨fun _ => .error hd⟩

lemma ofExcept {r : Except Defect α} (hr : Certificate.SparesName r) :
    SparesName (Search.ofExcept r) := ⟨fun _ => hr⟩

lemma andThen (hs : SparesName s) (hf : ∀ a, SparesName (f a)) : SparesName (s.andThen f) where
  result budget := by
    have hresult := hs.result budget
    rw [Search.andThen]
    split
    · next d rest heq =>
      rw [heq] at hresult
      exact hresult.pass
    · exact (hf _).result _

lemma ite {p : Prop} [Decidable p] {t : Search α} (hs : SparesName s) (ht : SparesName t) :
    SparesName (if p then s else t) := by
  split_ifs
  · exact hs
  · exact ht

lemma paySignature : SparesName Search.paySignature where
  result budget := by
    rw [Search.paySignature]
    split
    · exact .error nofun
    · exact .ok

lemma paySearch : SparesName Search.paySearch where
  result budget := by
    rw [Search.paySearch]
    split
    · exact .error nofun
    · exact .ok

lemma payComparison : SparesName Search.payComparison where
  result budget := by
    rw [Search.payComparison]
    split
    · exact .error nofun
    · exact .ok

lemma forEach {g : β → Search Unit} {items : List β} (hg : ∀ x ∈ items, SparesName (g x)) :
    SparesName (Search.forEach g items) := by
  induction items with
  | nil => exact pure
  | cons x items ih =>
      rw [List.forall_mem_cons] at hg
      exact hg.1.andThen fun _ => ih hg.2

/-- The most telling failure is one of those that occurred. -/
lemma firstOf {g : β → Search α} {items : List β} (hd : d ≠ .notValidForName)
    (hg : ∀ x ∈ items, SparesName (g x)) : SparesName (Search.firstOf g d items) := by
  induction items generalizing d with
  | nil => exact fail hd
  | cons x items ih =>
      rw [List.forall_mem_cons] at hg
      refine ⟨fun budget => ?_⟩
      have hresult := hg.1.result budget
      rw [Search.firstOf]
      dsimp only
      split
      · exact .ok
      · next d' rest heq =>
        rw [heq] at hresult
        have hmore : d.moreTelling d' ≠ .notValidForName := by
          rw [Defect.moreTelling]
          split_ifs
          · exact hd
          · exact fun h => hresult.ne (congrArg Except.error h)
        split_ifs
        · exact hresult
        · exact (ih hmore hg.2).result rest

end SparesName

end Search

lemma sparesName_checkSigned (publicKey : Octets) (c : Certificate) :
    (checkSigned publicKey c).SparesName :=
  .andThen .paySignature fun _ => .ofExcept (sparesName_isSignedWith publicKey c)

lemma sparesName_checkSubtrees (subtrees : Subtrees) (name : Name) (hit miss : Bool) (fuel : Nat)
    (bs : Octets) : (checkSubtrees subtrees name hit miss fuel bs).SparesName := by
  induction fuel generalizing hit miss bs with
  | zero =>
      cases bs with
      | nil => exact .ite (.fail nofun) .pure
      | cons b bs => exact .fail nofun
  | succ fuel ih =>
      cases bs with
      | nil => exact .ite (.fail nofun) .pure
      | cons b bs =>
          refine .andThen .payComparison fun _ => .andThen (.ofExcept (sparesName_readBase _))
            fun ⟨base, rest⟩ => ?_
          dsimp only
          split
          · exact ih ..
          · next d hd => exact .fail fun h => (sparesName_of_matchesBase hd).ne (h ▸ rfl)
          · cases subtrees with
            | permitted => exact ih ..
            | excluded => exact .ite (.fail nofun) (ih ..)

lemma sparesName_checkName (permitted excluded : Option Octets) {name : Except Defect Name}
    (hname : SparesName name) : (checkName permitted excluded name).SparesName := by
  refine .andThen (.ofExcept hname) fun name => .andThen ?_ fun _ => ?_
  · cases permitted with
    | none => exact .pure
    | some bs => exact sparesName_checkSubtrees ..
  · cases excluded with
    | none => exact .pure
    | some bs => exact sparesName_checkSubtrees ..

lemma sparesName_checkConstraints (constraints : Option Octets) (path : List Certificate) :
    (checkConstraints constraints path).SparesName := by
  cases constraints with
  | none => exact .pure
  | some bs =>
      refine .andThen (.ofExcept (sparesName_splitConstraints bs)) fun ⟨⟨permitted, excluded⟩, rest⟩
        => .andThen (.forEach fun c _ => .forEach fun n hn => ?_) fun _ => ?_
      · exact sparesName_checkName permitted excluded (sparesName_of_mem_allNamesOf hn)
      · exact .ite .pure (.fail nofun)

lemma sparesName_closes (path : List Certificate) (anchor : Anchor) :
    (closes path anchor).SparesName := by
  have hsignatures (publicKey : Octets) (path : List Certificate) :
      (checkSignatures publicKey path).SparesName := by
    induction path generalizing publicKey with
    | nil => exact .pure
    | cons c below ih => exact .andThen (sparesName_checkSigned publicKey c) fun _ => ih c.publicKey
  have hconstraints (constraints : Option Octets) (path : List Certificate) :
      (checkAllConstraints constraints path).SparesName := by
    induction path generalizing constraints with
    | nil => exact .pure
    | cons c below ih =>
        exact .andThen (sparesName_checkConstraints constraints _) fun _ => ih c.nameConstraints
  cases path with
  | nil => exact .fail nofun
  | cons head below =>
      exact .ite (.fail nofun) (.andThen (hsignatures _ _) fun _ => hconstraints _ _)

/-! ## The search -/

variable {anchors : List Anchor} {sent : List Octets} {now : Instant} {purpose : Octets}

lemma sparesName_extendSearch {deeper : Option (List Certificate → Search Anchor)}
    (hdeeper : ∀ go ∈ deeper, ∀ path, (go path).SparesName) (path : List Certificate) :
    (extendSearch anchors sent now purpose deeper path).SparesName := by
  cases path with
  | nil => exact .fail nofun
  | cons head below =>
      refine .andThen (.ofExcept (sparesName_checkAlone ..)) fun _ => ⟨fun budget => ?_⟩
      have hclose : (Search.firstOf (fun a => (closes (head :: below) a).andThen
          fun _ => Search.pure a) .unknownIssuer anchors).SparesName :=
        .firstOf nofun fun a _ => .andThen (sparesName_closes _ a) fun _ => .pure
      have hresult := hclose.result budget
      dsimp only
      split
      · exact .ok
      · next d rest heq =>
        rw [heq] at hresult
        split_ifs
        · exact hresult
        · refine (Search.SparesName.firstOf (fun h => hresult.ne (congrArg Except.error h))
            fun bs _ => ?_).result rest
          refine .andThen (.ofExcept (sparesName_ofOctets bs)) fun candidate =>
            .ite ?_ (.fail nofun)
          refine .andThen .paySearch fun _ => ?_
          split
          · exact .fail nofun
          · next go => exact hdeeper go rfl _

lemma sparesName_search (room : Nat) (path : List Certificate) :
    (search anchors sent now purpose room path).SparesName := by
  induction room generalizing path with
  | zero =>
      refine sparesName_extendSearch (fun go hgo => ?_) path
      cases hgo
  | succ room ih =>
      refine sparesName_extendSearch (fun go hgo => ?_) path
      cases hgo
      exact ih

/-- **Seeking a path never ends in a complaint about the name.** -/
theorem sparesName_verifyPath (leaf : Certificate) :
    SparesName (verifyPath anchors leaf sent now purpose) :=
  (sparesName_search maxLevels [leaf]).result {}

end StandIn.Certificate
