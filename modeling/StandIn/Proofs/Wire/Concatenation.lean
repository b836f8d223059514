import StandIn.Proofs.Wire.Steps

/-!
# Merging is concatenation

A decoder keeps nothing between two records but the message, and never looks past a record.  So it
may stop anywhere between records and go on later.

* `Part.law_of_takes` — what a record makes of its part is what the law of the part says.
* `Conforms.mergesOctets_of_course` — and so it is with any number of records.
* `MessageType.decode_append` — merging is concatenation.
-/

namespace StandIn

namespace Wire

open Reader

/-! ## What records do, by the laws of the parts -/

section Laws

variable {M : Type} {parts : List (Part M)} {depth : Nat}

lemma Part.law_of_value_eq {part : Part M} {i : Inner} {rs : List Record} {old new : M}
    (hrs : numbered part.number rs = []) (hvalue : part.value new = part.value old) :
    part.Law i rs old new := by
  cases part with
  | scalar number s get =>
      obtain ⟨-, h⟩ := Sigma.mk.inj hvalue
      exact ⟨[], hrs ▸ .nil, eq_of_heq h⟩
  | repeated number s get =>
      obtain ⟨-, h⟩ := Sigma.mk.inj hvalue
      exact ⟨[], hrs ▸ .nil, (eq_of_heq h).trans (List.append_nil _).symm⟩
  | message? number t get =>
      obtain ⟨-, h⟩ := Sigma.mk.inj hvalue
      exact ⟨[], hrs ▸ .nil, eq_of_heq h⟩
  | messages number t get =>
      obtain ⟨-, h⟩ := Sigma.mk.inj hvalue
      exact ⟨[], [], hrs ▸ .nil, .nil, (eq_of_heq h).trans (List.append_nil _).symm⟩
  | dictionary number get =>
      obtain ⟨-, h⟩ := Sigma.mk.inj hvalue
      refine ⟨[], [], hrs ▸ .nil, .nil, fun key => ?_⟩
      rw [eq_of_heq h]
      rfl

/-- What is known of messages in a message, and of entries in a dictionary. -/
def Inner.Covers (i : Inner) (depth : Nat) : Prop :=
  (∀ t x body y, (Level.message t).Fills depth x body y → i.message t x body y) ∧
    ∀ x body y, Level.entry.Fills depth x body y → i.entry x body y

/-- What a record makes of its part is what the law says of a single record. -/
lemma Part.law_of_takes {part : Part M} {i : Inner} {r : Record} {a b : M} (hi : i.Covers depth)
    (hnumber : part.number = r.1.number) (h : part.Takes depth r a b) : part.Law i [r] a b := by
  cases part with
  | scalar number s get =>
      obtain ⟨x, hx, hb⟩ := h
      exact ⟨[x], forall₂_numbered hnumber.symm hx, hb⟩
  | repeated number s get =>
      obtain ⟨x, hx, hb⟩ := h
      exact ⟨[x], forall₂_numbered hnumber.symm hx, hb⟩
  | message? number t get =>
      obtain ⟨x, ⟨hw, body, hbody, hfills⟩, hb⟩ := h
      refine ⟨[body], forall₂_numbered hnumber.symm ⟨hw, hbody⟩, x, ?_, hb⟩
      rw [List.flatten_singleton]
      exact hi.1 t _ body x hfills
  | messages number t get =>
      obtain ⟨x, ⟨hw, body, hbody, hfills⟩, hb⟩ := h
      exact ⟨[body], [x], forall₂_numbered hnumber.symm ⟨hw, hbody⟩,
        .cons (hi.1 t _ body x hfills) .nil, hb⟩
  | dictionary number get =>
      obtain ⟨e, ⟨-, body, hbody, hfills⟩, hb⟩ := h
      refine ⟨[body], [e], forall₂_numbered hnumber.symm hbody,
        .cons (hi.2 _ body e hfills) .nil, fun key => ?_⟩
      rw [hb, Dictionary.get?_insert, List.reverse_singleton, Dictionary.lookup_cons_eq_ite]
      split_ifs <;> rfl

/-- What a record makes of its own part is all that it does. -/
lemma Conforms.mergesRecords {read : (depth : Nat) → Key → M → Reader M}
    (h : Conforms read parts) {i : Inner} (hi : i.Covers depth) {k : Key} {p : Octets} {a b : M}
    (hp : (read depth k a).Spells p b) : MergesRecords i depth parts [(k, p)] a b := by
  cases h.spells_iff.1 hp with
  | @taken part _ hpart hnumber htakes hothers =>
      refine ⟨fun other hother => ?_, fun r hr hnone => ?_⟩
      · by_cases hsame : other.number = k.number
        · rw [h.unique part hpart other hother (hsame.trans hnumber.symm)]
          exact part.law_of_takes hi hnumber htakes
        · exact other.law_of_value_eq (numbered_of_ne hsame) (hothers other hother hsame)
      · rw [List.mem_singleton.1 hr] at hnone
        exact absurd hnumber (hnone part hpart)
  | passed hother hp =>
      refine ⟨fun part hpart => ?_, fun r hr _ => ?_⟩
      · refine part.law_of_value_eq (numbered_of_ne fun hnumber => hother ?_) rfl
        exact hnumber ▸ List.mem_map_of_mem hpart
      · rwa [List.mem_singleton.1 hr]

/-- **A run of records.**  What holds of one record holds of any number of them. -/
theorem Conforms.mergesOctets_of_course {read : (depth : Nat) → Key → M → Reader M}
    (h : Conforms read parts) (hi : (inner depth).Covers depth) {a b : M} {bs : Octets}
    (hcourse : Course (read depth) a bs b) : MergesOctets (inner depth) depth parts a bs b := by
  induction hcourse with
  | nil a => exact ⟨[], .nil, fun part _ => part.law_of_value_eq rfl rfl, nofun⟩
  | @cons a b c ks ps rest k hk hp _ ih =>
      have hrecord : MergesOctets (inner depth) depth parts a (ks ++ ps) b :=
        ⟨[(k, ps)], .record hk, h.mergesRecords hi hp⟩
      rw [← List.append_assoc]
      exact hrecord.append ih

end Laws

lemma covers_inner (depth : Nat) : (inner depth).Covers depth := by
  induction depth with
  | zero => exact ⟨fun _ _ _ _ h => h, fun _ _ _ h => h⟩
  | succ depth ih =>
      exact ⟨fun t _ _ _ h => t.conforms_codec.mergesOctets_of_course ih h,
        fun _ _ _ h => conforms_entryRecord.mergesOctets_of_course ih h⟩

end Wire

namespace MessageType

open Wire

/-- **Merging is concatenation.**  If some octets are decoded, then decoding them with others behind
them is merging these others into what they are decoded to: it has the same value, or the same
error.  And merging does to each part of a message, at every level, what its law says. -/
theorem decode_append (t : MessageType) {a : Octets} {m : t.Value} (h : t.codec.decode a = .ok m)
    (b : Octets) :
    t.codec.decode (a ++ b) = t.codec.merge m b ∧
      ∀ m', t.codec.merge m b = .ok m' → t.Merges m b m' := by
  constructor
  · have hrun := Reader.recordsRun_append (merge_eq_ok_iff.1 h) (Nat.zero_le b.length)
    exact congrArg (Except.map (·.1)) hrun
  · intro m' hm'
    exact t.conforms_codec.mergesOctets_of_course (covers_inner _) (merge_eq_ok_iff.1 hm')

/-- A task request with the file system `x`. -/
def withRootFs : Octets := [0x0a, 0x03, 0x0a, 0x01, 0x78]

/-- A task request with the source `y` of its log. -/
def withLogSource : Octets := [0x0a, 0x03, 0x42, 0x01, 0x79]

theorem decode_append_task :
    desireTaskRequest.codec.decode withRootFs = .ok { taskDefinition := some { rootFs := "x" } } ∧
      desireTaskRequest.codec.decode (withRootFs ++ withLogSource)
        = .ok { taskDefinition := some { rootFs := "x", logSource := "y" } } ∧
      desireTaskRequest.Merges { taskDefinition := some { rootFs := "x" } } withLogSource
        { taskDefinition := some { rootFs := "x", logSource := "y" } } := by
  have hdecode : DesireTaskRequest.codec.decode withRootFs
      = .ok { taskDefinition := some { rootFs := "x" } } := by
    with_unfolding_all rfl
  have hmerge : DesireTaskRequest.codec.merge { taskDefinition := some { rootFs := "x" } }
      withLogSource = .ok { taskDefinition := some { rootFs := "x", logSource := "y" } } := by
    with_unfolding_all rfl
  obtain ⟨happend, hlaw⟩ := decode_append desireTaskRequest hdecode withLogSource
  exact ⟨hdecode, happend.trans hmerge, hlaw _ hmerge⟩

end MessageType

end StandIn
