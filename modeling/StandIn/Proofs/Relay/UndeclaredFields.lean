import StandIn.Proofs.Wire.Places
import StandIn.Relay.Observation

/-!
# Records of undeclared fields

A record whose number is not declared is passed over, and it takes with it just its own octets.  So
it may be put between any two records of a body, or into any message or entry that the body holds,
and neither what is decoded nor what is seen of the body is different.

* `Inserted` — one such record is put in front.
* `Inserted.agrees` — it has no effect.
* `decode_of_inserted` — wherever it is put, the same is decoded and seen.
* `decode_of_numbered_entry` — behind an entry in a record of another wire type it is not passed
  over.
-/

namespace StandIn

namespace Wire

/-- A complete record is put in front whose number is not declared.  If it holds groups, then they
are nested at most `levels` levels deep. -/
inductive Inserted (levels : Nat) (l : Level) : Octets → Octets → Prop
  | mk {k : Reader.Key} {ks p : Octets} (rest : Octets) (hk : IsKey ks k)
      (hother : k.number ∉ l.numbers) (hp : Passed (levels + 1) k p) :
      Inserted levels l rest (ks ++ (p ++ rest))

/-- **A record that is put in front has no effect** if its groups may open. -/
theorem Inserted.agrees {levels depth : Nat} {l : Level} {bs bs' : Octets}
    (h : Inserted levels l bs bs') (hdepth : levels + 1 ≤ depth) : l.Agrees depth bs bs' := by
  obtain ⟨-, hk, hother, hp⟩ := h
  intro a b
  rw [Level.course_cons_iff hk ((Level.isRecord_iff_of_not_mem hother).2 ⟨_, hp⟩)]
  simp only [Level.spells_iff_of_not_mem hother, hp.mono hdepth, and_true, exists_eq_left]

end Wire

open Wire

namespace Relay

/-- **What is not declared is not seen.**  A complete record with an undeclared number is put
between two records of a message, or of any message or entry in it.  It may be of any wire type and
hold any octets, and groups that are nested at most 90 levels deep.  The same message is decoded as
without it; and if it is put into a task request, then the same is seen of the request. -/
theorem decode_of_inserted (t : MessageType) {bs bs' : Octets}
    (h : Within (Inserted 90) (.message t) bs bs') :
    (∀ m, t.codec.decode bs = .ok m ↔ t.codec.decode bs' = .ok m) ∧
      (t = .desireTaskRequest → ∀ json, decodeDesireTask bs = .ok json →
        decodeDesireTask bs' = .ok json ∧
        observe desireTaskPath bs' = observe desireTaskPath bs) := by
  have hagrees := Level.agrees_of_within (fun hdepth hR => hR.agrees hdepth) h
    (Nat.le_of_lt t.height_add_lt_nestingLimit)
  have hdecode : ∀ m, t.codec.decode bs = .ok m ↔ t.codec.decode bs' = .ok m := fun m =>
    MessageType.merge_congr hagrees
  refine ⟨hdecode, ?_⟩
  rintro rfl json hjson
  obtain ⟨m, hm, rfl⟩ := map_eq_ok_iff.1 hjson
  have hjson' : decodeDesireTask bs' = .ok m.toJson.compact :=
    map_eq_ok_iff.2 ⟨m, (hdecode m).1 hm, rfl⟩
  refine ⟨hjson', ?_⟩
  simp only [observe, hjson, hjson', if_true]

/-- An empty group is put into an entry of the network properties of a task. -/
theorem decode_of_inserted_group :
    Within (Inserted 90) (.message .desireTaskRequest)
        [0x0a, 0x05, 0x9a, 0x01, 0x02, 0x0a, 0x00]
        [0x0a, 0x07, 0x9a, 0x01, 0x04, 0x0a, 0x02, 0x1b, 0x1c] ∧
      DesireTaskRequest.codec.decode [0x0a, 0x07, 0x9a, 0x01, 0x04, 0x0a, 0x02, 0x1b, 0x1c]
        = .ok { taskDefinition := some { network := some ⟨.ofList [("", "")]⟩ } } ∧
      observe desireTaskPath [0x0a, 0x07, 0x9a, 0x01, 0x04, 0x0a, 0x02, 0x1b, 0x1c]
        = observe desireTaskPath [0x0a, 0x05, 0x9a, 0x01, 0x02, 0x0a, 0x00] := by
  have hentry : Inserted 90 .entry [] [0x1b, 0x1c] :=
    .mk (k := ⟨3, .groupStart⟩) [] (isKey_singleton (by decide) rfl (by decide)) (by decide)
      ⟨[], [0x1c], rfl, .nil, isKey_singleton (by decide) rfl (by decide)⟩
  have hnetwork : Within (Inserted 90) (.message .network) [0x0a, 0x00] [0x0a, 0x02, 0x1b, 0x1c] :=
    .inside (k := ⟨1, .delimited⟩) (isKey_singleton (by decide) rfl (by decide))
      (show Level.inner? _ 1 = some .entry from rfl) trivial
      (delimited_cons rfl (by decide)) (delimited_cons rfl (by decide)) (.here hentry)
  have hkey : IsKey [0x9a, 0x01] ⟨19, .delimited⟩ :=
    ⟨by decide, by decide, .more (by decide) (.last (by decide)), by decide, by decide⟩
  have hdefinition : Within (Inserted 90) (.message .taskDefinition)
      [0x9a, 0x01, 0x02, 0x0a, 0x00] [0x9a, 0x01, 0x04, 0x0a, 0x02, 0x1b, 0x1c] :=
    .inside hkey
      (show Level.inner? _ 19 = some (.message .network) from rfl) rfl
      (delimited_cons rfl (by decide)) (delimited_cons rfl (by decide)) hnetwork
  have hrequest : Within (Inserted 90) (.message .desireTaskRequest)
      [0x0a, 0x05, 0x9a, 0x01, 0x02, 0x0a, 0x00]
      [0x0a, 0x07, 0x9a, 0x01, 0x04, 0x0a, 0x02, 0x1b, 0x1c] :=
    .inside (k := ⟨1, .delimited⟩) (isKey_singleton (by decide) rfl (by decide))
      (show Level.inner? _ 1 = some (.message .taskDefinition) from rfl) rfl
      (delimited_cons rfl (by decide)) (delimited_cons rfl (by decide)) hdefinition
  have hdecode : DesireTaskRequest.codec.decode [0x0a, 0x05, 0x9a, 0x01, 0x02, 0x0a, 0x00]
      = .ok { taskDefinition := some { network := some ⟨.ofList [("", "")]⟩ } } := by
    with_unfolding_all rfl
  obtain ⟨hsame, hseen⟩ := decode_of_inserted .desireTaskRequest hrequest
  exact ⟨hrequest, (hsame _).1 hdecode, (hseen rfl _ (map_eq_ok_iff.2 ⟨_, hdecode, rfl⟩)).2⟩

/-- **Behind an entry in a record of another wire type it is not passed over.**  The first record
has the number of a dictionary, but is a number.  Its payload is taken for a length, and so the
record that is put behind it becomes a part of the entry. -/
theorem decode_of_numbered_entry :
    IsKey [0x08] ⟨1, .varint⟩ ∧ IsComplete ⟨1, .varint⟩ [0x03] ∧
      IsKey [0x18] ⟨3, .varint⟩ ∧ 3 ∉ (Level.message .network).numbers ∧
      IsComplete ⟨3, .varint⟩ [0x00] ∧
      Network.codec.decode ([0x08] ++ [0x03] ++ [0x12, 0x01, 0x61]) = .ok ⟨.ofList [("", "a")]⟩ ∧
      Network.codec.decode ([0x08] ++ [0x03] ++ ([0x18] ++ [0x00]) ++ [0x12, 0x01, 0x61])
        = .error ⟨.lengthExceeded, [("Network", "properties")]⟩ := by
  refine ⟨isKey_singleton (by decide) rfl (by decide), ⟨1, 3, isNumber_singleton (by decide)⟩,
    isKey_singleton (by decide) rfl (by decide), by decide,
    ⟨1, 0, isNumber_singleton (by decide)⟩, ?_, ?_⟩
  · with_unfolding_all rfl
  · with_unfolding_all rfl

end Relay

end StandIn
