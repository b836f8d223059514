import StandIn.Proofs.Wire.Places

/-!
# Records in another order

A record meets nothing but what earlier ones left of its own part.  So two records with different
numbers may stand in either order, and it makes no difference whether they stand in a message, in a
message in it, or in an entry of a dictionary.

* `Exchanged` — two records in front, in either order.
* `Conforms.comm` — two records with different numbers do the same in either order.
* `MessageType.decode_of_exchanged` — what is decoded does not depend on their order.
* `MessageType.decode_of_numbered_neighbour` — for records of dictionaries the wire type matters.
-/

namespace StandIn

namespace Wire

open Reader

/-- Two complete records with different numbers, in either order, and the same octets behind. -/
inductive Exchanged (l : Level) : Octets → Octets → Prop
  | mk {k k' : Key} {ks ks' p p' : Octets} (rest : Octets) (hk : IsKey ks k) (hp : l.IsRecord k p)
      (hk' : IsKey ks' k') (hp' : l.IsRecord k' p') (hne : k.number ≠ k'.number) :
      Exchanged l (ks ++ (p ++ (ks' ++ (p' ++ rest)))) (ks' ++ (p' ++ (ks ++ (p ++ rest))))

section Exchange

variable {M : Type} {parts : List (Part M)}

/-- What a record makes of its part depends on nothing but this part. -/
lemma Part.Takes.congr {part : Part M} {depth : Nat} {r : Record} {a b a' b' : M}
    (h : part.Takes depth r a b) (ha : part.value a' = part.value a)
    (hb : part.value b' = part.value b) : part.Takes depth r a' b' := by
  cases part with
  | scalar number s get | repeated number s get | message? number t get | messages number t get
  | dictionary number get =>
      have ha := eq_of_heq (Sigma.mk.inj ha).2
      have hb := eq_of_heq (Sigma.mk.inj hb).2
      simpa only [Part.Takes, ha, hb] using h

/-- **Two records with different numbers do the same in either order.** -/
theorem Conforms.comm {read : (depth : Nat) → Key → M → Reader M} (h : Conforms read parts)
    {depth : Nat} {k k' : Key} (hne : k.number ≠ k'.number) {p p' : Octets} {a b c : M}
    (hp : (read depth k a).Spells p b) (hp' : (read depth k' b).Spells p' c) :
    ∃ b', (read depth k' a).Spells p' b' ∧ (read depth k b').Spells p c := by
  simp only [h.spells_iff] at hp hp' ⊢
  cases hp with
  | passed hother hpassed =>
      cases hp' with
      | passed hother' hpassed' =>
          exact ⟨a, .passed hother' hpassed', .passed hother hpassed⟩
      | taken hpart' hnumber' htakes' hothers' =>
          exact ⟨c, .taken hpart' hnumber' htakes' hothers', .passed hother hpassed⟩
  | @taken part _ hpart hnumber htakes hothers =>
      cases hp' with
      | passed hother' hpassed' =>
          exact ⟨a, .passed hother' hpassed', .taken hpart hnumber htakes hothers⟩
      | @taken part' _ hpart' hnumber' htakes' hothers' =>
          dsimp only at hnumber hothers hnumber' hothers'
          -- between the two stands what is like `c` in the part of the second one, and like `a`
          -- in all others
          obtain ⟨b', hb', hsame⟩ := h.blend part' hpart' a c
          have hparts : part.number ≠ part'.number := by rwa [hnumber, hnumber']
          refine ⟨b', ?_, ?_⟩
          · refine .taken hpart' hnumber' (htakes'.congr ?_ hb') (hnumber' ▸ hsame)
            exact (hothers part' hpart' (hnumber ▸ hparts.symm)).symm
          · refine .taken hpart hnumber (htakes.congr (hsame part hpart hparts) ?_) ?_
            · exact hothers' part hpart (hnumber' ▸ hparts)
            · intro other hother hne'
              by_cases hsecond : other.number = part'.number
              · rw [h.unique part' hpart' other hother hsecond, hb']
              · rw [hothers' other hother (hnumber' ▸ hsecond), hothers other hother hne',
                  hsame other hother hsecond]

end Exchange

lemma Exchanged.agrees {l : Level} {bs bs' : Octets} (h : Exchanged l bs bs') (depth : Nat) :
    l.Agrees depth bs bs' := by
  obtain ⟨rest, hk, hp, hk', hp', hne⟩ := h
  intro a d
  simp only [Level.course_cons_iff hk hp, Level.course_cons_iff hk' hp']
  constructor
  · rintro ⟨b, hb, c, hc, hrest⟩
    obtain ⟨b', hb', hc'⟩ := l.conforms.comm hne hb hc
    exact ⟨b', hb', c, hc', hrest⟩
  · rintro ⟨b, hb, c, hc, hrest⟩
    obtain ⟨b', hb', hc'⟩ := l.conforms.comm hne.symm hb hc
    exact ⟨b', hb', c, hc', hrest⟩

end Wire

namespace MessageType

open Wire

/-- **The order of records with different numbers does not matter.**  Two such records stand next
to each other, in the message itself or in any message or entry in it.  Whatever stands around them,
both orders are decoded to the same message, or neither of them is decoded. -/
theorem decode_of_exchanged (t : MessageType) {bs bs' : Octets}
    (h : Within Exchanged (.message t) bs bs') :
    (∃ m, t.codec.decode bs = .ok m ∧ t.codec.decode bs' = .ok m) ∨
      ∃ e e', t.codec.decode bs = .error e ∧ t.codec.decode bs' = .error e' := by
  have hdepth : (Level.message t).height + 0 ≤ nestingLimit := t.height_le_nestingLimit
  have hagrees := Level.agrees_of_within (fun _ hR => hR.agrees _) h hdepth
  cases hbs : t.codec.decode bs with
  | ok m => exact .inl ⟨m, rfl, (merge_congr hagrees).1 hbs⟩
  | error e =>
      cases hbs' : t.codec.decode bs' with
      | ok m => cases hbs.symm.trans ((merge_congr hagrees).2 hbs')
      | error e' => exact .inr ⟨e, e', rfl, rfl⟩

/-- The key and the value of an entry stand in either order. -/
theorem decode_of_exchanged_entry :
    Within Exchanged (.message network)
        [0x0a, 0x06, 0x0a, 0x01, 0x61, 0x12, 0x01, 0x62]
        [0x0a, 0x06, 0x12, 0x01, 0x62, 0x0a, 0x01, 0x61] ∧
      network.codec.decode [0x0a, 0x06, 0x0a, 0x01, 0x61, 0x12, 0x01, 0x62]
        = .ok ⟨.ofList [("a", "b")]⟩ ∧
      network.codec.decode [0x0a, 0x06, 0x12, 0x01, 0x62, 0x0a, 0x01, 0x61]
        = .ok ⟨.ofList [("a", "b")]⟩ := by
  have hkey : Level.entry.IsRecord ⟨1, .delimited⟩ [0x01, 0x61] :=
    Level.isRecord_iff_isComplete (fun _ => rfl) |>.2 ⟨1, [0x61], delimited_cons rfl (by decide)⟩
  have hvalue : Level.entry.IsRecord ⟨2, .delimited⟩ [0x01, 0x62] :=
    Level.isRecord_iff_isComplete (fun _ => rfl) |>.2 ⟨1, [0x62], delimited_cons rfl (by decide)⟩
  have hexchanged : Exchanged .entry [0x0a, 0x01, 0x61, 0x12, 0x01, 0x62]
      [0x12, 0x01, 0x62, 0x0a, 0x01, 0x61] :=
    .mk [] (isKey_singleton (by decide) rfl (by decide)) hkey
      (isKey_singleton (by decide) rfl (by decide)) hvalue (by decide)
  have hentry : (Level.message network).inner? 1 = some .entry := rfl
  have hwithin : Within Exchanged (.message network)
      [0x0a, 0x06, 0x0a, 0x01, 0x61, 0x12, 0x01, 0x62]
      [0x0a, 0x06, 0x12, 0x01, 0x62, 0x0a, 0x01, 0x61] :=
    .inside (k := ⟨1, .delimited⟩) (isKey_singleton (by decide) rfl (by decide)) hentry trivial
      (delimited_cons rfl (by decide)) (delimited_cons rfl (by decide)) (.here hexchanged)
  have hdecode : Network.codec.decode [0x0a, 0x06, 0x0a, 0x01, 0x61, 0x12, 0x01, 0x62]
      = .ok ⟨.ofList [("a", "b")]⟩ := by
    with_unfolding_all rfl
  refine ⟨hwithin, hdecode, ?_⟩
  rcases decode_of_exchanged network hwithin with ⟨m, hm, hm'⟩ | ⟨e, -, he, -⟩
  · cases hdecode.symm.trans hm
    exact hm'
  · cases hdecode.symm.trans he

/-- **For records of dictionaries the wire type matters.**  Here are two complete records with
different numbers.  The first one has the number of a dictionary, but is a number, so its payload is
taken for a length, and what is read with it depends on what stands behind it. -/
theorem decode_of_numbered_neighbour :
    IsKey [0x08] ⟨1, .varint⟩ ∧ IsComplete ⟨1, .varint⟩ [0x03] ∧
      IsKey [0x12] ⟨2, .delimited⟩ ∧ IsComplete ⟨2, .delimited⟩ [0x01, 0x61] ∧
      network.codec.decode ([0x08] ++ [0x03] ++ ([0x12] ++ [0x01, 0x61]))
        = .ok ⟨.ofList [("", "a")]⟩ ∧
      network.codec.decode ([0x12] ++ [0x01, 0x61] ++ ([0x08] ++ [0x03]))
        = .error ⟨.underflow, [("Network", "properties")]⟩ := by
  have hdecode : Network.codec.decode ([0x08] ++ [0x03] ++ ([0x12] ++ [0x01, 0x61]))
      = .ok ⟨.ofList [("", "a")]⟩ := by
    with_unfolding_all rfl
  have hfail : Network.codec.decode ([0x12] ++ [0x01, 0x61] ++ ([0x08] ++ [0x03]))
      = .error ⟨.underflow, [("Network", "properties")]⟩ := by
    with_unfolding_all rfl
  exact ⟨isKey_singleton (by decide) rfl (by decide), ⟨1, 3, isNumber_singleton (by decide)⟩,
    isKey_singleton (by decide) rfl (by decide), ⟨1, [0x61], delimited_cons rfl (by decide)⟩,
    hdecode, hfail⟩

end MessageType

end StandIn
