import StandIn.Proofs.Wire.Places

/-!
# Nothing is read across the end of a length

The records behind a length are read from all that is left, and only afterwards it is checked that
they end where they should.  Still, what stands behind that end has no influence on what is read, or
on whether anything is read.  The one difference that a length makes is that there is one level less
for the groups behind it.

* `Level.IsShallow` — octets in which groups are not nested deeply.
* `Level.IsShallow.course` — how many levels may open makes no difference to them.
* `Level.isShallow_of_length_le` — few octets have no room for deep groups.
* `MessageType.mergeDelimited_eq_ok_iff` — octets behind their length are merged as they are without
  it, and no octets behind them are taken.
-/

namespace StandIn

namespace Wire

open Reader

/-- What stands in front is a complete record with an undeclared number, in which groups are nested
more than `levels` levels deep. -/
def StartsDeep (levels : Nat) (l : Level) (bs : Octets) : Prop :=
  ∃ k ks p rest, bs = ks ++ (p ++ rest) ∧ IsKey ks k ∧ k.number ∉ l.numbers ∧ IsComplete k p ∧
    ¬Passed (levels + 1) k p

namespace Level

/-- In no place, at whatever level, there is an undeclared record in which groups are nested more
than `levels` levels deep.  Octets that cannot be read have places as well, in front of the first
octet that is wrong. -/
def IsShallow (l : Level) (levels : Nat) (bs : Octets) : Prop :=
  ¬Within (fun l bs _ => StartsDeep levels l bs) l bs bs

variable {l l' : Level} {levels : Nat} {k : Key} {ks p rest : Octets}

lemma IsShallow.behind (h : l.IsShallow levels (ks ++ (p ++ rest))) (hk : IsKey ks k)
    (hp : l.IsRecord k p) : l.IsShallow levels rest :=
  fun hrest => h (.behind hk hp hrest)

lemma IsShallow.inside (h : l.IsShallow levels (ks ++ (p ++ rest))) (hk : IsKey ks k)
    (hl' : l.inner? k.number = some l') (hw : l'.Admits k.wireType) {body : Octets}
    (hp : Delimited body p) : l'.IsShallow levels body :=
  fun hbody => h (.inside hk hl' hw hp hp hbody)

lemma IsShallow.passed (h : l.IsShallow levels (ks ++ (p ++ rest))) (hk : IsKey ks k)
    (hother : k.number ∉ l.numbers) (hp : IsComplete k p) : Passed (levels + 1) k p := by
  by_contra hdeep
  exact h (.here ⟨k, ks, p, rest, rfl, hk, hother, hp, hdeep⟩)

end Level

section Parts

variable {M : Type} {part : Part M} {depth : Nat} {k : Key} {a b : M} {p : Octets}

/-- A record that holds a level holds it after a length. -/
lemma Part.Takes.exists_delimited {l' : Level} (h : part.Takes depth (k, p) a b)
    (hl' : part.inner? = some l') : l'.Admits k.wireType ∧ ∃ body, Delimited body p := by
  cases part with
  | scalar number s get => cases hl'
  | repeated number s get => cases hl'
  | message? number t get | messages number t get | dictionary number get =>
      cases hl'
      obtain ⟨x, ⟨hw, body, hbody, -⟩, -⟩ := h
      exact ⟨hw, body, hbody⟩

/-- A record that holds no level does not depend on how many may open. -/
lemma Part.Takes.of_inner?_eq_none (h : part.Takes depth (k, p) a b) (hnone : part.inner? = none)
    (depth' : Nat) : part.Takes depth' (k, p) a b := by
  cases part with
  | scalar number s get | repeated number s get => exact h
  | message? number t get | messages number t get | dictionary number get => cases hnone

end Parts

namespace Level

/-- What a shallow level reads does not depend on how many levels may open, as long as there are
enough.  The induction is on the levels below, and at each level goes from record to record. -/
theorem IsShallow.course {l : Level} {levels depth depth' : Nat} {bs : Octets}
    (h : l.IsShallow levels bs) (hdepth : l.height + (levels + 1) ≤ depth') {a b : l.Value}
    (hcourse : Course (l.read depth) a bs b) : Course (l.read depth') a bs b := by
  induction hheight : l.height using Nat.strongRecOn generalizing l depth depth' bs with
  | ind n ih =>
      subst hheight
      induction hcourse with
      | nil => exact .nil _
      | @cons a b c ks p rest k hk hp _ ihrest =>
          have hrecord := isRecord_of_spells hp
          refine .cons hk ?_ (ihrest (h.behind hk hrecord))
          rw [l.conforms.spells_iff] at hp
          cases hp with
          | @taken part _ hpart hnumber htakes hothers =>
              dsimp only at hnumber
              have hinner : l.inner? k.number = part.inner? := hnumber ▸ inner?_of_mem hpart
              refine l.conforms.spells_iff.2 (.taken hpart hnumber ?_ hothers)
              cases hl' : part.inner? with
              | none => exact htakes.of_inner?_eq_none hl' depth'
              | some l' =>
                  -- what is in the record is shallow as well, and is read one level below
                  obtain ⟨hw, body, hbody⟩ := htakes.exists_delimited hl'
                  rw [hl'] at hinner
                  have hshallow := h.inside hk hinner hw hbody
                  have hlt := height_lt_of_inner? hinner
                  obtain ⟨depth', rfl⟩ := Nat.exists_eq_add_one_of_ne_zero (by omega : depth' ≠ 0)
                  refine takes_of_fills hl' hbody hbody (fun x y hxy => ?_) htakes
                  cases depth with
                  | zero => exact hxy.elim
                  | succ depth => exact ih _ hlt hshallow (by omega) hxy rfl
          | passed hother hp =>
              have hpassed : Passed (levels + 1) k p := h.passed hk hother ⟨depth, hp⟩
              exact (spells_iff_of_not_mem hother).2 ⟨rfl, hpassed.mono (by omega)⟩

end Level

/-! ## Few octets -/

/-- Octets from which something may be passed over have room for no more levels than there are
octets. -/
lemma Passed.of_length_lt {depth n : Nat} {k : Key} {p : Octets} (h : Passed depth k p)
    (hlength : p.length < n) : Passed n k p := by
  induction depth generalizing n k p with
  | zero => exact h.elim
  | succ depth ih =>
      obtain ⟨n, rfl⟩ := Nat.exists_eq_add_one_of_ne_zero (Nat.ne_zero_of_lt hlength)
      obtain ⟨number, wireType⟩ := k
      cases wireType with
      | groupStart =>
          obtain ⟨inside, close, rfl, hinside, hclose⟩ := h
          refine ⟨inside, close, rfl, ?_, hclose⟩
          have hlt : inside.length ≤ n := by
            have hpos := hclose.2.2.1.length_pos
            rw [List.length_append] at hlength
            omega
          clear hlength hclose
          induction hinside with
          | nil => exact .nil
          | @cons ks ps rest k hk hps _ ihrest =>
              have hpos := hk.2.2.1.length_pos
              simp only [List.length_append] at hlt
              exact .cons hk (ih hps (by omega)) (ihrest (by omega))
      | varint | fixed64 | delimited | groupEnd | fixed32 => exact h

lemma length_le_of_within {R : Level → Octets → Octets → Prop} {n : Nat}
    (hR : ∀ {l bs bs'}, R l bs bs' → n < bs.length) {l : Level} {bs bs' : Octets}
    (h : Within R l bs bs') : n < bs.length := by
  induction h with
  | here h => exact hR h
  | behind hk hp _ ih =>
      simp only [List.length_append]
      omega
  | inside hk hl' hw hp hp' _ ih =>
      obtain ⟨q, rfl, -⟩ := hp
      simp only [List.length_append]
      omega

/-- Few octets are shallow. -/
lemma Level.isShallow_of_length_le {l : Level} {levels : Nat} {bs : Octets}
    (h : bs.length ≤ levels) : l.IsShallow levels bs := by
  intro hwithin
  refine absurd (length_le_of_within ?_ hwithin) (Nat.not_lt.2 h)
  rintro l bs - ⟨k, ks, p, rest, rfl, -, -, ⟨depth, hp⟩, hdeep⟩
  by_contra hlength
  refine hdeep (hp.of_length_lt ?_)
  simp only [List.length_append] at hlength
  omega

end Wire

namespace MessageType

open Wire

/-- **A length confines what is read.**  Octets behind their length are merged exactly if they are
merged without it; the result is the same, and whatever stands behind them is left.  Nothing is
assumed of the octets, but that groups in them are nested at most 90 levels deep. -/
theorem mergeDelimited_eq_ok_iff (t : MessageType) {x p : Octets} (hp : Delimited x p)
    (hx : (Level.message t).IsShallow 90 x) (m m' : t.Value) (rest rest' : Octets) :
    t.codec.mergeDelimited m (p ++ rest) = .ok (m', rest') ↔
      t.codec.merge m x = .ok m' ∧ rest' = rest := by
  have hlocal := t.conforms_codec.isLocal (nestingLimit - 1)
  have hheight : t.height + (90 + 1) ≤ nestingLimit - 1 :=
    Nat.le_sub_one_of_lt t.height_add_lt_nestingLimit
  have hcourse : Reader.Course (t.codec.mergeRecord (nestingLimit - 1)) m x m' ↔
      Reader.Course (t.codec.mergeRecord nestingLimit) m x m' :=
    ⟨hx.course (hheight.trans (Nat.sub_le _ _)), hx.course hheight⟩
  have hread : t.codec.mergeDelimited m (p ++ rest)
      = (Reader.delimitedRecords (t.codec.mergeRecord (nestingLimit - 1)) m).run (p ++ rest) := rfl
  rw [hread, Reader.run_delimitedRecords_eq_ok_iff hlocal, merge_eq_ok_iff, ← hcourse]
  constructor
  · rintro ⟨q, heq, body, hbody, h⟩
    obtain ⟨rfl, rfl, rfl⟩ := hp.unique hbody heq
    exact ⟨h, rfl⟩
  · rintro ⟨h, rfl⟩
    exact ⟨p, rfl, x, hp, h⟩

/-- An entry is read behind a length, and what follows is left, whatever it is.  If the length ends
one octet earlier, then the entry is not completed by the octet that follows. -/
theorem mergeDelimited_of_entry :
    network.codec.mergeDelimited ⟨.empty⟩ ([0x05, 0x0a, 0x03, 0x0a, 0x01, 0x61] ++ [0xff])
        = .ok (⟨.ofList [("a", "")]⟩, [0xff]) ∧
      ∀ m' rest', network.codec.mergeDelimited ⟨.empty⟩ ([0x04, 0x0a, 0x03, 0x0a, 0x01] ++ [0x61])
        ≠ .ok (m', rest') := by
  have hwhole : Delimited [0x0a, 0x03, 0x0a, 0x01, 0x61] [0x05, 0x0a, 0x03, 0x0a, 0x01, 0x61] :=
    delimited_cons rfl (by decide)
  have hcut : Delimited [0x0a, 0x03, 0x0a, 0x01] [0x04, 0x0a, 0x03, 0x0a, 0x01] :=
    delimited_cons rfl (by decide)
  have hmerge : Network.codec.merge ⟨.empty⟩ [0x0a, 0x03, 0x0a, 0x01, 0x61]
      = .ok ⟨.ofList [("a", "")]⟩ := by
    with_unfolding_all rfl
  have hfail : Network.codec.merge ⟨.empty⟩ [0x0a, 0x03, 0x0a, 0x01]
      = .error ⟨.underflow, [("Network", "properties")]⟩ := by
    with_unfolding_all rfl
  constructor
  · exact (mergeDelimited_eq_ok_iff network hwhole (Level.isShallow_of_length_le (by decide)) _ _
      _ _).2 ⟨hmerge, rfl⟩
  · intro m' rest' h
    have hcutMerge := ((mergeDelimited_eq_ok_iff network hcut
      (Level.isShallow_of_length_le (by decide)) _ _ _ _).1 h).1
    cases hfail.symm.trans hcutMerge

end MessageType

end StandIn
