import Mathlib.Tactic.Lemma
import StandIn.Proofs.Http.Fields
import StandIn.Proofs.Text.Utf8

/-!
# Which fields are passed on

A relay keeps the fields of one hop for itself.  These are the nine that are always of one hop, and
those that a value of `Connection` lists.  Names are listed in any case, with blanks around them,
and among things that are no names; but a value is only looked at if all of it is plain text.

* `FieldName.IsSpelled` — the ways to write a name.
* `FieldName.ofOctets?_eq_some_iff` — these, and nothing else, are read as the name.
* `FieldValue.Lists`, `FieldValue.lists_iff` — the names that stand between commas and blanks.
* `Headers.Lists`, `Headers.ListsPlainly` — what `Connection` lists, in any value and in plain ones.
* `Headers.PassesOn`, `Headers.endToEnd_exact` — which names are passed on, and what becomes of
  their values.
* `Headers.listed_gone_iff` — which of the names that are listed are kept back.
* `Headers.listed_name_crosses` — a name that is listed and yet passed on.
-/

namespace StandIn.Http

/-! ## The case of names -/

/-- An octet, with the small letter in the place of a capital one. -/
def lowerOctet (b : UInt8) : UInt8 := if 65 ≤ b ∧ b ≤ 90 then b + 32 else b

lemma lowerOctet_of_le {b : UInt8} (h : 0x80 ≤ b.toNat) : lowerOctet b = b := by
  rw [lowerOctet, if_neg]
  rintro ⟨-, hhi⟩
  have hhi : b.toNat ≤ 90 := hhi
  omega

lemma toNat_lt_of_lowerOctet {b : UInt8} (h : (lowerOctet b).toNat < 0x80) : b.toNat < 0x80 := by
  by_contra hb
  rw [lowerOctet_of_le (Nat.not_lt.1 hb)] at h
  exact hb h

/-- Only characters of one octet have another case, so it can be changed octet by octet. -/
lemma map_lowerOctet_encodeChar (c : Char) :
    (String.utf8EncodeChar c).map lowerOctet = String.utf8EncodeChar c.toLower := by
  by_cases hc : c.toNat < 0x80
  · have key : ∀ n : Fin 0x80, (String.utf8EncodeChar (Char.ofNat n)).map lowerOctet
        = String.utf8EncodeChar (Char.ofNat n).toLower := by decide
    have hkey := key ⟨c.toNat, hc⟩
    rwa [Char.ofNat_toNat] at hkey
  · have hself : c.toLower = c := by
      refine dif_neg ?_
      rintro ⟨-, hhi⟩
      exact hc (Nat.lt_of_le_of_lt (UInt32.le_iff_toNat_le.1 hhi) (by decide))
    have hoctets := Utf8.le_of_mem_encodeChar (Nat.le_refl _) (Nat.not_lt.1 hc)
    rw [hself, List.map_congr_left fun b hb => lowerOctet_of_le (hoctets b hb), List.map_id']

lemma map_lowerOctet_encode (s : String) :
    (Utf8.encode s).map lowerOctet = Utf8.encode (String.ofList (s.toList.map Char.toLower)) := by
  rw [Utf8.encode_ofList, Utf8.encode, List.map_flatMap, List.flatMap_map]
  exact List.flatMap_congr fun c _ => map_lowerOctet_encodeChar c

/-- Tokens are written with ASCII characters that are neither blanks nor controls. -/
lemma bounds_of_isTokenChar {c : Char} (h : isTokenChar c = true) :
    0x21 ≤ c.toNat ∧ c.toNat < 0x80 := by
  rw [isTokenChar, Bool.or_eq_true] at h
  rcases h with h | h
  · have hletter : (c.isUpper || c.isLower || c.isDigit) = true := h
    rw [Bool.or_eq_true, Bool.or_eq_true] at hletter
    have hrange (lo hi : Char) (hlo : 0x21 ≤ lo.toNat) (hhi : hi.toNat < 0x80)
        (hc : lo.val ≤ c.val ∧ c.val ≤ hi.val) : 0x21 ≤ c.toNat ∧ c.toNat < 0x80 :=
      ⟨Nat.le_trans hlo (UInt32.le_iff_toNat_le.1 hc.1),
        Nat.lt_of_le_of_lt (UInt32.le_iff_toNat_le.1 hc.2) hhi⟩
    rcases hletter with (hupper | hlower) | hdigit
    · exact hrange 'A' 'Z' (by decide) (by decide) (of_decide_eq_true hupper)
    · have hlower := Bool.and_eq_true_iff.1 hlower
      exact hrange 'a' 'z' (by decide) (by decide)
        ⟨of_decide_eq_true hlower.1, of_decide_eq_true hlower.2⟩
    · have hdigit := Bool.and_eq_true_iff.1 hdigit
      exact hrange '0' '9' (by decide) (by decide)
        ⟨of_decide_eq_true hdigit.1, of_decide_eq_true hdigit.2⟩
  · have key : "!#$%&'*+-.^_\x60|~".toList.all
        (fun c => 0x21 ≤ c.toNat && c.toNat < 0x80) = true := by decide
    have hc := List.all_eq_true.1 key c (List.contains_iff_mem.1 h)
    rw [Bool.and_eq_true, decide_eq_true_eq, decide_eq_true_eq] at hc
    exact hc

namespace FieldName

/-- The ways to write a name: case does not count. -/
def IsSpelled (n : FieldName) (bs : Octets) : Prop :=
  bs.map lowerOctet = Utf8.encode n.text

instance (n : FieldName) (bs : Octets) : Decidable (n.IsSpelled bs) :=
  inferInstanceAs (Decidable (_ = _))

lemma ofString?_eq_some_iff {s : String} {n : FieldName} :
    ofString? s = some n ↔ String.ofList (s.toList.map Char.toLower) = n.text := by
  rw [ofString?]
  constructor
  · intro h
    split_ifs at h
    exact congrArg text (Option.some.inj h)
  · intro h
    simp only [h, n.valid, dif_pos]

lemma bounds_of_mem_encode_text (n : FieldName) :
    ∀ b ∈ Utf8.encode n.text, 0x21 ≤ b.toNat ∧ b.toNat < 0x80 := by
  intro b hb
  obtain ⟨c, hc, hb⟩ := List.mem_flatMap.1 hb
  have hvalid := n.valid
  simp only [isFieldName, isToken, Bool.and_eq_true, List.all_eq_true] at hvalid
  obtain ⟨hlo, hhi⟩ := bounds_of_isTokenChar (hvalid.1.1.2 c hc)
  exact ⟨Utf8.le_of_mem_encodeChar (by decide) hlo b hb, Utf8.lt_of_mem_encodeChar hhi b hb⟩

lemma IsSpelled.bounds {n : FieldName} {bs : Octets} (h : n.IsSpelled bs) {b : UInt8}
    (hb : b ∈ bs) : 0x21 ≤ (lowerOctet b).toNat ∧ (lowerOctet b).toNat < 0x80 := by
  have hmem : lowerOctet b ∈ bs.map lowerOctet := List.mem_map_of_mem hb
  rw [IsSpelled] at h
  rw [h] at hmem
  exact n.bounds_of_mem_encode_text _ hmem

/-- There are no blanks in a name, however it is written. -/
lemma IsSpelled.isBlank_eq_false {n : FieldName} {bs : Octets} (h : n.IsSpelled bs) :
    ∀ b ∈ bs, isBlank b = false := by
  intro b hb
  have hlo := (h.bounds hb).1
  by_contra hblank
  simp only [isBlank, Bool.not_eq_false, Bool.or_eq_true, decide_eq_true_eq] at hblank
  rcases hblank with rfl | rfl
  · exact absurd hlo (by decide)
  · exact absurd hlo (by decide)

/-- **What is read as a name.**  The octets of the name, in any case; nothing else is. -/
theorem ofOctets?_eq_some_iff {bs : Octets} {n : FieldName} :
    ofOctets? bs = some n ↔ n.IsSpelled bs := by
  rw [ofOctets?, Option.bind_eq_bind, Option.bind_eq_some_iff]
  constructor
  · rintro ⟨s, hs, hn⟩
    rw [Utf8.decode?_eq_some_iff.1 hs, IsSpelled, map_lowerOctet_encode,
      ofString?_eq_some_iff.1 hn]
  · intro h
    -- a name is ASCII, so octets that differ from it in case only are a text as well
    obtain ⟨s, rfl⟩ := Utf8.exists_eq_encode fun b hb => toNat_lt_of_lowerOctet (h.bounds hb).2
    rw [IsSpelled, map_lowerOctet_encode] at h
    exact ⟨s, Utf8.decode?_eq_some_iff.2 rfl,
      ofString?_eq_some_iff.2 (Utf8.encode_injective h)⟩

end FieldName

/-! ## What `Connection` lists -/

/-- Whether the name stands in the value between two commas, with blanks around it. -/
def FieldValue.Lists (v : FieldValue) (n : FieldName) : Prop :=
  ∃ item ∈ v.octets.splitOn 0x2C, ∃ front word back, item = front ++ word ++ back ∧
    (∀ b ∈ front, isBlank b = true) ∧ (∀ b ∈ back, isBlank b = true) ∧ n.IsSpelled word

/-- Since there are no blanks in a name, trimming leaves the name alone. -/
lemma FieldValue.lists_iff {v : FieldValue} {n : FieldName} :
    v.Lists n ↔ ∃ item ∈ listItems v.octets, n.IsSpelled item := by
  simp only [listItems, splitAt_eq_splitOn, List.mem_map, exists_exists_and_eq_and, Lists]
  refine exists_congr fun item => and_congr_right fun _ => ?_
  constructor
  · rintro ⟨front, word, back, rfl, hfront, hback, hword⟩
    rwa [trimBy_append_append hfront hword.isBlank_eq_false hback]
  · intro hword
    obtain ⟨front, back, hitem, hfront, hback⟩ := exists_eq_append_trimBy isBlank item
    exact ⟨front, _, back, hitem, hfront, hback, hword⟩

instance (v : FieldValue) (n : FieldName) : Decidable (v.Lists n) :=
  decidable_of_iff _ FieldValue.lists_iff.symm

namespace Headers

/-- Whether a value of `Connection` lists the name. -/
def Lists (h : Headers) (n : FieldName) : Prop :=
  ∃ v ∈ h.values connection, v.Lists n

/-- Whether a value of `Connection` that is plain text lists the name. -/
def ListsPlainly (h : Headers) (n : FieldName) : Prop :=
  ∃ v ∈ h.values connection, v.octets.all FieldValue.isVisible = true ∧ v.Lists n

/-- Whether fields of the name are passed on. -/
def PassesOn (h : Headers) (n : FieldName) : Prop :=
  n ∉ hopByHop ∧ ¬h.ListsPlainly n

variable (h : Headers) (n : FieldName)

instance : Decidable (h.Lists n) :=
  inferInstanceAs (Decidable (∃ v ∈ h.values connection, v.Lists n))

instance : Decidable (h.ListsPlainly n) :=
  inferInstanceAs (Decidable (∃ v ∈ h.values connection, _ ∧ v.Lists n))

instance : Decidable (h.PassesOn n) :=
  inferInstanceAs (Decidable (_ ∧ _))

lemma mem_named_iff : n ∈ h.named ↔ h.ListsPlainly n := by
  rw [named, List.mem_flatMap, ListsPlainly]
  refine exists_congr fun v => and_congr_right fun _ => ?_
  constructor
  · intro hn
    split at hn
    · rename_i bs hbs
      obtain ⟨hplain, rfl⟩ := FieldValue.visible?_eq_some_iff.1 hbs
      obtain ⟨item, hitem, hread⟩ := List.mem_filterMap.1 hn
      exact ⟨hplain, FieldValue.lists_iff.2
        ⟨item, hitem, FieldName.ofOctets?_eq_some_iff.1 hread⟩⟩
    · cases hn
  · rintro ⟨hplain, hlists⟩
    obtain ⟨item, hitem, hspelled⟩ := FieldValue.lists_iff.1 hlists
    rw [FieldValue.visible?_eq_some_iff.2 ⟨hplain, rfl⟩]
    exact List.mem_filterMap.2 ⟨item, hitem, FieldName.ofOctets?_eq_some_iff.2 hspelled⟩

lemma not_mem_iff_passesOn : n ∉ h.named ++ hopByHop ↔ h.PassesOn n := by
  rw [List.mem_append, mem_named_iff, not_or, PassesOn, and_comm]

/-! ## What is passed on -/

/-- The fields that are passed on stay in their order. -/
lemma fields_endToEnd : h.endToEnd.fields = h.fields.filter fun f => h.PassesOn f.1 := by
  rw [endToEnd, fields_foldl_erase]
  exact List.filter_congr fun f _ => decide_eq_decide.2 (h.not_mem_iff_passesOn f.1)

lemma values_endToEnd_eq_ite : h.endToEnd.values n = if h.PassesOn n then h.values n else [] := by
  rw [values_endToEnd]
  by_cases hpass : h.PassesOn n
  · rw [if_pos hpass, if_neg ((h.not_mem_iff_passesOn n).2 hpass)]
  · rw [if_neg hpass, if_pos (not_not.1 fun hmem => hpass ((h.not_mem_iff_passesOn n).1 hmem))]

/-- Nothing is left of `Connection`, so nothing more is listed, and the second time no field has to
go. -/
lemma endToEnd_endToEnd : h.endToEnd.endToEnd = h.endToEnd := by
  have hgone : h.endToEnd.values connection = [] := by
    rw [values_endToEnd_eq_ite, if_neg]
    exact fun hpass => hpass.1 (by decide)
  have hfields : h.endToEnd.endToEnd.fields = h.endToEnd.fields := by
    rw [fields_endToEnd, List.filter_eq_self]
    intro f hf
    rw [fields_endToEnd, List.mem_filter] at hf
    have hpass : h.PassesOn f.1 := of_decide_eq_true hf.2
    refine decide_eq_true ⟨hpass.1, ?_⟩
    rintro ⟨v, hv, -⟩
    rw [hgone] at hv
    cases hv
  exact congrArg Headers.mk hfields

/-- **What is passed on, exactly.**  A name keeps all of its values, in their order, if it is not
among the nine and no plain value of `Connection` lists it; otherwise it loses all of them.  Doing
it again changes nothing. -/
theorem endToEnd_exact (h : Headers) :
    (∀ n, h.endToEnd.values n = if h.PassesOn n then h.values n else []) ∧
    (∀ n, h.values n ≠ [] → (h.endToEnd.values n = h.values n ↔ h.PassesOn n)) ∧
    h.endToEnd.endToEnd = h.endToEnd := by
  refine ⟨h.values_endToEnd_eq_ite, fun n hoccurs => ?_, h.endToEnd_endToEnd⟩
  rw [values_endToEnd_eq_ite]
  by_cases hpass : h.PassesOn n
  · simp [hpass]
  · simp [hpass, Ne.symm hoccurs]

/-- Names are found in any case, and what is no name does no harm to the others. -/
example :
    let h : Headers := ⟨[(⟨"x-a", by decide⟩, ⟨Utf8.encode "1", by decide⟩),
      (connection, ⟨Utf8.encode "close,, @@ ,\tX-A ", by decide⟩),
      (⟨"te", by decide⟩, ⟨Utf8.encode "1", by decide⟩),
      (⟨"x-b", by decide⟩, ⟨Utf8.encode "2", by decide⟩),
      (⟨"x-a", by decide⟩, ⟨Utf8.encode "3", by decide⟩)]⟩
    h.endToEnd = ⟨[(⟨"x-b", by decide⟩, ⟨Utf8.encode "2", by decide⟩)]⟩ := by
  decide +kernel

/-! ## What is listed and yet passed on -/

variable {h n} in
lemma values_endToEnd_eq_nil_iff :
    h.endToEnd.values n = [] ↔ h.values n = [] ∨ n ∈ hopByHop ∨ h.ListsPlainly n := by
  rw [values_endToEnd_eq_ite]
  by_cases hpass : h.PassesOn n
  · rw [if_pos hpass]
    exact ⟨.inl, fun hor => hor.resolve_right (not_or.2 hpass)⟩
  · rw [if_neg hpass]
    refine iff_of_true rfl (.inr ?_)
    by_contra hnot
    exact hpass (not_or.1 hnot)

/-- **When nothing that is listed is passed on.**  Every name that `Connection` lists and that
occurs is among the nine, or a plain value lists it as well.  That is so in particular if all values
of `Connection` are plain text. -/
theorem listed_gone_iff (h : Headers) :
    ((∀ n, h.Lists n → h.endToEnd.values n = []) ↔
      ∀ n, h.Lists n → h.values n = [] ∨ n ∈ hopByHop ∨ h.ListsPlainly n) ∧
    ((∀ v ∈ h.values connection, v.octets.all FieldValue.isVisible = true) →
      ∀ n, h.Lists n → h.endToEnd.values n = []) := by
  constructor
  · exact forall₂_congr fun n _ => values_endToEnd_eq_nil_iff
  · rintro hplain n ⟨v, hv, hlists⟩
    exact values_endToEnd_eq_nil_iff.2 (.inr (.inr ⟨v, hv, hplain v hv, hlists⟩))

/-- **A name that is listed and yet passed on.**  Behind it in the list stands an octet that is not
plain text, and so the whole list is passed over. -/
theorem listed_name_crosses :
    let n : FieldName := ⟨"x-private", by decide⟩
    let h : Headers := ⟨[(connection, ⟨Utf8.encode "x-private, " ++ [0xFF], by decide⟩),
      (n, ⟨Utf8.encode "1", by decide⟩)]⟩
    h.Lists n ∧ h.endToEnd.values n = [⟨Utf8.encode "1", by decide⟩] := by
  decide +kernel

end Headers

end StandIn.Http
