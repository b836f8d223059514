import Mathlib.Tactic.Lemma
import StandIn.Http.HopByHop
import StandIn.Proofs.Basic

/-!
# Header fields by name

Header fields are a list in which a name may occur several times.  What counts is which values each
name has, and in which order; this file says what every operation does to that.

* `Headers.values_filter` — keeping the fields of some names.
* `Headers.values_erase`, `values_add`, `values_set` — one operation.
* `Headers.fields_foldl_erase` — erasing several names.
* `Headers.values_endToEnd` — what is left of a name when the fields of one hop are removed: all of
  its values, or none.
* `listItems_append_item` — one more item at the end of a list that commas separate.
-/

namespace StandIn.Http

namespace Headers

/-- Keeping the fields of some names keeps all of their values, and none of any other name. -/
lemma values_filter (h : Headers) (p : FieldName → Bool) (m : FieldName) :
    (⟨h.fields.filter fun f => p f.1⟩ : Headers).values m = if p m then h.values m else [] := by
  simp only [values, List.filterMap_filter]
  split_ifs with hm
  · refine List.filterMap_congr fun f _ => ?_
    by_cases hf : f.1 = m <;> simp [hf, hm]
  · refine List.filterMap_eq_nil_iff.2 fun f _ => ?_
    by_cases hf : f.1 = m <;> simp [hf, hm]

/-- Erasing a name takes all of its values away, and those of no other name. -/
@[simp] lemma values_erase (h : Headers) (n m : FieldName) :
    (h.erase n).values m = if m = n then [] else h.values m := by
  have hfilter : (h.erase n).values m = if decide (m ≠ n) then h.values m else [] :=
    h.values_filter (fun k => k ≠ n) m
  by_cases hmn : m = n <;> simpa [hmn] using hfilter

@[simp] lemma values_add (h : Headers) (n m : FieldName) (v : FieldValue) :
    (h.add n v).values m = h.values m ++ if m = n then [v] else [] := by
  simp only [add, values, List.filterMap_append, List.filterMap_cons, List.filterMap_nil]
  by_cases hmn : m = n
  · simp [hmn]
  · simp [hmn, Ne.symm hmn]

/-- Setting a name leaves it a single value. -/
@[simp] lemma values_set (h : Headers) (n m : FieldName) (v : FieldValue) :
    (h.set n v).values m = if m = n then [v] else h.values m := by
  rw [set, values_add, values_erase]
  split_ifs <;> simp

/-- Erasing names one after the other leaves the fields of all other names, in their order. -/
lemma fields_foldl_erase (h : Headers) (ns : List FieldName) :
    (ns.foldl erase h).fields = h.fields.filter fun f => f.1 ∉ ns := by
  induction ns generalizing h with
  | nil => simp
  | cons n ns ih =>
      rw [List.foldl_cons, ih, erase, List.filter_filter]
      refine List.filter_congr fun f _ => ?_
      by_cases hf : f.1 = n <;> simp [hf]

lemma values_foldl_erase (h : Headers) (ns : List FieldName) (m : FieldName) :
    (ns.foldl erase h).values m = if m ∈ ns then [] else h.values m := by
  have hfilter := h.values_filter (fun k => k ∉ ns) m
  rw [← fields_foldl_erase] at hfilter
  by_cases hm : m ∈ ns <;> simpa [hm] using hfilter

/-- **All or nothing.**  A name that is of one hop, or that `Connection` lists, loses all of its
values; every other name keeps all of them in order. -/
theorem values_endToEnd (h : Headers) (m : FieldName) :
    h.endToEnd.values m = if m ∈ h.named ++ hopByHop then [] else h.values m :=
  values_foldl_erase h _ m

lemma get?_eq_head? (h : Headers) (n : FieldName) : h.get? n = (h.values n).head? := rfl

end Headers

namespace FieldValue

/-- What is plain visible text may occur in a value. -/
lemma isValueOctet_of_isVisible {b : UInt8} (h : isVisible b = true) : isValueOctet b = true := by
  simp only [isVisible, isValueOctet, Bool.or_eq_true, Bool.and_eq_true, decide_eq_true_eq] at h ⊢
  rcases h with h | ⟨hlo, hhi⟩
  · exact .inl h
  · refine .inr ⟨hlo, fun hb => ?_⟩
    subst hb
    exact absurd hhi (by decide)

lemma visible?_eq_some_iff {v : FieldValue} {bs : Octets} :
    v.visible? = some bs ↔ v.octets.all isVisible = true ∧ v.octets = bs := by
  rw [visible?]
  split_ifs with h <;> simp [h]

lemma ofOctets?_of_all_isVisible {bs : Octets} (h : bs.all isVisible = true) :
    ∃ v, ofOctets? bs = some v ∧ v.octets = bs := by
  have hv : bs.all isValueOctet = true := by
    rw [List.all_eq_true] at h ⊢
    exact fun b hb => isValueOctet_of_isVisible (h b hb)
  exact ⟨⟨bs, hv⟩, by rw [ofOctets?, dif_pos hv], rfl⟩

end FieldValue

/-- One more item behind a comma and a blank is one more item of the list, if it holds neither. -/
theorem listItems_append_item {item : Octets} (bs : Octets)
    (h : ∀ b ∈ item, b ≠ 0x2C ∧ isBlank b = false) :
    listItems (bs ++ 0x2C :: 0x20 :: item) = listItems bs ++ [item] := by
  have hcomma : (0x2C : UInt8) ∉ (0x20 : UInt8) :: item := by
    rw [List.mem_cons, not_or]
    exact ⟨by decide, fun hmem => (h _ hmem).1 rfl⟩
  rw [listItems, splitAt_append_cons, List.map_append, splitAt_of_not_mem hcomma,
    List.map_singleton, trimBy_cons_of_pos (by decide), trimBy_eq_self fun b hb => (h b hb).2,
    ← listItems]

/-- A text without commas and blanks is a list of one item. -/
lemma listItems_of_item {item : Octets} (h : ∀ b ∈ item, b ≠ 0x2C ∧ isBlank b = false) :
    listItems item = [item] := by
  rw [listItems, splitAt_of_not_mem fun hmem => (h _ hmem).1 rfl, List.map_singleton,
    trimBy_eq_self fun b hb => (h b hb).2]

lemma listItems_ne_nil (bs : Octets) : listItems bs ≠ [] := by
  rw [listItems, Ne, List.map_eq_nil_iff]
  exact splitAt_ne_nil _ bs

end StandIn.Http
