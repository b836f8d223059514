import Mathlib.Data.List.Nodup
import Mathlib.Tactic.Lemma
import StandIn.Text.Dictionary

/-!
# Dictionaries of text, by their entries

The order in which a dictionary keeps its entries is fixed, so a dictionary is given by which
entries it has, and it does not matter in which order they came.

* `Dictionary.ext_of_mem_iff` — dictionaries with the same entries are equal.
* `Dictionary.mem_insert_iff` — the entries after one has been put in.
* `Dictionary.get?_insert` — the values after an entry has been put in.
* `Dictionary.foldl_insert_eq` — the entries of a dictionary, in any order, make up just this
  dictionary.
-/

namespace StandIn.Dictionary

lemma nodup_keys (d : Dictionary) : (d.entries.map (·.1)).Nodup := by
  rw [List.Nodup, List.pairwise_map]
  exact d.ascending.imp fun h => String.ne_of_lt h

/-- **Dictionaries with the same entries are equal.** -/
theorem ext_of_mem_iff {d d' : Dictionary} (h : ∀ e, e ∈ d.entries ↔ e ∈ d'.entries) : d = d' := by
  have hperm : d.entries.Perm d'.entries :=
    (List.perm_ext_iff_of_nodup d.nodup_keys.of_map d'.nodup_keys.of_map).2 h
  have heq : d.entries = d'.entries :=
    hperm.eq_of_pairwise (fun _ _ _ _ hab hba => absurd hba (String.lt_asymm hab))
      d.ascending d'.ascending
  cases d
  cases d'
  cases heq
  rfl

/-- An entry that is put in takes the place of the one that had its key. -/
lemma mem_insertEntry_iff {key value : String} {entries : List (String × String)}
    (h : entries.Pairwise fun a b => a.1 < b.1) {e : String × String} :
    e ∈ insertEntry key value entries ↔ e = (key, value) ∨ e ∈ entries ∧ e.1 ≠ key := by
  induction entries with
  | nil => simp [insertEntry]
  | cons head rest ih =>
      obtain ⟨k, v⟩ := head
      obtain ⟨hk, hrest⟩ := List.pairwise_cons.1 h
      rw [insertEntry]
      split_ifs with hlt heq
      · -- all keys are above the new one
        have hne : ∀ e ∈ (k, v) :: rest, e.1 ≠ key := by
          intro e he
          rcases List.mem_cons.1 he with rfl | he
          · exact (String.ne_of_lt hlt).symm
          · exact (String.ne_of_lt (String.lt_trans hlt (hk e he))).symm
        rw [List.mem_cons]
        exact or_congr_right ⟨fun he => ⟨he, hne e he⟩, And.left⟩
      · subst heq
        have hne : ∀ e ∈ rest, e.1 ≠ key := fun e he => (String.ne_of_lt (hk e he)).symm
        rw [List.mem_cons, List.mem_cons, or_and_right]
        refine or_congr_right ⟨fun he => .inr ⟨he, hne e he⟩, ?_⟩
        rintro (⟨rfl, hself⟩ | ⟨he, -⟩)
        · exact absurd rfl hself
        · exact he
      · rw [List.mem_cons, List.mem_cons, ih hrest, or_and_right]
        constructor
        · rintro (rfl | rfl | he)
          · exact .inr (.inl ⟨rfl, fun hself => heq hself.symm⟩)
          · exact .inl rfl
          · exact .inr (.inr he)
        · rintro (rfl | ⟨rfl, -⟩ | he)
          · exact .inr (.inl rfl)
          · exact .inl rfl
          · exact .inr (.inr he)

lemma mem_insert_iff {d : Dictionary} {key value : String} {e : String × String} :
    e ∈ (d.insert key value).entries ↔ e = (key, value) ∨ e ∈ d.entries ∧ e.1 ≠ key :=
  mem_insertEntry_iff d.ascending

lemma lookup_cons_eq_ite (sought key value : String) (entries : List (String × String)) :
    ((key, value) :: entries).lookup sought
      = if sought = key then some value else entries.lookup sought := by
  rw [List.lookup_cons, beq_eq_decide]
  split_ifs with h <;> simp [h]

/-- What is looked up after an entry has been put in. -/
theorem get?_insert (d : Dictionary) (key value sought : String) :
    (d.insert key value).get? sought = if sought = key then some value else d.get? sought := by
  change (insertEntry key value d.entries).lookup sought
    = if sought = key then some value else d.entries.lookup sought
  induction d.entries with
  | nil => exact lookup_cons_eq_ite ..
  | cons head rest ih =>
      obtain ⟨k, v⟩ := head
      rw [insertEntry]
      by_cases hlt : key < k
      · rw [if_pos hlt, lookup_cons_eq_ite]
      by_cases heq : key = k
      · subst heq
        rw [if_neg hlt, if_pos rfl, lookup_cons_eq_ite, lookup_cons_eq_ite]
        split_ifs <;> rfl
      · rw [if_neg hlt, if_neg heq, lookup_cons_eq_ite, ih, lookup_cons_eq_ite]
        split_ifs with hk hkey
        · exact absurd (hkey.symm.trans hk) heq
        all_goals rfl

/-- Entries with different keys that are put in one after the other are all there. -/
lemma mem_foldl_insert_iff {d : Dictionary} {es : List (String × String)}
    (h : (es.map (·.1)).Nodup) {e : String × String} :
    e ∈ (es.foldl (fun d e => d.insert e.1 e.2) d).entries ↔
      e ∈ es ∨ e ∈ d.entries ∧ e.1 ∉ es.map (·.1) := by
  induction es generalizing d with
  | nil => simp
  | cons x es ih =>
      rw [List.map_cons, List.nodup_cons] at h
      rw [List.foldl_cons, ih h.2, mem_insert_iff, List.mem_cons, List.map_cons, List.mem_cons,
        not_or]
      constructor
      · rintro (he | ⟨rfl | ⟨he, hne⟩, hes⟩)
        · exact .inl (.inr he)
        · exact .inl (.inl rfl)
        · exact .inr ⟨he, hne, hes⟩
      · rintro ((rfl | he) | ⟨he, hne, hes⟩)
        · exact .inr ⟨.inl rfl, h.1⟩
        · exact .inl he
        · exact .inr ⟨.inr ⟨he, hne⟩, hes⟩

/-- **The entries of a dictionary make up this dictionary**, in whatever order they are put in. -/
theorem foldl_insert_eq {d : Dictionary} {es : List (String × String)} (h : es.Perm d.entries) :
    es.foldl (fun d e => d.insert e.1 e.2) empty = d := by
  have hkeys : (es.map (·.1)).Nodup := (h.map _).nodup_iff.2 d.nodup_keys
  refine ext_of_mem_iff fun e => ?_
  rw [mem_foldl_insert_iff hkeys, h.mem_iff]
  simp [empty]

end StandIn.Dictionary
