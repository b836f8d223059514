/-!
# Dictionaries of text

Finite maps from text to text, as messages hold them.  The entries are kept in ascending order of
their keys, so two dictionaries with the same entries are equal whatever way they came about.

* `Dictionary` — the type; the order is a field of it.
* `Dictionary.insert` — gives a key its value, in place of the one that it had.
* `Dictionary.get?` — the value of a key.
-/

namespace StandIn

/-- A finite map from text to text. -/
structure Dictionary where
  entries : List (String × String)
  ascending : entries.Pairwise fun a b => a.1 < b.1
  deriving DecidableEq, Repr

namespace Dictionary

/-- The map without entries. -/
def empty : Dictionary :=
  ⟨[], List.Pairwise.nil⟩

instance : Inhabited Dictionary := ⟨empty⟩

/-- Puts an entry where its key belongs in an ascending list. -/
def insertEntry (key value : String) : List (String × String) → List (String × String)
  | [] => [(key, value)]
  | (k, v) :: rest =>
    if key < k then (key, value) :: (k, v) :: rest
    else if key = k then (key, value) :: rest
    else (k, v) :: insertEntry key value rest

theorem key_of_mem_insertEntry {key value : String} {entries : List (String × String)}
    {e : String × String} (h : e ∈ insertEntry key value entries) : e.1 = key ∨ e ∈ entries := by
  induction entries with
  | nil => simp [insertEntry] at h; simp [h]
  | cons head rest ih =>
    obtain ⟨k, v⟩ := head
    simp only [insertEntry] at h
    split at h
    · simp only [List.mem_cons] at h ⊢
      rcases h with h | h | h <;> simp [h]
    · split at h
      · simp only [List.mem_cons] at h ⊢
        rcases h with h | h <;> simp [h]
      · simp only [List.mem_cons] at h ⊢
        rcases h with h | h
        · simp [h]
        · rcases ih h with h | h <;> simp [h]

theorem ascending_insertEntry {key value : String} {entries : List (String × String)}
    (h : entries.Pairwise fun a b => a.1 < b.1) :
    (insertEntry key value entries).Pairwise fun a b => a.1 < b.1 := by
  induction entries with
  | nil => simp [insertEntry]
  | cons head rest ih =>
    obtain ⟨k, v⟩ := head
    obtain ⟨hk, hrest⟩ := List.pairwise_cons.1 h
    simp only [insertEntry]
    split
    · next hlt =>
      refine List.pairwise_cons.2 ⟨fun e he => ?_, h⟩
      rcases List.mem_cons.1 he with rfl | he
      · exact hlt
      · exact String.lt_trans hlt (hk e he)
    · split
      · next _ heq => subst heq; exact List.pairwise_cons.2 ⟨hk, hrest⟩
      · next hlt hne =>
        refine List.pairwise_cons.2 ⟨fun e he => ?_, ih hrest⟩
        rcases key_of_mem_insertEntry he with h' | h'
        · rw [h']
          exact Std.lt_of_le_of_ne (String.not_lt.1 hlt) (fun h => hne h.symm)
        · exact hk e h'

/-- Gives `key` the value `value`, in place of the one that it had. -/
def insert (d : Dictionary) (key value : String) : Dictionary :=
  ⟨insertEntry key value d.entries, ascending_insertEntry d.ascending⟩

/-- The value of a key. -/
def get? (d : Dictionary) (key : String) : Option String :=
  d.entries.lookup key

/-- The map with the given entries, of which a later one replaces an earlier one of its key. -/
def ofList (entries : List (String × String)) : Dictionary :=
  entries.foldl (fun d e => d.insert e.1 e.2) empty

end Dictionary

end StandIn
