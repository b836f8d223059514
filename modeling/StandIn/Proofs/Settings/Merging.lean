import Mathlib.Data.List.Induction
import Mathlib.Data.List.Nodup
import Mathlib.Data.List.TakeWhile
import Mathlib.Tactic.Lemma
import StandIn.Proofs.Basic
import StandIn.Settings.Sources

/-!
# What a table holds after merging

Whatever is set in a table, and however deep below a name, one member of the table changes: that of
the name in which the path starts.  So a source that is laid over a table bears on a name only by
those of its own names that start there.

* `Members.get?_insert`, `Members.exists_set_eq` — setting what a path stands for inserts a member.
* `latest?` — the value of a name in a list in which names may recur.
* `Members.get?_layer` — the values of a name after a source has been laid over a table.
* `isPlain_root_pathOf` — what starts a path is a name that stands for itself.
* `exists_texts` — the texts of the settings in a table.
-/

namespace StandIn.Settings

/-! ## Names with values -/

/-- The last value of a name. -/
def latest? {α : Type} (entries : List (String × α)) (key : String) : Option α :=
  entries.reverse.lookup key

section Latest

variable {α : Type} {entries : List (String × α)} {key : String}

lemma lookup_cons_eq (e : String × α) (entries : List (String × α)) (key : String) :
    (e :: entries).lookup key = if e.1 = key then some e.2 else entries.lookup key := by
  obtain ⟨name, v⟩ := e
  rw [List.lookup_cons]
  by_cases h : name = key
  · simp [h]
  · simp [h, beq_false_of_ne (Ne.symm h)]

lemma lookup_eq_none {entries : List (String × α)} (h : key ∉ entries.map (·.1)) :
    entries.lookup key = none := by
  rw [List.lookup_eq_none_iff]
  intro e he
  have hne : key ≠ e.1 := fun heq => h (heq ▸ List.mem_map_of_mem he)
  simpa using hne

lemma lookup_of_mem (hnodup : (entries.map (·.1)).Nodup) {v : α} (h : (key, v) ∈ entries) :
    entries.lookup key = some v := by
  induction entries with
  | nil => cases h
  | cons e entries ih =>
      obtain ⟨hname, hrest⟩ := List.nodup_cons.1 hnodup
      rw [lookup_cons_eq]
      rcases List.mem_cons.1 h with rfl | hmem
      · exact if_pos rfl
      · have hne : e.1 ≠ key := by
          rintro rfl
          exact hname (List.mem_map.2 ⟨_, hmem, rfl⟩)
        rw [if_neg hne, ih hrest hmem]

/-- If no name recurs, then the order does not matter. -/
lemma lookup_perm {entries entries' : List (String × α)} (hperm : entries.Perm entries')
    (hnodup : (entries.map (·.1)).Nodup) (key : String) :
    entries.lookup key = entries'.lookup key := by
  by_cases hkey : key ∈ entries.map (·.1)
  · obtain ⟨e, he, rfl⟩ := List.mem_map.1 hkey
    rw [lookup_of_mem hnodup he,
      lookup_of_mem ((hperm.map _).nodup_iff.1 hnodup) (hperm.mem_iff.1 he)]
  · rw [lookup_eq_none hkey, lookup_eq_none fun hkey' => hkey ((hperm.map _).mem_iff.2 hkey')]

lemma latest?_cons (e : String × α) (entries : List (String × α)) (key : String) :
    latest? (e :: entries) key
      = (latest? entries key).or (if e.1 = key then some e.2 else none) := by
  rw [latest?, List.reverse_cons, List.lookup_append, lookup_cons_eq, List.lookup_nil, latest?]

/-- If no name recurs, then the first value of a name is also the last one. -/
lemma latest?_of_nodup (hnodup : (entries.map (·.1)).Nodup) (key : String) :
    latest? entries key = entries.lookup key := by
  induction entries with
  | nil => rfl
  | cons e entries ih =>
      obtain ⟨hname, hrest⟩ := List.nodup_cons.1 hnodup
      rw [latest?_cons, ih hrest, lookup_cons_eq]
      split_ifs with hkey
      · rw [lookup_eq_none (hkey ▸ hname), Option.none_or]
      · rw [Option.or_none]

lemma latest?_map {β : Type} (f : α → β) (entries : List (String × α)) (key : String) :
    latest? (entries.map fun e => (e.1, f e.2)) key = (latest? entries key).map f := by
  induction entries with
  | nil => rfl
  | cons e entries ih =>
      rw [List.map_cons, latest?_cons, latest?_cons, ih, Option.map_or]
      split_ifs <;> rfl

/-- Names that are given values one by one. -/
lemma lookup_filterMap (f : String → Option α) (keys : List String) (key : String) :
    (keys.filterMap fun k => (f k).map (k, ·)).lookup key
      = if key ∈ keys then f key else none := by
  induction keys with
  | nil => rfl
  | cons k keys ih =>
      by_cases hk : k = key
      · subst hk
        rw [if_pos List.mem_cons_self]
        cases hf : f k with
        | none => simp [hf, ih]
        | some v => simp [hf]
      · have hmem : key ∈ k :: keys ↔ key ∈ keys := by simp [Ne.symm hk]
        simp only [hmem, ← ih]
        cases hf : f k with
        | none => simp [hf]
        | some v => simp [hf, lookup_cons_eq, hk]

end Latest

/-! ## Members -/

namespace Members

/-- The names of the members. -/
def names (ms : Members) : List String := ms.map (·.1)

lemma names_cons (name : String) (v : Value) (ms : Members) :
    names ((name, v) :: ms) = name :: ms.names :=
  rfl

lemma mem_names {ms : Members} {e : String × Value} (h : e ∈ ms) : e.1 ∈ ms.names :=
  List.mem_map_of_mem h

lemma get?_insert (ms : Members) (name key : String) (v : Value) :
    (ms.insert name v).get? key = if name = key then some v else ms.get? key := by
  simp only [get?]
  induction ms with
  | nil => simp [insert, lookup_cons_eq]
  | cons e ms ih =>
      obtain ⟨n, old⟩ := e
      rw [insert]
      split_ifs with hn hkey hkey
      · rw [lookup_cons_eq, if_pos (hn.trans hkey)]
      · rw [lookup_cons_eq, lookup_cons_eq, if_neg (hn ▸ hkey), if_neg (hn ▸ hkey)]
      · rw [lookup_cons_eq, if_neg (hkey ▸ hn), ih, if_pos hkey]
      · rw [lookup_cons_eq, lookup_cons_eq, ih, if_neg hkey]

lemma mem_insert {ms : Members} {name : String} {v : Value} {e : String × Value}
    (h : e ∈ ms.insert name v) : e = (name, v) ∨ e ∈ ms := by
  induction ms with
  | nil => exact .inl (List.mem_singleton.1 h)
  | cons e' ms ih =>
      rw [insert] at h
      split_ifs at h with hn
      · rcases List.mem_cons.1 h with rfl | hmem
        · exact .inl (by rw [hn])
        · exact .inr (List.mem_cons_of_mem _ hmem)
      · rcases List.mem_cons.1 h with rfl | hmem
        · exact .inr List.mem_cons_self
        · exact (ih hmem).imp_right (List.mem_cons_of_mem _)

/-- A name that has a value keeps its place, and others are added behind all. -/
lemma names_insert (ms : Members) (name : String) (v : Value) :
    (ms.insert name v).names = if name ∈ ms.names then ms.names else ms.names ++ [name] := by
  induction ms with
  | nil => rfl
  | cons e ms ih =>
      obtain ⟨n, old⟩ := e
      rw [insert, names_cons]
      by_cases hn : n = name
      · rw [if_pos hn, names_cons, if_pos (List.mem_cons.2 (.inl hn.symm)), hn]
      · have hmem : name ∈ n :: names ms ↔ name ∈ names ms := by simp [Ne.symm hn]
        rw [if_neg hn, names_cons, ih]
        simp only [hmem]
        split_ifs <;> rfl

lemma insert_of_not_mem {ms : Members} {name : String} (h : name ∉ ms.names) (v : Value) :
    ms.insert name v = ms ++ [(name, v)] := by
  induction ms with
  | nil => rfl
  | cons e ms ih =>
      obtain ⟨n, old⟩ := e
      rw [names_cons, List.mem_cons, not_or] at h
      rw [insert, if_neg (Ne.symm h.1), ih h.2]
      rfl

lemma nodup_insert {ms : Members} (h : ms.names.Nodup) (name : String) (v : Value) :
    (ms.insert name v).names.Nodup := by
  rw [names_insert]
  split_ifs with hmem
  · exact h
  · exact List.nodup_append_comm.1 (List.nodup_cons.2 ⟨hmem, h⟩)

lemma ofList_concat (entries : List (String × Value)) (e : String × Value) :
    ofList (entries ++ [e]) = (ofList entries).insert e.1 e.2 :=
  List.foldl_concat _ _ _ _

lemma mem_ofList {entries : List (String × Value)} {e : String × Value} (h : e ∈ ofList entries) :
    e ∈ entries := by
  induction entries using List.reverseRecOn with
  | nil => cases h
  | append_singleton entries e' ih =>
      rw [ofList_concat] at h
      rw [List.mem_append]
      exact (mem_insert h).symm.imp ih List.mem_singleton.2

lemma nodup_ofList (entries : List (String × Value)) : (ofList entries).names.Nodup := by
  induction entries using List.reverseRecOn with
  | nil => exact List.nodup_nil
  | append_singleton entries e ih =>
      rw [ofList_concat]
      exact nodup_insert ih _ _

lemma get?_ofList (entries : List (String × Value)) (key : String) :
    (ofList entries).get? key = latest? entries key := by
  induction entries using List.reverseRecOn with
  | nil => rfl
  | append_singleton entries e ih =>
      rw [ofList_concat, get?_insert, ih, latest?, latest?, List.reverse_concat, lookup_cons_eq]

end Members

/-! ## Paths -/

/-- The name in which a path starts. -/
def KeyPath.root : KeyPath → String
  | .name s => s
  | .child parent _ => parent.root
  | .item parent _ => parent.root

namespace Members

lemma exists_put_eq (name : String) (v : Value) :
    ∃ f : Option Value → Value, ∀ ms : Members,
      ms.put name v = ms.insert (lowercase name) (f (ms.get? (lowercase name))) := by
  cases v with
  | table incoming => exact ⟨fun old => putAll (old.getD (.table [])) incoming, fun ms => rfl⟩
  | null => exact ⟨fun _ => .null, fun ms => rfl⟩
  | text s => exact ⟨fun _ => .text s, fun ms => rfl⟩
  | list items origin => exact ⟨fun _ => .list items origin, fun ms => rfl⟩

lemma exists_change_eq (change : Value → Value) (path : KeyPath) :
    ∃ f : Option Value → Value, ∀ ms : Members, ms.change change path
      = ms.insert (lowercase path.root) (f (ms.get? (lowercase path.root))) := by
  induction path generalizing change with
  | name s => exact ⟨fun old => change (old.getD .null), fun ms => rfl⟩
  | child parent s ih => exact ih _
  | item parent i ih => exact ih _

/-- **What is set below a name is set in its value**, and nothing else of the table matters. -/
theorem exists_set_eq (v : Value) (path : KeyPath) :
    ∃ f : Option Value → Value, ∀ ms : Members, ms.set v path
      = ms.insert (lowercase path.root) (f (ms.get? (lowercase path.root))) := by
  cases path with
  | name s => exact exists_put_eq s v
  | child parent s => exact exists_change_eq _ parent
  | item parent i => exact exists_change_eq _ parent

lemma set_eq_insert (ms : Members) (v : Value) (path : KeyPath) :
    ∃ v', ms.set v path = ms.insert (lowercase path.root) v' := by
  obtain ⟨f, hf⟩ := exists_set_eq v path
  exact ⟨_, hf ms⟩

lemma get?_set_of_ne (ms : Members) (v : Value) {path : KeyPath} {key : String}
    (h : lowercase path.root ≠ key) : (ms.set v path).get? key = ms.get? key := by
  obtain ⟨v', hv'⟩ := ms.set_eq_insert v path
  rw [hv', get?_insert, if_neg h]

end Members

/-- The name stands for itself, as it is. -/
structure IsPlain (name : String) : Prop where
  path : pathOf name = .name name
  lower : lowercase name = name

/-- Of all names in a source, only the given one bears on it, and its values are texts. -/
def SetsText (source : Members) (key : String) : Prop :=
  ∀ e ∈ source, lowercase (pathOf e.1).root = key → e.1 = key ∧ ∃ s, e.2 = .text s

namespace Members

lemma layer_cons (ms : Members) (e : String × Value) (source : Members) :
    ms.layer (e :: source) = (ms.set e.2 (pathOf e.1)).layer source :=
  rfl

lemma layer_concat (ms source : Members) (e : String × Value) :
    ms.layer (source ++ [e]) = (ms.layer source).set e.2 (pathOf e.1) :=
  List.foldl_concat ..

/-- A text that is set under a name that stands for itself. -/
lemma set_text {name : String} (h : IsPlain name) (ms : Members) (s : String) :
    ms.set (.text s) (pathOf name) = ms.insert name (.text s) := by
  have hset : ms.set (.text s) (.name name) = ms.insert (lowercase name) (.text s) := rfl
  rw [h.path, hset, h.lower]

/-- **Laying a source over a table.**  The last value that the source has for a name wins over the
one in the table. -/
theorem get?_layer {source : Members} {key : String} (hkey : IsPlain key)
    (h : SetsText source key) (ms : Members) :
    (ms.layer source).get? key = (latest? source key).or (ms.get? key) := by
  induction source generalizing ms with
  | nil => rfl
  | cons e source ih =>
      obtain ⟨name, v⟩ := e
      have hrest : SetsText source key := fun e he => h e (List.mem_cons_of_mem _ he)
      have hset : (ms.set v (pathOf name)).get? key
          = (if name = key then some v else none).or (ms.get? key) := by
        split_ifs with hname
        · subst hname
          have hroot : lowercase (pathOf name).root = name := by
            rw [hkey.path, KeyPath.root, hkey.lower]
          obtain ⟨-, s, hs⟩ := h _ List.mem_cons_self hroot
          cases hs
          rw [set_text hkey, get?_insert, if_pos rfl, Option.some_or]
        · rw [get?_set_of_ne, Option.none_or]
          exact fun hroot => hname (h _ List.mem_cons_self hroot).1
      rw [layer_cons, ih hrest, hset, latest?_cons, Option.or_assoc]

lemma nodup_layer {ms : Members} (h : ms.names.Nodup) (source : Members) :
    (ms.layer source).names.Nodup := by
  induction source generalizing ms with
  | nil => exact h
  | cons e source ih =>
      obtain ⟨v', hv'⟩ := ms.set_eq_insert e.2 (pathOf e.1)
      rw [layer_cons, hv']
      exact ih (nodup_insert h _ _)

lemma nodup_layer_nil (source : Members) : (layer [] source).names.Nodup := by
  have hnil : (names []).Nodup := List.nodup_nil
  exact nodup_layer hnil source

lemma mem_names_layer {ms source : Members} {name : String} (h : name ∈ (ms.layer source).names) :
    name ∈ ms.names ∨ ∃ e ∈ source, name = lowercase (pathOf e.1).root := by
  induction source generalizing ms with
  | nil => exact .inl h
  | cons e source ih =>
      obtain ⟨v', hv'⟩ := ms.set_eq_insert e.2 (pathOf e.1)
      rw [layer_cons, hv'] at h
      rcases ih h with hmem | ⟨e', he', hname⟩
      · rw [names_insert] at hmem
        split_ifs at hmem with hold
        · exact .inl hmem
        · rcases List.mem_append.1 hmem with hmem | hmem
          · exact .inl hmem
          · exact .inr ⟨e, List.mem_cons_self, List.mem_singleton.1 hmem⟩
      · exact .inr ⟨e', List.mem_cons_of_mem _ he', hname⟩

end Members

/-! ## Names -/

/-- The lower case of a character. -/
def lowercaseChar (c : Char) : Char := if c = '\u212A' then 'k' else c.toLower

lemma toList_lowercase (s : String) : (lowercase s).toList = s.toList.map lowercaseChar := by
  rw [lowercase, String.toList_ofList]
  rfl

lemma lowercase_eq_self_iff {s : String} :
    lowercase s = s ↔ ∀ c ∈ s.toList, lowercaseChar c = c := by
  rw [← String.toList_inj, toList_lowercase]
  exact ⟨fun h => List.map_eq_map_iff.1 (h.trans (List.map_id _).symm), fun h => by
    rw [List.map_congr_left h, List.map_id']⟩

/-- A part of a name in lower case is in lower case. -/
lemma lowercase_of_sublist {s t : String} (h : lowercase t = t) (hsub : s.toList.Sublist t.toList) :
    lowercase s = s :=
  lowercase_eq_self_iff.2 fun c hc => lowercase_eq_self_iff.1 h c (hsub.subset hc)

/-- Only letters of ASCII are changed, to letters of ASCII that are not capital. -/
lemma toLower_cases (c : Char) : c.toLower = c ∨ c.toLower.val < 128 ∧ ¬c.toLower.isUpper := by
  by_cases h : c.val ≥ 'A'.val ∧ c.val ≤ 'Z'.val
  · have hle : c.val.toNat ≤ 90 := UInt32.le_iff_toNat_le.1 h.2
    have hge : 65 ≤ c.val.toNat := UInt32.le_iff_toNat_le.1 h.1
    have hlower : c.toLower.val = c.val + ('a'.val - 'A'.val) := congrArg Char.val (dif_pos h)
    have hval : c.toLower.val.toNat = c.val.toNat + 32 := by
      have hdistance : ('a'.val - 'A'.val).toNat = 32 := by decide
      rw [hlower, UInt32.toNat_add, hdistance]
      exact Nat.mod_eq_of_lt (by omega)
    refine .inr ⟨UInt32.lt_iff_toNat_lt.2 ?_, fun hupper => ?_⟩
    · rw [hval]
      exact Nat.lt_of_le_of_lt (Nat.add_le_add_right hle 32) (by decide)
    · have hbound := UInt32.le_iff_toNat_le.1 (of_decide_eq_true hupper).2
      rw [hval] at hbound
      exact absurd (hge.trans (Nat.le_of_add_le_add_right hbound)) (by decide)
  · exact .inl (dif_neg h)

lemma lowercaseChar_lowercaseChar (c : Char) :
    lowercaseChar (lowercaseChar c) = lowercaseChar c := by
  by_cases hc : c = '\u212A'
  · subst hc
    decide
  · have hlower : lowercaseChar c = c.toLower := if_neg hc
    rw [hlower]
    rcases toLower_cases c with hself | ⟨hascii, hupper⟩
    · rw [hself, hlower, hself]
    · have hne : c.toLower ≠ '\u212A' := fun heq => by simp [heq] at hascii
      rw [lowercaseChar, if_neg hne]
      exact dif_neg fun h => hupper (decide_eq_true h)

lemma lowercase_lowercase (s : String) : lowercase (lowercase s) = lowercase s := by
  rw [lowercase_eq_self_iff, toList_lowercase]
  intro c hc
  obtain ⟨c', -, rfl⟩ := List.mem_map.1 hc
  exact lowercaseChar_lowercaseChar c'

namespace KeyPath

lemma root_of_step {path path' : KeyPath} {cs rest : List Char}
    (h : step path cs = .ok (path', rest)) : path'.root = path.root := by
  unfold step at h
  split at h
  · dsimp only at h
    split_ifs at h
    cases h
    rfl
  · obtain ⟨⟨n, rest'⟩, -, heq⟩ := map_eq_ok_iff.1 h
    cases heq
    rfl
  · cases h

lemma root_of_steps {bound : Nat} {path path' : KeyPath} {cs : List Char}
    (h : steps bound path cs = .ok path') : path'.root = path.root := by
  fun_induction steps bound path cs with
  | case1 bound path =>
      cases h
      rfl
  | case2 path c cs => cases h
  | case3 path bound c cs ih =>
      obtain ⟨⟨next, rest⟩, hstep, hrest⟩ := bind_eq_ok_iff.1 h
      exact (ih next rest hrest).trans (root_of_step hstep)

lemma parse_of_forall {s : String} (hne : s ≠ "") (h : ∀ c ∈ s.toList, isNameChar c = true) :
    parse s = .ok (.name s) := by
  have hall : s.toList.takeWhile isNameChar = s.toList := List.takeWhile_eq_self_iff.2 h
  have hcs : s.toList ≠ [] := by simpa using hne
  simp only [parse, hall, List.isEmpty_iff, hcs, if_false, List.drop_length, String.ofList_toList]
  rw [steps]

lemma root_of_parse {s : String} {path : KeyPath} (h : parse s = .ok path) :
    path.root.toList = s.toList.takeWhile isNameChar := by
  simp only [parse] at h
  split_ifs at h
  rw [root_of_steps h, root, String.toList_ofList]

end KeyPath

/-- A name that has only the characters of names is no path to something else. -/
lemma pathOf_of_forall {name : String} (h : ∀ c ∈ name.toList, KeyPath.isNameChar c = true) :
    pathOf name = .name name := by
  by_cases hempty : name = ""
  · subst hempty
    rfl
  · rw [pathOf, KeyPath.parse_of_forall hempty h]

/-- **The start of a path stands for itself.**  So what has been merged can be merged once more. -/
theorem isPlain_root_pathOf {name : String} (h : lowercase name = name) :
    IsPlain (pathOf name).root := by
  rw [pathOf]
  cases hparse : KeyPath.parse name with
  | error e =>
      refine ⟨?_, h⟩
      rw [KeyPath.root, pathOf, hparse]
  | ok path =>
      have hroot := KeyPath.root_of_parse hparse
      have hchars : ∀ c ∈ path.root.toList, KeyPath.isNameChar c = true :=
        fun c hc => List.mem_takeWhile_imp (hroot ▸ hc)
      refine ⟨pathOf_of_forall hchars, lowercase_of_sublist h ?_⟩
      rw [hroot]
      exact List.takeWhile_sublist _

/-! ## Settings of a table -/

/-- The text that a value is. -/
def Value.text? : Value → Option String
  | .text s => some s
  | _ => none

/-- **Reading the settings.**  If each setting in a table is a text or nothing, then the settings
can be read, and are the texts. -/
theorem exists_texts {settings : List String} {ms : Members} (hnodup : ms.names.Nodup)
    (h : ∀ e ∈ ms, e.1 ∈ settings → e.2 = .null ∨ ∃ s, e.2 = .text s) :
    ∃ found, texts settings ms = .ok found ∧
      ∀ key ∈ settings, found.lookup key = (ms.get? key).bind Value.text? := by
  induction ms with
  | nil => exact ⟨[], rfl, fun key _ => rfl⟩
  | cons e ms ih =>
      obtain ⟨name, v⟩ := e
      obtain ⟨hname, hrest⟩ := List.nodup_cons.1 hnodup
      obtain ⟨found, htexts, hfound⟩ := ih hrest fun e he => h e (List.mem_cons_of_mem _ he)
      have hget (key : String) :
          Members.get? ((name, v) :: ms) key = if name = key then some v else Members.get? ms key :=
        lookup_cons_eq _ _ _
      by_cases hmem : name ∈ settings
      · rcases h _ List.mem_cons_self hmem with hv | ⟨s, hv⟩
        · cases hv
          refine ⟨found, ?_, fun key hkey => ?_⟩
          · simp [texts, hmem, textOf?, htexts, Except.bind, Except.map]
          · rw [hfound key hkey, hget]
            split_ifs with heq
            · rw [Members.get?, lookup_eq_none (heq ▸ hname)]
              rfl
            · rfl
        · cases hv
          refine ⟨(name, s) :: found, ?_, fun key hkey => ?_⟩
          · simp [texts, hmem, textOf?, htexts, Except.bind, Except.map]
          · rw [lookup_cons_eq, hget, hfound key hkey]
            split_ifs <;> rfl
      · refine ⟨found, ?_, fun key hkey => ?_⟩
        · simpa [texts, hmem] using htexts
        · have hne : name ≠ key := fun heq => hmem (heq ▸ hkey)
          rw [hfound key hkey, hget, if_neg hne]

end StandIn.Settings
