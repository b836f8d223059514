import StandIn.Proofs.Text.Dictionary
import StandIn.Proofs.Wire.Records
import StandIn.Proofs.Wire.Scalars

/-!
# What is written is read

A codec is faithful if a message is read back from whatever may be written for it.  That is a matter
of the fields one by one: each carries its part of a message over into what the fields before it
have made of the empty one.

* `Field.IsLens` — how a field gets at its part of a message.
* `Field.Carries` — what is written for a field sets just this part, and the formula for its size is
  right.  There is one lemma for each kind of field.
* `Codec.IsFaithful` — the same for whole messages.
* `Codec.isFaithful_of_carried` — a codec is faithful if its fields, in a row, carry all of a
  message over.
-/

namespace StandIn.Wire

open Reader

variable {M N α : Type}

/-! ## Sizes -/

/-- The sizes of the items of a list make up the size of what is written for them. -/
lemma foldr_size_eq {size : α → Nat} {octets : α → Octets} {xs : List α}
    (h : ∀ x ∈ xs, (octets x).length < 2 ^ 64 → size x = (octets x).length)
    (hlength : (xs.flatMap octets).length < 2 ^ 64) :
    (xs.map size).foldr (· + ·) 0 = (xs.flatMap octets).length := by
  induction xs with
  | nil => rfl
  | cons x xs ih =>
      rw [List.flatMap_cons, List.length_append] at hlength
      rw [List.map_cons, List.foldr_cons, List.flatMap_cons, List.length_append,
        h x List.mem_cons_self (by omega),
        ih (fun y hy => h y (List.mem_cons_of_mem x hy)) (by omega)]

lemma length_le_length_flatMap {octets : α → Octets} {xs : List α} {x : α} (h : x ∈ xs) :
    (octets x).length ≤ (xs.flatMap octets).length :=
  (List.sublist_flatten_of_mem (List.mem_map_of_mem h)).length_le

/-- A record whose payload has its length in front. -/
lemma length_delimitedRecord {number n : Nat} {bs : Octets} (hn : IsFieldNumber number)
    (hsize : bs.length < 2 ^ 64 → n = bs.length)
    (hlength : (keyOctets number .delimited ++ delimitedOctets bs).length < 2 ^ 64) :
    keySize number + delimitedSize n = (keyOctets number .delimited ++ delimitedOctets bs).length := by
  have hbs : bs.length < 2 ^ 64 := by
    simp only [delimitedOctets, List.length_append] at hlength
    omega
  rw [List.length_append, length_keyOctets hn, length_delimitedOctets hbs, hsize hbs]

lemma length_lt_of_delimitedRecord {number : Nat} {bs : Octets}
    (hlength : (keyOctets number .delimited ++ delimitedOctets bs).length < 2 ^ 64) :
    bs.length < 2 ^ 64 := by
  simp only [delimitedOctets, List.length_append] at hlength
  omega

/-! ## Fields -/

/-- `get` reads a part of a message and `set` replaces it. -/
structure Field.IsLens (get : M → α) (set : M → α → M) : Prop where
  get_set : ∀ m x, get (set m x) = x := by intros; rfl
  set_get : ∀ m, set m (get m) = m := by intros; rfl
  set_set : ∀ m x y, set (set m x) y = set m y := by intros; rfl

lemma Field.IsLens.foldl {β : Type} {get : M → α} {set : M → α → M} (h : Field.IsLens get set)
    {f : α → β → α} {xs : List β} (m : M) :
    xs.foldl (fun m x => set m (f (get m) x)) m = set m (xs.foldl f (get m)) := by
  induction xs generalizing m with
  | nil => exact (h.set_get m).symm
  | cons x xs ih => rw [List.foldl_cons, ih, h.set_set, h.get_set, List.foldl_cons]

/-- Records that each add an item to a list make up this list. -/
lemma Field.IsLens.course {β : Type} {get : M → List α} {set : M → List α → M}
    (hl : Field.IsLens get set) {act : Key → M → Reader M} {xs : List β} {octets : β → Octets}
    {value : β → α} (h : ∀ x ∈ xs, ∀ a, Course act a (octets x) (set a (get a ++ [value x])))
    {a : M} (ha : get a = []) :
    Course act a (xs.flatMap octets) (set a (xs.map value)) := by
  have hcourse := Course.foldl h a
  rw [hl.foldl (f := fun ys x => ys ++ [value x]), ha, List.foldl_append_eq_append,
    List.nil_append] at hcourse
  rwa [← List.flatMap_singleton' (xs.map value), List.flatMap_map]

/-- The codec has the field under its number. -/
def Codec.Declares (c : Codec M) (f : Field M) : Prop :=
  IsFieldNumber f.number ∧ c.fields.find? (·.number = f.number) = some f

/-- A record of a declared field is merged as the field says. -/
lemma Codec.Declares.spells_iff {c : Codec M} {f : Field M} (hf : c.Declares f) {depth : Nat}
    {w : WireType} {a b : M} {p : Octets} :
    (c.mergeRecord depth ⟨f.number, w⟩ a).Spells p b ↔ (f.merge depth w a).Spells p b := by
  rw [Codec.mergeRecord, hf.2]
  exact spells_within_iff

lemma Codec.Declares.course {c : Codec M} {f : Field M} (hf : c.Declares f) {depth : Nat}
    {w : WireType} {a b : M} {p : Octets} (h : (f.merge depth w a).Spells p b) :
    Course (c.mergeRecord depth) a (keyOctets f.number w ++ p) b :=
  .record (isKey_keyOctets hf.1 w) (hf.spells_iff.2 h)

/-- **A field carries its part of a message over.**  Whatever may be written for the field of `m`
turns `a` into `b` when it is read. -/
structure Field.Carries (f : Field M) (depth : Nat) (m a b : M) : Prop where
  course : ∀ {c : Codec M} {p}, c.Declares f → f.Writes m p → p.length < 2 ^ 64 →
    Course (c.mergeRecord depth) a p b
  size : ∀ {p}, IsFieldNumber f.number → f.Writes m p → p.length < 2 ^ 64 → f.size m = p.length
  write : f.Writes m (f.write m)

/-- What can be relied on in a message type that is nested in others: whatever may be written for a
message is read as this message, and the formula for its size is right.  `height` is how many
levels of messages there are below it. -/
structure Codec.IsFaithful (c : Codec M) (height : Nat) : Prop where
  course : ∀ {depth m bs}, height ≤ depth → c.Writes m bs → bs.length < 2 ^ 64 →
    Course (c.mergeRecord depth) c.empty bs m
  size : ∀ {m bs}, c.Writes m bs → bs.length < 2 ^ 64 → c.size m = bs.length
  encode : ∀ m, c.Writes m (c.encode m)

namespace Field

variable {number depth height : Nat} {name : String} {m a : M}

section Values

variable {s : Scalar α}

lemma spells_scalar_readAs (hs : s.IsFaithful) {x : α} (h : (s.record number x).length < 2 ^ 64) :
    (s.readAs s.wireType).Spells (s.write x) x := by
  rw [Scalar.record, List.length_append] at h
  exact Scalar.spells_readAs_iff.2 ⟨rfl, hs.read (by omega)⟩

lemma length_scalar_record (hs : s.IsFaithful) (hn : IsFieldNumber number) {x : α}
    (h : (s.record number x).length < 2 ^ 64) :
    s.recordSize number x = (s.record number x).length := by
  rw [Scalar.record, List.length_append] at h ⊢
  rw [Scalar.recordSize, length_keyOctets hn, hs.size (by omega)]

/-- A single value, of which the default is not written. -/
lemma carries_scalar [DecidableEq α] {get : M → α} {set : M → α → M} (hs : s.IsFaithful)
    (hl : IsLens get set) (ha : get a = s.default) :
    (Field.scalar number name s get set).Carries depth m a (set a (get m)) where
  course {c p} hf hp hlength := by
    obtain rfl : p = if get m = s.default then [] else s.record number (get m) := hp
    split_ifs at hlength ⊢ with hm
    · rw [hm, ← ha, hl.set_get]
      exact .nil a
    · refine hf.course (w := s.wireType) ?_
      exact (spells_scalar_readAs hs hlength).map (set a)
  size {p} hn hp hlength := by
    obtain rfl : p = if get m = s.default then [] else s.record number (get m) := hp
    simp only [Field.scalar]
    split_ifs at hlength ⊢ with hm
    · rfl
    · exact length_scalar_record hs hn hlength
  write := rfl

/-- A list of values. -/
lemma carries_repeated {get : M → List α} {set : M → List α → M} (hs : s.IsFaithful)
    (hl : IsLens get set) (ha : get a = []) :
    (Field.repeated number name s get set).Carries depth m a (set a (get m)) where
  course {c p} hf hp hlength := by
    obtain rfl : p = (get m).flatMap (s.record number) := hp
    have hcourse : Course (c.mergeRecord depth) a ((get m).flatMap (s.record number))
        (set a ((get m).map fun x => x)) := by
      refine hl.course (fun x hx a => hf.course (w := s.wireType) ?_) ha
      exact (spells_scalar_readAs hs ((length_le_length_flatMap hx).trans_lt hlength)).map
        fun x => set a (get a ++ [x])
    rwa [List.map_id'] at hcourse
  size {p} hn hp hlength := by
    obtain rfl : p = (get m).flatMap (s.record number) := hp
    exact foldr_size_eq (fun x _ hx => length_scalar_record hs hn hx) hlength
  write := rfl

end Values

section Messages

variable {n : Codec N}

/-- A message that is nested one level deeper is read into the empty one. -/
lemma spells_mergeAs (hn : n.IsFaithful height) (hdepth : height < depth) {x : N} {bs : Octets}
    (hx : n.Writes x bs) (hlength : bs.length < 2 ^ 64) :
    (n.mergeAs depth .delimited n.empty).Spells (delimitedOctets bs) x := by
  obtain ⟨depth, rfl⟩ := Nat.exists_eq_add_one_of_ne_zero (Nat.ne_zero_of_lt hdepth)
  refine spells_require_bind_iff.2 ⟨rfl, ?_⟩
  exact (hn.course (Nat.le_of_lt_succ hdepth) hx hlength).spells_delimitedRecords
    (delimited_delimitedOctets hlength)

lemma size_writesRecord (hn : n.IsFaithful height) (hnumber : IsFieldNumber number) {x : N}
    {p : Octets} (hp : n.WritesRecord number x p) (hlength : p.length < 2 ^ 64) :
    n.recordSize number x = p.length := by
  obtain ⟨bs, hx, rfl⟩ := hp
  exact length_delimitedRecord hnumber (hn.size hx) hlength

lemma writesRecord_record (hn : n.IsFaithful height) (x : N) :
    n.WritesRecord number x (n.record number x) :=
  ⟨n.encode x, hn.encode x, rfl⟩

/-- At most one message: one that has nothing set is told from one that is not there. -/
lemma carries_message? {get : M → Option N} {set : M → Option N → M} (hn : n.IsFaithful height)
    (hdepth : height < depth) (hl : IsLens get set) (ha : get a = none) :
    (Field.message? number name n get set).Carries depth m a (set a (get m)) where
  course {c p} hf hp hlength := by
    simp only [Field.message?] at hp
    split at hp
    · next hm =>
      subst hp
      rw [hm, ← ha, hl.set_get]
      exact .nil a
    · next x hm =>
      obtain ⟨bs, hx, rfl⟩ := hp
      rw [hm]
      refine hf.course (w := .delimited) ?_
      have hread := spells_mergeAs hn hdepth hx (length_lt_of_delimitedRecord hlength)
      simp only [Field.message?, ha, Option.getD_none]
      exact hread.map fun x => set a (some x)
  size {p} hnumber hp hlength := by
    simp only [Field.message?] at hp ⊢
    split at hp
    · next hm =>
      rw [hm, hp]
      rfl
    · next x hm =>
      rw [hm]
      exact size_writesRecord hn hnumber hp hlength
  write := by
    simp only [Field.message?]
    split
    · next hm =>
      rw [hm]
      rfl
    · next x hm =>
      rw [hm]
      exact writesRecord_record hn x

/-- A list of messages. -/
lemma carries_messages {get : M → List N} {set : M → List N → M} (hn : n.IsFaithful height)
    (hdepth : height < depth) (hl : IsLens get set) (ha : get a = []) :
    (Field.messages number name n get set).Carries depth m a (set a (get m)) where
  course {c p} hf hp hlength := by
    obtain ⟨ps, hps, hrecords, rfl⟩ := hp
    rw [← hps]
    refine hl.course (fun x hx a => ?_) ha
    have hshort := (length_le_length_flatMap hx).trans_lt hlength
    obtain ⟨bs, hbs, heq⟩ := hrecords x hx
    rw [heq] at hshort ⊢
    refine hf.course (w := .delimited) ?_
    exact (spells_mergeAs hn hdepth hbs (length_lt_of_delimitedRecord hshort)).map
      fun x => set a (get a ++ [x])
  size {p} hnumber hp hlength := by
    obtain ⟨ps, hps, hrecords, rfl⟩ := hp
    simp only [Field.messages, ← hps, List.map_map]
    exact foldr_size_eq (fun x hx => size_writesRecord hn hnumber (hrecords x hx)) hlength
  write := by
    refine ⟨(get m).map fun x => (x, n.record number x), ?_, ?_, ?_⟩
    · rw [List.map_map]
      exact List.map_id _
    · intro x hx
      obtain ⟨x, -, rfl⟩ := List.mem_map.1 hx
      exact writesRecord_record hn x
    · rw [List.flatMap_map]
      rfl

end Messages

section Dictionaries

/-- A part of an entry that is written is read, and one that is left out is empty. -/
lemma course_entryPart (set : String × String → String → String × String) {number depth : Nat}
    {e : String × String} {x : String}
    (hact : ∀ e w, entryRecord depth ⟨number, w⟩ e
      = (Scalar.text.readAs w >>= fun x => (Pure.pure (set e x) : Reader (String × String))))
    (hn : IsFieldNumber number) (he : set e "" = e)
    (hlength : (if x = "" then [] else Scalar.text.record number x).length < 2 ^ 64) :
    Course (entryRecord depth) e (if x = "" then [] else Scalar.text.record number x) (set e x) := by
  split_ifs at hlength ⊢ with hx
  · rw [hx, he]
    exact .nil e
  · refine .record (isKey_keyOctets hn .delimited) ?_
    rw [hact]
    exact (spells_scalar_readAs Scalar.isFaithful_text hlength).map (set e)

/-- What is written for an entry is read as this entry. -/
lemma course_entryOctets (e : String × String) (hlength : (entryOctets e).length < 2 ^ 64) :
    Course (entryRecord depth) ("", "") (entryOctets e) e := by
  rw [entryOctets, List.length_append] at hlength
  have hkey : Course (entryRecord depth) ("", "") _ (e.1, "") :=
    course_entryPart (fun e x => (x, e.2)) (fun _ _ => rfl) (by decide) rfl
      (Nat.lt_of_le_of_lt (Nat.le_add_right _ _) hlength)
  have hvalue : Course (entryRecord depth) (e.1, "") _ (e.1, e.2) :=
    course_entryPart (fun e x => (e.1, x)) (fun _ _ => rfl) (by decide) rfl
      (Nat.lt_of_le_of_lt (Nat.le_add_left _ _) hlength)
  exact hkey.append hvalue

lemma size_entryOctets (e : String × String) (hlength : (entryOctets e).length < 2 ^ 64) :
    entrySize e = (entryOctets e).length := by
  rw [entryOctets, List.length_append] at hlength ⊢
  have hpart (number : Nat) (hn : IsFieldNumber number) (x : String)
      (h : (if x = "" then [] else Scalar.text.record number x).length < 2 ^ 64) :
      (if x = "" then 0 else Scalar.text.recordSize number x)
        = (if x = "" then [] else Scalar.text.record number x).length := by
    split_ifs at h ⊢ with hx
    · rfl
    · exact length_scalar_record Scalar.isFaithful_text hn h
  rw [entrySize, hpart 1 (by decide) _ (by omega), hpart 2 (by decide) _ (by omega)]

/-- A dictionary, whose entries may be written in any order. -/
lemma carries_dictionary {get : M → Dictionary} {set : M → Dictionary → M} (hdepth : 0 < depth)
    (hl : IsLens get set) (ha : get a = .empty) :
    (Field.dictionary number name get set).Carries depth m a (set a (get m)) where
  course {c p} hf hp hlength := by
    obtain ⟨es, hperm, rfl⟩ := hp
    obtain ⟨depth, rfl⟩ := Nat.exists_eq_add_one_of_ne_zero (Nat.ne_zero_of_lt hdepth)
    have hcourse : Course (c.mergeRecord (depth + 1)) a (entriesOctets number es) _ :=
      Course.foldl (fun e he a => hf.course (w := .delimited) (by
        have hshort := length_lt_of_delimitedRecord
          ((length_le_length_flatMap he).trans_lt hlength)
        exact ((course_entryOctets e hshort).spells_delimitedRecords
          (delimited_delimitedOctets hshort)).map
            fun e => set a ((get a).insert e.1 e.2))) a
    rwa [hl.foldl (f := fun (d : Dictionary) (e : String × String) => d.insert e.1 e.2), ha,
      Dictionary.foldl_insert_eq hperm] at hcourse
  size {p} hnumber hp hlength := by
    obtain ⟨es, hperm, rfl⟩ := hp
    have hsum := foldr_size_eq (fun e _ he => length_delimitedRecord hnumber
      (size_entryOctets e) he) hlength
    exact ((hperm.symm.map _).sum_nat).trans hsum
  write := ⟨(get m).entries, .rfl, rfl⟩

end Dictionaries

end Field

/-! ## Messages -/

/-- Fields in a row carry their parts of `m` over, each into what the fields before it have made of
the message that has nothing set. -/
inductive Carried (depth : Nat) (m : M) : List (Field M) → M → M → Prop
  | nil (a : M) : Carried depth m [] a a
  | cons {f : Field M} {fs : List (Field M)} {a b c : M} (hf : f.Carries depth m a b)
      (hfs : Carried depth m fs b c) : Carried depth m (f :: fs) a c

lemma Carried.course {c : Codec M} {depth : Nat} {m a b : M} {ps : List (Field M × Octets)}
    (h : Carried depth m (ps.map (·.1)) a b) (hc : ∀ x ∈ ps, c.Declares x.1)
    (hps : ∀ x ∈ ps, x.1.Writes m x.2) (hlength : (ps.flatMap (·.2)).length < 2 ^ 64) :
    Course (c.mergeRecord depth) a (ps.flatMap (·.2)) b := by
  induction ps generalizing a with
  | nil =>
      cases h
      exact .nil _
  | cons x ps ih =>
      cases h with
      | cons hf hfs =>
          rw [List.flatMap_cons, List.length_append] at hlength
          rw [List.flatMap_cons]
          rw [List.forall_mem_cons] at hc hps
          exact (hf.course hc.1 hps.1 (by omega)).append (ih hfs hc.2 hps.2 (by omega))

lemma Carried.size {depth : Nat} {m a b : M} {ps : List (Field M × Octets)}
    (h : Carried depth m (ps.map (·.1)) a b) (hnumber : ∀ x ∈ ps, IsFieldNumber x.1.number)
    (hps : ∀ x ∈ ps, x.1.Writes m x.2) (hlength : (ps.flatMap (·.2)).length < 2 ^ 64) :
    ((ps.map (·.1)).map (·.size m)).foldr (· + ·) 0 = (ps.flatMap (·.2)).length := by
  induction ps generalizing a with
  | nil => rfl
  | cons x ps ih =>
      cases h with
      | cons hf hfs =>
          rw [List.flatMap_cons, List.length_append] at hlength ⊢
          rw [List.forall_mem_cons] at hnumber hps
          rw [List.map_cons, List.map_cons, List.foldr_cons,
            hf.size hnumber.1 hps.1 (by omega), ih hfs hnumber.2 hps.2 (by omega)]

lemma Carried.writes {depth : Nat} {m a b : M} {fs : List (Field M)} (h : Carried depth m fs a b) :
    ∀ f ∈ fs, f.Writes m (f.write m) := by
  induction h with
  | nil => simp
  | cons hf _ ih => exact List.forall_mem_cons.2 ⟨hf.write, ih⟩

/-- The fields of a message type have different numbers, and these fit into keys. -/
def Codec.IsNumbered (c : Codec M) : Prop :=
  (∀ f ∈ c.fields, IsFieldNumber f.number) ∧ (c.fields.map (·.number)).Nodup

instance (c : Codec M) : Decidable c.IsNumbered :=
  inferInstanceAs (Decidable (_ ∧ _))

lemma find?_number_eq {fs : List (Field M)} (h : (fs.map (·.number)).Nodup) {f : Field M}
    (hf : f ∈ fs) : fs.find? (·.number = f.number) = some f := by
  induction fs with
  | nil => cases hf
  | cons g fs ih =>
      rw [List.map_cons, List.nodup_cons] at h
      rcases List.mem_cons.1 hf with rfl | hf
      · exact List.find?_cons_of_pos (by simp)
      · have hne : g.number ≠ f.number := fun heq => h.1 (heq ▸ List.mem_map_of_mem hf)
        rw [List.find?_cons_of_neg (by simpa using hne)]
        exact ih h.2 hf

lemma Codec.IsNumbered.declares {c : Codec M} (hc : c.IsNumbered) {f : Field M}
    (hf : f ∈ c.fields) : c.Declares f :=
  ⟨hc.1 f hf, find?_number_eq hc.2 hf⟩

/-- **A codec is faithful** if its fields, in a row, carry all of a message over. -/
theorem Codec.isFaithful_of_carried {c : Codec M} {height : Nat} (hc : c.IsNumbered)
    (h : ∀ depth, height ≤ depth → ∀ m, Carried depth m c.fields c.empty m) :
    c.IsFaithful height where
  course {depth m bs} hdepth hm hlength := by
    obtain ⟨ps, hps, hwrites, rfl⟩ := hm
    have hcarried := h depth hdepth m
    rw [← hps] at hcarried
    refine hcarried.course (fun x hx => hc.declares ?_) hwrites hlength
    exact hps ▸ List.mem_map_of_mem hx
  size {m bs} hm hlength := by
    obtain ⟨ps, hps, hwrites, rfl⟩ := hm
    have hcarried := h height (Nat.le_refl _) m
    rw [← hps] at hcarried
    rw [Codec.size, ← hps]
    refine hcarried.size (fun x hx => hc.1 x.1 ?_) hwrites hlength
    exact hps ▸ List.mem_map_of_mem hx
  encode m := by
    refine ⟨c.fields.map fun f => (f, f.write m), ?_, ?_, ?_⟩
    · rw [List.map_map]
      exact List.map_id _
    · intro x hx
      obtain ⟨f, hf, rfl⟩ := List.mem_map.1 hx
      exact (h height (Nat.le_refl _) m).writes f hf
    · rw [List.flatMap_map]
      rfl

/-- A message that is not nested too deeply is decoded from whatever may be written for it. -/
lemma Codec.IsFaithful.decode_eq {c : Codec M} {height : Nat} (hc : c.IsFaithful height)
    (hheight : height ≤ nestingLimit) {m : M} {bs : Octets} (hm : c.Writes m bs)
    (hlength : bs.length < 2 ^ 64) : c.decode bs = .ok m := by
  rw [Codec.decode, Codec.merge, run_records, (hc.course hheight hm hlength).run]
  rfl

end StandIn.Wire
