import StandIn.Proofs.Wire.Merging

/-!
# What a single record does

A record of a message changes at most one part of it, and what it makes of this part depends on
nothing but the record and the part.  An entry of a dictionary is read in the same way, as if it
were a message with two parts.

* `Level` — what records stand in: a message, or an entry of a dictionary.
* `Part.Takes`, `Steps` — what a record makes of its part, and of a message.
* `Part.IsSet`, `Field.Fits` — a field changes its part as the part says, and no other part.
* `Level.conforms` — a record is read exactly if it makes such a step.
* `MessageType.merge_eq_ok_iff` — what is merged are records, one after the other.
-/

namespace StandIn

namespace Wire

open Reader

/-! ## Levels -/

/-- What records stand in. -/
inductive Level where
  | message (t : MessageType)
  /-- An entry of a dictionary. -/
  | entry
  deriving DecidableEq

namespace Level

/-- What the records of a level are read into. -/
def Value : Level → Type
  | message t => t.Value
  | entry => String × String

/-- The parts that the records of a level may belong to. -/
def parts : (l : Level) → List (Part l.Value)
  | message t => t.parts
  | entry => Part.entry

/-- The numbers that are declared at a level. -/
def numbers (l : Level) : List Nat :=
  l.parts.map (·.number)

/-- Reads the payload of one record. -/
def read : (l : Level) → (depth : Nat) → Key → l.Value → Reader l.Value
  | message t => t.codec.mergeRecord
  | entry => Field.entryRecord

/-- The wire types of records that hold a level.  That of an entry is not looked at. -/
def Admits : Level → WireType → Prop
  | message _, w => w = .delimited
  | entry, _ => True

/-- What becomes of `a` by octets that are read one level deeper. -/
def Fills (l : Level) : (depth : Nat) → l.Value → Octets → l.Value → Prop
  | 0, _, _, _ => False
  | depth + 1, a, body, b => Course (l.read depth) a body b

/-- What becomes of `a` by the octets in a record. -/
def HeldIn (l : Level) (depth : Nat) (r : Record) (a b : l.Value) : Prop :=
  l.Admits r.1.wireType ∧ ∃ body, Delimited body r.2 ∧ l.Fills depth a body b

end Level

/-- The level in the records of a part, if there is one. -/
def Part.inner? {M : Type} : Part M → Option Level
  | scalar .. | repeated .. => none
  | message? _ t _ | messages _ t _ => some (.message t)
  | dictionary .. => some .entry

/-- The level in the records with a number. -/
def Level.inner? (l : Level) (number : Nat) : Option Level :=
  (l.parts.find? (·.number = number)).bind (·.inner?)

/-! ## Steps -/

section Steps

variable {M N α : Type} {parts : List (Part M)}

/-- What a record makes of its part.  A value is replaced, a list grows by one, a message is merged
into the one that is there, and an entry is put into a dictionary. -/
def Part.Takes (part : Part M) (depth : Nat) (r : Record) (a b : M) : Prop :=
  match part with
  | scalar _ s get => ∃ x, Holds s r x ∧ get b = x
  | repeated _ s get => ∃ x, Holds s r x ∧ get b = get a ++ [x]
  | message? _ t get => ∃ x : t.Value,
      (Level.message t).HeldIn depth r ((get a).getD t.codec.empty) x ∧ get b = some x
  | messages _ t get => ∃ x : t.Value,
      (Level.message t).HeldIn depth r t.codec.empty x ∧ get b = get a ++ [x]
  | dictionary _ get => ∃ e : String × String,
      Level.entry.HeldIn depth r ("", "") e ∧ get b = (get a).insert e.1 e.2

/-- Nothing is different but the part with the number. -/
def SameBut (parts : List (Part M)) (number : Nat) (a b : M) : Prop :=
  ∀ part ∈ parts, part.number ≠ number → part.value b = part.value a

/-- What a record makes of a message: its own part takes it, or it belongs to none and is passed
over. -/
inductive Steps (parts : List (Part M)) (depth : Nat) (r : Record) (a : M) : M → Prop
  | taken {part : Part M} {b : M} (hpart : part ∈ parts) (hnumber : part.number = r.1.number)
      (htakes : part.Takes depth r a b) (hothers : SameBut parts r.1.number a b) :
      Steps parts depth r a b
  | passed (hother : r.1.number ∉ parts.map (·.number)) (hp : Passed depth r.1 r.2) :
      Steps parts depth r a a

/-- A message is known by its parts. -/
def Determines (parts : List (Part M)) : Prop :=
  ∀ a b, (∀ part ∈ parts, part.value a = part.value b) → a = b

/-- A part is set, and all others are left as they are.  `laws` says where the value of the part is,
that what is set is there, and that nothing else is different. -/
structure Part.IsSet (part : Part M) (parts : List (Part M)) (get : M → α) (set : M → α → M) :
    Prop where
  mem : parts.filter (·.number = part.number) = [part]
  laws : ∀ m x,
    (part.value m, get (set m x),
        (parts.filter (·.number ≠ part.number)).map (·.value (set m x)))
      = (⟨α, get m⟩, x, (parts.filter (·.number ≠ part.number)).map (·.value m))

namespace Part.IsSet

variable {part : Part M} {get : M → α} {set : M → α → M}

lemma value (h : part.IsSet parts get set) (m : M) : part.value m = ⟨α, get m⟩ :=
  congrArg Prod.fst (h.laws m (get m))

lemma get_set (h : part.IsSet parts get set) (m : M) (x : α) : get (set m x) = x :=
  congrArg (·.2.1) (h.laws m x)

lemma eq_of_number (h : part.IsSet parts get set) {other : Part M} (hother : other ∈ parts)
    (hnumber : other.number = part.number) : other = part := by
  have hmem : other ∈ parts.filter (·.number = part.number) :=
    List.mem_filter.2 ⟨hother, decide_eq_true hnumber⟩
  rwa [h.mem, List.mem_singleton] at hmem

lemma sameBut (h : part.IsSet parts get set) (a : M) (x : α) :
    SameBut parts part.number a (set a x) := by
  intro other hother hnumber
  have hmem : other ∈ parts.filter (·.number ≠ part.number) :=
    List.mem_filter.2 ⟨hother, decide_eq_true hnumber⟩
  have hvalues : (parts.filter (·.number ≠ part.number)).map (·.value (set a x))
      = (parts.filter (·.number ≠ part.number)).map (·.value a) :=
    congrArg (·.2.2) (h.laws a x)
  exact List.map_inj_left.1 hvalues other hmem

/-- A part is set exactly if it has the value and nothing else is different. -/
lemma eq_set_iff (h : part.IsSet parts get set) (hparts : Determines parts) {a b : M} {x : α} :
    b = set a x ↔ get b = x ∧ SameBut parts part.number a b := by
  constructor
  · rintro rfl
    exact ⟨h.get_set a x, h.sameBut a x⟩
  · rintro ⟨hget, hothers⟩
    refine hparts b (set a x) fun other hother => ?_
    by_cases hnumber : other.number = part.number
    · rw [h.eq_of_number hother hnumber, h.value, h.value, hget, h.get_set]
    · rw [hothers other hother hnumber, h.sameBut a x other hother hnumber]

end Part.IsSet

/-! ## Fields -/

/-- A scalar that reads only what is laid out as its wire type says. -/
structure Scalar.IsLaidOut (s : Scalar α) : Prop where
  isLocal : s.read.IsLocal
  passed : ∀ {r x}, Holds s r x → Passed 1 r.1 r.2

lemma Scalar.isLaidOut_of_varint {s : Scalar α} (hs : s.read.Reads fun p => ∃ n, IsNumber p n)
    (hw : s.wireType = .varint) : s.IsLaidOut where
  isLocal := hs.isLocal
  passed {r x} hr := by
    rw [Passed, hr.1, hw]
    exact hs.spells.1 ⟨x, hr.2⟩

lemma Scalar.isLaidOut_text : Scalar.text.IsLaidOut where
  isLocal := reads_text.isLocal
  passed {r x} hr := by
    rw [Passed, hr.1]
    exact ⟨_, spells_text_iff.1 hr.2⟩

lemma Scalar.isLaidOut_bool : Scalar.bool.IsLaidOut := isLaidOut_of_varint reads_bool rfl

lemma Scalar.isLaidOut_int32 : Scalar.int32.IsLaidOut := isLaidOut_of_varint reads_int32 rfl

lemma Scalar.isLaidOut_uint32 : Scalar.uint32.IsLaidOut := isLaidOut_of_varint reads_uint32 rfl

lemma Scalar.isLaidOut_int64 : Scalar.int64.IsLaidOut := isLaidOut_of_varint reads_int64 rfl

/-- The records that a part may take.  They are laid out as their wire types say; only for a
dictionary they have their length in front whatever the wire type is. -/
def Part.Lays (part : Part M) (r : Record) : Prop :=
  match part with
  | dictionary .. => ∃ body, Delimited body r.2
  | _ => Passed 1 r.1 r.2

/-- A field does with its records just what its part says. -/
structure Field.Fits (parts : List (Part M)) (f : Field M) (part : Part M) : Prop where
  number : f.number = part.number
  unique : ∀ other ∈ parts, other.number = part.number → other = part
  isLocal : ∀ depth w a, (f.merge depth w a).IsLocal
  spells_iff : ∀ {depth w a b p}, (f.merge depth w a).Spells p b ↔
    part.Takes depth (⟨part.number, w⟩, p) a b ∧ SameBut parts part.number a b
  lays : ∀ {depth r a b}, part.Takes depth r a b → part.Lays r
  blend : ∀ a c, ∃ b, part.value b = part.value c ∧ SameBut parts part.number a b

namespace Field

variable {number : Nat} {name : String}

/-- A field that is read as some value, from which its part is set, fits this part. -/
lemma fits_of_isSet {f : Field M} {part : Part M} {get : M → α} {set : M → α → M}
    (hparts : Determines parts) (h : part.IsSet parts get set)
    (held : Nat → Record → M → N → Prop) (value : M → N → α) (hnumber : f.number = part.number)
    (hlocal : ∀ depth w a, (f.merge depth w a).IsLocal)
    (hlays : ∀ {depth r a x}, held depth r a x → part.Lays r)
    (htakes : ∀ {depth r a b}, part.Takes depth r a b ↔ ∃ x, held depth r a x ∧ get b = value a x)
    (hspells : ∀ {depth w a b p}, (f.merge depth w a).Spells p b ↔
      ∃ x, held depth (⟨part.number, w⟩, p) a x ∧ b = set a (value a x)) : f.Fits parts part where
  number := hnumber
  unique _ := h.eq_of_number
  isLocal := hlocal
  spells_iff {depth w a b p} := by
    simp only [hspells, htakes, h.eq_set_iff hparts, ← and_assoc, exists_and_right]
  lays {depth r a b} hr := by
    obtain ⟨x, hx, -⟩ := htakes.1 hr
    exact hlays hx
  blend a c := by
    refine ⟨set a (get c), ?_, h.sameBut a (get c)⟩
    rw [h.value, h.value, h.get_set]

section Values

variable {s : Scalar α} (hparts : Determines parts) (hs : s.IsLaidOut)
include hs

lemma isLocal_readAs (w : WireType) : (s.readAs w).IsLocal :=
  (isLocal_require _ _).bind fun _ => hs.isLocal

lemma spells_readAs_bind_iff {w : WireType} {set : α → M} {p : Octets} {b : M} :
    (s.readAs w >>= fun x => (Pure.pure (set x) : Reader M)).Spells p b ↔
      ∃ x, Holds s (⟨number, w⟩, p) x ∧ b = set x := by
  refine (spells_map_iff (isLocal_readAs hs w)).trans (exists_congr fun x => ?_)
  rw [Scalar.spells_readAs_iff]
  rfl

include hparts

lemma fits_scalar [DecidableEq α] {get : M → α} {set : M → α → M}
    (h : (Part.scalar number s get).IsSet parts get set) :
    (Field.scalar number name s get set).Fits parts (.scalar number s get) :=
  fits_of_isSet hparts h (fun _ r _ x => Holds s r x) (fun _ x => x) rfl
    (fun _ w _ => (isLocal_readAs hs w).bind fun _ => isLocal_pure _)
    hs.passed Iff.rfl (spells_readAs_bind_iff hs)

lemma fits_repeated {get : M → List α} {set : M → List α → M}
    (h : (Part.repeated number s get).IsSet parts get set) :
    (Field.repeated number name s get set).Fits parts (.repeated number s get) :=
  fits_of_isSet hparts h (fun _ r _ x => Holds s r x) (fun a x => get a ++ [x]) rfl
    (fun _ w _ => (isLocal_readAs hs w).bind fun _ => isLocal_pure _)
    hs.passed Iff.rfl (spells_readAs_bind_iff hs)

end Values

section Messages

variable {t : MessageType} (hparts : Determines parts)
  (ht : ∀ depth k a, (t.codec.mergeRecord depth k a).IsLocal)
include ht

lemma isLocal_mergeAs (depth : Nat) (w : WireType) (a : t.Value) :
    (t.codec.mergeAs depth w a).IsLocal := by
  refine (isLocal_require _ _).bind fun _ => ?_
  cases depth with
  | zero => exact isLocal_fail _
  | succ depth => exact isLocal_delimitedRecords (ht depth) a

/-- A message in a message fills its record, and is read one level deeper. -/
lemma spells_mergeAs_iff {depth : Nat} {w : WireType} {a x : t.Value} {p : Octets} :
    (t.codec.mergeAs depth w a).Spells p x ↔
      (Level.message t).HeldIn depth (⟨number, w⟩, p) a x := by
  rw [Codec.mergeAs, spells_require_bind_iff, decide_eq_true_eq]
  refine and_congr_right fun _ => ?_
  cases depth with
  | zero => exact iff_of_false not_spells_fail fun ⟨_, _, h⟩ => h
  | succ depth => exact spells_delimitedRecords_iff (ht depth)

lemma spells_mergeAs_bind_iff {depth : Nat} {w : WireType} {a : t.Value} {set : t.Value → M}
    {p : Octets} {b : M} :
    (t.codec.mergeAs depth w a >>= fun x => (Pure.pure (set x) : Reader M)).Spells p b ↔
      ∃ x : t.Value, (Level.message t).HeldIn depth (⟨number, w⟩, p) a x ∧ b = set x := by
  refine (spells_map_iff (isLocal_mergeAs ht depth w a)).trans (exists_congr fun x => ?_)
  rw [spells_mergeAs_iff ht]

omit ht in
lemma passed_of_heldIn {depth : Nat} {r : Record} {a x : t.Value}
    (h : (Level.message t).HeldIn depth r a x) : Passed 1 r.1 r.2 := by
  obtain ⟨hw, body, hbody, -⟩ := h
  rw [Passed, show r.1.wireType = .delimited from hw]
  exact ⟨body, hbody⟩

include hparts

lemma fits_message? {get : M → Option t.Value} {set : M → Option t.Value → M}
    (h : (Part.message? number t get).IsSet parts get set) :
    (Field.message? number name t.codec get set).Fits parts (.message? number t get) :=
  fits_of_isSet hparts h
    (fun depth r a x => (Level.message t).HeldIn depth r ((get a).getD t.codec.empty) x)
    (fun _ x => some x) rfl
    (fun depth w _ => (isLocal_mergeAs ht depth w _).bind fun _ => isLocal_pure _)
    passed_of_heldIn Iff.rfl (spells_mergeAs_bind_iff ht)

lemma fits_messages {get : M → List t.Value} {set : M → List t.Value → M}
    (h : (Part.messages number t get).IsSet parts get set) :
    (Field.messages number name t.codec get set).Fits parts (.messages number t get) :=
  fits_of_isSet hparts h (fun depth r _ x => (Level.message t).HeldIn depth r t.codec.empty x)
    (fun a (x : t.Value) => get a ++ [x]) rfl
    (fun depth w _ => (isLocal_mergeAs ht depth w _).bind fun _ => isLocal_pure _)
    passed_of_heldIn Iff.rfl (spells_mergeAs_bind_iff ht)

end Messages

end Field

/-! ## Records -/

/-- A reader of records does with each of them what the parts say. -/
structure Conforms (read : (depth : Nat) → Key → M → Reader M) (parts : List (Part M)) : Prop where
  isLocal : ∀ depth k a, (read depth k a).IsLocal
  spells_iff : ∀ {depth k a p b}, (read depth k a).Spells p b ↔ Steps parts depth (k, p) a b
  unique : ∀ part ∈ parts, ∀ other ∈ parts, other.number = part.number → other = part
  lays : ∀ part ∈ parts, ∀ {depth r a b}, part.Takes depth r a b → part.Lays r
  blend : ∀ part ∈ parts, ∀ a c, ∃ b, part.value b = part.value c ∧
    SameBut parts part.number a b

/-- A number is looked for among the fields just as it is among the parts. -/
lemma find?_fits_cases {fs : List (Field M)} {ps : List (Part M)}
    (h : List.Forall₂ (Field.Fits parts) fs ps) (n : Nat) :
    (fs.find? (·.number = n) = none ∧ n ∉ ps.map (·.number)) ∨
      ∃ f, ∃ part ∈ ps, fs.find? (·.number = n) = some f ∧ part.number = n ∧
        f.Fits parts part := by
  induction h with
  | nil => exact .inl ⟨rfl, List.not_mem_nil⟩
  | @cons f part fs ps hf _ ih =>
      by_cases hn : f.number = n
      · have hsome : (f :: fs).find? (·.number = n) = some f :=
          List.find?_cons_of_pos (by simpa using hn)
        refine .inr ⟨f, part, List.mem_cons_self, hsome, ?_, hf⟩
        rw [← hf.number, hn]
      · rw [List.find?_cons_of_neg (by simpa using hn), List.map_cons, List.mem_cons, not_or]
        refine ih.imp ?_ ?_
        · rintro ⟨hnone, hps⟩
          exact ⟨hnone, fun heq => hn (hf.number.trans heq.symm), hps⟩
        · rintro ⟨g, other, hother, hg⟩
          exact ⟨g, other, List.mem_cons_of_mem part hother, hg⟩

lemma exists_fits {fs : List (Field M)} (h : List.Forall₂ (Field.Fits parts) fs parts)
    {part : Part M} (hpart : part ∈ parts) : ∃ f : Field M, f.Fits parts part := by
  rcases find?_fits_cases h part.number with ⟨-, hother⟩ | ⟨f, other, -, -, hnumber, hf⟩
  · exact absurd (List.mem_map_of_mem hpart) hother
  · rw [hf.unique part hpart hnumber.symm]
    exact ⟨f, hf⟩

/-- A reader of records conforms if it looks for the field of each of them. -/
lemma conforms_of_fits {read : (depth : Nat) → Key → M → Reader M} {fs : List (Field M)}
    (h : List.Forall₂ (Field.Fits parts) fs parts)
    (hfield : ∀ {depth k a f}, fs.find? (·.number = k.number) = some f → ∀ {bs rest b},
      (read depth k a).run bs = .ok (b, rest) ↔
        (f.merge depth k.wireType a).run bs = .ok (b, rest))
    (hskip : ∀ {depth k a}, fs.find? (·.number = k.number) = none →
      read depth k a = (skip depth k >>= fun _ => Pure.pure a)) : Conforms read parts where
  isLocal depth k a := by
    rcases find?_fits_cases h k.number with ⟨hnone, -⟩ | ⟨f, part, -, hsome, -, hf⟩
    · rw [hskip hnone]
      exact (isLocal_skip depth k).bind fun _ => isLocal_pure a
    · intro bs b rest hrun
      obtain ⟨p, rfl, hp⟩ := hf.isLocal depth k.wireType a ((hfield hsome).1 hrun)
      exact ⟨p, rfl, fun rest => (hfield hsome).2 (hp rest)⟩
  spells_iff {depth k a p b} := by
    -- either there is no field with the number, and no part, or there is just one of each
    rcases find?_fits_cases h k.number with ⟨hnone, hother⟩ | ⟨f, part, hpart, hsome, hnumber, hf⟩
    · rw [hskip hnone, spells_map_iff (isLocal_skip depth k)]
      simp only [spells_skip_iff]
      constructor
      · rintro ⟨-, hp, rfl⟩
        exact .passed hother hp
      · rintro (⟨hpart, hnumber, -, -⟩ | ⟨-, hp⟩)
        · exact absurd (hnumber ▸ List.mem_map_of_mem hpart) hother
        · exact ⟨(), hp, rfl⟩
    · have hread : (read depth k a).Spells p b ↔ (f.merge depth k.wireType a).Spells p b :=
        forall_congr' fun _ => hfield hsome
      rw [hread, hf.spells_iff, hnumber]
      constructor
      · rintro ⟨htakes, hothers⟩
        exact .taken hpart hnumber htakes hothers
      · rintro (⟨hother, hnumber', htakes, hothers⟩ | ⟨hother, -⟩)
        · rw [hf.unique _ hother (hnumber'.trans hnumber.symm)] at htakes
          exact ⟨htakes, hothers⟩
        · exact absurd (hnumber ▸ List.mem_map_of_mem hpart) hother
  unique _ hpart := (exists_fits h hpart).choose_spec.unique
  lays _ hpart := (exists_fits h hpart).choose_spec.lays
  blend _ hpart := (exists_fits h hpart).choose_spec.blend

lemma conforms_mergeRecord {c : Codec M} (h : List.Forall₂ (Field.Fits parts) c.fields parts) :
    Conforms c.mergeRecord parts := by
  refine conforms_of_fits h ?_ ?_
  · intro depth k a f hf bs rest b
    rw [Codec.mergeRecord, hf]
    exact run_within_eq_ok_iff
  · intro depth k a hf
    rw [Codec.mergeRecord, hf]

/-- The key and the value of an entry are read as if they were fields. -/
lemma conforms_entryRecord : Conforms Field.entryRecord Part.entry := by
  have hparts : Determines Part.entry := by
    rintro ⟨k, v⟩ ⟨k', v'⟩ h
    have hvalues : Part.entry.map (·.value (k, v)) = Part.entry.map (·.value (k', v')) :=
      List.map_congr_left h
    cases hvalues
    rfl
  have hkey : (Field.scalar 1 "key" .text (·.1) fun e x => (x, e.2)).Fits Part.entry
      (.scalar 1 .text (·.1)) :=
    Field.fits_scalar hparts Scalar.isLaidOut_text ⟨rfl, fun _ _ => rfl⟩
  have hvalue : (Field.scalar 2 "value" .text (·.2) fun e x => (e.1, x)).Fits Part.entry
      (.scalar 2 .text (·.2)) :=
    Field.fits_scalar hparts Scalar.isLaidOut_text ⟨rfl, fun _ _ => rfl⟩
  refine conforms_of_fits (.cons hkey (.cons hvalue .nil)) ?_ ?_
  · rintro depth ⟨number, w⟩ e f hf bs rest e'
    by_cases h1 : number = 1
    · subst h1
      cases hf
      exact Iff.rfl
    by_cases h2 : number = 2
    · subst h2
      cases hf
      exact Iff.rfl
    · simp [Field.scalar, Ne.symm h1, Ne.symm h2] at hf
  · rintro depth ⟨number, w⟩ e hf
    rw [List.find?_eq_none] at hf
    have h1 : number ≠ 1 := by simpa [Field.scalar, eq_comm] using hf _ List.mem_cons_self
    have h2 : number ≠ 2 := by
      simpa [Field.scalar, eq_comm] using hf _ (List.mem_cons_of_mem _ List.mem_cons_self)
    rw [Field.entryRecord, if_neg h1, if_neg h2]

/-- An entry fills its record, whatever the wire type of the record is. -/
lemma spells_readEntry_iff {depth : Nat} {r : Record} {e : String × String} :
    (Field.readEntry depth).Spells r.2 e ↔ Level.entry.HeldIn depth r ("", "") e := by
  refine Iff.trans ?_ (and_iff_right trivial).symm
  cases depth with
  | zero => exact iff_of_false not_spells_fail fun ⟨_, _, h⟩ => h
  | succ depth => exact spells_delimitedRecords_iff (conforms_entryRecord.isLocal depth)

lemma isLocal_readEntry (depth : Nat) : (Field.readEntry depth).IsLocal := by
  cases depth with
  | zero => exact isLocal_fail _
  | succ depth => exact isLocal_delimitedRecords (conforms_entryRecord.isLocal depth) _

lemma Field.fits_dictionary {number : Nat} {name : String} {get : M → Dictionary}
    {set : M → Dictionary → M} (hparts : Determines parts)
    (h : (Part.dictionary number get).IsSet parts get set) :
    (Field.dictionary number name get set).Fits parts (.dictionary number get) := by
  refine fits_of_isSet hparts h (fun depth r _ e => Level.entry.HeldIn depth r ("", "") e)
    (fun a (e : String × String) => (get a).insert e.1 e.2) rfl
    (fun depth _ _ => (isLocal_readEntry depth).bind fun _ => isLocal_pure _) ?_ Iff.rfl ?_
  · rintro depth r a e ⟨-, body, hbody, -⟩
    exact ⟨body, hbody⟩
  · intro depth w a b p
    refine (spells_map_iff (isLocal_readEntry depth)).trans (exists_congr fun e => ?_)
    rw [← spells_readEntry_iff]

end Steps

end Wire

/-! ## The messages that are exchanged -/

open Wire Wire.Field Wire.Scalar

/-- A message is known by its parts. -/
lemma MessageType.determines_parts (t : MessageType) : Determines t.parts := by
  intro a b h
  have hvalues : t.parts.map (·.value a) = t.parts.map (·.value b) := List.map_congr_left h
  cases t <;> cases a <;> cases b <;> cases hvalues <;> rfl

lemma EnvironmentVariable.conforms_codec :
    Conforms MessageType.environmentVariable.codec.mergeRecord
      MessageType.environmentVariable.parts :=
  have hparts := MessageType.environmentVariable.determines_parts
  conforms_mergeRecord <|
    .cons (fits_scalar hparts isLaidOut_text ⟨rfl, fun _ _ => rfl⟩) <|
    .cons (fits_scalar hparts isLaidOut_text ⟨rfl, fun _ _ => rfl⟩) <|
    .nil

lemma RunAction.conforms_codec :
    Conforms MessageType.runAction.codec.mergeRecord MessageType.runAction.parts :=
  have hparts := MessageType.runAction.determines_parts
  conforms_mergeRecord <|
    .cons (fits_scalar hparts isLaidOut_text ⟨rfl, fun _ _ => rfl⟩) <|
    .cons (fits_repeated hparts isLaidOut_text ⟨rfl, fun _ _ => rfl⟩) <|
    .cons (fits_scalar hparts isLaidOut_text ⟨rfl, fun _ _ => rfl⟩) <|
    .cons (fits_messages hparts EnvironmentVariable.conforms_codec.isLocal ⟨rfl, fun _ _ => rfl⟩) <|
    .cons (fits_scalar hparts isLaidOut_text ⟨rfl, fun _ _ => rfl⟩) <|
    .cons (fits_scalar hparts isLaidOut_text ⟨rfl, fun _ _ => rfl⟩) <|
    .cons (fits_scalar hparts isLaidOut_bool ⟨rfl, fun _ _ => rfl⟩) <|
    .nil

lemma Action.conforms_codec :
    Conforms MessageType.action.codec.mergeRecord MessageType.action.parts :=
  have hparts := MessageType.action.determines_parts
  conforms_mergeRecord <|
    .cons (fits_message? hparts RunAction.conforms_codec.isLocal ⟨rfl, fun _ _ => rfl⟩) <|
    .nil

lemma Network.conforms_codec :
    Conforms MessageType.network.codec.mergeRecord MessageType.network.parts :=
  have hparts := MessageType.network.determines_parts
  conforms_mergeRecord <|
    .cons (fits_dictionary hparts ⟨rfl, fun _ _ => rfl⟩) <|
    .nil

lemma TaskDefinition.conforms_codec :
    Conforms MessageType.taskDefinition.codec.mergeRecord MessageType.taskDefinition.parts :=
  have hparts := MessageType.taskDefinition.determines_parts
  conforms_mergeRecord <|
    .cons (fits_scalar hparts isLaidOut_text ⟨rfl, fun _ _ => rfl⟩) <|
    .cons (fits_messages hparts EnvironmentVariable.conforms_codec.isLocal ⟨rfl, fun _ _ => rfl⟩) <|
    .cons (fits_message? hparts Action.conforms_codec.isLocal ⟨rfl, fun _ _ => rfl⟩) <|
    .cons (fits_scalar hparts isLaidOut_int32 ⟨rfl, fun _ _ => rfl⟩) <|
    .cons (fits_scalar hparts isLaidOut_int32 ⟨rfl, fun _ _ => rfl⟩) <|
    .cons (fits_scalar hparts isLaidOut_uint32 ⟨rfl, fun _ _ => rfl⟩) <|
    .cons (fits_scalar hparts isLaidOut_bool ⟨rfl, fun _ _ => rfl⟩) <|
    .cons (fits_scalar hparts isLaidOut_text ⟨rfl, fun _ _ => rfl⟩) <|
    .cons (fits_scalar hparts isLaidOut_text ⟨rfl, fun _ _ => rfl⟩) <|
    .cons (fits_scalar hparts isLaidOut_text ⟨rfl, fun _ _ => rfl⟩) <|
    .cons (fits_scalar hparts isLaidOut_text ⟨rfl, fun _ _ => rfl⟩) <|
    .cons (fits_scalar hparts isLaidOut_text ⟨rfl, fun _ _ => rfl⟩) <|
    .cons (fits_scalar hparts isLaidOut_text ⟨rfl, fun _ _ => rfl⟩) <|
    .cons (fits_scalar hparts isLaidOut_text ⟨rfl, fun _ _ => rfl⟩) <|
    .cons (fits_message? hparts Network.conforms_codec.isLocal ⟨rfl, fun _ _ => rfl⟩) <|
    .cons (fits_repeated hparts isLaidOut_text ⟨rfl, fun _ _ => rfl⟩) <|
    .cons (fits_scalar hparts isLaidOut_int32 ⟨rfl, fun _ _ => rfl⟩) <|
    .cons (fits_scalar hparts isLaidOut_text ⟨rfl, fun _ _ => rfl⟩) <|
    .nil

lemma DesireTaskRequest.conforms_codec :
    Conforms MessageType.desireTaskRequest.codec.mergeRecord MessageType.desireTaskRequest.parts :=
  have hparts := MessageType.desireTaskRequest.determines_parts
  conforms_mergeRecord <|
    .cons (fits_message? hparts TaskDefinition.conforms_codec.isLocal ⟨rfl, fun _ _ => rfl⟩) <|
    .cons (fits_scalar hparts isLaidOut_text ⟨rfl, fun _ _ => rfl⟩) <|
    .cons (fits_scalar hparts isLaidOut_text ⟨rfl, fun _ _ => rfl⟩) <|
    .nil

lemma Envelope.conforms_codec :
    Conforms MessageType.envelope.codec.mergeRecord MessageType.envelope.parts :=
  have hparts := MessageType.envelope.determines_parts
  conforms_mergeRecord <|
    .cons (fits_scalar hparts isLaidOut_int64 ⟨rfl, fun _ _ => rfl⟩) <|
    .cons (fits_scalar hparts isLaidOut_text ⟨rfl, fun _ _ => rfl⟩) <|
    .cons (fits_scalar hparts isLaidOut_text ⟨rfl, fun _ _ => rfl⟩) <|
    .cons (fits_dictionary hparts ⟨rfl, fun _ _ => rfl⟩) <|
    .nil

lemma EnvelopeBatch.conforms_codec :
    Conforms MessageType.envelopeBatch.codec.mergeRecord MessageType.envelopeBatch.parts :=
  have hparts := MessageType.envelopeBatch.determines_parts
  conforms_mergeRecord <|
    .cons (fits_messages hparts Envelope.conforms_codec.isLocal ⟨rfl, fun _ _ => rfl⟩) <|
    .nil

lemma MessageType.conforms_codec : (t : MessageType) → Conforms t.codec.mergeRecord t.parts
  | environmentVariable => EnvironmentVariable.conforms_codec
  | runAction => RunAction.conforms_codec
  | action => Action.conforms_codec
  | network => Network.conforms_codec
  | taskDefinition => TaskDefinition.conforms_codec
  | desireTaskRequest => DesireTaskRequest.conforms_codec
  | envelope => Envelope.conforms_codec
  | envelopeBatch => EnvelopeBatch.conforms_codec
  | batchSenderResponse => conforms_mergeRecord .nil
  | sendResponse => conforms_mergeRecord .nil

/-- What is merged is a run of records to the last octet. -/
lemma MessageType.merge_eq_ok_iff {t : MessageType} {old new : t.Value} {bs : Octets} :
    t.codec.merge old bs = .ok new ↔
      Reader.Course (t.codec.mergeRecord nestingLimit) old bs new := by
  have hlocal := t.conforms_codec.isLocal nestingLimit
  constructor
  · intro h
    obtain ⟨⟨m, rest⟩, hrun, rfl⟩ := map_eq_ok_iff.1 h
    exact ((Reader.recordsRun_zero_eq_ok_iff hlocal).1 hrun).2
  · intro h
    rw [Codec.merge, Reader.run_records, h.run]
    rfl

/-- **What a level does with a record** is a step. -/
theorem Wire.Level.conforms : (l : Level) → Conforms l.read l.parts
  | message t => t.conforms_codec
  | entry => conforms_entryRecord

end StandIn
