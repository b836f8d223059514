import StandIn.Proofs.Wire.Records
import StandIn.Proofs.Wire.Scalars

/-!
# The grammar of messages

Which octets are read as a message, told without reading them: by what is declared of the fields.

* `Shape` — what a field is declared to hold.
* `Shape.Payload` — the payloads of a shape, down to a depth of messages and groups.
* `RecordOf` — the records of a message, those of undeclared fields included.
* `Codec.Follows` — a codec reads just what is declared.  The grammar leaves open from which wire
  types a field is read; `Tolerates` says which ones there are.
* `Codec.decode_isOk_iff` — the octets that such a codec decodes.
-/

namespace StandIn.Wire

open Reader

/-- What a field is declared to hold. -/
inductive Shape where
  /-- A number of any kind. -/
  | number
  | text
  /-- A message with the given fields by their numbers. -/
  | message (fields : List (Nat × Shape))
  | dictionary

namespace Shape

/-- The wire type that is declared with a shape. -/
def wireType : Shape → WireType
  | number => .varint
  | text | message _ | dictionary => .delimited

/-- The fields of one entry of a dictionary, which are its key and its value. -/
def entry : List (Nat × Shape) := [(1, text), (2, text)]

end Shape

/-- A record of a message: a declared field, or any other record.  `payload` are the payloads of
shapes, and `allows` the wire types in which they may stand. -/
def RecordOf (allows : Shape → WireType → Prop) (payload : Shape → Octets → Prop) (depth : Nat)
    (fields : List (Nat × Shape)) (k : Key) (p : Octets) : Prop :=
  match fields.lookup k.number with
  | some s => allows s k.wireType ∧ payload s p
  | none => Passed depth k p

/-- The payloads of a shape.  A message fills the length that is announced for it with complete
records, and so does each entry of a dictionary; `depth` is how many levels may be open at once. -/
def Shape.Payload (allows : Shape → WireType → Prop) : (depth : Nat) → Shape → Octets → Prop
  | _, .number, p => ∃ n, IsNumber p n
  | _, .text, p => ∃ s, Delimited (Utf8.encode s) p
  | 0, .message _, _ => False
  | depth + 1, .message fields, p => ∃ body, Delimited body p ∧
      Sequence (RecordOf allows (Payload allows depth) depth fields) body
  | 0, .dictionary, _ => False
  | depth + 1, .dictionary, p => ∃ body, Delimited body p ∧
      Sequence (RecordOf allows (Payload allows depth) depth entry) body

/-- The octets of a message with the given fields. -/
def IsMessage (allows : Shape → WireType → Prop) (depth : Nat) (fields : List (Nat × Shape)) :
    Octets → Prop :=
  Sequence (RecordOf allows (Shape.Payload allows depth) depth fields)

/-- Only the declared wire type. -/
def Demands (s : Shape) (w : WireType) : Prop :=
  w = s.wireType

/-- The declared wire type, and for dictionaries any other one. -/
def Tolerates (s : Shape) (w : WireType) : Prop :=
  w = s.wireType ∨ s = .dictionary

section Grammar

variable {allows allows' : Shape → WireType → Prop} {depth : Nat}

lemma payload_number_iff {p : Octets} :
    Shape.Payload allows depth .number p ↔ ∃ n, IsNumber p n := by
  cases depth <;> exact Iff.rfl

lemma payload_text_iff {p : Octets} :
    Shape.Payload allows depth .text p ↔ ∃ s, Delimited (Utf8.encode s) p := by
  cases depth <;> exact Iff.rfl

lemma Sequence.mono {P Q : Key → Octets → Prop} (h : ∀ k p, P k p → Q k p) {bs : Octets}
    (hbs : Sequence P bs) : Sequence Q bs := by
  induction hbs with
  | nil => exact .nil
  | cons hk hp _ ih => exact .cons hk (h _ _ hp) ih

lemma RecordOf.mono (hallows : ∀ s w, allows s w → allows' s w) {P Q : Shape → Octets → Prop}
    (h : ∀ s p, P s p → Q s p) {fields : List (Nat × Shape)} {k : Key} {p : Octets}
    (hp : RecordOf allows P depth fields k p) : RecordOf allows' Q depth fields k p := by
  rw [RecordOf] at hp ⊢
  split at hp
  · exact ⟨hallows _ _ hp.1, h _ _ hp.2⟩
  · exact hp

lemma Shape.Payload.mono (hallows : ∀ s w, allows s w → allows' s w) {s : Shape} {p : Octets}
    (hp : Shape.Payload allows depth s p) : Shape.Payload allows' depth s p := by
  induction depth generalizing s p with
  | zero => cases s <;> exact hp
  | succ depth ih =>
      cases s with
      | number => exact hp
      | text => exact hp
      | message fields =>
          obtain ⟨body, hbody, hrecords⟩ := hp
          exact ⟨body, hbody, hrecords.mono fun _ _ => .mono hallows fun _ _ => ih⟩
      | dictionary =>
          obtain ⟨body, hbody, hrecords⟩ := hp
          exact ⟨body, hbody, hrecords.mono fun _ _ => .mono hallows fun _ _ => ih⟩

/-- A grammar that allows more has more messages. -/
theorem IsMessage.mono (hallows : ∀ s w, allows s w → allows' s w)
    {fields : List (Nat × Shape)} {bs : Octets} (h : IsMessage allows depth fields bs) :
    IsMessage allows' depth fields bs :=
  Sequence.mono (fun _ _ => .mono hallows fun _ _ => .mono hallows) h

/-- A record of a declared field may stand in front. -/
lemma IsMessage.cons_declared {fields : List (Nat × Shape)} {ks p rest : Octets} (number : Nat)
    (s : Shape) (hlookup : fields.lookup number = some s) (hks : IsKey ks ⟨number, s.wireType⟩)
    (hp : s.Payload Demands depth p) (hrest : IsMessage Demands depth fields rest) :
    IsMessage Demands depth fields (ks ++ (p ++ rest)) := by
  refine .cons hks ?_ hrest
  rw [RecordOf, hlookup]
  exact ⟨rfl, hp⟩

/-- Any other record may stand in front. -/
lemma IsMessage.cons_undeclared {fields : List (Nat × Shape)} {ks p rest : Octets} {k : Key}
    (hlookup : fields.lookup k.number = none) (hks : IsKey ks k) (hp : Passed depth k p)
    (hrest : IsMessage Demands depth fields rest) :
    IsMessage Demands depth fields (ks ++ (p ++ rest)) := by
  refine .cons hks ?_ hrest
  rwa [RecordOf, hlookup]

/-- The message that the first record holds, if its key and its length are known. -/
lemma IsMessage.of_run {fields inner : List (Nat × Shape)} {bs mid rest : Octets} {k : Key}
    {n : Nat} (h : IsMessage allows (depth + 1) fields bs) (hk : key.run bs = .ok (k, mid))
    (hinner : fields.lookup k.number = some (.message inner))
    (hn : varint.run mid = .ok (n, rest)) : IsMessage allows depth inner (rest.take n) := by
  obtain ⟨p, more, rfl, hp, -⟩ := h.of_run_key hk
  rw [RecordOf, hinner] at hp
  obtain ⟨-, body, hbody, hrecords⟩ := hp
  obtain ⟨rfl, rfl⟩ := hbody.of_run_varint hn
  rwa [List.take_left]

end Grammar

/-! ## Readers that follow the grammar -/

variable {M N α : Type}

/-- A field reads just what is declared, whatever it is read into. -/
def Field.Follows (f : Field M) (depth : Nat) (s : Shape) : Prop :=
  ∀ w a, (f.merge depth w a).Reads fun p => Tolerates s w ∧ s.Payload Tolerates depth p

/-- The fields of a codec are just those that are declared. -/
def Codec.Follows (c : Codec M) (fields : List (Nat × Shape)) : Prop :=
  ∀ depth, List.Forall₂ (fun f x => f.number = x.1 ∧ f.Follows depth x.2) c.fields fields

/-- Single values of a shape. -/
def Scalar.Follows (s : Scalar α) (shape : Shape) : Prop :=
  s.wireType = shape.wireType ∧ shape ≠ .dictionary ∧
    ∀ depth, s.read.Reads (shape.Payload Tolerates depth)

lemma tolerates_iff {s : Shape} {w : WireType} (hs : s ≠ .dictionary) :
    Tolerates s w ↔ w = s.wireType :=
  or_iff_left hs

lemma Scalar.Follows.reads_readAs {s : Scalar α} {shape : Shape} (h : s.Follows shape)
    (depth : Nat) (w : WireType) :
    (s.readAs w).Reads fun p => Tolerates shape w ∧ shape.Payload Tolerates depth p := by
  refine (Scalar.reads_readAs (h.2.2 depth) w).congr fun p => ?_
  rw [tolerates_iff h.2.1, h.1]

lemma Scalar.follows_number {s : Scalar α} (hw : s.wireType = .varint)
    (hs : s.read.Reads fun p => ∃ n, IsNumber p n) : s.Follows .number :=
  ⟨hw, nofun, fun _ => hs.congr fun _ => payload_number_iff.symm⟩

lemma Scalar.follows_text : Scalar.text.Follows .text :=
  ⟨rfl, nofun, fun _ => reads_text.congr fun _ => payload_text_iff.symm⟩

namespace Field

variable {number depth : Nat} {name : String}

lemma follows_scalar [DecidableEq α] {s : Scalar α} {shape : Shape} {get : M → α}
    {set : M → α → M} (hs : s.Follows shape) :
    (Field.scalar number name s get set).Follows depth shape :=
  fun w _ => (hs.reads_readAs depth w).map _

lemma follows_repeated {s : Scalar α} {shape : Shape} {get : M → List α}
    {set : M → List α → M} (hs : s.Follows shape) :
    (Field.repeated number name s get set).Follows depth shape :=
  fun w _ => (hs.reads_readAs depth w).map _

end Field

/-! ### Messages and dictionaries -/

/-- A number is looked for among the fields just as it is among the declared ones. -/
lemma find?_number_cases {fs : List (Field M)} {fields : List (Nat × Shape)} {depth : Nat}
    (h : List.Forall₂ (fun f x => f.number = x.1 ∧ f.Follows depth x.2) fs fields) (n : Nat) :
    fs.find? (·.number = n) = none ∧ fields.lookup n = none ∨
      ∃ f s, fs.find? (·.number = n) = some f ∧ fields.lookup n = some s ∧ f.Follows depth s := by
  induction h with
  | nil => exact .inl ⟨rfl, rfl⟩
  | @cons f x fs fields hf _ ih =>
      obtain ⟨number, s⟩ := x
      obtain ⟨rfl, hs⟩ := hf
      by_cases hn : f.number = n
      · right
        subst hn
        exact ⟨f, s, List.find?_cons_of_pos (by simp), List.lookup_cons_self, hs⟩
      · have hne : (n == f.number) = false := by
          rw [beq_eq_false_iff_ne]
          exact Ne.symm hn
        rw [List.find?_cons_of_neg (by simpa using hn), List.lookup_cons, hne]
        exact ih

/-- A declared field is read as it is declared, and any other record is passed over. -/
lemma Codec.Follows.reads_mergeRecord {c : Codec M} {fields : List (Nat × Shape)}
    (h : c.Follows fields) (depth : Nat) (k : Key) (a : M) :
    (c.mergeRecord depth k a).Reads
      (RecordOf Tolerates (Shape.Payload Tolerates depth) depth fields k) := by
  rw [Codec.mergeRecord]
  rcases find?_number_cases (h depth) k.number with ⟨hfind, hlookup⟩ | ⟨f, s, hfind, hlookup, hf⟩
  · rw [hfind]
    refine ((reads_skip depth k).map fun _ => a).congr fun p => ?_
    rw [RecordOf, hlookup]
  · rw [hfind]
    refine ((hf k.wireType a).within _ _).congr fun p => ?_
    rw [RecordOf, hlookup]

lemma Codec.Follows.reads_mergeAs {n : Codec N} {fields : List (Nat × Shape)}
    (h : n.Follows fields) (depth : Nat) (w : WireType) (a : N) :
    (n.mergeAs depth w a).Reads fun p => Tolerates (.message fields) w ∧
      (Shape.message fields).Payload Tolerates depth p := by
  have hnested : (n.mergeNested depth a).Reads
      fun p => (Shape.message fields).Payload Tolerates depth p := by
    cases depth with
    | zero => exact reads_fail _
    | succ depth => exact reads_delimitedRecords (h.reads_mergeRecord depth) a
  have hshape : Shape.message fields ≠ .dictionary := nofun
  refine (hnested.require _ _).congr fun p => ?_
  rw [decide_eq_true_iff, tolerates_iff hshape]
  rfl

/-- One part of an entry, or any other record in it. -/
lemma reads_entryRecord (depth : Nat) (k : Key) (e : String × String) :
    (Field.entryRecord depth k e).Reads
      (RecordOf Tolerates (Shape.Payload Tolerates depth) depth Shape.entry k) := by
  have htext := Scalar.follows_text.reads_readAs depth k.wireType
  rw [Field.entryRecord]
  split_ifs with hkey hvalue
  · refine (htext.map _).congr fun p => ?_
    rw [RecordOf, hkey]
    rfl
  · refine (htext.map _).congr fun p => ?_
    rw [RecordOf, hvalue]
    rfl
  · refine ((reads_skip depth k).map fun _ => e).congr fun p => ?_
    have hlookup : Shape.entry.lookup k.number = none := by
      rw [List.lookup_eq_none_iff]
      simp [Shape.entry, hkey, hvalue]
    rw [RecordOf, hlookup]

namespace Field

variable {number depth : Nat} {name : String}

lemma follows_message? {n : Codec N} {fields : List (Nat × Shape)} {get : M → Option N}
    {set : M → Option N → M} (hn : n.Follows fields) :
    (Field.message? number name n get set).Follows depth (.message fields) :=
  fun w _ => (hn.reads_mergeAs depth w _).map _

lemma follows_messages {n : Codec N} {fields : List (Nat × Shape)} {get : M → List N}
    {set : M → List N → M} (hn : n.Follows fields) :
    (Field.messages number name n get set).Follows depth (.message fields) :=
  fun w _ => (hn.reads_mergeAs depth w _).map _

/-- The wire type of an entry is not looked at. -/
lemma follows_dictionary {get : M → Dictionary} {set : M → Dictionary → M} :
    (Field.dictionary number name get set).Follows depth .dictionary := by
  intro w a
  have hentry : (readEntry depth).Reads fun p => Shape.dictionary.Payload Tolerates depth p := by
    cases depth with
    | zero => exact reads_fail _
    | succ depth => exact reads_delimitedRecords (reads_entryRecord depth) _
  exact (hentry.map _).congr fun p => (and_iff_right (.inr rfl)).symm

end Field

/-! ## Decoding -/

/-- **What is decoded** is what the grammar allows, to the last octet. -/
theorem Codec.Follows.decode_isOk_iff {c : Codec M} {fields : List (Nat × Shape)}
    (h : c.Follows fields) (bs : Octets) :
    (∃ m, c.decode bs = .ok m) ↔ IsMessage Tolerates nestingLimit fields bs := by
  have hreads := h.reads_mergeRecord nestingLimit
  have hcourse : (∃ m, Course (c.mergeRecord nestingLimit) c.empty bs m)
      ↔ IsMessage Tolerates nestingLimit fields bs :=
    exists_course_iff fun k a ps => (hreads k a).spells
  rw [← hcourse]
  refine exists_congr fun m => ?_
  rw [Codec.decode, Codec.merge, run_records, map_eq_ok_iff]
  constructor
  · rintro ⟨⟨m, rest⟩, hrun, rfl⟩
    exact ((recordsRun_zero_eq_ok_iff fun k a => (hreads k a).isLocal).1 hrun).2
  · intro hm
    exact ⟨_, hm.run, rfl⟩

end StandIn.Wire
