import StandIn.Proofs.Text.Utf8
import StandIn.Proofs.Wire.Number
import StandIn.Wire.Codec

/-!
# Single values

Numbers of every kind are numbers in base 128 on the wire, and text is UTF-8 with its length in
front.

* `Scalar.IsFaithful` — what is written for a value is read as that value, and has the size that the
  formula says.
* `Scalar.spells_readAs_iff` — a value is read only from a record of its own wire type.
-/

namespace StandIn.Wire.Scalar

open Reader

variable {α : Type}

/-- What is written for a value is read as this value, and the formula for its size is right. -/
structure IsFaithful (s : Scalar α) : Prop where
  read : ∀ {x}, (s.write x).length < 2 ^ 64 → s.read.Spells (s.write x) x
  size : ∀ {x}, (s.write x).length < 2 ^ 64 → s.size x = (s.write x).length

/-! ## Numbers -/

/-- A value that is written as a number of 64 bits from which it can be told. -/
lemma isFaithful_of_varint {s : Scalar α} {f : Nat → α} {g : α → Nat}
    (hread : s.read = varint >>= fun n => (Pure.pure (f n) : Reader α))
    (hwrite : s.write = fun x => varintOctets (g x)) (hsize : s.size = fun x => varintSize (g x))
    (hg : ∀ x, g x < 2 ^ 64) (hfg : ∀ x, f (g x) = x) : s.IsFaithful where
  read {x} _ := by
    rw [hread, hwrite, spells_map_iff isLocal_varint]
    exact ⟨g x, spells_varint_iff.2 (isNumber_varintOctets (hg x)), (hfg x).symm⟩
  size {x} _ := by
    rw [hwrite, hsize]
    exact (length_varintOctets (hg x)).symm

/-- Of a signed number of 32 bits that is extended to 64 bits, the lower 32 bits are the number. -/
lemma toInt32_toInt64 (x : Int32) : x.toInt64.toUInt64.toNat.toUInt32.toInt32 = x := by
  apply Int32.toBitVec_inj.1
  change BitVec.ofNat 32 (x.toBitVec.signExtend 64).toNat = x.toBitVec
  rw [BitVec.ofNat_toNat]
  ext i hi
  rw [BitVec.getElem_setWidth, BitVec.getLsbD_signExtend, if_pos hi,
    decide_eq_true (show i < 64 by omega), Bool.true_and, BitVec.getLsbD_eq_getElem]

lemma isFaithful_int32 : int32.IsFaithful :=
  isFaithful_of_varint rfl rfl rfl (fun x => x.toInt64.toUInt64.toNat_lt) toInt32_toInt64

lemma isFaithful_uint32 : uint32.IsFaithful :=
  isFaithful_of_varint rfl rfl rfl (fun x => x.toNat_lt.trans (by decide)) fun x => by simp

lemma isFaithful_int64 : int64.IsFaithful :=
  isFaithful_of_varint rfl rfl rfl (fun x => x.toUInt64.toNat_lt) fun x => by simp

lemma isFaithful_bool : bool.IsFaithful where
  read {x} _ := by
    refine (spells_map_iff isLocal_varint).2 ⟨x.toNat, spells_varint_iff.2 ?_, ?_⟩
    · cases x with
      | false => exact ⟨.last (by decide), by decide, by decide⟩
      | true => exact ⟨.last (by decide), by decide, by decide⟩
    · cases x <;> rfl
  size _ := rfl

/-! Every number makes a value, of whatever kind. -/

lemma reads_int32 : int32.read.Reads fun p => ∃ n, IsNumber p n := reads_varint.map _

lemma reads_uint32 : uint32.read.Reads fun p => ∃ n, IsNumber p n := reads_varint.map _

lemma reads_int64 : int64.read.Reads fun p => ∃ n, IsNumber p n := reads_varint.map _

lemma reads_bool : bool.read.Reads fun p => ∃ n, IsNumber p n := reads_varint.map _

/-! ## Text -/

/-- What text is read from, once its octets have been taken. -/
lemma spells_decode_iff {octets p : Octets} {s : String} :
    (match Utf8.decode? octets with
      | some s => (Pure.pure s : Reader String)
      | none => Reader.fail .notUtf8).Spells p s ↔ p = [] ∧ octets = Utf8.encode s := by
  rw [← Utf8.decode?_eq_some_iff]
  cases Utf8.decode? octets with
  | none => simp [not_spells_fail]
  | some s' =>
      rw [spells_pure_iff, Option.some_inj]
      exact and_congr_right fun _ => eq_comm

lemma isLocal_decode (octets : Octets) :
    (match Utf8.decode? octets with
      | some s => (Pure.pure s : Reader String)
      | none => Reader.fail .notUtf8).IsLocal := by
  split
  · exact isLocal_pure _
  · exact isLocal_fail _

/-- **Text** is read from the octets of just this text, with their length in front. -/
theorem spells_text_iff {p : Octets} {s : String} :
    text.read.Spells p s ↔ Delimited (Utf8.encode s) p := by
  refine (spells_bind_iff isLocal_varint).trans ?_
  simp only [spells_varint_iff, spells_bind_iff (isLocal_take _), spells_take_iff]
  constructor
  · rintro ⟨q, _, n, rfl, hq, _, _, body, rfl, ⟨rfl, rfl⟩, hdecode⟩
    obtain ⟨rfl, rfl⟩ := spells_decode_iff.1 hdecode
    rw [List.append_nil]
    exact ⟨q, rfl, hq⟩
  · rintro ⟨q, rfl, hq⟩
    exact ⟨q, _, _, rfl, hq, _, [], _, (List.append_nil _).symm, ⟨rfl, rfl⟩,
      spells_decode_iff.2 ⟨rfl, rfl⟩⟩

lemma reads_text : text.read.Reads fun p => ∃ s, Delimited (Utf8.encode s) p where
  isLocal := isLocal_varint.bind fun n => (isLocal_take n).bind isLocal_decode
  spells := exists_congr fun _ => spells_text_iff

lemma length_encode_lt {s : String} (h : (text.write s).length < 2 ^ 64) :
    (Utf8.encode s).length < 2 ^ 64 := by
  refine Nat.lt_of_le_of_lt ?_ h
  simp only [text, delimitedOctets, List.length_append]
  omega

lemma isFaithful_text : text.IsFaithful where
  read {s} h := spells_text_iff.2 (delimited_delimitedOctets (length_encode_lt h))
  size {s} h := by
    have hlength := length_encode_lt h
    exact (congrArg delimitedSize (Utf8.length_encode s)).symm.trans
      (length_delimitedOctets hlength).symm

/-! ## Values in records -/

/-- **A value is read only from a record of its own wire type.** -/
theorem spells_readAs_iff {s : Scalar α} {w : WireType} {p : Octets} {x : α} :
    (s.readAs w).Spells p x ↔ w = s.wireType ∧ s.read.Spells p x := by
  rw [readAs, spells_require_bind_iff, decide_eq_true_eq]

lemma reads_readAs {s : Scalar α} {P : Octets → Prop} (hs : s.read.Reads P) (w : WireType) :
    (s.readAs w).Reads fun p => w = s.wireType ∧ P p :=
  (hs.require _ _).congr fun _ => and_congr_left' decide_eq_true_iff

end StandIn.Wire.Scalar
