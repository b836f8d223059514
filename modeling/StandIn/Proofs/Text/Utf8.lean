import Mathlib.Data.List.Basic
import Mathlib.Tactic.Convert
import Mathlib.Tactic.Lemma
import Mathlib.Tactic.SplitIfs
import StandIn.Text.Utf8

/-!
# UTF-8 as it is written and read

The reading goes octet by octet, the writing starts from the number of a character.  Between them
stands the table of well-formed sequences: four lengths, each with the ranges that its octets have.

* `Utf8.WellFormed` — the table, and the number of the character that a row stands for.
* `Utf8.next_of_wellFormed`, `Utf8.wellFormed_of_next` — what is read as a character is in the table.
* `Utf8.wellFormed_encodeChar`, `Utf8.WellFormed.eq_encodeChar` — what is written is in the table,
  and there is only one way to write a character.
* `Utf8.decode?_eq_some_iff` — octets are read as a text exactly if they are what is written for it.
* `Utf8.exists_eq_encode` — octets without the top bit are a text.
-/

namespace StandIn.Utf8

/-- A text has as many octets as its size says. -/
lemma length_encode (s : String) : (encode s).length = s.utf8ByteSize := by
  rw [encode, ← String.size_toByteArray, ← String.utf8Encode_toList]
  simp [List.utf8Encode]

/-! ## Ranges of octets -/

lemma width?_eq (b : UInt8) : width? b =
    if b.toNat < 0x80 then some 1
    else if 0xC2 ≤ b.toNat ∧ b.toNat < 0xE0 then some 2
    else if 0xE0 ≤ b.toNat ∧ b.toNat < 0xF0 then some 3
    else if 0xF0 ≤ b.toNat ∧ b.toNat < 0xF5 then some 4
    else none := by
  simp only [width?, UInt8.lt_iff_toNat_lt, UInt8.le_iff_toNat_le, Bool.and_eq_true,
    decide_eq_true_eq, UInt8.reduceToNat]
  grind

lemma isContinuation_iff {b : UInt8} :
    isContinuation b = true ↔ 0x80 ≤ b.toNat ∧ b.toNat < 0xC0 := by
  simp only [isContinuation, UInt8.le_iff_toNat_le, Bool.and_eq_true, decide_eq_true_eq,
    UInt8.reduceToNat]
  omega

lemma isSecond_iff {lead b : UInt8} : isSecond lead b = true ↔
    0x80 ≤ b.toNat ∧ b.toNat < 0xC0 ∧
      (lead.toNat = 0xE0 → 0xA0 ≤ b.toNat) ∧ (lead.toNat = 0xED → b.toNat < 0xA0) ∧
      (lead.toNat = 0xF0 → 0x90 ≤ b.toNat) ∧ (lead.toNat = 0xF4 → b.toNat < 0x90) := by
  simp only [isSecond, isContinuation, ← UInt8.toNat_inj]
  split_ifs <;> simp_all [UInt8.le_iff_toNat_le] <;> omega

/-! ## Well-formed sequences -/

/-- The well-formed sequences of octets for one character, with the number of the character. -/
inductive WellFormed : Octets → Nat → Prop
  | one {b : UInt8} (hb : b.toNat < 0x80) : WellFormed [b] b.toNat
  | two {b c : UInt8} (hb : 0xC2 ≤ b.toNat ∧ b.toNat < 0xE0) (hc : isSecond b c = true) :
      WellFormed [b, c] (b.toNat % 32 * 64 + payload c)
  | three {b c d : UInt8} (hb : 0xE0 ≤ b.toNat ∧ b.toNat < 0xF0) (hc : isSecond b c = true)
      (hd : isContinuation d = true) :
      WellFormed [b, c, d] (b.toNat % 16 * 4096 + payload c * 64 + payload d)
  | four {b c d e : UInt8} (hb : 0xF0 ≤ b.toNat ∧ b.toNat < 0xF5) (hc : isSecond b c = true)
      (hd : isContinuation d = true) (he : isContinuation e = true) :
      WellFormed [b, c, d, e]
        (b.toNat % 8 * 262144 + payload c * 4096 + payload d * 64 + payload e)

/-- The first octet of a well-formed sequence tells its length. -/
lemma WellFormed.width {b : UInt8} {bs : Octets} {n : Nat} (h : WellFormed (b :: bs) n) :
    width? b = some (bs.length + 1) := by
  rw [width?_eq]
  cases h with
  | one hb => exact if_pos hb
  | two hb => rw [if_neg (by omega), if_pos hb, List.length_singleton]
  | three hb => rw [if_neg (by omega), if_neg (by omega), if_pos hb, List.length_cons,
      List.length_singleton]
  | four hb => rw [if_neg (by omega), if_neg (by omega), if_neg (by omega), if_pos hb,
      List.length_cons, List.length_cons, List.length_singleton]

/-- A well-formed sequence is read as its character, whatever follows it. -/
lemma next_of_wellFormed {b : UInt8} {bs : Octets} {n : Nat} (h : WellFormed (b :: bs) n)
    (rest : Octets) : next b (bs ++ rest) = (.char (Char.ofNat n), rest) := by
  have hw := h.width
  cases h with
  | one hb => simp only [next, hw, List.length_nil, List.nil_append]
  | two hb hc => simp [next, hw, hc]
  | three hb hc hd => simp [next, hw, hc, hd]
  | four hb hc hd he => simp [next, hw, hc, hd, he]

/-- Nothing else is read as a character. -/
lemma wellFormed_of_next {b : UInt8} {bs rest : Octets} {c : Char}
    (h : next b bs = (.char c, rest)) :
    ∃ n p, WellFormed p n ∧ c = Char.ofNat n ∧ b :: bs = p ++ rest := by
  have hw := width?_eq b
  split_ifs at hw with h1 h2 h3 h4
  · simp only [next, hw] at h
    cases h
    exact ⟨_, _, .one h1, rfl, rfl⟩
  · simp only [next, hw] at h
    repeat' split at h
    all_goals cases h
    exact ⟨_, _, .two h2 ‹_›, rfl, rfl⟩
  · simp only [next, hw] at h
    repeat' split at h
    all_goals cases h
    exact ⟨_, _, .three h3 ‹_› ‹_›, rfl, rfl⟩
  · simp only [next, hw] at h
    repeat' split at h
    all_goals cases h
    exact ⟨_, _, .four h4 ‹_› ‹_› ‹_›, rfl, rfl⟩
  · simp only [next, hw] at h
    cases h

/-- The ranges of the second octet leave out surrogates and numbers that are too large. -/
lemma WellFormed.isValidChar {p : Octets} {n : Nat} (h : WellFormed p n) : n.isValidChar := by
  rw [Nat.isValidChar]
  cases h with
  | one hb => omega
  | two hb hc | three hb hc | four hb hc =>
      rw [isSecond_iff] at hc
      simp only [payload]
      omega

lemma toNat_ofNat {n : Nat} (h : n.isValidChar) : (Char.ofNat n).val.toNat = n := by
  rw [Char.ofNat, dif_pos h]
  rfl

/-- The ranges of the first two octets leave out numbers that fewer octets could hold, so a sequence
is the one that is written for its character. -/
lemma WellFormed.eq_encodeChar {p : Octets} {n : Nat} (h : WellFormed p n) :
    p = String.utf8EncodeChar (Char.ofNat n) := by
  unfold String.utf8EncodeChar
  dsimp only
  rw [toNat_ofNat h.isValidChar]
  cases h with
  | one hb => rw [if_pos (by omega), UInt8.ofNat_toNat]
  | @two b c hb hc =>
      rw [isSecond_iff] at hc
      have hpc : payload c = c.toNat % 64 := rfl
      rw [if_neg (by omega), if_pos (by omega)]
      simp only [List.cons.injEq, ← UInt8.toNat_inj, UInt8.toNat_ofNat', and_true]
      omega
  | @three b c d hb hc hd =>
      rw [isSecond_iff] at hc
      rw [isContinuation_iff] at hd
      have hpc : payload c = c.toNat % 64 := rfl
      have hpd : payload d = d.toNat % 64 := rfl
      rw [if_neg (by omega), if_neg (by omega), if_pos (by omega)]
      simp only [List.cons.injEq, ← UInt8.toNat_inj, UInt8.toNat_ofNat', and_true]
      omega
  | @four b c d e hb hc hd he =>
      rw [isSecond_iff] at hc
      rw [isContinuation_iff] at hd he
      have hpc : payload c = c.toNat % 64 := rfl
      have hpd : payload d = d.toNat % 64 := rfl
      have hpe : payload e = e.toNat % 64 := rfl
      rw [if_neg (by omega), if_neg (by omega), if_neg (by omega)]
      simp only [List.cons.injEq, ← UInt8.toNat_inj, UInt8.toNat_ofNat', and_true]
      omega

/-- What is written for a character is well-formed. -/
lemma wellFormed_encodeChar (c : Char) : WellFormed (String.utf8EncodeChar c) c.toNat := by
  have hvalid := c.valid
  rw [UInt32.isValidChar, Nat.isValidChar] at hvalid
  unfold String.utf8EncodeChar
  rw [Char.toNat]
  generalize c.val.toNat = n at *
  dsimp only
  split_ifs with h1 h2 h3
  · convert WellFormed.one (b := UInt8.ofNat n) (by simp; omega) using 1
    rw [UInt8.toNat_ofNat']
    omega
  · convert WellFormed.two (b := UInt8.ofNat (n / 64 % 32 + 192)) (c := UInt8.ofNat (n % 64 + 128))
      (by simp; omega) (isSecond_iff.2 (by simp; omega)) using 1
    simp only [payload, UInt8.toNat_ofNat']
    omega
  · convert WellFormed.three (b := UInt8.ofNat (n / 4096 % 16 + 224))
      (c := UInt8.ofNat (n / 64 % 64 + 128)) (d := UInt8.ofNat (n % 64 + 128))
      (by simp; omega) (isSecond_iff.2 (by simp; omega))
      (isContinuation_iff.2 (by simp; omega)) using 1
    simp only [payload, UInt8.toNat_ofNat']
    omega
  · convert WellFormed.four (b := UInt8.ofNat (n / 262144 % 8 + 240))
      (c := UInt8.ofNat (n / 4096 % 64 + 128)) (d := UInt8.ofNat (n / 64 % 64 + 128))
      (e := UInt8.ofNat (n % 64 + 128)) (by simp; omega) (isSecond_iff.2 (by simp; omega))
      (isContinuation_iff.2 (by simp; omega)) (isContinuation_iff.2 (by simp; omega)) using 1
    simp only [payload, UInt8.toNat_ofNat']
    omega

/-- Characters from `n` on have octets from `n` on: those of longer sequences all have the top
bit. -/
lemma le_of_mem_encodeChar {c : Char} {n : Nat} (hn : n ≤ 0x80) (h : n ≤ c.toNat) :
    ∀ b ∈ String.utf8EncodeChar c, n ≤ b.toNat := by
  intro b hb
  have hc := wellFormed_encodeChar c
  generalize String.utf8EncodeChar c = p at hb hc
  generalize c.toNat = m at h hc
  cases hc with
  | one => rwa [List.mem_singleton.1 hb]
  | two hb' hc | three hb' hc | four hb' hc =>
      simp only [isSecond_iff, isContinuation_iff] at *
      simp only [List.mem_cons, List.not_mem_nil, or_false] at hb
      rcases hb with rfl | rfl | rfl | rfl <;> omega

lemma le_of_mem_encode {s : String} {n : Nat} (hn : n ≤ 0x80) (h : ∀ c ∈ s.toList, n ≤ c.toNat) :
    ∀ b ∈ encode s, n ≤ b.toNat := by
  intro b hb
  obtain ⟨c, hc, hb⟩ := List.mem_flatMap.1 hb
  exact le_of_mem_encodeChar hn (h c hc) b hb

/-- A character that fits one octet has no octet with the top bit. -/
lemma lt_of_mem_encodeChar {c : Char} (h : c.toNat < 0x80) :
    ∀ b ∈ String.utf8EncodeChar c, b.toNat < 0x80 := by
  intro b hb
  have hc := wellFormed_encodeChar c
  generalize String.utf8EncodeChar c = p at hb hc
  generalize c.toNat = m at h hc
  cases hc with
  | one => rwa [List.mem_singleton.1 hb]
  | two hb' hc | three hb' hc | four hb' hc =>
      rw [isSecond_iff] at hc
      simp only [payload] at h
      omega

/-! ## The division into pieces -/

/-- What a fold collects is put in front of what there was. -/
lemma foldPieces_cons_eq_append (acc : List Piece) (bs : Octets) :
    foldPieces (fun acc p => p :: acc) acc bs
      = foldPieces (fun acc p => p :: acc) [] bs ++ acc := by
  induction h : bs.length using Nat.strongRecOn generalizing acc bs with
  | ind n ih =>
      cases bs with
      | nil => simp [foldPieces]
      | cons b bs =>
          have hlt : (next b bs).2.length < n := by
            rw [← h, List.length_cons]
            exact Nat.lt_succ_of_le (length_next_le b bs)
          rw [foldPieces, foldPieces, ih _ hlt _ _ rfl, ih _ hlt [_] _ rfl]
          simp

lemma pieces_nil : pieces [] = [] := by
  rw [pieces, foldPieces, List.reverse_nil]

lemma pieces_cons (b : UInt8) (bs : Octets) :
    pieces (b :: bs) = (next b bs).1 :: pieces (next b bs).2 := by
  rw [pieces, foldPieces, foldPieces_cons_eq_append, pieces]
  simp

/-- **A fold over the octets is a fold over their pieces.** -/
theorem foldPieces_eq {σ : Type} (f : σ → Piece → σ) (s : σ) (bs : Octets) :
    foldPieces f s bs = (pieces bs).foldl f s := by
  fun_induction foldPieces f s bs with
  | case1 s => rw [pieces_nil, List.foldl_nil]
  | case2 s b bs ih => rw [pieces_cons, List.foldl_cons, ih]

/-- What is written for a text is divided into its characters. -/
lemma pieces_flatMap_encodeChar (cs : List Char) :
    pieces (cs.flatMap String.utf8EncodeChar) = cs.map .char := by
  induction cs with
  | nil => exact pieces_nil
  | cons c cs ih =>
      have hc := wellFormed_encodeChar c
      rw [List.flatMap_cons]
      cases hp : String.utf8EncodeChar c with
      | nil =>
          rw [hp] at hc
          cases hc
      | cons b bs =>
          rw [hp] at hc
          rw [List.cons_append, pieces_cons, next_of_wellFormed hc, ih, Char.ofNat_toNat,
            List.map_cons]

/-- Octets that are divided into characters are what is written for these. -/
lemma eq_flatMap_encodeChar_of_pieces {bs : Octets} {cs : List Char}
    (h : pieces bs = cs.map .char) : bs = cs.flatMap String.utf8EncodeChar := by
  induction cs generalizing bs with
  | nil =>
      cases bs with
      | nil => rfl
      | cons b bs => simp [pieces_cons] at h
  | cons c cs ih =>
      cases bs with
      | nil => simp [pieces_nil] at h
      | cons b bs =>
          rw [pieces_cons, List.map_cons, List.cons.injEq] at h
          obtain ⟨n, p, hp, rfl, hbs⟩ := wellFormed_of_next (Prod.ext h.1 rfl)
          rw [hbs, hp.eq_encodeChar, List.flatMap_cons, ← ih h.2]

/-! ## Texts -/

/-- A text with one more piece, as long as all pieces were characters. -/
def push? : Option String → Piece → Option String
  | some s, .char c => some (s.push c)
  | _, _ => none

lemma decode?_eq_foldl (bs : Octets) : decode? bs = (pieces bs).foldl push? (some "") := by
  rw [← foldPieces_eq]
  rfl

lemma foldl_push?_none (ps : List Piece) : ps.foldl push? none = none := by
  induction ps with
  | nil => rfl
  | cons p ps ih => exact ih

/-- The pieces make a text exactly if all of them are characters. -/
lemma foldl_push?_eq_some_iff {ps : List Piece} {s t : String} :
    ps.foldl push? (some s) = some t ↔ ∃ cs, ps = cs.map .char ∧ t.toList = s.toList ++ cs := by
  induction ps generalizing s with
  | nil =>
      rw [List.foldl_nil]
      constructor
      · rintro ⟨⟩
        exact ⟨[], rfl, (List.append_nil _).symm⟩
      · rintro ⟨cs, hcs, ht⟩
        rw [List.nil_eq, List.map_eq_nil_iff] at hcs
        rw [hcs, List.append_nil] at ht
        rw [String.toList_inj.1 ht]
  | cons p ps ih =>
      cases p with
      | char c =>
          rw [List.foldl_cons, push?, ih]
          constructor
          · rintro ⟨cs, rfl, ht⟩
            exact ⟨c :: cs, rfl, by rw [ht, String.toList_push, List.append_assoc]; rfl⟩
          · rintro ⟨cs, hcs, ht⟩
            cases cs with
            | nil => cases hcs
            | cons d cs =>
                cases hcs
                exact ⟨cs, rfl, by rw [ht, String.toList_push, List.append_assoc]; rfl⟩
      | illFormed octets =>
          have hnone : push? (some s) (.illFormed octets) = none := rfl
          rw [List.foldl_cons, hnone, foldl_push?_none]
          constructor
          · rintro ⟨⟩
          · rintro ⟨cs, hcs, -⟩
            cases cs <;> cases hcs

/-- **Octets are read as a text exactly if they are what is written for it.** -/
theorem decode?_eq_some_iff {bs : Octets} {s : String} : decode? bs = some s ↔ bs = encode s := by
  rw [decode?_eq_foldl, foldl_push?_eq_some_iff, encode]
  constructor
  · rintro ⟨cs, hcs, hs⟩
    rw [hs]
    exact eq_flatMap_encodeChar_of_pieces hcs
  · rintro rfl
    exact ⟨s.toList, pieces_flatMap_encodeChar _, rfl⟩

lemma encode_injective {s t : String} (h : encode s = encode t) : s = t := by
  have hs : decode? (encode t) = some s := decode?_eq_some_iff.2 h.symm
  rw [decode?_eq_some_iff.2 rfl] at hs
  exact (Option.some.inj hs).symm

lemma encode_ofList (cs : List Char) :
    encode (String.ofList cs) = cs.flatMap String.utf8EncodeChar := by
  rw [encode, String.toList_ofList]

/-- Octets without the top bit are always a text. -/
lemma exists_eq_encode {bs : Octets} (h : ∀ b ∈ bs, b.toNat < 0x80) : ∃ s, bs = encode s := by
  refine ⟨String.ofList (bs.map fun b => Char.ofNat b.toNat), ?_⟩
  rw [encode_ofList, List.flatMap_map]
  induction bs with
  | nil => rfl
  | cons b bs ih =>
      have hb : [b] = String.utf8EncodeChar (Char.ofNat b.toNat) :=
        (WellFormed.one (h b List.mem_cons_self)).eq_encodeChar
      rw [List.flatMap_cons, ← hb, ← ih fun c hc => h c (List.mem_cons_of_mem b hc)]
      rfl

end StandIn.Utf8
