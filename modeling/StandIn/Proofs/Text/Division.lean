import StandIn.Proofs.Text.Utf8

/-!
# The division of octets into characters

Octets that are only looked at are shown as well as can be.  Where a character is written, it is
shown, and where none is, one mark stands for as many octets as may have been meant for a character.
This is told here without reading the octets, and there is just one way to divide them so.

* `Utf8.IsSubpart` — the front of what is written for some character, or else a single octet.
* `Utf8.IsFirst` — the piece that octets begin with.
* `Utf8.Divides` — a division of octets into pieces.
* `Utf8.divides_iff` — the division that is read is one, and there is no other.
* `Utf8.lossy_eq` — a text in which each piece of the division is shown as one character.
-/

namespace StandIn.Utf8

/-- The octets of a piece. -/
def Piece.octets : Piece → Octets
  | char c => String.utf8EncodeChar c
  | illFormed octets => octets

/-- The octets are the front of what is written for some character. -/
def IsStart (p : Octets) : Prop :=
  ∃ c, p <+: String.utf8EncodeChar c

/-- The octets are the front of what is written for some character, or else a single octet. -/
def IsSubpart (p : Octets) : Prop :=
  p ≠ [] ∧ IsStart p ∨ p.length = 1

/-- The piece that octets begin with.  It is the character that is written there, and if there is
none, then the longest ill-formed subpart. -/
inductive IsFirst (bs : Octets) : Piece → Prop
  | char {c : Char} (h : String.utf8EncodeChar c <+: bs) : IsFirst bs (.char c)
  | illFormed {p : Octets} (hnone : ∀ c, ¬String.utf8EncodeChar c <+: bs) (h : p <+: bs)
      (hp : IsSubpart p) (hmax : ∀ q, q <+: bs → IsSubpart q → q.length ≤ p.length) :
      IsFirst bs (.illFormed p)

/-- A division of octets into pieces, each of which is the first one of what is left. -/
inductive Divides : List Piece → Octets → Prop
  | nil : Divides [] []
  | cons {p : Piece} {ps : List Piece} {rest : Octets} (hp : IsFirst (p.octets ++ rest) p)
      (hrest : Divides ps rest) : Divides (p :: ps) (p.octets ++ rest)

/-! ## Fronts of characters -/

section Fronts

variable {b c d e : UInt8} {p : Octets}

lemma isStart_iff : IsStart p ↔ ∃ q n, WellFormed (p ++ q) n := by
  constructor
  · rintro ⟨c, q, hq⟩
    exact ⟨q, c.toNat, hq ▸ wellFormed_encodeChar c⟩
  · rintro ⟨q, n, h⟩
    exact ⟨Char.ofNat n, q, h.eq_encodeChar⟩

lemma IsStart.width (h : IsStart (b :: p)) : ∃ w, width? b = some w := by
  obtain ⟨q, n, h⟩ := isStart_iff.1 h
  exact ⟨_, h.width⟩

lemma IsStart.isSecond (h : IsStart [b, c]) : isSecond b c = true := by
  obtain ⟨q, n, h⟩ := isStart_iff.1 h
  cases h <;> assumption

lemma IsStart.isContinuation_third (h : IsStart [b, c, d]) : isContinuation d = true := by
  obtain ⟨q, n, h⟩ := isStart_iff.1 h
  cases h <;> assumption

lemma IsStart.isContinuation_fourth (h : IsStart [b, c, d, e]) : isContinuation e = true := by
  obtain ⟨q, n, h⟩ := isStart_iff.1 h
  cases h
  assumption

/-- Where one more octet may stand, the lowest one that continues a character may. -/
lemma isContinuation_lowest : isContinuation 0x80 = true := rfl

lemma isSubpart_one : IsSubpart [b] :=
  .inr rfl

lemma isSubpart_two (hb : 0xE0 ≤ b.toNat ∧ b.toNat < 0xF5) (hc : isSecond b c = true) :
    IsSubpart [b, c] := by
  refine .inl ⟨List.cons_ne_nil _ _, isStart_iff.2 ?_⟩
  rcases Nat.lt_or_ge b.toNat 0xF0 with hlt | hge
  · exact ⟨[0x80], _, .three ⟨hb.1, hlt⟩ hc isContinuation_lowest⟩
  · exact ⟨[0x80, 0x80], _, .four ⟨hge, hb.2⟩ hc isContinuation_lowest isContinuation_lowest⟩

lemma isSubpart_three (hb : 0xF0 ≤ b.toNat ∧ b.toNat < 0xF5) (hc : isSecond b c = true)
    (hd : isContinuation d = true) : IsSubpart [b, c, d] :=
  .inl ⟨List.cons_ne_nil _ _, isStart_iff.2 ⟨[0x80], _, .four hb hc hd isContinuation_lowest⟩⟩

end Fronts

/-! ## What is read as ill-formed -/

/-- A subpart that does not go on. -/
inductive Ends (p : Octets) : Octets → Prop
  | nil (hp : IsSubpart p) : Ends p []
  | cons {b : UInt8} (rest : Octets) (hp : IsSubpart p) (h : ¬IsStart (p ++ [b])) :
      Ends p (b :: rest)

lemma IsSubpart.length_pos {p : Octets} (h : IsSubpart p) : 0 < p.length := by
  rcases h with ⟨hne, -⟩ | hone
  · exact List.length_pos_iff.2 hne
  · omega

lemma Ends.isSubpart {p rest : Octets} (h : Ends p rest) : IsSubpart p := by
  cases h <;> assumption

/-- Octets that are read as ill-formed are a subpart, and it does not go on. -/
lemma illFormed_of_next {b : UInt8} {bs rest p : Octets} (h : next b bs = (.illFormed p, rest)) :
    b :: bs = p ++ rest ∧ Ends p rest := by
  have hw := width?_eq b
  split_ifs at hw with h1 h2 h3 h4
  · simp only [next, hw] at h
    cases h
  · simp only [next, hw] at h
    repeat' split at h
    all_goals cases h
    · exact ⟨rfl, .cons _ isSubpart_one (mt IsStart.isSecond ‹_›)⟩
    · exact ⟨rfl, .nil isSubpart_one⟩
  -- from here on the cases are those of what is missing, the last octet first
  · have hlead : 0xE0 ≤ b.toNat ∧ b.toNat < 0xF5 := ⟨h3.1, by omega⟩
    simp only [next, hw] at h
    repeat' split at h
    all_goals cases h
    · exact ⟨rfl, .cons _ (isSubpart_two hlead ‹_›) (mt IsStart.isContinuation_third ‹_›)⟩
    · exact ⟨rfl, .nil (isSubpart_two hlead ‹_›)⟩
    · exact ⟨rfl, .cons _ isSubpart_one (mt IsStart.isSecond ‹_›)⟩
    · exact ⟨rfl, .nil isSubpart_one⟩
  · have hlead : 0xE0 ≤ b.toNat ∧ b.toNat < 0xF5 := ⟨by omega, h4.2⟩
    simp only [next, hw] at h
    repeat' split at h
    all_goals cases h
    · exact ⟨rfl, .cons _ (isSubpart_three h4 ‹_› ‹_›) (mt IsStart.isContinuation_fourth ‹_›)⟩
    · exact ⟨rfl, .nil (isSubpart_three h4 ‹_› ‹_›)⟩
    · exact ⟨rfl, .cons _ (isSubpart_two hlead ‹_›) (mt IsStart.isContinuation_third ‹_›)⟩
    · exact ⟨rfl, .nil (isSubpart_two hlead ‹_›)⟩
    · exact ⟨rfl, .cons _ isSubpart_one (mt IsStart.isSecond ‹_›)⟩
    · exact ⟨rfl, .nil isSubpart_one⟩
  · simp only [next, hw] at h
    cases h
    refine ⟨rfl, ?_⟩
    cases bs with
    | nil => exact .nil isSubpart_one
    | cons c bs =>
        refine .cons _ isSubpart_one fun hstart => ?_
        obtain ⟨w, hsome⟩ := hstart.width
        cases hw.symm.trans hsome

/-- A subpart that does not go on is the longest one. -/
lemma Ends.length_le {p rest q : Octets} (h : Ends p rest) (hq : q <+: p ++ rest)
    (hsub : IsSubpart q) : q.length ≤ p.length := by
  have hpos := h.isSubpart.length_pos
  rcases hsub with ⟨-, c, hc⟩ | hone
  · cases h with
    | nil => simpa using hq.length_le
    | @cons b rest hp hnot =>
        -- a longer one would go on with the octet with which the subpart does not
        by_contra hlong
        have hfront : p ++ [b] <+: p ++ b :: rest := ⟨rest, List.append_assoc ..⟩
        have hlength : (p ++ [b]).length ≤ q.length := by
          rw [List.length_append, List.length_singleton]
          omega
        exact hnot ⟨c, (List.prefix_of_prefix_length_le hfront hq hlength).trans hc⟩
  · omega

/-! ## The pieces -/

lemma encodeChar_ne_nil (c : Char) : String.utf8EncodeChar c ≠ [] := by
  intro hnil
  have hc := wellFormed_encodeChar c
  rw [hnil] at hc
  cases hc

/-- A character that is written is read. -/
lemma next_of_isPrefix {b : UInt8} {bs : Octets} {c : Char}
    (h : String.utf8EncodeChar c <+: b :: bs) : (next b bs).1 = .char c := by
  obtain ⟨rest, hrest⟩ := h
  have hc := wellFormed_encodeChar c
  generalize String.utf8EncodeChar c = p at hrest hc
  cases p with
  | nil => cases hc
  | cons b' bs' =>
      rw [List.cons_append] at hrest
      obtain ⟨rfl, rfl⟩ := List.cons_eq_cons.1 hrest
      rw [next_of_wellFormed hc, Char.ofNat_toNat]

/-- What is read first is the first piece. -/
lemma isFirst_next (b : UInt8) (bs : Octets) :
    b :: bs = (next b bs).1.octets ++ (next b bs).2 ∧ IsFirst (b :: bs) (next b bs).1 := by
  rcases hnext : next b bs with ⟨c | p, rest⟩
  · obtain ⟨n, p, hp, rfl, heq⟩ := wellFormed_of_next hnext
    rw [hp.eq_encodeChar] at heq
    exact ⟨heq, .char ⟨rest, heq.symm⟩⟩
  · obtain ⟨heq, hends⟩ := illFormed_of_next hnext
    refine ⟨heq, .illFormed (fun c hc => ?_) ⟨rest, heq.symm⟩ hends.isSubpart fun q hq => ?_⟩
    · have hchar := next_of_isPrefix hc
      rw [hnext] at hchar
      cases hchar
    · exact hends.length_le (heq ▸ hq)

lemma IsFirst.ne_nil {bs : Octets} {p : Piece} (h : IsFirst bs p) : bs ≠ [] := by
  rintro rfl
  cases h with
  | char hc => exact encodeChar_ne_nil _ (List.prefix_nil.1 hc)
  | illFormed _ hp hsub =>
      obtain rfl := List.prefix_nil.1 hp
      exact absurd hsub.length_pos (Nat.lt_irrefl 0)

/-- There is only one first piece. -/
lemma IsFirst.eq_next {b : UInt8} {bs : Octets} {p : Piece} (h : IsFirst (b :: bs) p) :
    p = (next b bs).1 := by
  cases h with
  | char hc => exact (next_of_isPrefix hc).symm
  | @illFormed p hnone hp hsub hmax =>
      have hfirst := (isFirst_next b bs).2
      generalize (next b bs).1 = piece at hfirst
      cases hfirst with
      | char hc => exact absurd hc (hnone _)
      | @illFormed q _ hq hsub' hmax' =>
          have hlength : p.length = q.length :=
            Nat.le_antisymm (hmax' p hp hsub) (hmax q hq hsub')
          have hpq : p <+: q := List.prefix_of_prefix_length_le hp hq (Nat.le_of_eq hlength)
          rw [hpq.eq_of_length hlength]

/-! ## The division -/

lemma divides_pieces (bs : Octets) : Divides (pieces bs) bs := by
  induction hn : bs.length using Nat.strongRecOn generalizing bs with
  | ind n ih =>
      cases bs with
      | nil =>
          rw [pieces_nil]
          exact .nil
      | cons b bs =>
          obtain ⟨heq, hfirst⟩ := isFirst_next b bs
          have hlt : (next b bs).2.length < n := by
            rw [← hn, List.length_cons]
            exact Nat.lt_succ_of_le (length_next_le b bs)
          rw [heq] at hfirst
          rw [pieces_cons, heq]
          exact .cons hfirst (ih _ hlt _ rfl)

/-- **There is just one division**, and it is the one that is read. -/
theorem divides_iff {bs : Octets} {ps : List Piece} : Divides ps bs ↔ ps = pieces bs := by
  constructor
  · intro h
    induction h with
    | nil => exact pieces_nil.symm
    | @cons p ps rest hp _ ih =>
        obtain ⟨b, bs, hbs⟩ := List.exists_cons_of_ne_nil hp.ne_nil
        rw [hbs] at hp ⊢
        have hpiece := hp.eq_next
        rw [(isFirst_next b bs).1, ← hpiece] at hbs
        rw [pieces_cons, ← hpiece, ih, List.append_cancel_left hbs]
  · rintro rfl
    exact divides_pieces bs

/-! ## The text that is shown -/

lemma foldl_push_shown (ps : List Piece) (s : String) :
    ps.foldl (fun s p => s.push p.shown) s = s ++ String.ofList (ps.map Piece.shown) := by
  induction ps generalizing s with
  | nil => simp
  | cons p ps ih =>
      rw [List.foldl_cons, ih, List.map_cons]
      apply String.toList_inj.1
      simp

/-- **The text that is shown.**  Each piece of the division is shown as one character. -/
theorem lossy_eq (bs : Octets) : lossy bs = String.ofList ((pieces bs).map Piece.shown) := by
  rw [lossy, foldPieces_eq, foldl_push_shown, String.empty_append]

/-- A text is shown as it is. -/
lemma lossy_encode (s : String) : lossy (encode s) = s := by
  have hshown : Piece.shown ∘ Piece.char = id := rfl
  rw [lossy_eq, encode, pieces_flatMap_encodeChar, List.map_map, hshown, List.map_id,
    String.ofList_toList]

end StandIn.Utf8
