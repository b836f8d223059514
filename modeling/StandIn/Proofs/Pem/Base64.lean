import Mathlib.Data.List.Basic
import Mathlib.Tactic.Lemma
import StandIn.Pem.Base64

/-!
# Base 64 is read back

Three octets are written as four characters, but characters are read in blocks of eight, the last of
which is treated on its own because of the padding.  Nothing is lost: whatever octets were written
are read back, and the lines into which the characters are cut make no difference.

* `written` — the symbols that are written for some octets, `symbols_encode`.
* `blocks_written` — they are read back, block by block.
* `decode_of_filter` — characters with blanks between them are read as those that were written.
-/

namespace StandIn.Base64

/-! ## Characters -/

lemma digit_spec {n : Nat} (h : n < 64) :
    value? (digit n) = some n ∧ isBlank (digit n) = false ∧ digit n ≠ pad := by
  have key : ∀ n : Fin 64, value? (digit n.val) = some n.val ∧
      isBlank (digit n.val) = false ∧ digit n.val ≠ pad := by decide
  exact key ⟨n, h⟩

lemma symbols_digit {n : Nat} (h : n < 64) (cs : Octets) :
    symbols (digit n :: cs) = (some n :: (symbols cs).1, (symbols cs).2) := by
  obtain ⟨hvalue, hblank, hpad⟩ := digit_spec h
  simp [symbols, hvalue, hblank, hpad]

lemma symbols_pad (cs : Octets) :
    symbols (pad :: cs) = (none :: (symbols cs).1, (symbols cs).2) := by
  have hblank : isBlank pad = false := by decide
  simp [symbols, hblank]

/-- Blanks are passed over, wherever they stand. -/
lemma symbols_filter (cs : Octets) : symbols (cs.filter (!isBlank ·)) = symbols cs := by
  induction cs with
  | nil => rfl
  | cons c cs ih =>
      by_cases hblank : isBlank c = true
      · rw [List.filter_cons_of_neg (by simp [hblank]), ih, symbols, if_pos hblank]
      · rw [List.filter_cons_of_pos (by simpa using hblank), symbols, symbols, ih]

/-! ## Symbols -/

/-- The numbers that three octets are written as. -/
def quarters (a b c : UInt8) : List Symbol :=
  let n := a.toNat * 65536 + b.toNat * 256 + c.toNat
  [some (n / 262144), some (n / 4096 % 64), some (n / 64 % 64), some (n % 64)]

/-- The symbols that are written for some octets. -/
def written : Octets → List Symbol
  | [] => []
  | [a] => [some (a.toNat * 16 / 64), some (a.toNat * 16 % 64), none, none]
  | [a, b] =>
    let n := (a.toNat * 256 + b.toNat) * 4
    [some (n / 4096), some (n / 64 % 64), some (n % 64), none]
  | a :: b :: c :: rest => quarters a b c ++ written rest

theorem symbols_encode (bs : Octets) : symbols (encode bs) = (written bs, none) := by
  fun_induction encode bs with
  | case1 => rfl
  | case2 a n =>
      have ha : a.toNat < 256 := a.toNat_lt
      rw [symbols_digit (by omega), symbols_digit (by omega), symbols_pad, symbols_pad]
      rfl
  | case3 a b n =>
      have ha : a.toNat < 256 := a.toNat_lt
      have hb : b.toNat < 256 := b.toNat_lt
      rw [symbols_digit (by omega), symbols_digit (by omega), symbols_digit (by omega), symbols_pad]
      rfl
  | case4 a b c rest n ih =>
      have ha : a.toNat < 256 := a.toNat_lt
      have hb : b.toNat < 256 := b.toNat_lt
      have hc : c.toNat < 256 := c.toNat_lt
      rw [symbols_digit (by omega), symbols_digit (by omega), symbols_digit (by omega),
        symbols_digit (by omega), ih]
      rfl

/-! ## Groups and blocks -/

lemma toUInt8_eq {n : Nat} {a : UInt8} (h : n % 256 = a.toNat) : n.toUInt8 = a := by
  apply UInt8.toNat_inj.1
  simpa using h

lemma three_quarters (a b c : UInt8) :
    let n := a.toNat * 65536 + b.toNat * 256 + c.toNat
    three (n / 262144) (n / 4096 % 64) (n / 64 % 64) (n % 64) = [a, b, c] := by
  intro n
  have ha : a.toNat < 256 := a.toNat_lt
  have hb : b.toNat < 256 := b.toNat_lt
  have hc : c.toNat < 256 := c.toNat_lt
  rw [three, toUInt8_eq (a := a) (by omega), toUInt8_eq (a := b) (by omega),
    toUInt8_eq (a := c) (by omega)]

/-- Up to three octets are read back from one group, which has padding if there are fewer. -/
lemma lastGroup_written {bs : Octets} (h : bs.length ≤ 3) : lastGroup (written bs) = .ok bs := by
  match bs with
  | [] => rfl
  | [a] =>
      have ha : a.toNat < 256 := a.toNat_lt
      simp only [written, lastGroup, three]
      rw [toUInt8_eq (a := a) (by omega)]
      rfl
  | [a, b] =>
      have ha : a.toNat < 256 := a.toNat_lt
      have hb : b.toNat < 256 := b.toNat_lt
      simp only [written, lastGroup, three]
      rw [toUInt8_eq (a := a) (by omega), toUInt8_eq (a := b) (by omega)]
      rfl
  | [a, b, c] => exact congrArg Except.ok (three_quarters a b c)

lemma written_ne_nil {bs : Octets} (h : bs ≠ []) : written bs ≠ [] := by
  match bs with
  | [] => exact absurd rfl h
  | [a] => simp [written]
  | [a, b] => simp [written]
  | a :: b :: c :: rest => simp [written, quarters]

/-- A group of three octets is read in front of a last one. -/
lemma lastBlock_quarters (a b c : UInt8) {later : List Symbol} (h : later ≠ []) :
    lastBlock (quarters a b c ++ later) = (lastGroup later).map ([a, b, c] ++ ·) := by
  obtain ⟨x, xs, rfl⟩ := List.exists_cons_of_ne_nil h
  have hthree := three_quarters a b c
  simp only at hthree
  simp only [quarters, List.cons_append, List.nil_append, lastBlock, hthree]

/-- A block of eight symbols, which are two groups, is read in front of others. -/
lemma blocks_quarters (a b c d e f : UInt8) {later : List Symbol} (h : later ≠ []) :
    blocks none (quarters a b c ++ (quarters d e f ++ later))
      = (blocks none later).map ([a, b, c, d, e, f] ++ ·) := by
  obtain ⟨x, xs, rfl⟩ := List.exists_cons_of_ne_nil h
  have hfront := three_quarters a b c
  have hback := three_quarters d e f
  simp only at hfront hback
  simp only [quarters, List.cons_append, List.nil_append, blocks, hfront, hback]

lemma blocks_of_length_le {found : List Symbol} (h : found.length ≤ 8) :
    blocks none found = lastBlock found := by
  unfold blocks
  split
  · simp only [List.length_cons] at h
    omega
  · rfl

lemma lastBlock_of_length_le {found : List Symbol} (h : found.length ≤ 4) :
    lastBlock found = lastGroup found := by
  unfold lastBlock
  split
  · simp only [List.length_cons] at h
    omega
  · rfl

/-- **What was written is read back**, block by block. -/
theorem blocks_written (bs : Octets) : blocks none (written bs) = .ok bs := by
  match bs with
  | [] => rfl
  | [a] | [a, b] | [a, b, c] =>
      rw [blocks_of_length_le (by simp [written, quarters]),
        lastBlock_of_length_le (by simp [written, quarters]), lastGroup_written (by simp)]
  | a :: b :: c :: [d] | a :: b :: c :: [d, e] | a :: b :: c :: [d, e, f] =>
      rw [blocks_of_length_le (by simp [written, quarters]), written,
        lastBlock_quarters a b c (written_ne_nil (by simp)), lastGroup_written (by simp)]
      rfl
  | a :: b :: c :: d :: e :: f :: g :: rest =>
      rw [written, written, blocks_quarters a b c d e f (written_ne_nil (by simp)),
        blocks_written (g :: rest)]
      rfl

/-- **Base 64 is read back**, with blanks and line ends anywhere between the characters. -/
theorem decode_of_filter {cs bs : Octets} (h : cs.filter (!isBlank ·) = encode bs) :
    decode cs = .ok bs := by
  rw [decode, ← symbols_filter, h, symbols_encode]
  exact blocks_written bs

example : encode (Utf8.encode "fooba") = Utf8.encode "Zm9vYmE=" := by decide +kernel

/-- What is written has no blanks. -/
lemma filter_encode (bs : Octets) : (encode bs).filter (!isBlank ·) = encode bs := by
  rw [List.filter_eq_self]
  have hpad : isBlank pad = false := by decide
  have hdigit : ∀ {n : Nat}, n < 64 → isBlank (digit n) = false := fun h => (digit_spec h).2.1
  fun_induction encode bs with
  | case1 => simp
  | case2 a n =>
      have ha : a.toNat < 256 := a.toNat_lt
      simp [hpad, hdigit (show n / 64 < 64 by omega), hdigit (show n % 64 < 64 by omega)]
  | case3 a b n =>
      have ha : a.toNat < 256 := a.toNat_lt
      have hb : b.toNat < 256 := b.toNat_lt
      simp [hpad, hdigit (show n / 4096 < 64 by omega), hdigit (show n / 64 % 64 < 64 by omega),
        hdigit (show n % 64 < 64 by omega)]
  | case4 a b c rest n ih =>
      have ha : a.toNat < 256 := a.toNat_lt
      have hb : b.toNat < 256 := b.toNat_lt
      have hc : c.toNat < 256 := c.toNat_lt
      simp only [List.forall_mem_cons]
      exact ⟨by simp [hdigit (show n / 262144 < 64 by omega)],
        by simp [hdigit (show n / 4096 % 64 < 64 by omega)],
        by simp [hdigit (show n / 64 % 64 < 64 by omega)],
        by simp [hdigit (show n % 64 < 64 by omega)], ih⟩

/-- What is written holds nothing but the characters of numbers, padding and blanks. -/
lemma isCharacter_of_mem {cs bs : Octets} (h : cs.filter (!isBlank ·) = encode bs) :
    ∀ c ∈ cs, isBlank c = true ∨ c = pad ∨ (value? c).isSome := by
  have hvalid : (symbols cs).2 = none := by rw [← symbols_filter, h, symbols_encode]
  clear h
  induction cs with
  | nil => simp
  | cons c cs ih =>
      simp only [symbols] at hvalid
      rw [List.forall_mem_cons]
      split_ifs at hvalid with hblank hpad
      · exact ⟨.inl hblank, ih hvalid⟩
      · exact ⟨.inr (.inl hpad), ih hvalid⟩
      · split at hvalid
        · rename_i n hn
          exact ⟨.inr (.inr (by rw [hn, Option.isSome_some])), ih hvalid⟩
        · cases hvalid

end StandIn.Base64
