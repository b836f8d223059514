import Mathlib.Algebra.Order.Ring.Nat
import Mathlib.Tactic.NormNum
import Mathlib.Tactic.Positivity
import Mathlib.Tactic.Ring
import StandIn.Proofs.Wire.Reading
import StandIn.Wire.Writer

/-!
# Numbers in base 128

Numbers, lengths and keys are all written in the same way: digits in base 128, the least first, of
which all but the last carry the top bit.

* `IsNumber` — the octets that stand for a number of 64 bits.
* `Reader.spells_varint_iff` — they are what is read as a number.
* `isNumber_varintOctets`, `length_varintOctets` — what is written is such octets, in the shortest
  form, and the formula for their count is right.
* `IsKey` — the octets that stand for a key.
* `Reader.spells_key_iff`, `isKey_keyOctets` — they are what is read and written as a key.
-/

namespace StandIn.Wire

/-! ## Digits -/

/-- Digits in base 128, the least first, of which all but the last carry the top bit. -/
inductive Digits : Octets → Nat → Prop
  | last {b : UInt8} (hb : b.toNat < 128) : Digits [b] b.toNat
  | more {b : UInt8} {bs : Octets} {n : Nat} (hb : 128 ≤ b.toNat) (hbs : Digits bs n) :
      Digits (b :: bs) (b.toNat % 128 + 128 * n)

/-- At most ten digits, for a number of 64 bits. -/
def IsNumber (p : Octets) (n : Nat) : Prop :=
  Digits p n ∧ p.length ≤ 10 ∧ n < 2 ^ 64

lemma Digits.length_pos {p : Octets} {n : Nat} (h : Digits p n) : 0 < p.length := by
  cases h <;> simp

/-- What stands in front of place `place` adds less than one to a digit there, so it is the digits
from there on that decide whether 64 bits are enough. -/
lemma add_mul_lt_two_pow {place r v : Nat} (hplace : place ≤ 9) (hr : r < 128 ^ place)
    (hv : v * 128 ^ place < 2 ^ 64) : r + v * 128 ^ place < 2 ^ 64 := by
  obtain ⟨c, hc⟩ : 128 ^ place ∣ 2 ^ 64 := by
    have h : (128 : Nat) ^ place = 2 ^ (7 * place) := by
      rw [pow_mul]
      rfl
    rw [h]
    exact pow_dvd_pow 2 (by omega)
  rw [hc, Nat.mul_comm v] at hv
  have hlt : v < c := lt_of_mul_lt_mul_left hv (Nat.zero_le _)
  calc r + v * 128 ^ place < 128 ^ place + v * 128 ^ place := Nat.add_lt_add_right hr _
    _ = 128 ^ place * (v + 1) := by ring
    _ ≤ 128 ^ place * c := Nat.mul_le_mul_left _ hlt
    _ = 2 ^ 64 := hc.symm

/-- In the last of ten places only 0 and 1 fit, and there has to be an end. -/
lemma Digits.toNat_lt_two {b : UInt8} {p : Octets} {n : Nat} (h : Digits (b :: p) n)
    (hp : p.length = 0) (hn : n * 128 ^ 9 < 2 ^ 64) : b.toNat < 2 := by
  cases h with
  | last hb => omega
  | more hb hbs =>
      have hpos := hbs.length_pos
      omega

namespace Reader

/-- From any place on, what is read is the digits that have room there. -/
lemma varintFrom_eq_some_iff {place sum : Nat} (hplace : place ≤ 9) {bs rest : Octets} {n : Nat} :
    varintFrom place sum bs = some (n, rest) ↔
      ∃ p v, bs = p ++ rest ∧ Digits p v ∧ place + p.length ≤ 10 ∧ v * 128 ^ place < 2 ^ 64 ∧
        n = sum + v * 128 ^ place := by
  induction bs generalizing place sum with
  | nil =>
      simp only [varintFrom, false_iff, not_exists, reduceCtorEq]
      rintro p v ⟨hp, hd, -⟩
      have hpos := hd.length_pos
      rw [List.nil_eq, List.append_eq_nil_iff] at hp
      simp [hp.1] at hpos
  | cons b bs ih =>
      have hpow : Nat.pow 128 place = 128 ^ place := rfl
      simp only [varintFrom, hpow, UInt8.le_iff_toNat_le, UInt8.lt_iff_toNat_lt, UInt8.reduceToNat]
      split_ifs with hlast hb
      · simp only [false_iff, not_exists]
        rintro p v ⟨hp, hd, hlength, hv, -⟩
        obtain ⟨rfl, h2⟩ := hlast
        cases p with
        | nil => cases hd
        | cons c q =>
            cases hp
            rw [List.length_cons] at hlength
            have hlt := hd.toNat_lt_two (by omega) hv
            omega
      · constructor
        · intro h
          cases h
          refine ⟨[b], b.toNat, rfl, .last hb, by rw [List.length_singleton]; omega, ?_, rfl⟩
          rcases Nat.lt_or_ge place 9 with h9 | h9
          · calc b.toNat * 128 ^ place < 128 * 128 ^ 8 :=
                  Nat.mul_lt_mul_of_lt_of_le hb (Nat.pow_le_pow_right (by omega) (by omega))
                    (by positivity)
              _ ≤ 2 ^ 64 := by norm_num
          · obtain rfl : place = 9 := by omega
            omega
        · rintro ⟨p, v, hp, hd, -, -, rfl⟩
          cases hd with
          | last hb' =>
              cases hp
              rfl
          | more hb' hbs =>
              cases hp
              omega
      · have hsum (v : Nat) : (b.toNat % 128 + 128 * v) * 128 ^ place
            = b.toNat % 128 * 128 ^ place + v * 128 ^ (place + 1) := by ring
        have hlow : b.toNat % 128 * 128 ^ place < 128 ^ (place + 1) := by
          rw [pow_succ']
          exact Nat.mul_lt_mul_of_pos_right (Nat.mod_lt _ (by omega)) (by positivity)
        rw [ih (by omega)]
        constructor
        · rintro ⟨p, v, rfl, hd, hlength, hv, rfl⟩
          refine ⟨b :: p, b.toNat % 128 + 128 * v, rfl, .more (by omega) hd, ?_, ?_, ?_⟩
          · rw [List.length_cons]
            omega
          · rw [hsum]
            exact add_mul_lt_two_pow (by omega) hlow hv
          · rw [hsum, Nat.add_assoc]
        · rintro ⟨p, v, hp, hd, hlength, hv, rfl⟩
          cases hd with
          | last hb' =>
              cases hp
              omega
          | @more _ q m hb' hbs =>
              cases hp
              rw [hsum] at hv ⊢
              rw [List.length_cons] at hlength
              exact ⟨q, m, rfl, hbs, by omega, by omega, by omega⟩

lemma run_varint_eq_ok_iff {bs rest : Octets} {n : Nat} :
    varint.run bs = .ok (n, rest) ↔ ∃ p, bs = p ++ rest ∧ IsNumber p n := by
  have h := @varintFrom_eq_some_iff 0 0 (by omega) bs rest n
  rw [varint]
  dsimp only
  split <;> simp_all [IsNumber]

/-- **What is read as a number.** -/
theorem spells_varint_iff {p : Octets} {n : Nat} : varint.Spells p n ↔ IsNumber p n :=
  spells_iff_of_run_iff run_varint_eq_ok_iff

lemma isLocal_varint : varint.IsLocal :=
  isLocal_of_run_iff run_varint_eq_ok_iff

lemma reads_varint : varint.Reads fun p => ∃ n, IsNumber p n where
  isLocal := isLocal_varint
  spells := exists_congr fun _ => spells_varint_iff

end Reader

/-! ## What is written -/

lemma digits_varintOctets (n : Nat) : Digits (varintOctets n) n := by
  fun_induction varintOctets n with
  | case1 n hn =>
      have h := Digits.last (b := n.toUInt8) (by simp; omega)
      have hb : n.toUInt8.toNat = n := by simp; omega
      rwa [hb] at h
  | case2 n hn ih =>
      have h := Digits.more (b := (n % 128 + 128).toUInt8) (by simp; omega) ih
      have hb : (n % 128 + 128).toUInt8.toNat % 128 + 128 * (n / 128) = n := by simp; omega
      rwa [hb] at h

/-- Between two powers of 128 all numbers have as many digits. -/
lemma length_varintOctets_of_lt {k n : Nat} (hlow : k = 0 ∨ 128 ^ k ≤ n) (hhigh : n < 128 ^ (k + 1)) :
    (varintOctets n).length = k + 1 := by
  induction k generalizing n with
  | zero =>
      rw [varintOctets, if_pos (by simpa using hhigh), List.length_singleton]
  | succ k ih =>
      have hn : 128 ^ (k + 1) ≤ n := by simpa using hlow
      have h128 : 128 ≤ 128 ^ (k + 1) := Nat.le_self_pow (by omega) 128
      rw [varintOctets, if_neg (by omega), List.length_cons, ih]
      · refine .inr ((Nat.le_div_iff_mul_le (by omega)).2 ?_)
        rwa [← pow_succ]
      · rw [Nat.div_lt_iff_lt_mul (by omega), ← pow_succ]
        exact hhigh

/-- The lowest bit does not change where the highest one stands. -/
lemma log2_or_one {n : Nat} (hn : n ≠ 0) : (n ||| 1).log2 = n.log2 := by
  have hlow : 2 ^ n.log2 ≤ n := Nat.log2_self_le hn
  have hhigh : n < 2 ^ (n.log2 + 1) := Nat.lt_log2_self
  have hone : 1 < 2 ^ (n.log2 + 1) := Nat.one_lt_two_pow (by omega)
  rw [Nat.log2_eq_iff (by simp)]
  exact ⟨hlow.trans Nat.left_le_or, Nat.or_lt_two_pow hhigh hone⟩

/-- The formula counts groups of seven bits, up to the highest bit that is set. -/
lemma varintSize_eq {n : Nat} (hn : n ≠ 0) (h : n < 2 ^ 64) : varintSize n = n.log2 / 7 + 1 := by
  have hlog : n.log2 < 64 := (Nat.log2_lt hn).2 h
  have hgroups : ∀ b < 64, (b * 9 + 73) / 64 = b / 7 + 1 := by decide
  rw [varintSize, log2_or_one hn, hgroups _ hlog]

/-- **The formula for the number of digits is right.** -/
theorem length_varintOctets {n : Nat} (h : n < 2 ^ 64) : (varintOctets n).length = varintSize n := by
  rcases Nat.eq_zero_or_pos n with rfl | hpos
  · decide +kernel
  have hn : n ≠ 0 := by omega
  have hseven (k : Nat) : 128 ^ k = 2 ^ (7 * k) := by
    rw [pow_mul]
    rfl
  rw [varintSize_eq hn h]
  refine length_varintOctets_of_lt (.inr ?_) ?_
  · calc 128 ^ (n.log2 / 7) = 2 ^ (7 * (n.log2 / 7)) := hseven _
      _ ≤ 2 ^ n.log2 := Nat.pow_le_pow_right (by omega) (by omega)
      _ ≤ n := Nat.log2_self_le hn
  · calc n < 2 ^ (n.log2 + 1) := Nat.lt_log2_self
      _ ≤ 2 ^ (7 * (n.log2 / 7 + 1)) := Nat.pow_le_pow_right (by omega) (by omega)
      _ = 128 ^ (n.log2 / 7 + 1) := (hseven _).symm

lemma varintSize_le_ten {n : Nat} (h : n < 2 ^ 64) : varintSize n ≤ 10 := by
  rcases Nat.eq_zero_or_pos n with rfl | hpos
  · decide +kernel
  · have hlog : n.log2 < 64 := (Nat.log2_lt (by omega)).2 h
    rw [varintSize_eq (by omega) h]
    omega

/-- What is written for a number of 64 bits stands for it. -/
theorem isNumber_varintOctets {n : Nat} (h : n < 2 ^ 64) : IsNumber (varintOctets n) n :=
  ⟨digits_varintOctets n, length_varintOctets h ▸ varintSize_le_ten h, h⟩

/-- An octet without the top bit is the only digit of its number. -/
lemma isNumber_singleton {b : UInt8} (hb : b.toNat < 128) : IsNumber [b] b.toNat :=
  ⟨.last hb, by simp, by omega⟩

/-! ## Keys -/

/-- The octets that stand for a key: a number of 32 bits, of which the lower three are the wire
type and the others a field number that is not 0. -/
def IsKey (p : Octets) (k : Reader.Key) : Prop :=
  1 ≤ k.number ∧ k.number * 8 + k.wireType.code < 2 ^ 32 ∧
    IsNumber p (k.number * 8 + k.wireType.code)

lemma WireType.code_lt (w : WireType) : w.code < 8 := by
  cases w <;> decide

lemma WireType.ofCode?_eq_some_iff {n : Nat} {w : WireType} : ofCode? n = some w ↔ n = w.code := by
  constructor
  · intro h
    unfold ofCode? at h
    split at h <;> cases h <;> rfl
  · rintro rfl
    exact ofCode?_code w

namespace Reader

lemma Key.ofNat_eq_ok_iff {n : Nat} {k : Key} :
    Key.ofNat n = .ok k ↔ 1 ≤ k.number ∧ n < 2 ^ 32 ∧ n = k.number * 8 + k.wireType.code := by
  have hpow : Nat.pow 2 32 = 2 ^ 32 := rfl
  have hcode := k.wireType.code_lt
  rw [Key.ofNat, hpow]
  by_cases hsize : 2 ^ 32 ≤ n
  · rw [if_pos hsize]
    constructor
    · rintro ⟨⟩
    · rintro ⟨-, hlt, -⟩
      omega
  rw [if_neg hsize]
  cases hw : WireType.ofCode? (n % 8) with
  | none =>
      simp only [false_iff, not_and, reduceCtorEq]
      rintro - - rfl
      have hmod : (k.number * 8 + k.wireType.code) % 8 = k.wireType.code := by omega
      rw [hmod, WireType.ofCode?_code] at hw
      cases hw
  | some w =>
      rw [WireType.ofCode?_eq_some_iff] at hw
      dsimp only
      split_ifs with hzero
      · simp only [false_iff, not_and]
        omega
      · constructor
        · intro h
          cases h
          dsimp only
          omega
        · rintro ⟨hnumber, -, rfl⟩
          have hmod : (k.number * 8 + k.wireType.code) % 8 = k.wireType.code := by omega
          have hdiv : (k.number * 8 + k.wireType.code) / 8 = k.number := by omega
          have hwire : w = k.wireType := by
            rw [← Option.some_inj, ← WireType.ofCode?_code w, ← hw, hmod, WireType.ofCode?_code]
          rw [hdiv, hwire]

/-- A key is a number, and a number may be a key. -/
lemma run_key_eq_ok_iff_varint {bs rest : Octets} {k : Key} :
    key.run bs = .ok (k, rest) ↔ ∃ n, varint.run bs = .ok (n, rest) ∧ Key.ofNat n = .ok k := by
  rw [key, varint]
  dsimp only
  cases varintFrom 0 0 bs with
  | none => simp
  | some x =>
      obtain ⟨n, mid⟩ := x
      dsimp only
      cases hkey : Key.ofNat n with
      | error cause =>
          simp only [false_iff, reduceCtorEq, not_exists, not_and, Except.ok.injEq, Prod.mk.injEq]
          rintro m ⟨rfl, rfl⟩
          rw [hkey]
          rintro ⟨⟩
      | ok k' =>
          simp only [Except.ok.injEq, Prod.mk.injEq]
          constructor
          · rintro ⟨rfl, rfl⟩
            exact ⟨n, ⟨rfl, rfl⟩, hkey⟩
          · rintro ⟨m, ⟨rfl, rfl⟩, hm⟩
            rw [hkey] at hm
            cases hm
            exact ⟨rfl, rfl⟩

lemma run_key_eq_ok_iff {bs rest : Octets} {k : Key} :
    key.run bs = .ok (k, rest) ↔ ∃ p, bs = p ++ rest ∧ IsKey p k := by
  rw [run_key_eq_ok_iff_varint]
  constructor
  · rintro ⟨n, hrun, hkey⟩
    obtain ⟨p, rfl, hp⟩ := run_varint_eq_ok_iff.1 hrun
    obtain ⟨hnumber, hsize, rfl⟩ := Key.ofNat_eq_ok_iff.1 hkey
    exact ⟨p, rfl, hnumber, hsize, hp⟩
  · rintro ⟨p, rfl, hnumber, hsize, hp⟩
    exact ⟨_, run_varint_eq_ok_iff.2 ⟨p, rfl, hp⟩, Key.ofNat_eq_ok_iff.2 ⟨hnumber, hsize, rfl⟩⟩

/-- **What is read as a key.** -/
theorem spells_key_iff {p : Octets} {k : Key} : key.Spells p k ↔ IsKey p k :=
  spells_iff_of_run_iff run_key_eq_ok_iff

lemma isLocal_key : key.IsLocal :=
  isLocal_of_run_iff run_key_eq_ok_iff

end Reader

/-- The field numbers that have keys. -/
def IsFieldNumber (number : Nat) : Prop :=
  1 ≤ number ∧ number < 2 ^ 29

instance (number : Nat) : Decidable (IsFieldNumber number) :=
  inferInstanceAs (Decidable (_ ∧ _))

/-- What is written for a key stands for it. -/
theorem isKey_keyOctets {number : Nat} (h : IsFieldNumber number) (w : WireType) :
    IsKey (keyOctets number w) ⟨number, w⟩ := by
  have hcode := w.code_lt
  obtain ⟨hpos, hlt⟩ := h
  exact ⟨hpos, by dsimp only; omega, isNumber_varintOctets (by omega)⟩

lemma isKey_singleton {b : UInt8} {k : Reader.Key} (hnumber : 1 ≤ k.number)
    (hk : k.number * 8 + k.wireType.code = b.toNat) (hb : b.toNat < 128) : IsKey [b] k := by
  rw [IsKey, hk]
  exact ⟨hnumber, by omega, isNumber_singleton hb⟩

lemma log2_mul_eight_add {n c : Nat} (hn : n ≠ 0) (hc : c < 8) :
    (n * 8 + c).log2 = n.log2 + 3 := by
  have hlow : 2 ^ n.log2 ≤ n := Nat.log2_self_le hn
  have hhigh : n < 2 ^ (n.log2 + 1) := Nat.lt_log2_self
  rw [Nat.log2_eq_iff (by omega), pow_succ _ (_ + 3), pow_add]
  rw [pow_succ] at hhigh
  omega

/-- The wire type does not change the size of a key. -/
lemma length_keyOctets {number : Nat} (h : IsFieldNumber number) (w : WireType) :
    (keyOctets number w).length = keySize number := by
  have hcode := w.code_lt
  obtain ⟨hpos, hlt⟩ := h
  rw [keyOctets, keySize, length_varintOctets (by omega), varintSize_eq (by omega) (by omega),
    varintSize_eq (by omega) (by omega), log2_mul_eight_add (by omega) hcode,
    ← Nat.add_zero (number * 8), log2_mul_eight_add (by omega) (Nat.zero_lt_succ 7)]

/-! ## Stretches of octets after their length -/

/-- Octets that are the length of a body and the body. -/
def Delimited (body p : Octets) : Prop :=
  ∃ q, p = q ++ body ∧ IsNumber q body.length

lemma delimited_delimitedOctets {body : Octets} (h : body.length < 2 ^ 64) :
    Delimited body (delimitedOctets body) :=
  ⟨_, rfl, isNumber_varintOctets h⟩

lemma delimited_cons {b : UInt8} {body : Octets} (hlength : body.length = b.toNat)
    (hb : b.toNat < 128) : Delimited body (b :: body) :=
  ⟨[b], rfl, hlength ▸ isNumber_singleton hb⟩

lemma length_delimitedOctets {body : Octets} (h : body.length < 2 ^ 64) :
    (delimitedOctets body).length = delimitedSize body.length := by
  rw [delimitedOctets, List.length_append, length_varintOctets h, delimitedSize]

end StandIn.Wire
