import StandIn.Http.Headers

/-!
# Percent encoding

* `percentEncode` — octets in which some are written as a percent sign and two hexadecimal digits.
* `FieldValue.ofMessage` — any text as the value of a field.
-/

namespace StandIn.Http

/-- A hexadecimal digit in upper case. -/
def hexDigit (n : Nat) : UInt8 :=
  if n < 10 then (48 + n).toUInt8 else (55 + n).toUInt8

/-- The octets, those that are not kept being written as two hexadecimal digits. -/
def percentEncode (keep : UInt8 → Bool) (bs : Octets) : Octets :=
  bs.flatMap fun b =>
    if keep b then [b] else [0x25, hexDigit (b.toNat / 16), hexDigit (b.toNat % 16)]

/-- Digits may occur in a value. -/
theorem isValueOctet_hexDigit {n : Nat} (h : n < 16) : isValueOctet (hexDigit n) = true := by
  have : ∀ n : Fin 16, isValueOctet (hexDigit n) = true := by decide
  exact this ⟨n, h⟩

/-- Where only octets are kept that may occur in a value, the whole may. -/
theorem all_percentEncode {keep : UInt8 → Bool} (h : ∀ b, keep b = true → isValueOctet b = true)
    (bs : Octets) : (percentEncode keep bs).all isValueOctet = true := by
  simp only [percentEncode, List.all_eq_true, List.mem_flatMap]
  rintro x ⟨b, -, hx⟩
  split at hx
  · rename_i hb
    cases List.mem_singleton.1 hx
    exact h x hb
  · have := b.toNat_lt
    simp only [List.mem_cons, List.not_mem_nil, or_false] at hx
    rcases hx with rfl | rfl | rfl
    · decide
    · exact isValueOctet_hexDigit (by omega)
    · exact isValueOctet_hexDigit (by omega)

/-- The octets that stand for themselves in a message for people: visible text but for the
characters that delimit a part of an identifier. -/
def isPlainMessage (b : UInt8) : Bool :=
  32 < b && b < 127 && !"\"#<>\x60?\x7b\x7d".toUTF8.toList.contains b

/-- What stands for itself may occur in a value. -/
theorem isValueOctet_of_isPlainMessage {b : UInt8} (h : isPlainMessage b = true) :
    isValueOctet b = true := by
  simp only [isPlainMessage, Bool.and_eq_true, decide_eq_true_eq] at h
  simp only [isValueOctet, Bool.or_eq_true, Bool.and_eq_true, decide_eq_true_eq]
  have h₁ := UInt8.lt_iff_toNat_lt.1 h.1.1
  have h₂ := UInt8.lt_iff_toNat_lt.1 h.1.2
  refine .inr ⟨UInt8.le_iff_toNat_le.2 (Nat.le_of_lt h₁), fun hb => ?_⟩
  subst hb
  exact absurd h₂ (by decide)

/-- A message for people as the value of a field. -/
def FieldValue.ofMessage (message : String) : FieldValue :=
  ⟨percentEncode isPlainMessage (Utf8.encode message),
    all_percentEncode (fun _ => isValueOctet_of_isPlainMessage) _⟩

end StandIn.Http
