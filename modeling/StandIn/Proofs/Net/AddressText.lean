import Mathlib.Tactic.Lemma
import StandIn.Net.Address
import StandIn.Proofs.Http.Fields

/-!
# The alphabet of address texts

The text of an address is put into a header field, at the end of a list that commas separate.  That
is only right if no address can hold a comma or a blank, or anything else that a field could not
carry.  Addresses are written with digits, the letters `a` to `f`, points and colons.

* `addressChars`, `IsAddressText` — that alphabet, and the texts over it.
* `Address.isAddressText_render` — every address is such a text.
* `IsAddressText.of_mem_encode` — what follows for the octets: they are visible, and neither
  commas nor blanks.
-/

namespace StandIn.Net

/-- The characters with which addresses are written. -/
def addressChars : List Char := "0123456789abcdef.:".toList

/-- Whether a text consists of characters with which addresses are written. -/
def IsAddressText (s : String) : Prop :=
  ∀ c ∈ s.toList, c ∈ addressChars

/-- Texts that are given can be looked through. -/
lemma isAddressText_of_all {s : String} (h : s.toList.all (· ∈ addressChars) = true) :
    IsAddressText s := by
  intro c hc
  exact of_decide_eq_true (List.all_eq_true.1 h c hc)

lemma IsAddressText.append {s t : String} (hs : IsAddressText s) (ht : IsAddressText t) :
    IsAddressText (s ++ t) := by
  intro c hc
  rw [String.toList_append, List.mem_append] at hc
  exact hc.elim (hs c) (ht c)

/-! ## Numbers -/

lemma digitChar_mem_addressChars {d : Nat} (h : d < 16) : d.digitChar ∈ addressChars := by
  have key : ∀ d : Fin 16, d.val.digitChar ∈ addressChars := by decide
  exact key ⟨d, h⟩

lemma mem_addressChars_of_mem_toDigits {b : Nat} (hlo : 1 < b) (hhi : b ≤ 16) (n : Nat) :
    ∀ c ∈ Nat.toDigits b n, c ∈ addressChars := by
  induction n using Nat.strongRecOn with
  | ind n ih =>
      intro c hc
      have hlast : n % b < 16 := Nat.lt_of_lt_of_le (Nat.mod_lt n (by omega)) hhi
      by_cases hn : n < b
      · rw [Nat.toDigits_of_lt_base hn, List.mem_singleton] at hc
        rw [hc]
        exact digitChar_mem_addressChars (by omega)
      · have hsmaller : n / b < n := Nat.div_lt_self (by omega) hlo
        rw [Nat.toDigits_of_base_le hlo (by omega), List.mem_append, List.mem_singleton] at hc
        rcases hc with hc | hc
        · exact ih (n / b) hsmaller c hc
        · rw [hc]
          exact digitChar_mem_addressChars hlast

lemma isAddressText_toString (n : Nat) : IsAddressText (toString n) := by
  rw [IsAddressText, Nat.toString_eq_repr, Nat.toList_repr]
  exact mem_addressChars_of_mem_toDigits (by decide) (by decide) n

lemma isAddressText_renderGroup (g : UInt16) : IsAddressText (renderGroup g) := by
  rw [IsAddressText, renderGroup, String.toList_ofList]
  exact mem_addressChars_of_mem_toDigits (by decide) (by decide) g.toNat

/-! ## Addresses -/

lemma IPv4.isAddressText_render (ip : IPv4) : IsAddressText ip.render := by
  have point : IsAddressText "." := isAddressText_of_all (by decide)
  have number (n : Nat) := isAddressText_toString n
  exact ((((((number _).append point).append (number _)).append point).append (number _)).append
    point).append (number _)

lemma isAddressText_renderGroups (gs : List UInt16) : IsAddressText (renderGroups gs) := by
  have colon : IsAddressText ":" := isAddressText_of_all (by decide)
  rw [renderGroups]
  induction gs with
  | nil => simp [IsAddressText]
  | cons g gs ih =>
      cases gs with
      | nil => simpa using isAddressText_renderGroup g
      | cons g' gs =>
          rw [List.map_cons, List.map_cons, String.intercalate_cons_cons, ← List.map_cons]
          exact ((isAddressText_renderGroup g).append colon).append ih

lemma IPv6.isAddressText_render (ip : IPv6) : IsAddressText ip.render := by
  have mapped : IsAddressText "::ffff:" := isAddressText_of_all (by decide)
  have zeros : IsAddressText "::" := isAddressText_of_all (by decide)
  rw [IPv6.render]
  split
  · exact mapped.append (IPv4.isAddressText_render _)
  · dsimp only
    split_ifs
    · exact ((isAddressText_renderGroups _).append zeros).append (isAddressText_renderGroups _)
    · exact isAddressText_renderGroups _

/-- **The text of an address stays within the alphabet**, whatever form it takes: with a run of
zero groups left out, or with an IPv4 address at its end. -/
theorem Address.isAddressText_render (a : Address) : IsAddressText a.render := by
  cases a with
  | v4 ip => exact ip.isAddressText_render
  | v6 ip => exact ip.isAddressText_render

/-! ## Octets -/

/-- The octets of such a text can stand in a header field, and none of them could be taken for the
end of an item or for a blank around one. -/
theorem IsAddressText.of_mem_encode {s : String} (hs : IsAddressText s) :
    ∀ b ∈ Utf8.encode s,
      Http.FieldValue.isVisible b = true ∧ b ≠ 0x2C ∧ Http.isBlank b = false := by
  have key : addressChars.all (fun c => (String.utf8EncodeChar c).all fun b =>
      Http.FieldValue.isVisible b && b != 0x2C && !Http.isBlank b) = true := by decide
  intro b hb
  obtain ⟨c, hc, hb⟩ := List.mem_flatMap.1 hb
  have hall := List.all_eq_true.1 (List.all_eq_true.1 key c (hs c hc)) b hb
  simp only [Bool.and_eq_true, bne_iff_ne, Bool.not_eq_true'] at hall
  exact ⟨hall.1.1, hall.1.2, hall.2⟩

end StandIn.Net
