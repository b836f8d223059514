import Mathlib.Data.List.Basic
import Mathlib.Tactic.Lemma
import Mathlib.Tactic.SplitIfs
import StandIn.Json
import StandIn.Proofs.Text.Utf8

/-!
# The grammar of documents

What a JSON document may look like in general, blanks, fractions and all escapes included, and that
the compact text of a document is always one.

* `Json.IsDocument` — the texts that are documents.
* `Json.rec_of_mem` — induction over a document, by its items and members.
* `Json.isDocument_compact` — the text of a document is a document.
* `Json.le_of_mem_encode_compact` — there are no controls in it, so it stays on its line.
-/

namespace StandIn.Json

/-! ## Documents -/

/-- Blanks, which may stand around any part of a document. -/
def IsBlank (cs : List Char) : Prop :=
  ∀ c ∈ cs, c = ' ' ∨ c = '\t' ∨ c = '\n' ∨ c = '\r'

/-- One digit or more. -/
def IsDigits (cs : List Char) : Prop :=
  cs ≠ [] ∧ ∀ c ∈ cs, c.isDigit = true

/-- Numbers: a sign, a whole part that does not start with a needless zero, a fraction and an
exponent. -/
def IsNumber (cs : List Char) : Prop :=
  ∃ sign whole fraction exponent, cs = sign ++ whole ++ fraction ++ exponent ∧
    (sign = [] ∨ sign = ['-']) ∧
    (IsDigits whole ∧ (whole.head? = some '0' → whole = ['0'])) ∧
    (fraction = [] ∨ ∃ digits, fraction = '.' :: digits ∧ IsDigits digits) ∧
    (exponent = [] ∨ ∃ e s digits, exponent = e :: s ++ digits ∧ (e = 'e' ∨ e = 'E') ∧
      (s = [] ∨ s = ['+'] ∨ s = ['-']) ∧ IsDigits digits)

/-- A digit in base 16. -/
def IsHexDigit (c : Char) : Prop :=
  c.isDigit = true ∨ 'a' ≤ c ∧ c ≤ 'f' ∨ 'A' ≤ c ∧ c ≤ 'F'

/-- What stands for one character of a string. -/
inductive IsStringChar : List Char → Prop
  | plain {c : Char} (hc : 0x20 ≤ c.toNat) (hquote : c ≠ '"') (hbackslash : c ≠ '\\') :
      IsStringChar [c]
  | short {c : Char} (hc : c ∈ ['"', '\\', '/', 'b', 'f', 'n', 'r', 't']) : IsStringChar ['\\', c]
  | code {a b c d : Char} (ha : IsHexDigit a) (hb : IsHexDigit b) (hc : IsHexDigit c)
      (hd : IsHexDigit d) : IsStringChar ['\\', 'u', a, b, c, d]

/-- Strings: characters between quotes. -/
def IsString (cs : List Char) : Prop :=
  ∃ parts : List (List Char), cs = '"' :: parts.flatten ++ ['"'] ∧ ∀ p ∈ parts, IsStringChar p

mutual

/-- Values of all kinds. -/
inductive IsValue : List Char → Prop
  | null : IsValue "null".toList
  | true : IsValue "true".toList
  | false : IsValue "false".toList
  | number {cs : List Char} (h : IsNumber cs) : IsValue cs
  | string {cs : List Char} (h : IsString cs) : IsValue cs
  | emptyArray {cs : List Char} (h : IsBlank cs) : IsValue ('[' :: cs ++ [']'])
  | array {cs : List Char} (h : IsItems cs) : IsValue ('[' :: cs ++ [']'])
  | emptyObject {cs : List Char} (h : IsBlank cs) : IsValue ('\x7b' :: cs ++ ['\x7d'])
  | object {cs : List Char} (h : IsMembers cs) : IsValue ('\x7b' :: cs ++ ['\x7d'])

/-- The items of an array, with commas between them. -/
inductive IsItems : List Char → Prop
  | one {a v b : List Char} (ha : IsBlank a) (hv : IsValue v) (hb : IsBlank b) :
      IsItems (a ++ v ++ b)
  | more {a v b rest : List Char} (ha : IsBlank a) (hv : IsValue v) (hb : IsBlank b)
      (hrest : IsItems rest) : IsItems (a ++ v ++ b ++ ',' :: rest)

/-- The members of an object, with commas between them. -/
inductive IsMembers : List Char → Prop
  | one {a key b c v d : List Char} (ha : IsBlank a) (hkey : IsString key) (hb : IsBlank b)
      (hc : IsBlank c) (hv : IsValue v) (hd : IsBlank d) :
      IsMembers (a ++ key ++ b ++ ':' :: (c ++ v ++ d))
  | more {a key b c v d rest : List Char} (ha : IsBlank a) (hkey : IsString key) (hb : IsBlank b)
      (hc : IsBlank c) (hv : IsValue v) (hd : IsBlank d) (hrest : IsMembers rest) :
      IsMembers (a ++ key ++ b ++ ':' :: (c ++ v ++ d ++ ',' :: rest))

end

/-- A document is one value, with blanks around it. -/
def IsDocument (s : String) : Prop :=
  ∃ a v b, s.toList = a ++ v ++ b ∧ IsBlank a ∧ IsValue v ∧ IsBlank b

/-! ## Induction over documents -/

/-- Induction over a document: arrays by their items, objects by the values of their members. -/
theorem rec_of_mem {P : Json → Prop} (null : P .null) (bool : ∀ b, P (.bool b))
    (number : ∀ n, P (.number n)) (text : ∀ s, P (.text s))
    (array : ∀ items, (∀ j ∈ items, P j) → P (.array items))
    (object : ∀ members, (∀ m ∈ members, P m.2) → P (.object members)) (j : Json) : P j :=
  match j with
  | .null => null
  | .bool b => bool b
  | .number n => number n
  | .text s => text s
  | .array items => array items fun j hj =>
      have := List.sizeOf_lt_of_mem hj
      rec_of_mem null bool number text array object j
  | .object members => object members fun m hm =>
      have := List.sizeOf_lt_of_mem hm
      rec_of_mem null bool number text array object m.2
  termination_by sizeOf j
  decreasing_by
    · simp only [Json.array.sizeOf_spec]
      omega
    · obtain ⟨key, value⟩ := m
      simp only [Json.object.sizeOf_spec, Prod.mk.sizeOf_spec] at this ⊢
      omega

/-! ## Commas -/

section Commas

variable {α : Type}

/-- Texts with commas between them. -/
def commaSeparated (text : α → List Char) : List α → List Char
  | [] => []
  | [x] => text x
  | x :: rest => text x ++ ',' :: commaSeparated text rest

lemma commaSeparated_cons_cons (text : α → List Char) (x y : α) (rest : List α) :
    commaSeparated text (x :: y :: rest) = text x ++ ',' :: commaSeparated text (y :: rest) := by
  rw [commaSeparated]
  nofun

end Commas

/-- The text of a member. -/
def memberText (m : String × Json) : List Char :=
  quoted m.1 ++ ':' :: m.2.chars

lemma itemChars_eq (items : List Json) : itemChars items = commaSeparated chars items := by
  induction items with
  | nil => rfl
  | cons j rest ih =>
      cases rest with
      | nil => rfl
      | cons j' rest =>
          rw [commaSeparated_cons_cons, ← ih, itemChars]
          nofun

lemma memberChars_eq (members : List (String × Json)) :
    memberChars members = commaSeparated memberText members := by
  induction members with
  | nil => rfl
  | cons m rest ih =>
      obtain ⟨key, value⟩ := m
      cases rest with
      | nil => rfl
      | cons m' rest =>
          rw [commaSeparated_cons_cons, ← ih, memberChars, memberText]
          nofun

/-! ## Numbers -/

/-- The digits of a number start with a zero only if there are no others. -/
lemma toDigits_eq_of_head? {n : Nat} (h : (Nat.toDigits 10 n).head? = some '0') :
    Nat.toDigits 10 n = ['0'] := by
  induction n using Nat.strongRecOn with
  | ind n ih =>
      by_cases hn : n < 10
      · rw [Nat.toDigits_of_lt_base hn] at h ⊢
        rw [List.head?_cons, Option.some_inj] at h
        rw [h]
      · rw [Nat.toDigits_of_base_le (by omega) (by omega),
          List.head?_append_of_ne_nil _ Nat.toDigits_ne_nil] at h
        have hzero := Nat.ofDigitChars_toDigits (b := 10) (n := n / 10) (by omega) (by omega)
        rw [ih (n / 10) (by omega) h] at hzero
        have hdiv : 0 = n / 10 := hzero
        omega

lemma isDigits_toDigits (n : Nat) : IsDigits (Nat.toDigits 10 n) :=
  ⟨Nat.toDigits_ne_nil, fun _ => Nat.isDigit_of_mem_toDigits (by decide) (by decide)⟩

/-- The text of a number: digits, and a sign in front if the number is negative. -/
lemma toList_toString_int (n : Int) :
    (toString n).toList = (if n < 0 then ['-'] else []) ++ Nat.toDigits 10 n.natAbs := by
  cases n with
  | ofNat m =>
      rw [if_neg (show ¬Int.ofNat m < 0 by simp), List.nil_append]
      exact Nat.toList_repr
  | negSucc m =>
      rw [if_pos (Int.negSucc_lt_zero m)]
      change ("-" ++ toString (m + 1)).toList = _
      rw [String.toList_append, Nat.toString_eq_repr, Nat.toList_repr]
      rfl

lemma isNumber_toString (n : Int) : IsNumber (toString n).toList := by
  refine ⟨if n < 0 then ['-'] else [], Nat.toDigits 10 n.natAbs, [], [], ?_, ?_, ?_, ?_, ?_⟩
  · rw [toList_toString_int, List.append_nil, List.append_nil]
  · split_ifs
    · exact .inr rfl
    · exact .inl rfl
  · exact ⟨isDigits_toDigits _, toDigits_eq_of_head?⟩
  · exact .inl rfl
  · exact .inl rfl

/-! ## Strings -/

instance (c : Char) : Decidable (IsHexDigit c) :=
  inferInstanceAs (Decidable (_ ∨ _))

lemma isHexDigit_hexDigit {n : Nat} (h : n < 16) : IsHexDigit (hexDigit n) := by
  have key : ∀ n : Fin 16, IsHexDigit (hexDigit n) := by decide
  exact key ⟨n, h⟩

/-- The characters that a letter stands for behind a backslash, in a compact text. -/
def shortEscapes : List (Char × Char) :=
  [('"', '"'), ('\\', '\\'), ('n', '\n'), ('r', '\r'), ('t', '\t'), ('b', '\x08'), ('f', '\x0c')]

/-- A character has an escape of its own, or it is a control or any other character. -/
lemma escape_cases (c : Char) :
    (∃ d, (d, c) ∈ shortEscapes ∧ escape c = ['\\', d]) ∨
    (c.toNat < 32 ∧
      escape c = ['\\', 'u', '0', '0', hexDigit (c.toNat / 16), hexDigit (c.toNat % 16)]) ∨
    (32 ≤ c.toNat ∧ c ≠ '"' ∧ c ≠ '\\' ∧ escape c = [c]) := by
  unfold escape
  split_ifs with h₁ h₂ h₃ h₄ h₅ h₆ h₇ h₈
  · exact .inl ⟨'"', by rw [h₁]; decide, rfl⟩
  · exact .inl ⟨'\\', by rw [h₂]; decide, rfl⟩
  · exact .inl ⟨'n', by rw [h₃]; decide, rfl⟩
  · exact .inl ⟨'r', by rw [h₄]; decide, rfl⟩
  · exact .inl ⟨'t', by rw [h₅]; decide, rfl⟩
  · exact .inl ⟨'b', by rw [h₆]; decide, rfl⟩
  · exact .inl ⟨'f', by rw [h₇]; decide, rfl⟩
  · exact .inr (.inl ⟨h₈, rfl⟩)
  · exact .inr (.inr ⟨Nat.not_lt.1 h₈, h₁, h₂, rfl⟩)

lemma isStringChar_escape (c : Char) : IsStringChar (escape c) := by
  rcases escape_cases c with ⟨d, hd, heq⟩ | ⟨hc, heq⟩ | ⟨hc, hquote, hbackslash, heq⟩
  · have key : ∀ x ∈ shortEscapes, x.1 ∈ ['"', '\\', '/', 'b', 'f', 'n', 'r', 't'] := by decide
    rw [heq]
    exact .short (key _ hd)
  · rw [heq]
    exact .code (.inl (by decide)) (.inl (by decide)) (isHexDigit_hexDigit (by omega))
      (isHexDigit_hexDigit (by omega))
  · rw [heq]
    exact .plain hc hquote hbackslash

lemma isString_quoted (s : String) : IsString (quoted s) := by
  refine ⟨s.toList.map escape, rfl, fun p hp => ?_⟩
  obtain ⟨c, -, rfl⟩ := List.mem_map.1 hp
  exact isStringChar_escape c

/-! ## Compact texts are documents -/

lemma isBlank_nil : IsBlank [] := nofun

lemma isItems_commaSeparated {items : List Json} (hne : items ≠ [])
    (h : ∀ j ∈ items, IsValue j.chars) : IsItems (commaSeparated chars items) := by
  induction items with
  | nil => exact absurd rfl hne
  | cons j rest ih =>
      rw [List.forall_mem_cons] at h
      cases rest with
      | nil =>
          rw [commaSeparated]
          simpa using IsItems.one isBlank_nil h.1 isBlank_nil
      | cons j' rest =>
          rw [commaSeparated_cons_cons]
          simpa using IsItems.more isBlank_nil h.1 isBlank_nil (ih (List.cons_ne_nil _ _) h.2)

lemma isMembers_commaSeparated {members : List (String × Json)} (hne : members ≠ [])
    (h : ∀ m ∈ members, IsValue m.2.chars) : IsMembers (commaSeparated memberText members) := by
  induction members with
  | nil => exact absurd rfl hne
  | cons m rest ih =>
      rw [List.forall_mem_cons] at h
      have hkey := isString_quoted m.1
      cases rest with
      | nil =>
          rw [commaSeparated, memberText]
          simpa using IsMembers.one isBlank_nil hkey isBlank_nil isBlank_nil h.1 isBlank_nil
      | cons m' rest =>
          rw [commaSeparated_cons_cons, memberText]
          simpa using IsMembers.more isBlank_nil hkey isBlank_nil isBlank_nil h.1 isBlank_nil
            (ih (List.cons_ne_nil _ _) h.2)

lemma isValue_chars (j : Json) : IsValue j.chars := by
  induction j using rec_of_mem with
  | null => exact .null
  | bool b =>
      cases b
      · exact .false
      · exact .true
  | number n => exact .number (isNumber_toString n)
  | text s => exact .string (isString_quoted s)
  | array items ih =>
      rw [chars, itemChars_eq]
      by_cases hne : items = []
      · rw [hne]
        exact .emptyArray isBlank_nil
      · exact .array (isItems_commaSeparated hne ih)
  | object members ih =>
      rw [chars, memberChars_eq]
      by_cases hne : members = []
      · rw [hne]
        exact .emptyObject isBlank_nil
      · exact .object (isMembers_commaSeparated hne ih)

/-- **The text of a document is a document**, whatever texts stand in it. -/
theorem isDocument_compact (j : Json) : IsDocument j.compact := by
  refine ⟨[], j.chars, [], ?_, isBlank_nil, isValue_chars j, isBlank_nil⟩
  rw [compact, String.toList_ofList, List.nil_append, List.append_nil]

/-! ## There are no controls in them -/

/-- Whether all characters can be printed. -/
def IsPrintable (cs : List Char) : Prop :=
  ∀ c ∈ cs, 32 ≤ c.toNat

instance (cs : List Char) : Decidable (IsPrintable cs) :=
  List.decidableBAll _ cs

lemma isPrintable_append {cs ds : List Char} :
    IsPrintable (cs ++ ds) ↔ IsPrintable cs ∧ IsPrintable ds :=
  List.forall_mem_append

lemma isPrintable_cons {c : Char} {cs : List Char} :
    IsPrintable (c :: cs) ↔ 32 ≤ c.toNat ∧ IsPrintable cs :=
  List.forall_mem_cons

lemma isPrintable_escape (c : Char) : IsPrintable (escape c) := by
  rcases escape_cases c with ⟨d, hd, heq⟩ | ⟨hc, heq⟩ | ⟨hc, -, -, heq⟩
  · have key : ∀ x ∈ shortEscapes, IsPrintable ['\\', x.1] := by decide
    rw [heq]
    exact key _ hd
  · have key : ∀ n : Fin 32,
        IsPrintable ['\\', 'u', '0', '0', hexDigit (n / 16), hexDigit (n % 16)] := by decide
    rw [heq]
    exact key ⟨c.toNat, hc⟩
  · rw [heq]
    exact isPrintable_cons.2 ⟨hc, nofun⟩

lemma isPrintable_quoted (s : String) : IsPrintable (quoted s) := by
  have hinside : IsPrintable (s.toList.flatMap escape) := by
    intro c hc
    obtain ⟨d, -, hc⟩ := List.mem_flatMap.1 hc
    exact isPrintable_escape d c hc
  exact isPrintable_append.2 ⟨isPrintable_cons.2 ⟨by decide, hinside⟩, by decide⟩

lemma isPrintable_toString (n : Int) : IsPrintable (toString n).toList := by
  have hdigits : IsPrintable (Nat.toDigits 10 n.natAbs) := by
    intro c hc
    have hdigit := Nat.isDigit_of_mem_toDigits (by decide) (by decide) hc
    simp only [Char.isDigit, ge_iff_le, Bool.and_eq_true, decide_eq_true_eq,
      UInt32.le_iff_toNat_le] at hdigit
    exact Nat.le_trans (by decide) hdigit.1
  rw [toList_toString_int, isPrintable_append]
  refine ⟨?_, hdigits⟩
  split_ifs <;> decide

lemma isPrintable_commaSeparated {α : Type} {text : α → List Char} {xs : List α}
    (h : ∀ x ∈ xs, IsPrintable (text x)) : IsPrintable (commaSeparated text xs) := by
  induction xs with
  | nil => exact nofun
  | cons x rest ih =>
      rw [List.forall_mem_cons] at h
      cases rest with
      | nil => exact h.1
      | cons y rest => exact isPrintable_append.2 ⟨h.1, isPrintable_cons.2 ⟨by decide, ih h.2⟩⟩

lemma isPrintable_chars (j : Json) : IsPrintable j.chars := by
  induction j using rec_of_mem with
  | null => decide
  | bool b => cases b <;> decide
  | number n => exact isPrintable_toString n
  | text s => exact isPrintable_quoted s
  | array items ih =>
      rw [chars, itemChars_eq]
      exact isPrintable_append.2
        ⟨isPrintable_cons.2 ⟨by decide, isPrintable_commaSeparated ih⟩, by decide⟩
  | object members ih =>
      have hmembers : ∀ m ∈ members, IsPrintable (memberText m) := fun m hm =>
        isPrintable_append.2 ⟨isPrintable_quoted m.1, isPrintable_cons.2 ⟨by decide, ih m hm⟩⟩
      rw [chars, memberChars_eq]
      exact isPrintable_append.2
        ⟨isPrintable_cons.2 ⟨by decide, isPrintable_commaSeparated hmembers⟩, by decide⟩

/-- **There are no controls in the text of a document**, so it stays on the line on which it is
written. -/
theorem le_of_mem_encode_compact (j : Json) : ∀ b ∈ Utf8.encode j.compact, 0x20 ≤ b.toNat := by
  refine Utf8.le_of_mem_encode (by decide) ?_
  rw [compact, String.toList_ofList]
  exact isPrintable_chars j

end StandIn.Json
