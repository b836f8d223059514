import StandIn.Proofs.Json.Grammar
import StandIn.Text.Digit

/-!
# Reading compact texts

Nothing is lost when a document is written: here is a reader that gets it back from its text.

* `Json.read?` — the document with a given text.
* `Json.isRead_chars` — every value is read back, whatever stands behind it.
* `Json.readString_quoted` — what was put between quotes is read back, and the quote that ends it
  is not mistaken for one inside it.
* `Json.read?_compact` — every document is read back from its text.
-/

namespace StandIn.Json

/-! ## The reader -/

/-- Reads what stands between quotes, behind the first one and to the end of the second one. -/
def readString : List Char → Option (List Char × List Char)
  | [] => none
  | '"' :: rest => some ([], rest)
  | '\\' :: 'u' :: a :: b :: c :: d :: rest =>
    (readString rest).map fun x => (Char.ofNat (Text.numberOf 16 [a, b, c, d]) :: x.1, x.2)
  | '\\' :: e :: rest =>
    match shortEscapes.lookup e with
    | some c => (readString rest).map fun x => (c :: x.1, x.2)
    | none => none
  | c :: rest => (readString rest).map fun x => (c :: x.1, x.2)

/-- Reads digits. -/
def readDigits (cs : List Char) : Nat × List Char :=
  (Nat.ofDigitChars 10 (cs.takeWhile Char.isDigit) 0, cs.dropWhile Char.isDigit)

/-- Reads a number. -/
def readNumber (cs : List Char) : Int × List Char :=
  if cs.head? = some '-' then (-(readDigits cs.tail).1, (readDigits cs.tail).2)
  else ((readDigits cs).1, (readDigits cs).2)

/-- Whether a number starts here. -/
def startsNumber (cs : List Char) : Bool :=
  cs.head?.any fun c => c = '-' || c.isDigit

/-- Reads what `readOne` reads, one or more times with commas between, and then `close`. -/
def readList {α : Type} (readOne : List Char → Option (α × List Char)) (close : Char) :
    (fuel : Nat) → List Char → Option (List α × List Char)
  | 0, _ => none
  | fuel + 1, cs =>
    match readOne cs with
    | some (x, c :: rest) =>
      if c = ',' then (readList readOne close fuel rest).map fun y => (x :: y.1, y.2)
      else if c = close then some ([x], rest)
      else none
    | _ => none

/-- Reads a member, with a value that `readOne` reads. -/
def readMember (readOne : List Char → Option (Json × List Char)) (cs : List Char) :
    Option ((String × Json) × List Char) :=
  if cs.head? = some '"' then
    match readString cs.tail with
    | some (key, ':' :: rest) => (readOne rest).map fun x => ((String.ofList key, x.1), x.2)
    | _ => none
  else none

/-- Reads a value that is no number; `readOne` reads the values in it. -/
def readOther (readOne : List Char → Option (Json × List Char)) (fuel : Nat) :
    List Char → Option (Json × List Char)
  | 'n' :: 'u' :: 'l' :: 'l' :: rest => some (.null, rest)
  | 't' :: 'r' :: 'u' :: 'e' :: rest => some (.bool true, rest)
  | 'f' :: 'a' :: 'l' :: 's' :: 'e' :: rest => some (.bool false, rest)
  | '"' :: rest => (readString rest).map fun x => (.text (String.ofList x.1), x.2)
  | '[' :: rest =>
    if rest.head? = some ']' then some (.array [], rest.tail)
    else (readList readOne ']' fuel rest).map fun x => (.array x.1, x.2)
  | '\x7b' :: rest =>
    if rest.head? = some '\x7d' then some (.object [], rest.tail)
    else (readList (readMember readOne) '\x7d' fuel rest).map fun x => (.object x.1, x.2)
  | _ => none

/-- Reads a value.  `fuel` bounds how deep values are inside one another, and how many there are
side by side. -/
def readValue : (fuel : Nat) → List Char → Option (Json × List Char)
  | 0, _ => none
  | fuel + 1, cs =>
    if startsNumber cs then some (.number (readNumber cs).1, (readNumber cs).2)
    else readOther (readValue fuel) fuel cs

/-- The document with the given text. -/
def read? (s : String) : Option Json :=
  match readValue s.toList.length s.toList with
  | some (j, []) => some j
  | _ => none

/-! ## Strings -/

lemma readString_escape (c : Char) (rest : List Char) :
    readString (escape c ++ rest) = (readString rest).map fun x => (c :: x.1, x.2) := by
  rcases escape_cases c with ⟨d, hd, heq⟩ | ⟨hc, heq⟩ | ⟨-, hquote, hbackslash, heq⟩
  · rw [heq]
    simp only [shortEscapes, List.mem_cons, Prod.mk.injEq, List.not_mem_nil, or_false] at hd
    rcases hd with ⟨rfl, rfl⟩ | ⟨rfl, rfl⟩ | ⟨rfl, rfl⟩ | ⟨rfl, rfl⟩ | ⟨rfl, rfl⟩ | ⟨rfl, rfl⟩ |
      ⟨rfl, rfl⟩ <;> rfl
  · have key : ∀ n : Fin 32, Char.ofNat
        (Text.numberOf 16 ['0', '0', hexDigit (n / 16), hexDigit (n % 16)]) = Char.ofNat n := by
      decide
    have hread := key ⟨c.toNat, hc⟩
    rw [Char.ofNat_toNat] at hread
    have hstep : readString (escape c ++ rest) = (readString rest).map fun x =>
        (Char.ofNat (Text.numberOf 16
          ['0', '0', hexDigit (c.toNat / 16), hexDigit (c.toNat % 16)]) :: x.1, x.2) := by
      rw [heq]
      rfl
    rwa [hread] at hstep
  · rw [heq, List.singleton_append, readString]
    · exact hquote
    · rintro _ _ _ _ _ rfl
      exact absurd rfl hbackslash
    · rintro _ _ rfl
      exact absurd rfl hbackslash

/-- **What was put between quotes is read back**, whatever follows. -/
theorem readString_quoted (s : String) (rest : List Char) :
    readString (s.toList.flatMap escape ++ '"' :: rest) = some (s.toList, rest) := by
  induction s.toList with
  | nil => rfl
  | cons c cs ih =>
      rw [List.flatMap_cons, List.append_assoc, readString_escape, ih]
      rfl

/-! ## Numbers -/

/-- Whether no digit follows, so that a number can end here. -/
def EndsNumber (rest : List Char) : Prop :=
  ∀ c ∈ rest.head?, c.isDigit = false

lemma readDigits_toDigits (n : Nat) {rest : List Char} (hrest : EndsNumber rest) :
    readDigits (Nat.toDigits 10 n ++ rest) = (n, rest) := by
  have hdigits : ∀ c ∈ Nat.toDigits 10 n, c.isDigit = true := (isDigits_toDigits n).2
  have hfront : rest.takeWhile Char.isDigit = [] ∧ rest.dropWhile Char.isDigit = rest := by
    cases rest with
    | nil => exact ⟨rfl, rfl⟩
    | cons c rest =>
        have hc := hrest c rfl
        simp [hc]
  rw [readDigits, List.takeWhile_append_of_pos hdigits, List.dropWhile_append_of_pos hdigits,
    hfront.1, hfront.2, List.append_nil, Nat.ofDigitChars_toDigits (by decide) (by decide)]

/-- The first digit of a number. -/
lemma toDigits_eq_cons (n : Nat) : ∃ d ds, Nat.toDigits 10 n = d :: ds ∧ d.isDigit = true := by
  obtain ⟨hne, hdigits⟩ := isDigits_toDigits n
  obtain ⟨d, ds, heq⟩ := List.exists_cons_of_ne_nil hne
  exact ⟨d, ds, heq, hdigits d (heq ▸ List.mem_cons_self)⟩

lemma readNumber_toString (n : Int) {rest : List Char} (hrest : EndsNumber rest) :
    readNumber ((toString n).toList ++ rest) = (n, rest) := by
  have hread := readDigits_toDigits n.natAbs hrest
  rw [toList_toString_int, readNumber]
  by_cases hneg : n < 0
  · rw [if_pos hneg, List.append_assoc, List.singleton_append, if_pos List.head?_cons,
      List.tail_cons, hread]
    exact Prod.ext (by dsimp only; omega) rfl
  · have hhead : (Nat.toDigits 10 n.natAbs ++ rest).head? ≠ some '-' := by
      obtain ⟨d, ds, heq, hd⟩ := toDigits_eq_cons n.natAbs
      rw [heq]
      rintro ⟨⟩
      cases hd
    rw [if_neg hneg, List.nil_append, if_neg hhead, hread]
    exact Prod.ext (by dsimp only; omega) rfl

lemma startsNumber_toString (n : Int) (rest : List Char) :
    startsNumber ((toString n).toList ++ rest) = true := by
  rw [toList_toString_int]
  by_cases hneg : n < 0
  · rw [if_pos hneg]
    rfl
  · obtain ⟨d, ds, heq, hd⟩ := toDigits_eq_cons n.natAbs
    rw [if_neg hneg, heq]
    simp [startsNumber, hd]

/-! ## Values -/

/-- Whether `readOne` reads `x` from its text, with nothing behind it with which a number could go
on. -/
def IsRead {α : Type} (readOne : List Char → Option (α × List Char)) (text : α → List Char)
    (x : α) : Prop :=
  ∀ ⦃rest⦄, EndsNumber rest → readOne (text x ++ rest) = some (x, rest)

lemma endsNumber_cons {c : Char} {rest : List Char} (hc : c.isDigit = false) :
    EndsNumber (c :: rest) := by
  rintro d ⟨⟩
  exact hc

/-- What is put between commas is read up to the end. -/
lemma readList_commaSeparated {α : Type} {readOne : List Char → Option (α × List Char)}
    {text : α → List Char} {close : Char} (hclose : close ≠ ',' ∧ close.isDigit = false)
    {xs : List α} (hne : xs ≠ []) (h : ∀ x ∈ xs, IsRead readOne text x) {fuel : Nat}
    (hfuel : xs.length ≤ fuel) (rest : List Char) :
    readList readOne close fuel (commaSeparated text xs ++ close :: rest) = some (xs, rest) := by
  induction xs generalizing fuel with
  | nil => exact absurd rfl hne
  | cons x xs ih =>
      rw [List.forall_mem_cons] at h
      obtain ⟨fuel, rfl⟩ := Nat.exists_eq_add_one_of_ne_zero (Nat.ne_zero_of_lt hfuel)
      cases xs with
      | nil =>
          rw [commaSeparated, readList, h.1 (endsNumber_cons hclose.2)]
          dsimp only
          rw [if_neg hclose.1, if_pos rfl]
      | cons y xs =>
          rw [commaSeparated_cons_cons, List.append_assoc, List.cons_append, readList,
            h.1 (endsNumber_cons rfl)]
          dsimp only
          rw [if_pos rfl, ih (List.cons_ne_nil _ _) h.2 (Nat.le_of_succ_le_succ hfuel)]
          rfl

lemma isRead_member {readOne : List Char → Option (Json × List Char)} {m : String × Json}
    (h : IsRead readOne chars m.2) : IsRead (readMember readOne) memberText m := by
  intro rest hrest
  have hkey := readString_quoted m.1 (':' :: (m.2.chars ++ rest))
  have htail : (memberText m ++ rest).tail
      = m.1.toList.flatMap escape ++ '"' :: ':' :: (m.2.chars ++ rest) := by
    simp [memberText, quoted]
  rw [readMember, if_pos (by rfl), htail, hkey]
  change (readOne (m.2.chars ++ rest)).map _ = _
  rw [h hrest, String.ofList_toList]
  rfl

/-! ## Documents -/

/-- A value has some text, and it does not start like the end of an array. -/
lemma chars_eq_cons (j : Json) : ∃ c cs, j.chars = c :: cs ∧ c ≠ ']' := by
  cases j with
  | number n =>
      rw [chars, toList_toString_int]
      obtain ⟨d, ds, heq, hd⟩ := toDigits_eq_cons n.natAbs
      rw [heq]
      split_ifs
      · exact ⟨_, _, rfl, by decide⟩
      · exact ⟨_, _, rfl, fun h => by rw [h] at hd; cases hd⟩
  | bool b => cases b <;> exact ⟨_, _, rfl, by decide⟩
  | null => exact ⟨_, _, rfl, by decide⟩
  | text | array | object => exact ⟨_, _, rfl, by decide⟩

lemma chars_ne_nil (j : Json) : j.chars ≠ [] := by
  obtain ⟨c, cs, heq, -⟩ := chars_eq_cons j
  exact heq ▸ List.cons_ne_nil c cs

lemma exists_eq_add_one_of_length_le {j : Json} {fuel : Nat} (h : j.chars.length ≤ fuel) :
    ∃ f, fuel = f + 1 := by
  have hpos := List.length_pos_of_ne_nil (chars_ne_nil j)
  exact Nat.exists_eq_add_one_of_ne_zero (by omega)

lemma length_text_le {α : Type} (text : α → List Char) {xs : List α} :
    ∀ x ∈ xs, (text x).length ≤ (commaSeparated text xs).length := by
  induction xs with
  | nil => exact nofun
  | cons x xs ih =>
      cases xs with
      | nil => exact List.forall_mem_singleton.2 (Nat.le_refl _)
      | cons y xs =>
          rw [commaSeparated_cons_cons, List.length_append, List.length_cons]
          refine List.forall_mem_cons.2 ⟨by omega, fun z hz => ?_⟩
          have hle := ih z hz
          omega

lemma length_le_length_commaSeparated {α : Type} {text : α → List Char}
    (h : ∀ x, text x ≠ []) (xs : List α) : xs.length ≤ (commaSeparated text xs).length := by
  induction xs with
  | nil => exact Nat.zero_le _
  | cons x xs ih =>
      have hpos := List.length_pos_of_ne_nil (h x)
      cases xs with
      | nil => exact hpos
      | cons y xs =>
          rw [commaSeparated_cons_cons, List.length_append]
          simp only [List.length_cons] at ih ⊢
          omega

/-- A list with items is not taken for an empty one. -/
lemma head?_commaSeparated_ne {α : Type} {text : α → List Char} {close : Char}
    (h : ∀ x, ∃ c cs, text x = c :: cs ∧ c ≠ close) {xs : List α} (hne : xs ≠ [])
    (rest : List Char) : (commaSeparated text xs ++ rest).head? ≠ some close := by
  cases xs with
  | nil => exact absurd rfl hne
  | cons x xs =>
      obtain ⟨c, cs, heq, hc⟩ := h x
      have hhead : some c ≠ some close := fun h => hc (Option.some_inj.1 h)
      cases xs with
      | nil => rwa [commaSeparated, heq]
      | cons y xs => rwa [commaSeparated_cons_cons, heq]

lemma readOther_array {readOne : List Char → Option (Json × List Char)} {items : List Json}
    (h : ∀ j ∈ items, IsRead readOne chars j) {fuel : Nat}
    (hfuel : (array items).chars.length ≤ fuel + 1) (rest : List Char) :
    readOther readOne fuel ((array items).chars ++ rest) = some (.array items, rest) := by
  by_cases hne : items = []
  · rw [hne]
    rfl
  · have htext : (array items).chars ++ rest
        = '[' :: (commaSeparated chars items ++ ']' :: rest) := by
      simp [chars, itemChars_eq]
    have hcount := length_le_length_commaSeparated chars_ne_nil items
    simp only [chars, itemChars_eq, List.length_append, List.length_cons] at hfuel
    rw [htext, readOther, if_neg (head?_commaSeparated_ne chars_eq_cons hne _),
      readList_commaSeparated (by decide) hne h (by omega)]
    rfl

lemma readOther_object {readOne : List Char → Option (Json × List Char)}
    {members : List (String × Json)} (h : ∀ m ∈ members, IsRead readOne chars m.2) {fuel : Nat}
    (hfuel : (object members).chars.length ≤ fuel + 1) (rest : List Char) :
    readOther readOne fuel ((object members).chars ++ rest) = some (.object members, rest) := by
  by_cases hne : members = []
  · rw [hne]
    rfl
  · have htext : (object members).chars ++ rest
        = '\x7b' :: (commaSeparated memberText members ++ '\x7d' :: rest) := by
      simp [chars, memberChars_eq]
    have hmember (m : String × Json) : memberText m ≠ [] := List.cons_ne_nil _ _
    have hcount := length_le_length_commaSeparated hmember members
    simp only [chars, memberChars_eq, List.length_append, List.length_cons] at hfuel
    have hhead (m : String × Json) : ∃ c cs, memberText m = c :: cs ∧ c ≠ '\x7d' :=
      ⟨'"', _, rfl, by decide⟩
    rw [htext, readOther, if_neg (head?_commaSeparated_ne hhead hne _),
      readList_commaSeparated (by decide) hne (fun m hm => isRead_member (h m hm)) (by omega)]
    rfl

/-- **Every value is read back from its text.** -/
theorem isRead_chars (j : Json) {fuel : Nat} (hfuel : j.chars.length ≤ fuel) :
    IsRead (readValue fuel) chars j := by
  obtain ⟨fuel, rfl⟩ := exists_eq_add_one_of_length_le hfuel
  induction j using rec_of_mem generalizing fuel with
  | null => exact fun _ _ => rfl
  | bool b => cases b <;> exact fun _ _ => rfl
  | number n =>
      intro rest hrest
      rw [chars, readValue, if_pos (startsNumber_toString n rest), readNumber_toString n hrest]
  | text s =>
      intro rest _
      have htext : (text s).chars ++ rest = '"' :: (s.toList.flatMap escape ++ '"' :: rest) := by
        simp [chars, quoted]
      rw [htext]
      change (readString _).map _ = _
      rw [readString_quoted, Option.map_some, String.ofList_toList]
  | array items ih =>
      intro rest _
      refine readOther_array (fun j hj => ?_) hfuel rest
      have hle : j.chars.length ≤ fuel := by
        have htext := length_text_le chars j hj
        simp only [chars, itemChars_eq, List.length_append, List.length_cons] at hfuel
        omega
      obtain ⟨fuel, rfl⟩ := exists_eq_add_one_of_length_le hle
      exact ih j hj fuel hle
  | object members ih =>
      intro rest _
      refine readOther_object (fun m hm => ?_) hfuel rest
      have hle : m.2.chars.length ≤ fuel := by
        have htext := length_text_le memberText m hm
        simp only [chars, memberChars_eq, memberText, List.length_append, List.length_cons]
          at hfuel htext
        omega
      obtain ⟨fuel, rfl⟩ := exists_eq_add_one_of_length_le hle
      exact ih m hm fuel hle

/-- **Every document is read back from its text.** -/
theorem read?_compact (j : Json) : read? j.compact = some j := by
  have hread : readValue j.chars.length (j.chars ++ []) = some (j, []) :=
    isRead_chars j (Nat.le_refl _) nofun
  rw [List.append_nil] at hread
  rw [read?, compact, String.toList_ofList, hread]

end StandIn.Json
