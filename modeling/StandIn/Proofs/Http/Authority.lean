import Mathlib.Data.List.DropRight
import Mathlib.Tactic.Lemma
import StandIn.Proofs.Http.UriForm
import StandIn.Text.Digit

/-!
# Host and port of an authority

An authority is read character by character, and what is kept of it is its text.  Host and port are
looked for only when a connection is made: the host is what stands behind the last `@`, up to a colon
or a closing bracket, and the port is the number behind the last colon, if a number stands there.
Whoever wrote the authority meant the port to be what stands behind the host.

* `Scan.Follows` — what one character does to a scan, `Scan.follows_of_push`.
* `IsRead` — the texts that are read as authorities.
* `behindHost`, `portText?` — what stands behind the host, and the port among it.
* `host_append_behindHost` — what was read is its host, and what stands behind it.
* `host_eq_empty_iff` — when the host is empty.
* `port?_of_portText?` — where both notions of a port agree.
-/

namespace StandIn.Http.Authority

/-! ## Scans -/

/-- What is known of a scan after one more character. -/
structure Scan.Follows (s : Scan) (c : Char) (t : Scan) : Prop where
  opened : s.opened = true → t.opened = true
  opens : c = '[' → s.opened = false ∧ t.opened = true
  closed : c ≠ ']' → t.closed = s.closed
  closes : c = ']' → t.opened = true
  endsInAt : t.endsInAt = decide (c = '@')

lemma Scan.follows_of_push {s t : Scan} {c : Char} (h : s.push c = .ok t) : s.Follows c t := by
  rw [push] at h
  split_ifs at h with hcolon _ hopen hopened hclose hclosed hat hpercent _
  · cases h
    subst hcolon
    exact ⟨id, fun heq => absurd heq (by decide), fun _ => rfl, fun heq => absurd heq (by decide),
      rfl⟩
  · cases h
    subst hopen
    simp only [Bool.or_eq_true, not_or, Bool.not_eq_true] at hopened
    exact ⟨fun _ => rfl, fun _ => ⟨hopened.2, rfl⟩, fun _ => rfl,
      fun heq => absurd heq (by decide), rfl⟩
  · cases h
    subst hclose
    simp only [Bool.or_eq_true, not_or, Bool.not_eq_true, Bool.not_eq_false'] at hclosed
    exact ⟨id, fun heq => absurd heq (by decide), fun hne => absurd rfl hne, fun _ => hclosed.1,
      rfl⟩
  · cases h
    exact ⟨id, fun heq => absurd heq hopen, fun _ => rfl, fun heq => absurd heq hclose,
      (decide_eq_true hat).symm⟩
  · cases h
    exact ⟨id, fun heq => absurd heq hopen, fun _ => rfl, fun heq => absurd heq hclose,
      (decide_eq_false hat).symm⟩
  · cases h
    exact ⟨id, fun heq => absurd heq hopen, fun _ => rfl, fun heq => absurd heq hclose,
      (decide_eq_false hat).symm⟩

/-- Brackets stay open, and are closed by nothing but a bracket, which has to be opened before. -/
lemma opened_and_closed_of_foldlM {cs : List Char} {s t : Scan}
    (h : cs.foldlM Scan.push s = .ok t) :
    (s.opened = true → t.opened = true) ∧ (']' ∉ cs → t.closed = s.closed) ∧
      ((s.closed = true → s.opened = true) → t.closed = true → t.opened = true) := by
  induction cs generalizing s with
  | nil =>
      cases h
      exact ⟨id, fun _ => rfl, id⟩
  | cons c cs ih =>
      obtain ⟨s', hpush, hrest⟩ := bind_eq_ok_iff.1 h
      have hfollows := Scan.follows_of_push hpush
      obtain ⟨hopened, hclosed, hinv⟩ := ih hrest
      refine ⟨hopened ∘ hfollows.opened, fun hmem => ?_, fun hs => hinv fun hs' => ?_⟩
      · rw [List.mem_cons, not_or] at hmem
        rw [hclosed hmem.2, hfollows.closed (Ne.symm hmem.1)]
      · by_cases hc : c = ']'
        · exact hfollows.closes hc
        · exact hfollows.opened (hs (hfollows.closed hc ▸ hs'))

lemma endsInAt_of_foldlM {cs : List Char} {c : Char} {s t : Scan}
    (h : (cs ++ [c]).foldlM Scan.push s = .ok t) : t.endsInAt = decide (c = '@') := by
  rw [List.foldlM_append] at h
  obtain ⟨s', -, hlast⟩ := bind_eq_ok_iff.1 h
  obtain ⟨t', hpush, heq⟩ := bind_eq_ok_iff.1 hlast
  cases heq
  exact (Scan.follows_of_push hpush).endsInAt

/-! ## Authorities that are read -/

lemma hostAndPort_eq_rtakeWhile (cs : List Char) :
    hostAndPort cs = cs.rtakeWhile (· ≠ '@') :=
  rfl

/-- The text is read as an authority. -/
def IsRead (cs : List Char) : Prop :=
  ∃ s : Scan, cs.foldlM Scan.push {} = .ok s ∧ s.complete = true

lemma isRead_of_split {cs front rest : List Char} (h : split cs = .ok (front, rest)) :
    IsRead front := by
  rw [split] at h
  split at h
  · cases h
  obtain ⟨s, hscan, h⟩ := bind_eq_ok_iff.1 h
  split_ifs at h with hcomplete
  obtain ⟨rfl, -⟩ := Prod.mk.inj (Except.ok.inj h)
  exact ⟨s, hscan, hcomplete⟩

/-- Something follows the last `@`. -/
lemma IsRead.hostAndPort_ne_nil {cs : List Char} (h : IsRead cs) (hne : cs ≠ []) :
    hostAndPort cs ≠ [] := by
  obtain ⟨s, hscan, hcomplete⟩ := h
  obtain ⟨front, c, rfl⟩ := (List.eq_nil_or_concat' cs).resolve_left hne
  rw [hostAndPort_eq_rtakeWhile, ne_eq, List.rtakeWhile_eq_nil_iff]
  intro hlast
  have hc : c = '@' := by simpa using hlast hne
  subst hc
  simp [Scan.complete, endsInAt_of_foldlM hscan] at hcomplete

/-- A bracket behind which no bracket is closed is not read. -/
lemma IsRead.mem_of_bracket {front w : List Char} (h : IsRead (front ++ '[' :: w)) : ']' ∈ w := by
  obtain ⟨t, hscan, hcomplete⟩ := h
  by_contra hmem
  rw [List.foldlM_append] at hscan
  obtain ⟨s, hfront, hrest⟩ := bind_eq_ok_iff.1 hscan
  obtain ⟨s', hpush, hw⟩ := bind_eq_ok_iff.1 hrest
  obtain ⟨hopened, hopens⟩ := (Scan.follows_of_push hpush).opens rfl
  have hclosed : s.closed = false := by
    by_contra hclosed
    have hs := (opened_and_closed_of_foldlM hfront).2.2 (fun h => by cases h)
      (by simpa using hclosed)
    simp [hopened] at hs
  have hclosed' : t.closed = false := by
    rw [(opened_and_closed_of_foldlM hw).2.1 hmem,
      (Scan.follows_of_push hpush).closed (by decide), hclosed]
  simp [Scan.complete, hclosed', (opened_and_closed_of_foldlM hw).1 hopens] at hcomplete

/-! ## Host and port -/

/-- What stands behind the host. -/
def behindHost (authority : String) : List Char :=
  (hostAndPort authority.toList).drop (host authority).toList.length

/-- The text of the port: what stands behind a colon behind the host. -/
def portText? (authority : String) : Option (List Char) :=
  match behindHost authority with
  | ':' :: part => some part
  | _ => none

lemma host_of_bracket {authority : String} {w : List Char}
    (h : hostAndPort authority.toList = '[' :: w) :
    (host authority).toList = '[' :: w.takeWhile (· ≠ ']') ++ [']'] := by
  rw [host, h]
  simp

lemma host_of_no_bracket {authority : String}
    (h : ∀ w, hostAndPort authority.toList ≠ '[' :: w) :
    (host authority).toList = (hostAndPort authority.toList).takeWhile (· ≠ ':') := by
  rw [host]
  split
  · rename_i w hw
    exact absurd hw (h w)
  · exact String.toList_ofList

/-- A list with an item in it is what stands in front of the item, the item, and a rest. -/
lemma exists_eq_takeWhile_append {cs : List Char} {c : Char} (h : c ∈ cs) :
    ∃ back, cs = cs.takeWhile (· ≠ c) ++ ([c] ++ back) := by
  obtain ⟨front, back, rfl, hfront⟩ := List.eq_append_cons_of_mem h
  refine ⟨back, ?_⟩
  have hpass : ∀ x ∈ front, decide (x ≠ c) = true := fun x hx =>
    decide_eq_true fun heq => hfront (heq ▸ hx)
  rw [List.takeWhile_append_of_pos hpass]
  simp

/-- **What was read is a host, and what stands behind it**, apart from what ends in an `@`. -/
theorem host_append_behindHost {authority : String} (h : IsRead authority.toList) :
    (host authority).toList ++ behindHost authority = hostAndPort authority.toList := by
  have hprefix : (host authority).toList <+: hostAndPort authority.toList := by
    by_cases hbracket : ∃ w, hostAndPort authority.toList = '[' :: w
    · obtain ⟨w, hw⟩ := hbracket
      obtain ⟨front, hfront⟩ : hostAndPort authority.toList <:+ authority.toList :=
        List.rtakeWhile_suffix _ _
      have hmem : ']' ∈ w := by
        rw [← hfront, hw] at h
        exact h.mem_of_bracket
      obtain ⟨back, hback⟩ := exists_eq_takeWhile_append hmem
      exact ⟨back, by rw [host_of_bracket hw, hw, List.append_assoc, List.cons_append, ← hback]⟩
    · rw [host_of_no_bracket (not_exists.1 hbracket)]
      exact List.takeWhile_prefix _
  obtain ⟨back, hback⟩ := hprefix
  rw [behindHost, ← hback, List.drop_left]

/-- **When the host is empty.** -/
theorem host_eq_empty_iff (authority : String) :
    host authority = "" ↔ hostAndPort authority.toList = [] ∨
      (hostAndPort authority.toList).head? = some ':' := by
  rw [← String.toList_inj]
  by_cases hbracket : ∃ w, hostAndPort authority.toList = '[' :: w
  · obtain ⟨w, hw⟩ := hbracket
    rw [host_of_bracket hw, hw]
    simp
  · rw [host_of_no_bracket (not_exists.1 hbracket)]
    cases hostAndPort authority.toList with
    | nil => simp
    | cons c w => by_cases hc : c = ':' <;> simp [hc]

/-- **A port behind the host is the one that is connected to**, if no colon is in it. -/
theorem port?_of_portText? {authority : String} {part : List Char}
    (h : portText? authority = some part) (hcolon : ':' ∉ part) :
    port? authority = portNumber? part := by
  have hbehind : behindHost authority = ':' :: part := by
    rw [portText?] at h
    split at h
    · cases h
      assumption
    · cases h
  have hsuffix : behindHost authority <:+ authority.toList :=
    (List.drop_suffix _ _).trans (List.rtakeWhile_suffix _ _)
  obtain ⟨front, hfront⟩ := hsuffix
  have hpass : ∀ c ∈ part.reverse, decide (c ≠ ':') = true := fun c hc =>
    decide_eq_true fun heq => hcolon (heq ▸ List.mem_reverse.1 hc)
  have hlast : authority.toList.rtakeWhile (· ≠ ':') = part := by
    rw [← hfront, hbehind, List.rtakeWhile, List.reverse_append, List.reverse_cons,
      List.append_assoc, List.takeWhile_append_of_pos hpass]
    simp
  have hmem : authority.toList.contains ':' = true := by
    rw [← hfront, hbehind]
    simp
  rw [port?]
  simp only [hmem, if_true]
  exact congrArg portNumber? hlast

/-- The text of a number that ports have: decimal digits, perhaps behind a plus sign. -/
def IsPortText (part : List Char) : Prop :=
  ∃ digits, (part = digits ∨ part = '+' :: digits) ∧ digits ≠ [] ∧
    (∀ c ∈ digits, c.isDigit = true) ∧ Text.numberOf 10 digits < 65536

lemma getD_digitValue? {c : Char} (h : c.isDigit = true) :
    (Text.digitValue? c).getD 0 = c.toNat - 48 := by
  have hdigit : '0' ≤ c ∧ c ≤ '9' := by simpa [Char.isDigit, Char.le_def] using h
  rw [Text.digitValue?, if_pos hdigit, Option.getD_some]

lemma numberOf_eq_foldl {digits : List Char} (h : ∀ c ∈ digits, c.isDigit = true) :
    Text.numberOf 10 digits = digits.foldl (fun n c => n * 10 + (c.toNat - 48)) 0 :=
  List.foldl_ext _ _ _ fun n c hc => by rw [getD_digitValue? (h c hc)]

lemma not_mem_colon_of_isPortText {part : List Char} (h : IsPortText part) : ':' ∉ part := by
  obtain ⟨digits, hpart, -, hdigits, -⟩ := h
  have hnone : ':' ∉ digits := fun hmem => absurd (hdigits _ hmem) (by decide)
  rcases hpart with rfl | rfl
  · exact hnone
  · simpa using hnone

/-- The number below 65536 that digits without a sign stand for. -/
def unsigned? (digits : List Char) : Option Nat :=
  if digits.isEmpty || !digits.all Char.isDigit then none
  else
    let n := digits.foldl (fun n c => n * 10 + (c.toNat - 48)) 0
    if n < 65536 then some n else none

lemma portNumber?_plus (digits : List Char) : portNumber? ('+' :: digits) = unsigned? digits :=
  rfl

lemma portNumber?_of_ne {part : List Char} (h : ∀ digits, part ≠ '+' :: digits) :
    portNumber? part = unsigned? part := by
  rw [portNumber?, unsigned?]
  exact h

lemma unsigned?_isSome_iff (digits : List Char) :
    (unsigned? digits).isSome = true ↔
      digits ≠ [] ∧ (∀ c ∈ digits, c.isDigit = true) ∧ Text.numberOf 10 digits < 65536 := by
  rw [unsigned?]
  by_cases hne : digits = []
  · simp [hne]
  by_cases hall : ∀ c ∈ digits, c.isDigit = true
  · rw [List.all_eq_true.2 hall, numberOf_eq_foldl hall]
    simpa [hne] using fun _ => hall
  · have hall' : digits.all Char.isDigit = false := by
      rw [Bool.eq_false_iff, ne_eq, List.all_eq_true]
      exact hall
    simp [hall, hall']

/-- **Which texts are ports.** -/
theorem portNumber?_isSome_iff (part : List Char) :
    (portNumber? part).isSome = true ↔ IsPortText part := by
  by_cases hplus : ∃ digits, part = '+' :: digits
  · obtain ⟨digits, rfl⟩ := hplus
    rw [portNumber?_plus, unsigned?_isSome_iff]
    refine ⟨fun h => ⟨digits, .inr rfl, h⟩, ?_⟩
    rintro ⟨digits', hpart | hpart, h⟩
    · exact absurd (h.2.1 '+' (hpart ▸ List.mem_cons_self)) (by decide)
    · exact (List.cons.inj hpart).2 ▸ h
  · rw [portNumber?_of_ne (not_exists.1 hplus), unsigned?_isSome_iff]
    refine ⟨fun h => ⟨part, .inl rfl, h⟩, ?_⟩
    rintro ⟨digits, rfl | hpart, h⟩
    · exact h
    · exact absurd ⟨digits, hpart⟩ hplus

end StandIn.Http.Authority
