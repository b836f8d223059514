import Mathlib.Algebra.Group.Nat.Defs
import Mathlib.Tactic.Lemma
import StandIn.Proofs.Net.AddressText

/-!
# Reading addresses back

An address has many texts, and is printed as one of them: leading zeros are left out, a run of zero
groups may be, and an address that embeds one of the older kind shows it with points.  Whichever
form is chosen, it is read as the address that was printed, whatever may follow that could not
belong to it.

* `readNumber_toDigits` — a number is read back from its digits.
* `EndsNumber` — what cannot belong to the number in front of it, nor to an address.
* `readIPv4_render`, `readIPv6_render` — addresses are read back.
* `exists_of_longestZeroRun` — what is left out consists of zeros.
* `SocketAddress.parse?_render`, `Address.parse?_render` — whole texts.
-/

namespace StandIn.Net

open Text

/-! ## Numbers -/

lemma digitValue?_digitChar {d : Nat} (h : d < 16) : digitValue? d.digitChar = some d := by
  have key : ∀ d : Fin 16, digitValue? d.val.digitChar = some d.val := by decide
  exact key ⟨d, h⟩

section Digits

variable {b : Nat} (hlo : 1 < b) (hhi : b ≤ 16)

include hlo hhi

/-- A number is made of its digits, the last of which is the remainder. -/
lemma toDigits_induction {motive : Nat → List Char → Prop}
    (digit : ∀ d < b, motive d [d.digitChar])
    (snoc : ∀ n d, 0 < n → d < b → motive n (Nat.toDigits b n) →
      motive (n * b + d) (Nat.toDigits b n ++ [d.digitChar]))
    (n : Nat) : motive n (Nat.toDigits b n) := by
  induction n using Nat.strongRecOn with
  | ind n ih =>
      by_cases hn : n < b
      · rw [Nat.toDigits_of_lt_base hn]
        exact digit n hn
      · have hpos : 0 < n / b := Nat.div_pos (by omega) (by omega)
        have hlast : n % b < b := Nat.mod_lt n (by omega)
        have hstep := snoc (n / b) (n % b) hpos hlast (ih _ (Nat.div_lt_self (by omega) hlo))
        rwa [Nat.div_add_mod', ← Nat.toDigits_of_base_le hlo (by omega)] at hstep

lemma isDigitOf_of_mem_toDigits (n : Nat) : ∀ c ∈ Nat.toDigits b n, isDigitOf b c = true := by
  have hdigit (d : Nat) (hd : d < b) : isDigitOf b d.digitChar = true := by
    rw [isDigitOf, digitValue?_digitChar (by omega)]
    exact decide_eq_true hd
  induction n using toDigits_induction hlo hhi with
  | digit d hd =>
      intro c hc
      rw [List.mem_singleton.1 hc]
      exact hdigit d hd
  | snoc n d _ hd ih =>
      intro c hc
      rcases List.mem_append.1 hc with hc | hc
      · exact ih c hc
      · rw [List.mem_singleton.1 hc]
        exact hdigit d hd

lemma numberOf_toDigits (n : Nat) : numberOf b (Nat.toDigits b n) = n := by
  induction n using toDigits_induction hlo hhi with
  | digit d hd => simp [numberOf, digitValue?_digitChar (show d < 16 by omega)]
  | snoc n d _ hd ih =>
      rw [numberOf] at ih ⊢
      rw [List.foldl_concat, ih, digitValue?_digitChar (by omega), Option.getD_some]

/-- No zero stands in front, unless it is the only digit. -/
lemma head?_toDigits_ne_zero {n : Nat} (hn : 0 < n) : (Nat.toDigits b n).head? ≠ some '0' := by
  induction n using toDigits_induction hlo hhi with
  | digit d hd => simpa using hn.ne'
  | snoc n d hpos hd ih =>
      rw [List.head?_append_of_ne_nil _ Nat.toDigits_ne_nil]
      exact ih hpos

end Digits

/-- What follows cannot belong to a number in front of it. -/
def EndsNumber (b : Nat) (rest : List Char) : Prop :=
  ∀ c ∈ rest.head?, isDigitOf b c = false

lemma endsNumber_cons {b : Nat} {c : Char} (h : isDigitOf b c = false) (rest : List Char) :
    EndsNumber b (c :: rest) := by
  rintro _ ⟨⟩
  exact h

lemma takeWhile_of_endsNumber {b : Nat} {rest : List Char} (h : EndsNumber b rest) :
    rest.takeWhile (isDigitOf b) = [] := by
  cases rest with
  | nil => rfl
  | cons c rest => simp [h c rfl]

lemma dropWhile_of_endsNumber {b : Nat} {rest : List Char} (h : EndsNumber b rest) :
    rest.dropWhile (isDigitOf b) = rest := by
  have hsplit := List.takeWhile_append_dropWhile (p := isDigitOf b) (l := rest)
  rwa [takeWhile_of_endsNumber h, List.nil_append] at hsplit

/-- **A number is read back from its digits**, if there are not too many of them. -/
lemma readNumber_toDigits {b bound n : Nat} {maxDigits : Option Nat} (leadingZeros : Bool)
    {rest : List Char} (hlo : 1 < b) (hhi : b ≤ 16) (hn : n < bound)
    (hmax : ∀ m ∈ maxDigits, 0 < m ∧ n < b ^ m) (hrest : EndsNumber b rest) :
    readNumber b bound maxDigits leadingZeros (Nat.toDigits b n ++ rest) = some (n, rest) := by
  have hshort : maxDigits.any (· < (Nat.toDigits b n).length) = false := by
    cases maxDigits with
    | none => rfl
    | some m =>
        have hm := hmax m rfl
        have hlength := (Nat.length_toDigits_le_iff hlo hm.1).2 hm.2
        simpa using hlength
  have hzero : ¬(!leadingZeros && decide (1 < (Nat.toDigits b n).length) &&
      decide ((Nat.toDigits b n).head? = some '0')) = true := by
    rcases Nat.eq_zero_or_pos n with rfl | hpos
    · simp
    · simp [head?_toDigits_ne_zero hlo hhi hpos]
  have hdigits : (Nat.toDigits b n ++ rest).takeWhile (isDigitOf b) = Nat.toDigits b n := by
    rw [List.takeWhile_append_of_pos (isDigitOf_of_mem_toDigits hlo hhi n),
      takeWhile_of_endsNumber hrest, List.append_nil]
  rw [readNumber, hdigits, numberOf_toDigits hlo hhi, hshort, if_neg (by simp), if_neg (by simp),
    if_neg hzero, if_neg (by omega), List.drop_left]

lemma readNumber_eq_none {b bound : Nat} {maxDigits : Option Nat} {leadingZeros : Bool}
    {cs : List Char} (h : EndsNumber b cs) :
    readNumber b bound maxDigits leadingZeros cs = none := by
  rw [readNumber, takeWhile_of_endsNumber h, if_pos List.isEmpty_nil]

/-! ## Addresses of four octets -/

lemma IPv4.toList_render (ip : IPv4) : ip.render.toList
    = Nat.toDigits 10 ip.a.toNat ++ '.' :: (Nat.toDigits 10 ip.b.toNat ++ '.' ::
        (Nat.toDigits 10 ip.c.toNat ++ '.' :: Nat.toDigits 10 ip.d.toNat)) := by
  have hpoint : (toString ".").toList = ['.'] := rfl
  simp [IPv4.render, String.toList_append, Nat.toString_eq_repr, hpoint]

lemma readOctet_toDigits (a : UInt8) {rest : List Char} (hrest : EndsNumber 10 rest) :
    readOctet (Nat.toDigits 10 a.toNat ++ rest) = some (a, rest) := by
  have ha : a.toNat < 256 := a.toNat_lt
  rw [readOctet, readNumber_toDigits false (by decide) (by decide) ha ?_ hrest]
  · simp
  · rintro m ⟨⟩
    exact ⟨by decide, by omega⟩

/-- **An address of four octets is read back**, up to a character that is no digit. -/
theorem readIPv4_render (ip : IPv4) {rest : List Char} (hrest : EndsNumber 10 rest) :
    readIPv4 (ip.render.toList ++ rest) = some (ip, rest) := by
  have hpoint (cs : List Char) : EndsNumber 10 ('.' :: cs) := endsNumber_cons (by decide) cs
  simp [IPv4.toList_render, readIPv4, readOctet_toDigits, hpoint, hrest, readChar]

/-- There is no such address where the first character that is no decimal digit is no point. -/
lemma readIPv4_eq_none {cs : List Char} (h : (cs.dropWhile (isDigitOf 10)).head? ≠ some '.') :
    readIPv4 cs = none := by
  rw [readIPv4]
  cases hread : readOctet cs with
  | none => rfl
  | some x =>
      obtain ⟨a, rest⟩ := x
      have hrest : rest = cs.dropWhile (isDigitOf 10) := by
        simp only [readOctet, readNumber, Option.map_eq_some_iff] at hread
        obtain ⟨x, hx, heq⟩ := hread
        split_ifs at hx
        cases hx
        cases heq
        exact drop_length_takeWhile cs
      have hpoint : readChar '.' rest = none := by
        rw [hrest]
        cases hcs : cs.dropWhile (isDigitOf 10) with
        | nil => rfl
        | cons c cs => exact if_neg fun hc => h (by rw [hcs, hc, List.head?_cons])
      simp [hpoint]

/-! ## Groups -/

lemma EndsNumber.decimal {cs : List Char} (h : EndsNumber 16 cs) : EndsNumber 10 cs := by
  intro c hc
  have hc := h c hc
  rw [isDigitOf] at hc ⊢
  split at hc
  · have hlarge := of_decide_eq_false hc
    exact decide_eq_false (by omega)
  · rfl

/-- Neither a group starts here, nor does an address of four octets go on. -/
structure StartsNoGroup (cs : List Char) : Prop where
  number : EndsNumber 16 cs
  point : cs.head? ≠ some '.'

/-- What follows cannot belong to the groups in front of it, not even behind a colon. -/
structure EndsGroups (rest : List Char) : Prop extends StartsNoGroup rest where
  behindColon : ∀ cs, readChar ':' rest = some cs → StartsNoGroup cs

lemma StartsNoGroup.read_eq_none {cs : List Char} (h : StartsNoGroup cs) :
    readIPv4 cs = none ∧ readNumber 16 65536 (some 4) true cs = none := by
  refine ⟨readIPv4_eq_none ?_, readNumber_eq_none h.number⟩
  rw [dropWhile_of_endsNumber h.number.decimal]
  exact h.point

/-- Groups with a colon in front of each. -/
def behindColons (gs : List UInt16) : List Char :=
  gs.flatMap fun g => ':' :: Nat.toDigits 16 g.toNat

lemma toList_renderGroup (g : UInt16) : (renderGroup g).toList = Nat.toDigits 16 g.toNat :=
  String.toList_ofList

lemma toList_renderGroups_cons (g : UInt16) (gs : List UInt16) :
    (renderGroups (g :: gs)).toList = Nat.toDigits 16 g.toNat ++ behindColons gs := by
  induction gs generalizing g with
  | nil => simp [renderGroups, behindColons, toList_renderGroup]
  | cons g' gs ih =>
      have hjoin : renderGroups (g :: g' :: gs) = renderGroup g ++ ":" ++ renderGroups (g' :: gs) :=
        String.intercalate_cons_cons
      rw [hjoin, String.toList_append, String.toList_append, ih, toList_renderGroup]
      simp [behindColons]

lemma startsNoGroup_colon (cs : List Char) : StartsNoGroup (':' :: cs) where
  number := endsNumber_cons (by decide) cs
  point := by simp

lemma StartsNoGroup.behindColons {rest : List Char} (h : StartsNoGroup rest) (gs : List UInt16) :
    StartsNoGroup (behindColons gs ++ rest) := by
  cases gs with
  | nil => exact h
  | cons g gs => exact startsNoGroup_colon _

/-- A group is not mistaken for the first number of an address of four octets. -/
lemma readIPv4_group (g : UInt16) {rest : List Char} (hrest : StartsNoGroup rest) :
    readIPv4 (Nat.toDigits 16 g.toNat ++ rest) = none := by
  have hdigits := isDigitOf_of_mem_toDigits (b := 16) (by decide) (by decide) g.toNat
  refine readIPv4_eq_none ?_
  generalize Nat.toDigits 16 g.toNat = digits at hdigits
  induction digits with
  | nil =>
      rw [List.nil_append, dropWhile_of_endsNumber hrest.number.decimal]
      exact hrest.point
  | cons c digits ih =>
      rw [List.cons_append, List.dropWhile_cons]
      split_ifs
      · exact ih fun c hc => hdigits c (List.mem_cons_of_mem _ hc)
      · rintro ⟨⟩
        exact absurd (hdigits '.' List.mem_cons_self) (by decide)

lemma readNumber_group (g : UInt16) {rest : List Char} (hrest : StartsNoGroup rest) :
    readNumber 16 65536 (some 4) true (Nat.toDigits 16 g.toNat ++ rest) = some (g.toNat, rest) := by
  have hg : g.toNat < 65536 := g.toNat_lt
  refine readNumber_toDigits true (by decide) (by decide) hg ?_ hrest.number
  rintro m ⟨⟩
  exact ⟨by decide, hg⟩

section Groups

variable {rest : List Char} (hrest : EndsGroups rest)

include hrest

/-- Nothing is read where groups end. -/
lemma readGroups_of_endsGroups (first : Bool) (room : Nat) :
    readGroups first room rest = ⟨[], false, rest⟩ := by
  cases room with
  | zero => rfl
  | succ room =>
      have hnone : (readSeparator first rest >>= readIPv4) = none ∧
          (readSeparator first rest >>= readNumber 16 65536 (some 4) true) = none := by
        cases first with
        | true => exact hrest.read_eq_none
        | false =>
            rw [readSeparator, if_neg (by decide)]
            cases hcolon : readChar ':' rest with
            | none => exact ⟨rfl, rfl⟩
            | some cs => exact (hrest.behindColon cs hcolon).read_eq_none
      rw [readGroups]
      simp [hnone]

/-- **Groups are read back**, if there is room for them. -/
lemma readGroups_behindColons {gs : List UInt16} {room : Nat} (hroom : gs.length ≤ room) :
    readGroups false room (behindColons gs ++ rest) = ⟨gs, false, rest⟩ := by
  induction gs generalizing room with
  | nil => exact readGroups_of_endsGroups hrest false room
  | cons g gs ih =>
      obtain ⟨room, rfl⟩ : ∃ r, room = r + 1 := ⟨room - 1, by simp at hroom; omega⟩
      have htext : behindColons (g :: gs) ++ rest
          = ':' :: (Nat.toDigits 16 g.toNat ++ (behindColons gs ++ rest)) := by
        simp [behindColons]
      rw [readGroups, htext]
      have hbehind := hrest.toStartsNoGroup.behindColons gs
      simp [readSeparator, readChar, readIPv4_group g hbehind, readNumber_group g hbehind,
        ih (Nat.le_of_succ_le_succ hroom)]

lemma readGroups_renderGroups {gs : List UInt16} {room : Nat} (hroom : gs.length ≤ room) :
    readGroups true room ((renderGroups gs).toList ++ rest) = ⟨gs, false, rest⟩ := by
  cases gs with
  | nil => exact readGroups_of_endsGroups hrest true room
  | cons g gs =>
      obtain ⟨room, rfl⟩ : ∃ r, room = r + 1 := ⟨room - 1, by simp at hroom; omega⟩
      rw [toList_renderGroups_cons, List.append_assoc, readGroups]
      have hbehind := hrest.toStartsNoGroup.behindColons gs
      simp [readSeparator, readIPv4_group g hbehind, readNumber_group g hbehind,
        readGroups_behindColons hrest (Nat.le_of_succ_le_succ hroom)]

end Groups

/-! ## Addresses of eight groups -/

/-- What follows cannot belong to an address in front of it. -/
structure EndsAddress (rest : List Char) : Prop extends StartsNoGroup rest where
  colon : rest.head? ≠ some ':'

lemma endsAddress_cons {c : Char} (hdigit : isDigitOf 16 c = false) (hpoint : c ≠ '.')
    (hcolon : c ≠ ':') (rest : List Char) : EndsAddress (c :: rest) where
  number := endsNumber_cons hdigit rest
  point := by simpa using hpoint
  colon := by simpa using hcolon

lemma endsAddress_nil : EndsAddress [] where
  number := by simp [EndsNumber]
  point := by simp
  colon := by simp

lemma EndsAddress.endsGroups {rest : List Char} (h : EndsAddress rest) : EndsGroups rest where
  toStartsNoGroup := h.toStartsNoGroup
  behindColon := by
    intro cs hcs
    cases rest with
    | nil => cases hcs
    | cons c rest =>
        rw [readChar] at hcs
        split_ifs at hcs with hc
        exact absurd (congrArg some hc) h.colon

lemma endsGroups_colons (cs : List Char) : EndsGroups (':' :: ':' :: cs) where
  toStartsNoGroup := startsNoGroup_colon _
  behindColon := by
    rintro _ ⟨⟩
    exact startsNoGroup_colon cs

lemma IPv6.length_groups (ip : IPv6) : ip.groups.toList.length = 8 :=
  ip.groups.length_toList

lemma IPv6.ofGroups?_groups (ip : IPv6) : IPv6.ofGroups? ip.groups.toList = some ip := by
  rw [IPv6.ofGroups?, dif_pos (by simp)]
  rfl

section Texts

variable {rest : List Char} (hrest : EndsAddress rest)

include hrest

/-- All groups are there. -/
lemma readIPv6_renderGroups (ip : IPv6) :
    readIPv6 ((renderGroups ip.groups.toList).toList ++ rest) = some (ip, rest) := by
  rw [readIPv6, readGroups_renderGroups hrest.endsGroups ip.length_groups.le]
  simp [IPv6.ofGroups?_groups]

omit hrest in
/-- What is read in front of two colons and behind them is filled up with zeros. -/
lemma readIPv6_of_readGroups {ip : IPv6} {front back : List UInt16} {text cs : List Char}
    {embedded : Bool} (hfront : readGroups true 8 text = ⟨front, false, ':' :: ':' :: cs⟩)
    (hback : readGroups true (7 - front.length) cs = ⟨back, embedded, rest⟩)
    (hlength : front.length ≠ 8)
    (hgroups : ip.groups.toList
      = front ++ List.replicate (8 - front.length - back.length) 0 ++ back) :
    readIPv6 text = some (ip, rest) := by
  have hip := ip.ofGroups?_groups
  rw [hgroups, List.append_assoc] at hip
  rw [readIPv6, hfront, if_neg hlength]
  simp [readChar, hback, hip]

/-- Some groups are left out, all of which are zero. -/
lemma readIPv6_of_gap {ip : IPv6} {front back : List UInt16} {n : Nat} (hn : 0 < n)
    (hgroups : ip.groups.toList = front ++ List.replicate n 0 ++ back) :
    readIPv6 ((renderGroups front).toList ++
      ':' :: ':' :: ((renderGroups back).toList ++ rest)) = some (ip, rest) := by
  have hlength : front.length + n + back.length = 8 := by
    rw [← ip.length_groups, hgroups]
    simp [Nat.add_assoc]
  have hfront := readGroups_renderGroups (endsGroups_colons ((renderGroups back).toList ++ rest))
    (show front.length ≤ 8 by omega)
  have hback := readGroups_renderGroups hrest.endsGroups
    (show back.length ≤ 7 - front.length by omega)
  refine readIPv6_of_readGroups hfront hback (by omega) ?_
  rw [hgroups, show 8 - front.length - back.length = n by omega]

/-- The last two groups are those of an address of four octets. -/
lemma readIPv6_of_embedded {ip : IPv6} {v4 : IPv4}
    (hgroups : ip.groups.toList = [0, 0, 0, 0, 0, 0xffff] ++ v4.asGroups) :
    readIPv6 ("::ffff:".toList ++ (v4.render.toList ++ rest)) = some (ip, rest) := by
  have hv4 : readIPv4 (v4.render.toList ++ rest) = some (v4, rest) :=
    readIPv4_render v4 hrest.number.decimal
  have hlast : readGroups false 6 (':' :: (v4.render.toList ++ rest))
      = ⟨v4.asGroups, true, rest⟩ := by
    rw [readGroups]
    simp [readSeparator, readChar, hv4]
  have hgroup (g : UInt16) :
      readGroups true 7 (Nat.toDigits 16 g.toNat ++ ':' :: (v4.render.toList ++ rest))
        = ⟨g :: v4.asGroups, true, rest⟩ := by
    have hcolon := startsNoGroup_colon (v4.render.toList ++ rest)
    rw [readGroups]
    simp [readSeparator, readIPv4_group g hcolon, readNumber_group g hcolon, hlast]
  have hmark : "::ffff:".toList ++ (v4.render.toList ++ rest)
      = ':' :: ':' :: (Nat.toDigits 16 (0xffff : UInt16).toNat ++
          ':' :: (v4.render.toList ++ rest)) := by
    have hdigits : Nat.toDigits 16 (0xffff : UInt16).toNat = ['f', 'f', 'f', 'f'] := by decide
    rw [hdigits]
    simp
  rw [hmark]
  exact readIPv6_of_readGroups (readGroups_of_endsGroups (endsGroups_colons _) true 8)
    (hgroup 0xffff)
    (by simp) hgroups

end Texts

/-- **What is left out.**  The longest run of zeros is a run of zeros, and it is in the list. -/
lemma exists_of_longestZeroRun (position : Nat) (gs : List UInt16) :
    ∃ front back, gs = front ++ List.replicate (longestZeroRun position gs).2 0 ++ back ∧
      (longestZeroRun position gs).1 = position + front.length := by
  induction gs generalizing position with
  | nil => exact ⟨[], [], rfl, rfl⟩
  | cons g gs ih =>
      rw [longestZeroRun]
      split_ifs
      · have hzeros : (g :: gs).takeWhile (· = 0) = List.replicate (zeroRun (g :: gs)) 0 :=
          List.eq_replicate_of_mem fun x hx => by simpa using List.mem_takeWhile_imp hx
        refine ⟨[], (g :: gs).dropWhile (· = 0), ?_, rfl⟩
        rw [List.nil_append, ← hzeros, List.takeWhile_append_dropWhile]
      · obtain ⟨front, back, hgs, hstart⟩ := ih (position + 1)
        refine ⟨g :: front, back, ?_, ?_⟩
        · rw [List.cons_append, List.cons_append, ← hgs]
        · rw [hstart, List.length_cons]
          omega

/-- The two halves of a group, as octets of an embedded address, make up the group again. -/
lemma group_of_octets (g : UInt16) :
    (g >>> 8).toUInt8.toUInt16 * 256 + g.toUInt8.toUInt16 = g := by
  apply UInt16.toNat_inj.1
  have hg : g.toNat < 65536 := g.toNat_lt
  simp [Nat.shiftRight_eq_div_pow]
  omega

lemma groups_of_embedded? {ip : IPv6} {v4 : IPv4} (h : ip.embedded? = some v4) :
    ip.groups.toList = [0, 0, 0, 0, 0, 0xffff] ++ v4.asGroups := by
  rw [IPv6.embedded?] at h
  split at h
  · rename_i g g' hgroups
    cases h
    rw [hgroups, IPv4.asGroups, group_of_octets, group_of_octets]
    rfl
  · cases h

/-- **An address of eight groups is read back**, whichever of its forms was printed. -/
theorem readIPv6_render (ip : IPv6) {rest : List Char} (hrest : EndsAddress rest) :
    readIPv6 (ip.render.toList ++ rest) = some (ip, rest) := by
  rw [IPv6.render]
  cases hembedded : ip.embedded? with
  | some v4 =>
      rw [String.toList_append, List.append_assoc]
      exact readIPv6_of_embedded hrest (groups_of_embedded? hembedded)
  | none =>
      obtain ⟨front, back, hgroups, hstart⟩ := exists_of_longestZeroRun 0 ip.groups.toList
      dsimp only
      split_ifs with hlong
      · rw [hstart, Nat.zero_add]
        generalize (longestZeroRun 0 ip.groups.toList).2 = n at hgroups hlong
        have htake : ip.groups.toList.take front.length = front := by
          rw [hgroups, List.append_assoc, List.take_left]
        have hdrop : ip.groups.toList.drop (front.length + n) = back := by
          rw [hgroups]
          exact List.drop_left' (by simp)
        rw [htake, hdrop]
        simpa using readIPv6_of_gap hrest (Nat.zero_lt_of_lt hlong) hgroups
      · exact readIPv6_renderGroups hrest ip

/-- Of two runs of the same length, the first one is left out, and a single zero never is. -/
example : (⟨⟨#[1, 0, 0, 2, 0, 0, 3, 0], rfl⟩⟩ : IPv6).render = "1::2:0:0:3:0" := by
  decide +kernel

lemma readIPv4_renderGroups (gs : List UInt16) {rest : List Char} (hrest : StartsNoGroup rest) :
    readIPv4 ((renderGroups gs).toList ++ rest) = none := by
  cases gs with
  | nil => exact hrest.read_eq_none.1
  | cons g gs =>
      rw [toList_renderGroups_cons, List.append_assoc]
      exact readIPv4_group g (hrest.behindColons gs)

/-- What is printed of an address of eight groups is not read as one of four octets. -/
lemma readIPv4_render_eq_none (ip : IPv6) : readIPv4 ip.render.toList = none := by
  rw [IPv6.render]
  split
  · rw [String.toList_append]
    exact readIPv4_renderGroups [] (startsNoGroup_colon _)
  · dsimp only
    split_ifs
    · rw [String.toList_append, String.toList_append, List.append_assoc]
      exact readIPv4_renderGroups _ (startsNoGroup_colon _)
    · have hread := readIPv4_renderGroups ip.groups.toList endsAddress_nil.toStartsNoGroup
      rwa [List.append_nil] at hread

/-! ## Sockets -/

lemma readPort_toDigits (port : UInt16) :
    readPort (':' :: Nat.toDigits 10 port.toNat) = some (port, []) := by
  have hport : port.toNat < 65536 := port.toNat_lt
  have hmax : ∀ m ∈ (none : Option Nat), 0 < m ∧ port.toNat < 10 ^ m := nofun
  have hend : EndsNumber 10 [] := by simp [EndsNumber]
  have hread := readNumber_toDigits true (by decide) (by decide) hport hmax hend
  rw [List.append_nil] at hread
  simp [readPort, readChar, hread]

/-- A scope as it is written behind an address. -/
def scopeText (scope : UInt32) : List Char :=
  if scope = 0 then [] else '%' :: Nat.toDigits 10 scope.toNat

lemma readScope_scopeText (scope : UInt32) (rest : List Char) :
    readScope (scopeText scope ++ ']' :: rest) = (scope, ']' :: rest) := by
  rw [scopeText]
  split_ifs with hzero
  · rw [hzero]
    rfl
  · have hscope : scope.toNat < 4294967296 := scope.toNat_lt
    have hmax : ∀ m ∈ (none : Option Nat), 0 < m ∧ scope.toNat < 10 ^ m := nofun
    have hend : EndsNumber 10 (']' :: rest) := endsNumber_cons (by decide) rest
    have hread := readNumber_toDigits true (by decide) (by decide) hscope hmax hend
    simp [readScope, readChar, hread]

lemma endsAddress_scopeText (scope : UInt32) (rest : List Char) :
    EndsAddress (scopeText scope ++ ']' :: rest) := by
  rw [scopeText]
  split_ifs
  · exact endsAddress_cons (by decide) (by decide) (by decide) rest
  · exact endsAddress_cons (by decide) (by decide) (by decide) _

namespace SocketAddress

lemma toList_render_v4 (ip : IPv4) (port : UInt16) : (v4 ip port).render.toList
    = ip.render.toList ++ ':' :: Nat.toDigits 10 port.toNat := by
  change (ip.render ++ ":" ++ toString port.toNat).toList = _
  simp [String.toList_append, Nat.toString_eq_repr]

lemma toList_render_v6 (ip : IPv6) (port : UInt16) (scope : UInt32) :
    (v6 ip port scope).render.toList
      = '[' :: (ip.render.toList ++
          (scopeText scope ++ ']' :: ':' :: Nat.toDigits 10 port.toNat)) := by
  rw [render, scopeText]
  split_ifs
  · change ("[" ++ ip.render ++ "]:" ++ toString port.toNat).toList = _
    simp [String.toList_append, Nat.toString_eq_repr]
  · change ("[" ++ ip.render ++ "%" ++ toString scope.toNat ++ "]:" ++ toString port.toNat).toList
      = _
    simp [String.toList_append, Nat.toString_eq_repr]

/-- **The address of a socket is read back**, with its port and its scope. -/
theorem parse?_render (a : SocketAddress) : parse? a.render = some a := by
  cases a with
  | v4 ip port =>
      have hread : readSocketV4 (v4 ip port).render.toList = some (v4 ip port, []) := by
        rw [toList_render_v4, readSocketV4, readIPv4_render ip (endsNumber_cons (by decide) _)]
        simp [readPort_toDigits]
      rw [parse?, hread]
      rfl
  | v6 ip port scope =>
      have hbracket (cs : List Char) : readSocketV4 ('[' :: cs) = none := by
        have hnone : readIPv4 ('[' :: cs) = none :=
          readIPv4_eq_none (by simp [isDigitOf, digitValue?])
        rw [readSocketV4, hnone]
        rfl
      have hread := readIPv6_render ip
        (endsAddress_scopeText scope (':' :: Nat.toDigits 10 port.toNat))
      rw [parse?, toList_render_v6, hbracket, Option.none_or]
      simp [readSocketV6, readChar, hread, readScope_scopeText, readPort_toDigits, whole?]

end SocketAddress

/-- **The address of a host is read back.** -/
theorem Address.parse?_render (a : Address) : parse? a.render = some a := by
  cases a with
  | v4 ip =>
      have hend : EndsNumber 10 [] := by simp [EndsNumber]
      have hread := readIPv4_render ip hend
      rw [List.append_nil] at hread
      rw [parse?, render, hread]
      rfl
  | v6 ip =>
      have hread := readIPv6_render ip endsAddress_nil
      rw [List.append_nil] at hread
      rw [parse?, render, hread, readIPv4_render_eq_none]
      rfl

/-- Two addresses are never printed as the same text. -/
lemma Address.render_injective {a a' : Address} (h : a.render = a'.render) : a = a' := by
  have hread := a.parse?_render
  rw [h, a'.parse?_render] at hread
  exact (Option.some.inj hread).symm

end StandIn.Net
