import StandIn.Proofs.Wire.Grammar
import StandIn.Proofs.Wire.Steps

/-!
# Places between records

A message is a run of records, and some of these hold runs of their own.  What is changed in one
place, between two records at whatever level, has no effect that is not seen in this place.

* `IsComplete` — the payload of a record that is laid out as its wire type says, and its end.
* `Level.IsRecord`, `Level.isRecord_iff_isComplete` — the same at a level, where there may be
  dictionaries.
* `Level.course_cons_iff` — the record in front is read first, and then what stands behind it.
* `Within` — octets that are the same up to some place.
* `Level.agrees_of_within` — what has the same effect in a place has the same effect around it.
-/

namespace StandIn

namespace Wire

open Reader

/-! ## Complete records -/

/-- The payload of a complete record.  Groups may be nested to any depth. -/
def IsComplete (k : Key) (p : Octets) : Prop :=
  ∃ depth, Passed depth k p

/-- What may be passed over may be passed over with more levels to go. -/
lemma Passed.mono {depth depth' : Nat} (hdepth : depth ≤ depth') {k : Key} {p : Octets}
    (h : Passed depth k p) : Passed depth' k p := by
  induction depth generalizing depth' k p with
  | zero => exact h.elim
  | succ depth ih =>
      obtain ⟨depth', rfl⟩ := Nat.exists_eq_add_one_of_ne_zero (Nat.ne_zero_of_lt hdepth)
      obtain ⟨number, wireType⟩ := k
      cases wireType with
      | groupStart =>
          obtain ⟨inside, close, rfl, hinside, hclose⟩ := h
          exact ⟨inside, close, rfl, hinside.mono fun _ _ => ih (Nat.le_of_succ_le_succ hdepth),
            hclose⟩
      | varint | fixed64 | delimited | groupEnd | fixed32 => exact h

section Unique

variable {α : Type} {p q x y : Octets}

/-- No octets that are read as a whole are the front of others. -/
lemma Reader.Spells.unique {r : Reader α} {a b : α} (hp : r.Spells p a) (hq : r.Spells q b)
    (h : p ++ x = q ++ y) : p = q ∧ a = b ∧ x = y := by
  have hrun := hp x
  rw [h, hq y] at hrun
  cases hrun
  exact ⟨List.append_cancel_right h, rfl, rfl⟩

lemma IsKey.unique {k k' : Key} (hp : IsKey p k) (hq : IsKey q k') (h : p ++ x = q ++ y) :
    p = q ∧ k = k' ∧ x = y :=
  (spells_key_iff.2 hp).unique (spells_key_iff.2 hq) h

lemma IsComplete.unique {k : Key} (hp : IsComplete k p) (hq : IsComplete k q)
    (h : p ++ x = q ++ y) : p = q ∧ x = y := by
  obtain ⟨m, hp⟩ := hp
  obtain ⟨n, hq⟩ := hq
  have hp' : (skip (max m n) k).Spells p () := spells_skip_iff.2 (hp.mono (Nat.le_max_left m n))
  have hq' : (skip (max m n) k).Spells q () := spells_skip_iff.2 (hq.mono (Nat.le_max_right m n))
  obtain ⟨hpq, -, hxy⟩ := hp'.unique hq' h
  exact ⟨hpq, hxy⟩

lemma Delimited.unique {body body' : Octets} (hp : Delimited body p) (hq : Delimited body' q)
    (h : p ++ x = q ++ y) : p = q ∧ body = body' ∧ x = y := by
  obtain ⟨m, rfl, hm⟩ := hp
  obtain ⟨n, rfl, hn⟩ := hq
  rw [List.append_assoc, List.append_assoc] at h
  obtain ⟨rfl, hlength, hrest⟩ := (spells_varint_iff.2 hm).unique (spells_varint_iff.2 hn) h
  obtain ⟨rfl, rfl⟩ := List.append_inj hrest hlength
  exact ⟨rfl, rfl, rfl⟩

end Unique

/-! ## Records of a level -/

namespace Level

/-- The payload of a complete record at a level.  It is laid out as its wire type says.  Only a
record of a dictionary is a stretch of octets after their length, whatever its wire type is, as
nothing else is read from it. -/
def IsRecord (l : Level) (k : Key) (p : Octets) : Prop :=
  match l.inner? k.number with
  | some .entry => ∃ body, Delimited body p
  | _ => IsComplete k p

lemma IsRecord.unique {l : Level} {k : Key} {p q x y : Octets} (hp : l.IsRecord k p)
    (hq : l.IsRecord k q) (h : p ++ x = q ++ y) : p = q ∧ x = y := by
  rw [IsRecord] at hp hq
  generalize l.inner? k.number = inner? at hp hq
  match inner?, hp, hq with
  | some .entry, ⟨body, hp⟩, ⟨body', hq⟩ =>
      obtain ⟨hpq, -, hxy⟩ := hp.unique hq h
      exact ⟨hpq, hxy⟩
  | some (.message t), hp, hq => exact IsComplete.unique hp hq h
  | none, hp, hq => exact IsComplete.unique hp hq h

lemma inner?_of_mem {l : Level} {part : Part l.Value} (h : part ∈ l.parts) :
    l.inner? part.number = part.inner? := by
  rw [inner?]
  cases hfind : l.parts.find? (·.number = part.number) with
  | none =>
      rw [List.find?_eq_none] at hfind
      exact absurd (decide_eq_true rfl) (hfind part h)
  | some other =>
      have hnumber : other.number = part.number := by simpa using List.find?_some hfind
      rw [l.conforms.unique part h other (List.mem_of_find?_eq_some hfind) hnumber]
      rfl

lemma inner?_of_not_mem {l : Level} {number : Nat} (h : number ∉ l.numbers) :
    l.inner? number = none := by
  rw [inner?, List.find?_eq_none.2, Option.bind_none]
  intro part hpart hnumber
  exact h (of_decide_eq_true hnumber ▸ List.mem_map_of_mem hpart)

lemma exists_of_inner? {l l' : Level} {number : Nat} (h : l.inner? number = some l') :
    ∃ part ∈ l.parts, part.number = number ∧ part.inner? = some l' := by
  obtain ⟨part, hfind, hinner⟩ := Option.bind_eq_some_iff.1 h
  exact ⟨part, List.mem_of_find?_eq_some hfind, by simpa using List.find?_some hfind,
    hinner⟩

/-- Only complete records are read. -/
lemma isRecord_of_spells {l : Level} {depth : Nat} {k : Key} {a b : l.Value} {p : Octets}
    (h : (l.read depth k a).Spells p b) : l.IsRecord k p := by
  rw [IsRecord]
  cases l.conforms.spells_iff.1 h with
  | @taken part _ hpart hnumber htakes hothers =>
      have hlays := l.conforms.lays part hpart htakes
      dsimp only at hnumber
      rw [← hnumber, inner?_of_mem hpart]
      cases part with
      | dictionary => exact hlays
      | scalar | repeated | message? | messages => exact ⟨1, hlays⟩
  | passed hother hp =>
      rw [inner?_of_not_mem hother]
      exact ⟨depth, hp⟩

/-- If the records of dictionaries have the wire type that is declared for them, then this makes no
difference. -/
theorem isRecord_iff_isComplete {l : Level} {k : Key} {p : Octets}
    (h : l.inner? k.number = some .entry → k.wireType = .delimited) :
    l.IsRecord k p ↔ IsComplete k p := by
  rw [IsRecord]
  split
  · next hentry =>
    constructor
    · rintro ⟨body, hp⟩
      refine ⟨1, ?_⟩
      rw [Passed, h hentry]
      exact ⟨body, hp⟩
    · rintro ⟨_ | depth, hp⟩
      · exact hp.elim
      · rwa [Passed, h hentry] at hp
  · exact Iff.rfl

lemma isRecord_iff_of_not_mem {l : Level} {k : Key} (h : k.number ∉ l.numbers) {p : Octets} :
    l.IsRecord k p ↔ IsComplete k p :=
  isRecord_iff_isComplete fun hentry => by
    rw [inner?_of_not_mem h] at hentry
    cases hentry

/-- A record that belongs to no part is passed over. -/
lemma spells_iff_of_not_mem {l : Level} {depth : Nat} {k : Key} (h : k.number ∉ l.numbers)
    {a b : l.Value} {p : Octets} :
    (l.read depth k a).Spells p b ↔ b = a ∧ Passed depth k p := by
  rw [l.conforms.spells_iff]
  constructor
  · rintro (⟨hpart, hnumber, -, -⟩ | ⟨-, hp⟩)
    · exact absurd (List.mem_map_of_mem hpart) (hnumber ▸ h)
    · exact ⟨rfl, hp⟩
  · rintro ⟨rfl, hp⟩
    exact .passed h hp

/-- **A complete record in front** is what is read first, if anything is read. -/
theorem course_cons_iff {l : Level} {depth : Nat} {a c : l.Value} {k : Key} {ks p rest : Octets}
    (hk : IsKey ks k) (hp : l.IsRecord k p) :
    Course (l.read depth) a (ks ++ (p ++ rest)) c ↔
      ∃ b, (l.read depth k a).Spells p b ∧ Course (l.read depth) b rest c := by
  constructor
  · intro h
    generalize hbs : ks ++ (p ++ rest) = bs at h
    cases h with
    | nil =>
        have hpos := hk.2.2.1.length_pos
        simp_all
    | @cons _ b _ ks' p' rest' k' hk' hp' hrest =>
        obtain ⟨rfl, rfl, heq⟩ := hk.unique hk' hbs
        obtain ⟨rfl, rfl⟩ := hp.unique (isRecord_of_spells hp') heq
        exact ⟨b, hp', hrest⟩
  · rintro ⟨b, hb, hrest⟩
    exact .cons hk hb hrest

/-! ## Levels below a level -/

/-- How many levels there are below a level. -/
def height : Level → Nat
  | message t => t.height
  | entry => 0

lemma height_lt_of_inner? {l l' : Level} {number : Nat} (h : l.inner? number = some l') :
    l'.height < l.height := by
  have hlevels : ∀ o ∈ l.parts.map (·.inner?), ∀ l' ∈ o, l'.height < l.height := by
    cases l with
    | entry => decide
    | message t => cases t <;> decide
  obtain ⟨part, hpart, -, hinner⟩ := exists_of_inner? h
  exact hlevels _ (List.mem_map_of_mem hpart) l' hinner

/-- What a record that holds a level makes of its part depends on nothing but what becomes of this
level. -/
lemma takes_of_fills {M : Type} {part : Part M} {l' : Level} (hl' : part.inner? = some l')
    {depth depth' : Nat} {k : Key} {a b : M} {body body' p p' : Octets} (hbody : Delimited body p)
    (hbody' : Delimited body' p')
    (h : ∀ x y, l'.Fills depth x body y → l'.Fills depth' x body' y)
    (htakes : part.Takes depth (k, p) a b) : part.Takes depth' (k, p') a b := by
  have hheld {x y} (hxy : l'.HeldIn depth (k, p) x y) : l'.HeldIn depth' (k, p') x y := by
    obtain ⟨hw, other, hother, hfills⟩ := hxy
    obtain ⟨-, rfl, -⟩ := hbody.unique hother (rfl : p ++ [] = p ++ [])
    exact ⟨hw, body', hbody', h x y hfills⟩
  cases part with
  | scalar number s get => cases hl'
  | repeated number s get => cases hl'
  | message? number t get | messages number t get | dictionary number get =>
      cases hl'
      obtain ⟨x, hx, hb⟩ := htakes
      exact ⟨x, hheld hx, hb⟩

lemma spells_of_fills {l l' : Level} {depth depth' : Nat} {k : Key}
    (hl' : l.inner? k.number = some l') {a b : l.Value} {body body' p p' : Octets}
    (hbody : Delimited body p) (hbody' : Delimited body' p')
    (h : ∀ x y, l'.Fills depth x body y → l'.Fills depth' x body' y)
    (hspells : (l.read depth k a).Spells p b) : (l.read depth' k a).Spells p' b := by
  rw [l.conforms.spells_iff] at hspells ⊢
  cases hspells with
  | @taken part _ hpart hnumber htakes hothers =>
      refine .taken hpart hnumber (takes_of_fills ?_ hbody hbody' h htakes) hothers
      rw [← inner?_of_mem hpart, hnumber]
      exact hl'
  | passed hother hp =>
      rw [inner?_of_not_mem hother] at hl'
      cases hl'

/-- The octets of two runs of records have the same effect. -/
def Agrees (l : Level) (depth : Nat) (bs bs' : Octets) : Prop :=
  ∀ a b, Course (l.read depth) a bs b ↔ Course (l.read depth) a bs' b

end Level

/-! ## Places -/

/-- Two octet sequences are the same up to a place between records, at the level itself or at any
level below it, and from this place on they are related by `R`.  If the place is in a body, the
lengths that are announced for the two bodies are their own. -/
inductive Within (R : Level → Octets → Octets → Prop) : Level → Octets → Octets → Prop
  | here {l : Level} {bs bs' : Octets} (h : R l bs bs') : Within R l bs bs'
  | behind {l : Level} {k : Key} {ks p bs bs' : Octets} (hk : IsKey ks k) (hp : l.IsRecord k p)
      (h : Within R l bs bs') : Within R l (ks ++ (p ++ bs)) (ks ++ (p ++ bs'))
  | inside {l l' : Level} {k : Key} {ks p p' body body' rest : Octets} (hk : IsKey ks k)
      (hl' : l.inner? k.number = some l') (hw : l'.Admits k.wireType) (hp : Delimited body p)
      (hp' : Delimited body' p') (h : Within R l' body body') :
      Within R l (ks ++ (p ++ rest)) (ks ++ (p' ++ rest))

namespace Level

lemma isRecord_of_delimited {l l' : Level} {k : Key} (hl' : l.inner? k.number = some l')
    (hw : l'.Admits k.wireType) {body p : Octets} (hp : Delimited body p) : l.IsRecord k p := by
  rw [IsRecord, hl']
  cases l' with
  | entry => exact ⟨body, hp⟩
  | message t =>
      refine ⟨1, ?_⟩
      rw [Passed, show k.wireType = .delimited from hw]
      exact ⟨body, hp⟩

/-- **What has the same effect in a place has the same effect around it.**  `room` is how many more
levels have to be left in the place. -/
theorem agrees_of_within {R : Level → Octets → Octets → Prop} {room : Nat}
    (hR : ∀ {l depth bs bs'}, room ≤ depth → R l bs bs' → l.Agrees depth bs bs') {l : Level}
    {bs bs' : Octets} (h : Within R l bs bs') {depth : Nat} (hdepth : l.height + room ≤ depth) :
    l.Agrees depth bs bs' := by
  induction h generalizing depth with
  | here h => exact hR (Nat.le_of_add_left_le hdepth) h
  | behind hk hp _ ih =>
      intro a b
      simp only [course_cons_iff hk hp, ih hdepth _ _]
  | @inside l l' k ks p p' body body' rest hk hl' hw hp hp' _ ih =>
      -- the body is read with one level less, but there is also one level less below it
      have hlt := height_lt_of_inner? hl'
      obtain ⟨depth, rfl⟩ := Nat.exists_eq_add_one_of_ne_zero (by omega : depth ≠ 0)
      have hbody : l'.Agrees depth body body' := ih (by omega)
      intro a c
      rw [course_cons_iff hk (isRecord_of_delimited hl' hw hp),
        course_cons_iff hk (isRecord_of_delimited hl' hw hp')]
      refine exists_congr fun b => and_congr_left fun _ => ⟨?_, ?_⟩
      · exact spells_of_fills hl' hp hp' fun x y => (hbody x y).1
      · exact spells_of_fills hl' hp' hp fun x y => (hbody x y).2

end Level

end Wire

open Wire in
/-- Octets that have the same effect are merged alike. -/
lemma MessageType.merge_congr {t : MessageType} {bs bs' : Octets}
    (h : (Level.message t).Agrees nestingLimit bs bs') {old new : t.Value} :
    t.codec.merge old bs = .ok new ↔ t.codec.merge old bs' = .ok new := by
  rw [merge_eq_ok_iff, merge_eq_ok_iff]
  exact h old new

/-- At every level of a message there is room for many groups. -/
lemma MessageType.height_add_lt_nestingLimit (t : MessageType) :
    t.height + (90 + 1) < Wire.nestingLimit := by
  cases t <;> decide

end StandIn
