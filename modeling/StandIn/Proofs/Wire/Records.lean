import StandIn.Proofs.Basic
import StandIn.Proofs.Wire.Number

/-!
# Sequences of records

A message, the inside of a group and an entry of a dictionary are all sequences of records: a key,
and a payload that is laid out as the key says.

* `Reader.Course` — records that are read one after the other, and what becomes of a value by them.
* `Reader.recordsRun_append` — what follows a course is read on from where the course ends.
* `Reader.spells_delimitedRecords_iff` — a course with its length in front, which it has to fill.
* `Sequence` — records one after the other, whatever they are read into.
* `Passed` — the payloads of records that nothing is known about, groups included.
* `Reader.spells_skip_iff` — they are what is passed over.
-/

namespace StandIn.Wire

/-- Records one after the other, with payloads as `P` says. -/
inductive Sequence (P : Reader.Key → Octets → Prop) : Octets → Prop
  | nil : Sequence P []
  | cons {ks ps rest : Octets} {k : Reader.Key} (hk : IsKey ks k) (hp : P k ps)
      (hrest : Sequence P rest) : Sequence P (ks ++ (ps ++ rest))

/-- The first record of a sequence, if its key is known. -/
lemma Sequence.of_run_key {P : Reader.Key → Octets → Prop} {bs rest : Octets} {k : Reader.Key}
    (h : Sequence P bs) (hk : Reader.key.run bs = .ok (k, rest)) :
    ∃ ps more, rest = ps ++ more ∧ P k ps ∧ Sequence P more := by
  cases h with
  | nil => cases hk
  | cons hks hp hmore =>
      have heq := (Reader.spells_key_iff.2 hks _).symm.trans hk
      cases heq
      exact ⟨_, _, rfl, hp, hmore⟩

/-- What has a length in front, if the length is known. -/
lemma Delimited.of_run_varint {body p more rest : Octets} {n : Nat} (h : Delimited body p)
    (hn : Reader.varint.run (p ++ more) = .ok (n, rest)) :
    rest = body ++ more ∧ body.length = n := by
  obtain ⟨q, rfl, hq⟩ := h
  rw [List.append_assoc] at hn
  have heq := (Reader.spells_varint_iff.2 hq _).symm.trans hn
  cases heq
  exact ⟨rfl, rfl⟩

/-- The payloads of records that nothing is known about.  A group holds such records up to the end
of just this group; `depth` is how many levels may be open at once. -/
def Passed : (depth : Nat) → Reader.Key → Octets → Prop
  | 0, _, _ => False
  | depth + 1, k, p =>
    match k.wireType with
    | .varint => ∃ n, IsNumber p n
    | .fixed32 => p.length = 4
    | .fixed64 => p.length = 8
    | .delimited => ∃ body, Delimited body p
    | .groupStart => ∃ inside close, p = inside ++ close ∧ Sequence (Passed depth) inside ∧
        IsKey close ⟨k.number, .groupEnd⟩
    | .groupEnd => False

namespace Reader

variable {α : Type} {act : Key → α → Reader α}

/-! ## Courses -/

/-- Records that are read one after the other, each as `act` says, and what becomes of a value by
them. -/
inductive Course (act : Key → α → Reader α) : α → Octets → α → Prop
  | nil (a : α) : Course act a [] a
  | cons {a b c : α} {ks ps rest : Octets} {k : Key} (hk : IsKey ks k)
      (hp : (act k a).Spells ps b) (hrest : Course act b rest c) :
      Course act a (ks ++ (ps ++ rest)) c

lemma Course.append {a b c : α} {p q : Octets} (hp : Course act a p b) (hq : Course act b q c) :
    Course act a (p ++ q) c := by
  induction hp with
  | nil => exact hq
  | cons hk hp _ ih =>
      rw [List.append_assoc, List.append_assoc]
      exact .cons hk hp (ih hq)

/-- One record. -/
lemma Course.record {a b : α} {ks ps : Octets} {k : Key} (hk : IsKey ks k)
    (hp : (act k a).Spells ps b) : Course act a (ks ++ ps) b := by
  have h := Course.cons hk hp (.nil b)
  rwa [List.append_nil] at h

/-- Records that are written one for each of some items. -/
lemma Course.foldl {β : Type} {f : α → β → α} {octets : β → Octets} {xs : List β}
    (h : ∀ x ∈ xs, ∀ a, Course act a (octets x) (f a x)) (a : α) :
    Course act a (xs.flatMap octets) (xs.foldl f a) := by
  induction xs generalizing a with
  | nil => exact .nil a
  | cons x xs ih =>
      rw [List.flatMap_cons, List.foldl_cons]
      exact (h x List.mem_cons_self a).append (ih (fun y hy => h y (List.mem_cons_of_mem x hy)) _)

/-- A course is a sequence, and a sequence has a course, if the payloads that can be read do not
depend on what they are read into. -/
theorem exists_course_iff {P : Key → Octets → Prop}
    (hact : ∀ k a ps, (∃ b, (act k a).Spells ps b) ↔ P k ps) {a : α} {p : Octets} :
    (∃ b, Course act a p b) ↔ Sequence P p := by
  constructor
  · rintro ⟨b, h⟩
    induction h with
    | nil => exact .nil
    | cons hk hp _ ih => exact .cons hk ((hact _ _ _).1 ⟨_, hp⟩) ih
  · intro h
    induction h generalizing a with
    | nil => exact ⟨a, .nil a⟩
    | cons hk hp _ ih =>
        obtain ⟨b, hb⟩ := (hact _ a _).2 hp
        obtain ⟨c, hc⟩ := @ih b
        exact ⟨c, .cons hk hb hc⟩

lemma recordsRun_of_le {limit : Nat} {a : α} {bs : Octets} (h : bs.length ≤ limit) :
    recordsRun act limit a bs = .ok (a, bs) := by
  have hlength : ¬hasLength (limit + 1) bs = true := by
    rw [hasLength_iff]
    omega
  rw [recordsRun, if_neg hlength]

lemma recordsRun_of_lt {limit : Nat} {a : α} {bs : Octets} (h : limit < bs.length) :
    recordsRun act limit a bs
      = (key.run bs).bind fun x => ((act x.1 a).run x.2).bind fun y =>
          recordsRun act limit y.1 y.2 := by
  have hlength : hasLength (limit + 1) bs = true := hasLength_iff.2 h
  rw [recordsRun, if_pos hlength]
  split
  · next e he =>
    rw [he]
    rfl
  · next k mid hk =>
    conv_rhs => rw [hk, Except.bind]
    split
    · next e he =>
      rw [he]
      rfl
    · next b rest hm =>
      conv_rhs => rw [hm, Except.bind]

/-- **What follows a course is read on** from what the course ends with. -/
theorem recordsRun_append {limit : Nat} {a b : α} {p bs : Octets} (h : Course act a p b)
    (hlimit : limit ≤ bs.length) :
    recordsRun act limit a (p ++ bs) = recordsRun act limit b bs := by
  induction h with
  | nil => rfl
  | @cons a b c ks ps rest k hk hp _ ih =>
      have hpos := hk.2.2.1.length_pos
      have hlt : limit < (ks ++ (ps ++ rest) ++ bs).length := by
        simp only [List.length_append]
        omega
      rw [recordsRun_of_lt hlt, List.append_assoc, spells_key_iff.2 hk, List.append_assoc]
      dsimp only [Except.bind]
      rw [hp]
      exact ih

/-- A course is read to its end. -/
lemma Course.run {a b : α} {p : Octets} (h : Course act a p b) :
    recordsRun act 0 a p = .ok (b, []) := by
  have hrun := recordsRun_append h (Nat.zero_le ([] : Octets).length)
  rw [List.append_nil] at hrun
  exact hrun.trans (recordsRun_of_le (Nat.le_refl 0))

/-- What is read is a course, and it ends where no more is asked for. -/
lemma course_of_recordsRun (hact : ∀ k a, (act k a).IsLocal) {limit : Nat} {a b : α}
    {bs rest : Octets} (h : recordsRun act limit a bs = .ok (b, rest)) :
    rest.length ≤ limit ∧ ∃ p, bs = p ++ rest ∧ Course act a p b := by
  induction hn : bs.length using Nat.strongRecOn generalizing a bs with
  | ind n ih =>
      rcases Nat.lt_or_ge limit bs.length with hlt | hge
      · rw [recordsRun_of_lt hlt] at h
        obtain ⟨⟨k, mid⟩, hk, hread⟩ := bind_eq_ok_iff.1 h
        obtain ⟨⟨a', bs'⟩, hm, hon⟩ := bind_eq_ok_iff.1 hread
        have hshort := key_length_lt hk
        obtain ⟨ks, rfl, hks⟩ := isLocal_key hk
        obtain ⟨ps, rfl, hps⟩ := hact k a hm
        have hlength : bs'.length < n := by
          simp only [List.length_append] at hshort hn
          omega
        obtain ⟨hend, p, rfl, hp⟩ := ih bs'.length hlength hon rfl
        refine ⟨hend, ks ++ (ps ++ p), ?_, .cons (spells_key_iff.1 hks) hps hp⟩
        simp only [List.append_assoc]
      · rw [recordsRun_of_le hge] at h
        cases h
        exact ⟨hge, [], rfl, .nil _⟩

/-- To the end of the input, a course is all that is read. -/
theorem recordsRun_zero_eq_ok_iff (hact : ∀ k a, (act k a).IsLocal) {a b : α} {bs rest : Octets} :
    recordsRun act 0 a bs = .ok (b, rest) ↔ rest = [] ∧ Course act a bs b := by
  constructor
  · intro h
    obtain ⟨hend, p, rfl, hp⟩ := course_of_recordsRun hact h
    obtain rfl : rest = [] := List.length_eq_zero_iff.1 (Nat.le_zero.1 hend)
    exact ⟨rfl, by rwa [List.append_nil]⟩
  · rintro ⟨rfl, h⟩
    exact h.run

/-! ## Courses with their length in front -/

lemma run_remaining (bs : Octets) : remaining.run bs = .ok (bs.length, bs) := rfl

lemma run_require (condition : Bool) (cause : DecodeCause) (bs : Octets) :
    (require condition cause).run bs = if condition then .ok ((), bs) else .error ⟨cause, []⟩ := by
  cases condition <;> rfl

lemma run_records (limit : Nat) (a : α) (bs : Octets) :
    (records act limit a).run bs = recordsRun act limit a bs := rfl

/-- What is read behind a length: records, which have to end where the length says. -/
lemma run_delimitedRecords_of_varint {a : α} {bs mid : Octets} {n : Nat}
    (h : varint.run bs = .ok (n, mid)) :
    (delimitedRecords act a).run bs = if n ≤ mid.length then
      (recordsRun act (mid.length - n) a mid).bind fun x =>
        if x.2.length = mid.length - n then .ok x else .error ⟨.lengthExceeded, []⟩
      else .error ⟨.underflow, []⟩ := by
  rw [delimitedRecords, run_bind, h]
  simp only [Except.bind, run_bind, run_remaining, run_require, decide_eq_true_eq]
  split_ifs with hn
  · simp only [run_records]
    cases recordsRun act (mid.length - n) a mid with
    | error e => rfl
    | ok x =>
        dsimp only
        split_ifs <;> rfl
  · rfl

/-- What a length and the octets that it counts are read as, whatever follows them. -/
lemma run_delimitedRecords_append {a : α} {body p : Octets} (h : Delimited body p) (rest : Octets) :
    (delimitedRecords act a).run (p ++ rest)
      = (recordsRun act rest.length a (body ++ rest)).bind fun x =>
          if x.2.length = rest.length then .ok x else .error ⟨.lengthExceeded, []⟩ := by
  obtain ⟨q, rfl, hq⟩ := h
  have hrun := spells_varint_iff.2 hq (body ++ rest)
  have hlength : (body ++ rest).length - body.length = rest.length := by
    rw [List.length_append]
    omega
  rw [List.append_assoc, run_delimitedRecords_of_varint hrun, if_pos (by simp), hlength]

/-- A course that fills its length is read, whatever follows. -/
lemma Course.spells_delimitedRecords {a b : α} {body p : Octets} (h : Course act a body b)
    (hp : Delimited body p) : (delimitedRecords act a).Spells p b := by
  intro rest
  rw [run_delimitedRecords_append hp, recordsRun_append h (Nat.le_refl _),
    recordsRun_of_le (Nat.le_refl _), Except.bind, if_pos rfl]

/-- **A course with its length in front** has to fill it. -/
theorem run_delimitedRecords_eq_ok_iff (hact : ∀ k a, (act k a).IsLocal) {a b : α}
    {bs rest : Octets} :
    (delimitedRecords act a).run bs = .ok (b, rest) ↔
      ∃ p, bs = p ++ rest ∧ ∃ body, Delimited body p ∧ Course act a body b := by
  constructor
  · intro h
    cases hn : varint.run bs with
    | error e =>
        rw [delimitedRecords, run_bind, hn] at h
        cases h
    | ok x =>
        obtain ⟨n, mid⟩ := x
        rw [run_delimitedRecords_of_varint hn] at h
        split_ifs at h with hle
        obtain ⟨⟨b', rest'⟩, hrun, hend⟩ := bind_eq_ok_iff.1 h
        split_ifs at hend with hlength
        cases hend
        obtain ⟨q, rfl, hq⟩ := isLocal_varint hn
        obtain ⟨-, body, rfl, hbody⟩ := course_of_recordsRun hact hrun
        have hcount : body.length = n := by
          simp only [List.length_append] at hlength hle
          omega
        exact ⟨q ++ body, (List.append_assoc ..).symm, body,
          ⟨q, rfl, hcount ▸ spells_varint_iff.1 hq⟩, hbody⟩
  · rintro ⟨p, rfl, body, hp, hbody⟩
    exact hbody.spells_delimitedRecords hp rest

lemma spells_delimitedRecords_iff (hact : ∀ k a, (act k a).IsLocal) {a b : α} {p : Octets} :
    (delimitedRecords act a).Spells p b ↔ ∃ body, Delimited body p ∧ Course act a body b :=
  spells_iff_of_run_iff (run_delimitedRecords_eq_ok_iff hact)

lemma isLocal_delimitedRecords (hact : ∀ k a, (act k a).IsLocal) (a : α) :
    (delimitedRecords act a).IsLocal :=
  isLocal_of_run_iff (run_delimitedRecords_eq_ok_iff hact)

/-- Records behind their length, if what can be read as a record does not depend on what it is read
into. -/
lemma reads_delimitedRecords {P : Key → Octets → Prop} (h : ∀ k a, (act k a).Reads (P k)) (a : α) :
    (delimitedRecords act a).Reads fun p => ∃ body, Delimited body p ∧ Sequence P body where
  isLocal := isLocal_delimitedRecords (fun k a => (h k a).isLocal) a
  spells {_} := by
    have hcourse body : (∃ b, Course act a body b) ↔ Sequence P body :=
      exists_course_iff fun k a ps => (h k a).spells
    simp only [spells_delimitedRecords_iff fun k a => (h k a).isLocal, ← hcourse]
    exact ⟨fun ⟨b, body, hp, hb⟩ => ⟨body, hp, b, hb⟩, fun ⟨body, hp, b, hb⟩ => ⟨b, body, hp, hb⟩⟩

/-! ## Records that are passed over -/

section Groups

variable {inner : Key → Reader Unit} {P : Key → Octets → Prop}

lemma run_groupRun (number : Nat) (bs : Octets) :
    groupRun number inner bs
      = (key.run bs).bind fun x =>
          if x.1.wireType = .groupEnd then
            if x.1.number = number then .ok ((), x.2) else .error ⟨.strayGroupEnd, []⟩
          else ((inner x.1).run x.2).bind fun y => groupRun number inner y.2 := by
  rw [groupRun]
  split
  · next e he =>
    rw [he]
    rfl
  · next k mid hk =>
    conv_rhs => rw [hk, Except.bind]
    split_ifs
    · rfl
    · rfl
    split
    · next e he =>
      rw [he]
      rfl
    · next u rest hm =>
      conv_rhs => rw [hm, Except.bind]

/-- The end of the group with a number. -/
lemma groupRun_of_isKey {number : Nat} {p : Octets} (h : IsKey p ⟨number, .groupEnd⟩)
    (rest : Octets) : groupRun number inner (p ++ rest) = .ok ((), rest) := by
  rw [run_groupRun, spells_key_iff.2 h, Except.bind, if_pos rfl, if_pos rfl]

lemma group_of_groupRun (hlocal : ∀ k, (inner k).IsLocal)
    (hinner : ∀ k p u, (inner k).Spells p u ↔ P k p) {number : Nat} {bs rest : Octets} {u : Unit}
    (h : groupRun number inner bs = .ok (u, rest)) :
    ∃ p, bs = p ++ rest ∧ ∃ inside close, p = inside ++ close ∧ Sequence P inside ∧
      IsKey close ⟨number, .groupEnd⟩ := by
  induction hn : bs.length using Nat.strongRecOn generalizing bs with
  | ind n ih =>
      rw [run_groupRun] at h
      obtain ⟨⟨k, mid⟩, hk, hread⟩ := bind_eq_ok_iff.1 h
      have hshort := key_length_lt hk
      obtain ⟨ks, rfl, hks⟩ := isLocal_key hk
      rw [spells_key_iff] at hks
      split_ifs at hread with hend hnumber
      · cases hread
        obtain ⟨number', wireType⟩ := k
        obtain rfl : wireType = .groupEnd := hend
        obtain rfl : number' = number := hnumber
        exact ⟨ks, rfl, [], ks, rfl, .nil, hks⟩
      · obtain ⟨⟨u', bs'⟩, hm, hon⟩ := bind_eq_ok_iff.1 hread
        obtain ⟨ps, rfl, hps⟩ := hlocal k hm
        have hlength : bs'.length < n := by
          simp only [List.length_append] at hshort hn
          omega
        obtain ⟨p, rfl, inside, close, rfl, hinside, hclose⟩ := ih bs'.length hlength hon rfl
        refine ⟨ks ++ (ps ++ inside) ++ close, ?_, _, close, rfl,
          .cons hks ((hinner _ _ _).1 hps) hinside, hclose⟩
        simp only [List.append_assoc]

/-- **A group** is read exactly if records stand in front of the end of just this group. -/
theorem groupRun_eq_ok_iff (hlocal : ∀ k, (inner k).IsLocal)
    (hinner : ∀ k p u, (inner k).Spells p u ↔ P k p) (hend : ∀ number p, ¬P ⟨number, .groupEnd⟩ p)
    {number : Nat} {bs rest : Octets} {u : Unit} :
    groupRun number inner bs = .ok (u, rest) ↔
      ∃ p, bs = p ++ rest ∧ ∃ inside close, p = inside ++ close ∧ Sequence P inside ∧
        IsKey close ⟨number, .groupEnd⟩ := by
  constructor
  · exact group_of_groupRun hlocal hinner
  · rintro ⟨p, rfl, inside, close, rfl, hinside, hclose⟩
    induction hinside with
    | nil => exact groupRun_of_isKey hclose rest
    | @cons ks ps more k hk hp _ ih =>
        have hopen : k.wireType ≠ .groupEnd := by
          intro hw
          obtain ⟨number', wireType⟩ := k
          obtain rfl : wireType = .groupEnd := hw
          exact hend _ _ hp
        simp only [List.append_assoc] at ih ⊢
        rw [run_groupRun, spells_key_iff.2 hk]
        dsimp only [Except.bind]
        rw [if_neg hopen, (hinner k ps ()).2 hp]
        exact ih

lemma spells_group_iff (hlocal : ∀ k, (inner k).IsLocal)
    (hinner : ∀ k p u, (inner k).Spells p u ↔ P k p) (hend : ∀ number p, ¬P ⟨number, .groupEnd⟩ p)
    {number : Nat} {p : Octets} {u : Unit} :
    (group number inner).Spells p u ↔
      ∃ inside close, p = inside ++ close ∧ Sequence P inside ∧
        IsKey close ⟨number, .groupEnd⟩ :=
  spells_iff_of_run_iff (r := group number inner) (groupRun_eq_ok_iff hlocal hinner hend)

lemma isLocal_group (hlocal : ∀ k, (inner k).IsLocal)
    (hinner : ∀ k p u, (inner k).Spells p u ↔ P k p) (hend : ∀ number p, ¬P ⟨number, .groupEnd⟩ p)
    (number : Nat) : (group number inner).IsLocal :=
  isLocal_of_run_iff (r := group number inner) (groupRun_eq_ok_iff hlocal hinner hend)

end Groups

end Reader

lemma not_passed_groupEnd (depth number : Nat) (p : Octets) :
    ¬Passed depth ⟨number, .groupEnd⟩ p := by
  cases depth <;> exact id

namespace Reader

lemma spells_dropDelimited_iff {p : Octets} {u : Unit} :
    (varint >>= drop).Spells p u ↔ ∃ body, Delimited body p := by
  rw [spells_bind_iff isLocal_varint]
  constructor
  · rintro ⟨q, body, n, rfl, hq, hbody⟩
    rw [spells_varint_iff] at hq
    rw [spells_drop_iff] at hbody
    exact ⟨body, q, rfl, hbody ▸ hq⟩
  · rintro ⟨body, q, rfl, hq⟩
    exact ⟨q, body, _, rfl, spells_varint_iff.2 hq, spells_drop_iff.2 rfl⟩

lemma isLocal_and_spells_skip (depth : Nat) (k : Key) :
    (skip depth k).IsLocal ∧ ∀ p u, (skip depth k).Spells p u ↔ Passed depth k p := by
  induction depth generalizing k with
  | zero => exact ⟨isLocal_fail _, fun p u => iff_of_false not_spells_fail id⟩
  | succ depth ih =>
      obtain ⟨number, wireType⟩ := k
      cases wireType with
      | varint =>
          refine ⟨isLocal_varint.bind fun _ => isLocal_pure (), fun p u => ?_⟩
          refine (spells_map_iff isLocal_varint).trans ?_
          simp only [spells_varint_iff, Passed, and_true]
      | fixed32 => exact ⟨isLocal_drop 4, fun p u => spells_drop_iff⟩
      | fixed64 => exact ⟨isLocal_drop 8, fun p u => spells_drop_iff⟩
      | delimited =>
          exact ⟨isLocal_varint.bind isLocal_drop, fun p u => spells_dropDelimited_iff⟩
      | groupStart =>
          have hlocal : ∀ k, (skip depth k).IsLocal := fun k => (ih k).1
          have hinner : ∀ k p u, (skip depth k).Spells p u ↔ Passed depth k p := fun k => (ih k).2
          have hend := not_passed_groupEnd depth
          exact ⟨isLocal_group hlocal hinner hend number,
            fun p u => spells_group_iff hlocal hinner hend⟩
      | groupEnd => exact ⟨isLocal_fail _, fun p u => iff_of_false not_spells_fail id⟩

lemma isLocal_skip (depth : Nat) (k : Key) : (skip depth k).IsLocal :=
  (isLocal_and_spells_skip depth k).1

/-- **What is passed over** are just the records that nothing is known about. -/
theorem spells_skip_iff {depth : Nat} {k : Key} {p : Octets} {u : Unit} :
    (skip depth k).Spells p u ↔ Passed depth k p :=
  (isLocal_and_spells_skip depth k).2 p u

lemma reads_skip (depth : Nat) (k : Key) : (skip depth k).Reads (Passed depth k) where
  isLocal := isLocal_skip depth k
  spells := ⟨fun ⟨_, h⟩ => spells_skip_iff.1 h, fun h => ⟨(), spells_skip_iff.2 h⟩⟩

end Reader

end StandIn.Wire
