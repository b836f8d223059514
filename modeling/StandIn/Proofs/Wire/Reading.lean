import Mathlib.Data.List.Basic
import Mathlib.Tactic.Lemma
import Mathlib.Tactic.SplitIfs
import StandIn.Wire.Reader

/-!
# What readers take

A reader takes octets off the front of its input.  What it makes of them should not depend on what
follows, or records could not be told apart; but a reader can ask how much is left, so this is a
property that has to be proved.

* `Reader.Spells` — some octets are those from which a reader reads a value, whatever follows.
* `Reader.IsLocal` — a reader that succeeds has taken octets that spell its value.
* `Reader.spells_iff_of_run_iff` — what is spelled, from what single runs make of their input.
* `Reader.Reads` — a local reader with the octets from which it reads some value.
* `Reader.spells_bind_iff` and its kin — what is spelled for a composed reader, from what is spelled
  for its parts.
-/

namespace StandIn.Wire.Reader

variable {α β : Type}

/-- The octets from which `r` reads `a`, taking all of them and nothing of what follows. -/
def Spells (r : Reader α) (p : Octets) (a : α) : Prop :=
  ∀ rest, r.run (p ++ rest) = .ok (a, rest)

/-- A reader that looks no further than it takes. -/
def IsLocal (r : Reader α) : Prop :=
  ∀ ⦃bs a rest⦄, r.run bs = .ok (a, rest) → ∃ p, bs = p ++ rest ∧ r.Spells p a

/-- What is spelled is read when nothing follows. -/
lemma Spells.run {r : Reader α} {p : Octets} {a : α} (h : r.Spells p a) : r.run p = .ok (a, []) := by
  have hp := h []
  rwa [List.append_nil] at hp

section Runs

variable {r : Reader α} {Q : Octets → α → Prop}

/-- What is spelled is known from single runs, if these depend on nothing but what is taken. -/
lemma spells_iff_of_run_iff
    (h : ∀ {bs rest a}, r.run bs = .ok (a, rest) ↔ ∃ p, bs = p ++ rest ∧ Q p a) {p : Octets}
    {a : α} : r.Spells p a ↔ Q p a := by
  constructor
  · intro hp
    obtain ⟨q, hq, hqa⟩ := h.1 hp.run
    rw [List.append_nil] at hq
    rwa [hq]
  · intro hp rest
    exact h.2 ⟨p, rfl, hp⟩

lemma isLocal_of_run_iff
    (h : ∀ {bs rest a}, r.run bs = .ok (a, rest) ↔ ∃ p, bs = p ++ rest ∧ Q p a) : r.IsLocal := by
  intro bs a rest hrun
  obtain ⟨p, rfl, hp⟩ := h.1 hrun
  exact ⟨p, rfl, (spells_iff_of_run_iff h).2 hp⟩

end Runs

/-! ## Readers one after the other -/

lemma bind_def (r : Reader α) (f : α → Reader β) : (r >>= f) = r.bind f := rfl

lemma pure_def (a : α) : (Pure.pure a : Reader α) = Reader.pure a := rfl

lemma run_bind (r : Reader α) (f : α → Reader β) (bs : Octets) :
    (r >>= f).run bs = (r.run bs).bind fun x => (f x.1).run x.2 := by
  rw [bind_def, bind]
  dsimp only
  cases r.run bs <;> rfl

lemma run_pure (a : α) (bs : Octets) : (Pure.pure a : Reader α).run bs = .ok (a, bs) := rfl

lemma isLocal_pure (a : α) : (Pure.pure a : Reader α).IsLocal := by
  intro bs b rest h
  cases h
  exact ⟨[], rfl, fun _ => rfl⟩

lemma spells_pure_iff {a b : α} {p : Octets} :
    (Pure.pure a : Reader α).Spells p b ↔ p = [] ∧ b = a := by
  constructor
  · intro h
    have hrun := h.run
    cases hrun
    exact ⟨rfl, rfl⟩
  · rintro ⟨rfl, rfl⟩ rest
    rfl

lemma isLocal_fail (cause : DecodeCause) : (fail cause : Reader α).IsLocal := by
  intro bs a rest h
  cases h

lemma not_spells_fail {cause : DecodeCause} {p : Octets} {a : α} :
    ¬(fail cause : Reader α).Spells p a := by
  intro h
  cases h.run

/-- What is spelled one after the other is spelled together. -/
lemma Spells.bind {r : Reader α} {f : α → Reader β} {p q : Octets} {a : α} {b : β}
    (hr : r.Spells p a) (hf : (f a).Spells q b) : (r >>= f).Spells (p ++ q) b := by
  intro rest
  rw [run_bind, List.append_assoc, hr, Except.bind, hf]

lemma IsLocal.bind {r : Reader α} {f : α → Reader β} (hr : r.IsLocal) (hf : ∀ a, (f a).IsLocal) :
    (r >>= f).IsLocal := by
  intro bs b rest h
  rw [run_bind] at h
  cases hrun : r.run bs with
  | error e =>
      rw [hrun] at h
      cases h
  | ok x =>
      obtain ⟨a, mid⟩ := x
      rw [hrun] at h
      obtain ⟨p, rfl, hp⟩ := hr hrun
      obtain ⟨q, rfl, hq⟩ := hf a h
      exact ⟨p ++ q, (List.append_assoc ..).symm, hp.bind hq⟩

/-- **What a composed reader reads.**  The octets divide into those for the first part and those for
the second. -/
theorem spells_bind_iff {r : Reader α} {f : α → Reader β} (hr : r.IsLocal) {p : Octets} {b : β} :
    (r >>= f).Spells p b ↔ ∃ q s a, p = q ++ s ∧ r.Spells q a ∧ (f a).Spells s b := by
  constructor
  · intro h
    have hrun := h.run
    rw [run_bind] at hrun
    cases hr' : r.run p with
    | error e =>
        rw [hr'] at hrun
        cases hrun
    | ok x =>
        obtain ⟨a, mid⟩ := x
        obtain ⟨q, rfl, hq⟩ := hr hr'
        refine ⟨q, mid, a, rfl, hq, fun rest => ?_⟩
        have hrest := h rest
        rwa [run_bind, List.append_assoc, hq, Except.bind] at hrest
  · rintro ⟨q, s, a, rfl, hq, hs⟩
    exact hq.bind hs

/-- A reader that only turns its value into another one. -/
lemma Spells.map {r : Reader α} {p : Octets} {a : α} (h : r.Spells p a) (f : α → β) :
    (r >>= fun a => (Pure.pure (f a) : Reader β)).Spells p (f a) := by
  intro rest
  rw [run_bind, h, Except.bind, run_pure]

lemma spells_map_iff {r : Reader α} (hr : r.IsLocal) {f : α → β} {p : Octets} {b : β} :
    (r >>= fun a => (Pure.pure (f a) : Reader β)).Spells p b ↔ ∃ a, r.Spells p a ∧ b = f a := by
  constructor
  · intro h
    obtain ⟨q, s, a, rfl, hq, hs⟩ := (spells_bind_iff hr).1 h
    obtain ⟨rfl, rfl⟩ := spells_pure_iff.1 hs
    exact ⟨a, by rwa [List.append_nil], rfl⟩
  · rintro ⟨a, ha, rfl⟩
    exact ha.map f

lemma isLocal_require (condition : Bool) (cause : DecodeCause) :
    (require condition cause).IsLocal := by
  rw [require]
  split_ifs
  · exact isLocal_pure ()
  · exact isLocal_fail cause

/-- A condition takes nothing. -/
lemma spells_require_bind_iff {condition : Bool} {cause : DecodeCause} {r : Reader α} {p : Octets}
    {a : α} : (require condition cause >>= fun _ => r).Spells p a
      ↔ condition = true ∧ r.Spells p a := by
  cases condition with
  | true =>
      rw [eq_self, true_and]
      exact Iff.rfl
  | false =>
      constructor
      · intro h
        cases h.run
      · rintro ⟨⟨⟩, -⟩

/-- The path of errors does not matter to what is read. -/
lemma run_within_eq_ok_iff {message field : String} {r : Reader α} {bs rest : Octets} {a : α} :
    (r.within message field).run bs = .ok (a, rest) ↔ r.run bs = .ok (a, rest) := by
  rw [within]
  dsimp only
  cases r.run bs <;> simp

lemma spells_within_iff {message field : String} {r : Reader α} {p : Octets} {a : α} :
    (r.within message field).Spells p a ↔ r.Spells p a :=
  forall_congr' fun _ => run_within_eq_ok_iff

lemma IsLocal.within {message field : String} {r : Reader α} (hr : r.IsLocal) :
    (r.within message field).IsLocal := by
  intro bs a rest h
  obtain ⟨p, rfl, hp⟩ := hr (run_within_eq_ok_iff.1 h)
  exact ⟨p, rfl, spells_within_iff.2 hp⟩

/-! ## Readers that take just some octets -/

/-- A reader that looks no further than it takes, and takes just the octets that `P` allows. -/
structure Reads (r : Reader α) (P : Octets → Prop) : Prop where
  isLocal : r.IsLocal
  spells : ∀ {p}, (∃ a, r.Spells p a) ↔ P p

lemma Reads.congr {r : Reader α} {P Q : Octets → Prop} (h : r.Reads P) (hPQ : ∀ p, P p ↔ Q p) :
    r.Reads Q where
  isLocal := h.isLocal
  spells := h.spells.trans (hPQ _)

lemma Reads.map {r : Reader α} {P : Octets → Prop} (h : r.Reads P) (f : α → β) :
    (r >>= fun a => (Pure.pure (f a) : Reader β)).Reads P where
  isLocal := h.isLocal.bind fun a => isLocal_pure (f a)
  spells {_} := by
    simp only [← h.spells, spells_map_iff h.isLocal]
    exact ⟨fun ⟨_, a, ha, _⟩ => ⟨a, ha⟩, fun ⟨a, ha⟩ => ⟨f a, a, ha, rfl⟩⟩

lemma Reads.within {r : Reader α} {P : Octets → Prop} (h : r.Reads P) (message field : String) :
    (r.within message field).Reads P where
  isLocal := h.isLocal.within
  spells {_} := by
    simp only [spells_within_iff]
    exact h.spells

lemma Reads.require {r : Reader α} {P : Octets → Prop} (h : r.Reads P) (condition : Bool)
    (cause : DecodeCause) :
    (Reader.require condition cause >>= fun _ => r).Reads fun p => condition = true ∧ P p where
  isLocal := (isLocal_require condition cause).bind fun _ => h.isLocal
  spells {_} := by
    simp only [spells_require_bind_iff, ← h.spells, exists_and_left]

lemma reads_fail (cause : DecodeCause) : (fail cause : Reader α).Reads fun _ => False where
  isLocal := isLocal_fail cause
  spells := ⟨fun ⟨_, h⟩ => not_spells_fail h, False.elim⟩

/-! ## Stretches of octets -/

lemma hasLength_iff {n : Nat} {bs : Octets} : hasLength n bs = true ↔ n ≤ bs.length := by
  induction n generalizing bs with
  | zero => simp [hasLength]
  | succ n ih =>
      cases bs with
      | nil => simp [hasLength]
      | cons b bs => rw [hasLength, ih, List.length_cons, Nat.add_le_add_iff_right]

/-- A stretch is taken exactly if it is there. -/
lemma run_take_eq_ok_iff {n : Nat} {bs rest octets : Octets} :
    (take n).run bs = .ok (octets, rest) ↔ ∃ p, bs = p ++ rest ∧ octets = p ∧ p.length = n := by
  rw [take]
  dsimp only
  split_ifs with h
  · rw [hasLength_iff] at h
    constructor
    · intro heq
      cases heq
      exact ⟨bs.take n, (List.take_append_drop n bs).symm, rfl, List.length_take_of_le h⟩
    · rintro ⟨p, rfl, rfl, rfl⟩
      rw [List.take_left, List.drop_left]
  · rw [hasLength_iff] at h
    simp only [false_iff, not_exists, not_and]
    rintro p rfl rfl rfl
    exact h (by simp)

lemma spells_take_iff {n : Nat} {p octets : Octets} :
    (take n).Spells p octets ↔ octets = p ∧ p.length = n :=
  spells_iff_of_run_iff run_take_eq_ok_iff

lemma isLocal_take (n : Nat) : (take n).IsLocal :=
  isLocal_of_run_iff run_take_eq_ok_iff

lemma run_drop_eq_ok_iff {n : Nat} {bs rest : Octets} {u : Unit} :
    (drop n).run bs = .ok (u, rest) ↔ ∃ p, bs = p ++ rest ∧ p.length = n := by
  rw [drop]
  dsimp only
  split_ifs with h
  · rw [hasLength_iff] at h
    constructor
    · intro heq
      cases heq
      exact ⟨bs.take n, (List.take_append_drop n bs).symm, List.length_take_of_le h⟩
    · rintro ⟨p, rfl, rfl⟩
      rw [List.drop_left]
  · rw [hasLength_iff] at h
    simp only [false_iff, not_exists, not_and]
    rintro p rfl rfl
    exact h (by simp)

lemma spells_drop_iff {n : Nat} {p : Octets} {u : Unit} :
    (drop n).Spells p u ↔ p.length = n :=
  spells_iff_of_run_iff run_drop_eq_ok_iff

lemma isLocal_drop (n : Nat) : (drop n).IsLocal :=
  isLocal_of_run_iff run_drop_eq_ok_iff

end StandIn.Wire.Reader
