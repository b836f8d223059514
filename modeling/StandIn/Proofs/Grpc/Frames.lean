import Mathlib.Tactic.Lemma
import Mathlib.Tactic.SplitIfs
import StandIn.Grpc.Frame

/-!
# Frames in a stream of octets

Messages are taken out of an inlet as soon as they are complete.  Two facts about that carry all that
is said of bodies: it makes no difference whether octets arrive before or after messages were taken
out, and what is taken out is told by a grammar of the octets.

* `heading` — the octets in front of a message; `header?_eq_some_iff` says what is read of them.
* `Frames`, `IsFragment` — good frames one behind the other, and the beginning of one more.
* `drain_feed` — what has arrived can be taken out now or later.
* `exists_drain_iff` — taking out succeeds exactly on good frames and a fragment, which it leaves.
-/

namespace StandIn.Grpc

/-! ## Headings -/

/-- What stands in front of a message of the given length. -/
def heading (length : Nat) : Octets :=
  0 :: lengthOctets length

lemma length_heading (n : Nat) : (heading n).length = 5 := rfl

lemma frame_eq (payload : Octets) : frame payload = heading payload.length ++ payload := rfl

/-- Four octets are those of the number that is read off them. -/
lemma lengthOctets_of_octets (a b c d : UInt8) :
    lengthOctets (((a.toNat * 256 + b.toNat) * 256 + c.toNat) * 256 + d.toNat) = [a, b, c, d] := by
  have ha := a.toNat_lt
  have hb := b.toNat_lt
  have hc := c.toNat_lt
  have hd := d.toNat_lt
  simp only [lengthOctets, List.cons.injEq, ← UInt8.toNat_inj, UInt8.toNat_ofNat', and_true]
  omega

lemma toNat_lengthOctets {n : Nat} (h : n ≤ maxMessage) :
    ∃ a b c d : UInt8, lengthOctets n = [a, b, c, d] ∧
      ((a.toNat * 256 + b.toNat) * 256 + c.toNat) * 256 + d.toNat = n := by
  rw [maxMessage] at h
  refine ⟨_, _, _, _, rfl, ?_⟩
  simp only [UInt8.toNat_ofNat']
  omega

/-- **What is read of a heading.**  A message is announced if a heading is there, and its length is
one that messages may have. -/
theorem header?_eq_some_iff {bs rest : Octets} {n : Nat} :
    header? bs = .ok (some (n, rest)) ↔ n ≤ maxMessage ∧ bs = heading n ++ rest := by
  constructor
  · intro h
    rw [header?.eq_def] at h
    split at h
    · rename_i flag a b c d rest'
      simp only at h
      split_ifs at h with hone hflag hlength
      cases h
      refine ⟨Nat.le_of_not_lt hlength, ?_⟩
      rw [heading, lengthOctets_of_octets, Decidable.not_not.1 hflag]
      rfl
    · cases h
  · rintro ⟨hn, rfl⟩
    obtain ⟨a, b, c, d, hoctets, hlength⟩ := toNat_lengthOctets hn
    have hshort : ¬maxMessage < n := Nat.not_lt.2 hn
    simp only [heading, hoctets, List.cons_append, List.nil_append, header?, hlength, hshort]
    rfl

lemma header?_eq_none_iff {bs : Octets} : header? bs = .ok none ↔ bs.length < 5 := by
  rw [header?.eq_def]
  split
  · simp only [List.length_cons]
    split_ifs <;> simp
  · rename_i hshort
    refine iff_of_true rfl (Nat.lt_of_not_le fun hlong => ?_)
    match bs, hlong with
    | flag :: a :: b :: c :: d :: rest, _ => exact hshort flag a b c d rest rfl

/-- A heading that is refused stays refused, whatever comes behind it. -/
lemma header?_append_of_error {bs : Octets} {s : Status} (h : header? bs = .error s)
    (more : Octets) : header? (bs ++ more) = .error s := by
  rw [header?.eq_def] at h
  split at h
  · simp only at h
    simp only [List.cons_append, header?]
    split_ifs at h ⊢ <;> exact h
  · cases h

/-! ## Frames -/

/-- Good frames, one behind the other, and then a rest.  No message is compressed or longer than
messages may be, and each can be decoded. -/
inductive Frames {M : Type} (decode : Octets → Except Status M) : Octets → List M → Octets → Prop
  | nil (rest : Octets) : Frames decode rest [] rest
  | cons (payload : Octets) {bs rest : Octets} {m : M} {ms : List M}
      (hlength : payload.length ≤ maxMessage) (hm : decode payload = .ok m)
      (h : Frames decode bs ms rest) :
      Frames decode (frame payload ++ bs) (m :: ms) rest

/-- The beginning of a frame: a part of a heading, or a good heading and a part of the message. -/
def IsFragment (bs : Octets) : Prop :=
  bs.length < 5 ∨ ∃ n part, n ≤ maxMessage ∧ part.length < n ∧ bs = heading n ++ part

/-- A good heading that announces a message, of which nothing is there. -/
def IsLoneHeading (bs : Octets) : Prop :=
  ∃ n, 0 < n ∧ n ≤ maxMessage ∧ bs = heading n

lemma IsLoneHeading.isFragment {bs : Octets} (h : IsLoneHeading bs) : IsFragment bs := by
  obtain ⟨n, hpos, hn, rfl⟩ := h
  exact .inr ⟨n, [], hn, hpos, by simp⟩

lemma IsLoneHeading.ne_nil {bs : Octets} (h : IsLoneHeading bs) : bs ≠ [] := by
  obtain ⟨n, -, -, rfl⟩ := h
  exact List.cons_ne_nil _ _

/-! ## One step of an inlet -/

namespace Inlet

/-- What an inlet holds, with the heading put back that was already read. -/
def octets (i : Inlet) : Octets :=
  match i.announced with
  | some n => heading n ++ i.waiting
  | none => i.waiting

/-- What was announced is not longer than messages may be. -/
def IsAdmitted (i : Inlet) : Prop := ∀ n ∈ i.announced, n ≤ maxMessage

lemma isAdmitted_none (bs : Octets) : IsAdmitted ⟨bs, none⟩ := fun _ h => by cases h

/-- **What one step does.**  Reading a heading changes nothing about what is held, a message that is
taken out is a frame in front of the rest, and only a fragment keeps the inlet from going on. -/
lemma step_spec {i : Inlet} (hi : i.IsAdmitted) :
    match i.step with
    | .opened j => i.octets = j.octets ∧ j.IsAdmitted
    | .message payload j =>
      payload.length ≤ maxMessage ∧ i.octets = frame payload ++ j.octets ∧ j.IsAdmitted
    | .stuck => IsFragment i.octets
    | .failed _ => True := by
  obtain ⟨waiting, announced⟩ := i
  cases announced with
  | some n =>
      have hn : n ≤ maxMessage := hi n rfl
      by_cases hlength : n ≤ waiting.length
      · have htake : (waiting.take n).length = n := List.length_take_of_le hlength
        simp only [step, hlength, if_true, htake]
        refine ⟨hn, ?_, isAdmitted_none _⟩
        simp only [octets, frame_eq, htake, List.append_assoc, List.take_append_drop]
      · simp only [step, octets, hlength, if_false]
        exact .inr ⟨n, waiting, hn, Nat.lt_of_not_le hlength, rfl⟩
  | none =>
      simp only [step]
      cases hheader : header? waiting with
      | error s => trivial
      | ok found =>
          cases found with
          | none => exact .inl (header?_eq_none_iff.1 hheader)
          | some head =>
              obtain ⟨n, rest⟩ := head
              obtain ⟨hn, rfl⟩ := header?_eq_some_iff.1 hheader
              exact ⟨rfl, fun m hm => by cases hm; exact hn⟩

/-- What arrives later does not change a step that could be taken before. -/
lemma step_feed (i : Inlet) (bs : Octets) :
    (i.feed bs).step = match i.step with
      | .opened j => .opened (j.feed bs)
      | .message payload j => .message payload (j.feed bs)
      | .stuck => (i.feed bs).step
      | .failed s => .failed s := by
  obtain ⟨waiting, announced⟩ := i
  cases announced with
  | some n =>
      by_cases hlength : n ≤ waiting.length
      · have hmore : n ≤ (waiting ++ bs).length := by
          rw [List.length_append]
          exact Nat.le_add_right_of_le hlength
        simp only [step, feed, hlength, hmore, if_true, List.take_append_of_le_length hlength,
          List.drop_append_of_le_length hlength]
      · simp only [step, feed, hlength, if_false]
  | none =>
      simp only [step, feed]
      cases hheader : header? waiting with
      | error s => rw [header?_append_of_error hheader]
      | ok found =>
          cases found with
          | none => rfl
          | some head =>
              obtain ⟨n, rest⟩ := head
              obtain ⟨hn, rfl⟩ := header?_eq_some_iff.1 hheader
              rw [header?_eq_some_iff.2 ⟨hn, List.append_assoc _ _ _⟩]

/-- The heading of a frame is read, and then its message is taken out. -/
lemma step_heading {n : Nat} (hn : n ≤ maxMessage) (rest : Octets) :
    (⟨heading n ++ rest, none⟩ : Inlet).step = .opened ⟨rest, some n⟩ := by
  simp only [step, header?_eq_some_iff.2 ⟨hn, rfl⟩]

lemma step_payload (payload rest : Octets) :
    (⟨payload ++ rest, some payload.length⟩ : Inlet).step = .message payload ⟨rest, none⟩ := by
  simp [step]

/-- Of what keeps an inlet from going on, no octet is waiting if there is none at all, or none
behind a heading. -/
lemma waiting_eq_nil_iff {i : Inlet} (hi : i.IsAdmitted) (h : i.step = .stuck) :
    i.waiting = [] ↔ i.octets = [] ∨ IsLoneHeading i.octets := by
  obtain ⟨waiting, announced⟩ := i
  cases announced with
  | some n =>
      have hlength : waiting.length < n := by
        refine Nat.lt_of_not_le fun hle => ?_
        simp [step, hle] at h
      constructor
      · rintro rfl
        exact .inr ⟨n, hlength, hi n rfl, List.append_nil _⟩
      · rintro (hnil | ⟨m, -, -, hm⟩)
        · exact absurd hnil (List.cons_ne_nil _ _)
        · have hlengths := congrArg List.length hm
          simpa [octets, length_heading] using hlengths
  | none =>
      refine ⟨.inl, ?_⟩
      rintro (hnil | ⟨n, -, hn, hheading⟩)
      · exact hnil
      · -- a heading would have been read
        have hopened := step_heading hn []
        rw [List.append_nil, ← hheading] at hopened
        cases h.symm.trans hopened

end Inlet

/-! ## Taking messages out -/

section Drain

variable {M : Type} {decode : Octets → Except Status M} {i j : Inlet} {ms : List M}

lemma drain_of_opened (h : i.step = .opened j) : i.drain decode = j.drain decode := by
  rw [Inlet.drain]
  split <;> rename_i hstep <;> cases h.symm.trans hstep
  rfl

lemma drain_of_message {payload : Octets} (h : i.step = .message payload j) :
    i.drain decode = match decode payload with
      | .ok m => (m :: (j.drain decode).1, (j.drain decode).2)
      | .error s => ([], .error s) := by
  rw [Inlet.drain]
  split <;> rename_i hstep <;> cases h.symm.trans hstep
  rfl

lemma drain_of_stuck (h : i.step = .stuck) : i.drain decode = ([], .ok i) := by
  rw [Inlet.drain]
  split <;> rename_i hstep <;> cases h.symm.trans hstep
  rfl

lemma drain_of_failed {s : Status} (h : i.step = .failed s) :
    i.drain decode = ([], .error s) := by
  rw [Inlet.drain]
  split <;> rename_i hstep <;> cases h.symm.trans hstep
  rfl

/-- What is taken out first, and then from what is left. -/
def resume (first : List M × Except Status Inlet)
    (next : Inlet → List M × Except Status Inlet) : List M × Except Status Inlet :=
  match first with
  | (ms, .ok j) => (ms ++ (next j).1, (next j).2)
  | (ms, .error s) => (ms, .error s)

/-- **Now or later.**  Messages that are complete may be taken out before more arrives, or together
with what arrives. -/
theorem drain_feed (i : Inlet) (bs : Octets) :
    (i.feed bs).drain decode = resume (i.drain decode) fun j => (j.feed bs).drain decode := by
  fun_induction Inlet.drain decode i with
  | case1 i j h ih =>
      have hstep := i.step_feed bs
      rw [h] at hstep
      rw [drain_of_opened hstep, ih]
  | case2 i payload j h m hm ms rest hrest ih =>
      have hstep := i.step_feed bs
      rw [h] at hstep
      rw [drain_of_message hstep, hm, ih, hrest]
      cases rest <;> rfl
  | case3 i payload j h s hs =>
      have hstep := i.step_feed bs
      rw [h] at hstep
      rw [drain_of_message hstep, hs]
      rfl
  | case4 i h => rfl
  | case5 i s h =>
      have hstep := i.step_feed bs
      rw [h] at hstep
      rw [drain_of_failed hstep]
      rfl

/-- Taking out ends only where nothing more is complete. -/
lemma stuck_of_drain (h : i.drain decode = (ms, .ok j)) : j.step = .stuck := by
  fun_induction Inlet.drain decode i generalizing ms with
  | case1 i k hstep ih => exact ih h
  | case2 i payload k hstep m hm ms' rest hrest ih =>
      cases h
      exact ih hrest
  | case3 i payload k hstep s hs => cases h
  | case4 i hstep =>
      cases h
      exact hstep
  | case5 i s hstep => cases h

/-- What is taken out is good frames, and what is left is a fragment. -/
lemma frames_of_drain (hi : i.IsAdmitted) (h : i.drain decode = (ms, .ok j)) :
    Frames decode i.octets ms j.octets ∧ IsFragment j.octets ∧ j.IsAdmitted := by
  have hspec := Inlet.step_spec hi
  fun_induction Inlet.drain decode i generalizing ms with
  | case1 i k hstep ih =>
      rw [hstep] at hspec
      rw [hspec.1]
      exact ih hspec.2 h (Inlet.step_spec hspec.2)
  | case2 i payload k hstep m hm ms' rest hrest ih =>
      rw [hstep] at hspec
      obtain ⟨hlength, hoctets, hk⟩ := hspec
      cases h
      obtain ⟨hframes, hleft⟩ := ih hk hrest (Inlet.step_spec hk)
      rw [hoctets]
      exact ⟨.cons _ hlength hm hframes, hleft⟩
  | case3 i payload k hstep s hs => cases h
  | case4 i hstep =>
      rw [hstep] at hspec
      cases h
      exact ⟨.nil _, hspec, hi⟩
  | case5 i s hstep => cases h

/-- Good frames are taken out one after the other, whatever comes behind them. -/
lemma drain_of_frames {bs rest : Octets} (h : Frames decode bs ms rest) :
    (⟨bs, none⟩ : Inlet).drain decode = (ms ++ ((⟨rest, none⟩ : Inlet).drain decode).1,
      ((⟨rest, none⟩ : Inlet).drain decode).2) := by
  induction h with
  | nil rest => rfl
  | @cons payload bs rest m ms hlength hm _ ih =>
      rw [frame_eq, List.append_assoc, drain_of_opened (Inlet.step_heading hlength _),
        drain_of_message (Inlet.step_payload payload bs), hm, ih]
      rfl

/-- A fragment is left as it is. -/
lemma drain_of_isFragment (decode : Octets → Except Status M) {rest : Octets}
    (h : IsFragment rest) :
    ∃ j : Inlet, (⟨rest, none⟩ : Inlet).drain decode = ([], .ok j) ∧ j.octets = rest := by
  obtain hshort | ⟨n, part, hn, hpart, rfl⟩ := h
  · refine ⟨⟨rest, none⟩, drain_of_stuck ?_, rfl⟩
    simp only [Inlet.step, header?_eq_none_iff.2 hshort]
  · refine ⟨⟨part, some n⟩, ?_, rfl⟩
    rw [drain_of_opened (Inlet.step_heading hn part)]
    exact drain_of_stuck (by simp only [Inlet.step, Nat.not_le.2 hpart, if_false])

/-- **When all is in order.**  No error is met exactly if the octets are good frames and a fragment.
The messages are those of the frames then, and the fragment is left. -/
theorem exists_drain_iff {bs rest : Octets} :
    (∃ j : Inlet, (⟨bs, none⟩ : Inlet).drain decode = (ms, .ok j) ∧ j.octets = rest)
      ↔ Frames decode bs ms rest ∧ IsFragment rest := by
  constructor
  · rintro ⟨j, hdrain, rfl⟩
    obtain ⟨hframes, hfragment, -⟩ := frames_of_drain (Inlet.isAdmitted_none bs) hdrain
    exact ⟨hframes, hfragment⟩
  · rintro ⟨hframes, hfragment⟩
    obtain ⟨j, hj, hrest⟩ := drain_of_isFragment decode hfragment
    refine ⟨j, ?_, hrest⟩
    rw [drain_of_frames hframes, hj, List.append_nil]

/-- Octets are good frames and a fragment in at most one way. -/
lemma Frames.unique {bs rest rest' : Octets} {ms' : List M} (h : Frames decode bs ms rest)
    (hrest : IsFragment rest) (h' : Frames decode bs ms' rest') (hrest' : IsFragment rest') :
    ms = ms' ∧ rest = rest' := by
  obtain ⟨j, hj, rfl⟩ := exists_drain_iff.2 ⟨h, hrest⟩
  obtain ⟨j', hj', rfl⟩ := exists_drain_iff.2 ⟨h', hrest'⟩
  cases hj.symm.trans hj'
  exact ⟨rfl, rfl⟩

end Drain

end StandIn.Grpc
