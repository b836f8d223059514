import StandIn.Proofs.Grpc.Frames

/-!
# Bodies of calls

A body arrives in chunks that have nothing to do with its frames.  What comes out of it depends on
the octets of all chunks together, and it comes to an error in one of three ways: a chunk breaks off,
the octets are not good frames, or the client finishes in the middle of a frame.

* `Body.octets`, `Body.IsWhole` — the octets of all chunks, if none breaks off.
* `receiveFrom_data_data`, `receiveFrom_data_nil` — where chunks are divided makes no difference.
* `receive_eq_iff` — which bodies come without an error, and with which messages.
-/

namespace StandIn.Grpc

/-- The octets of a chunk. -/
def Chunk.octets : Chunk → Octets
  | .data bs => bs
  | .broken _ => []

namespace Body

/-- The octets of all chunks together. -/
def octets (b : Body) : Octets := b.chunks.flatMap (·.octets)

/-- No chunk breaks off. -/
def IsWhole (b : Body) : Prop := ∀ reason, .broken reason ∉ b.chunks

end Body

section Receive

variable {M : Type} {decode : Octets → Except Status M} {finished : Bool} {i j : Inlet}
  {chunks : List Chunk} {ms : List M}

/-! ## Chunks -/

lemma receiveFrom_of_ok {bs : Octets} (h : (i.feed bs).drain decode = (ms, .ok j)) :
    receiveFrom decode finished i (.data bs :: chunks)
      = ⟨ms ++ (receiveFrom decode finished j chunks).messages,
          (receiveFrom decode finished j chunks).ending⟩ := by
  rw [receiveFrom, h]

lemma receiveFrom_of_error {bs : Octets} {s : Status}
    (h : (i.feed bs).drain decode = (ms, .error s)) :
    receiveFrom decode finished i (.data bs :: chunks) = ⟨ms, .failed s⟩ := by
  rw [receiveFrom, h]

/-- **Where chunks are divided makes no difference.** -/
theorem receiveFrom_data_data (as bs : Octets) :
    receiveFrom decode finished i (.data as :: .data bs :: chunks)
      = receiveFrom decode finished i (.data (as ++ bs) :: chunks) := by
  have hfeed : i.feed (as ++ bs) = (i.feed as).feed bs := by
    simp only [Inlet.feed, List.append_assoc]
  have hdrain : (i.feed (as ++ bs)).drain decode =
      resume ((i.feed as).drain decode) fun j => (j.feed bs).drain decode := by
    rw [hfeed, drain_feed]
  cases hfirst : (i.feed as).drain decode with
  | mk first left =>
      rw [hfirst] at hdrain
      cases left with
      | error s => rw [receiveFrom_of_error hfirst, receiveFrom_of_error hdrain]
      | ok j =>
          rw [receiveFrom_of_ok hfirst]
          cases hsecond : (j.feed bs).drain decode with
          | mk second left' =>
              simp only [resume, hsecond] at hdrain
              cases left' with
              | error s => rw [receiveFrom_of_error hsecond, receiveFrom_of_error hdrain]
              | ok k =>
                  rw [receiveFrom_of_ok hsecond, receiveFrom_of_ok hdrain, List.append_assoc]

/-- Nor does a chunk without octets, where nothing more is complete. -/
lemma receiveFrom_data_nil (h : i.step = .stuck) :
    receiveFrom decode finished i (.data [] :: chunks) = receiveFrom decode finished i chunks := by
  have hfeed : i.feed [] = i := by
    simp only [Inlet.feed, List.append_nil]
  rw [receiveFrom_of_ok (by rw [hfeed]; exact drain_of_stuck h), List.nil_append]

/-- Chunks that do not break off are one chunk of all their octets. -/
lemma receiveFrom_of_whole (hi : i.step = .stuck) (hwhole : ∀ reason, .broken reason ∉ chunks) :
    receiveFrom decode finished i chunks
      = receiveFrom decode finished i [.data (chunks.flatMap (·.octets))] := by
  induction chunks generalizing i with
  | nil => rw [List.flatMap_nil, receiveFrom_data_nil hi]
  | cons c chunks ih =>
      cases c with
      | broken reason => exact absurd List.mem_cons_self (hwhole reason)
      | data bs =>
          have hrest : ∀ reason, Chunk.broken reason ∉ chunks := fun reason hmem =>
            hwhole reason (List.mem_cons_of_mem _ hmem)
          rw [List.flatMap_cons, Chunk.octets, ← receiveFrom_data_data]
          cases hdrain : (i.feed bs).drain decode with
          | mk first left =>
              cases left with
              | error s => rw [receiveFrom_of_error hdrain, receiveFrom_of_error hdrain]
              | ok j =>
                  rw [receiveFrom_of_ok hdrain, receiveFrom_of_ok hdrain,
                    ih (stuck_of_drain hdrain) hrest]

/-- A body that breaks off comes to an error, be it that one or one before. -/
lemma failed_of_broken (decode : Octets → Except Status M) (finished : Bool) (i : Inlet)
    {reason : String} (h : .broken reason ∈ chunks) :
    ∃ s, (receiveFrom decode finished i chunks).ending = .failed s := by
  induction chunks generalizing i with
  | nil => cases h
  | cons c chunks ih =>
      cases c with
      | broken reason' => exact ⟨_, rfl⟩
      | data bs =>
          have hmem : .broken reason ∈ chunks := by simpa using h
          cases hdrain : (i.feed bs).drain decode with
          | mk first left =>
              cases left with
              | error s => exact ⟨s, by rw [receiveFrom_of_error hdrain]⟩
              | ok j =>
                  rw [receiveFrom_of_ok hdrain]
                  exact ih _ hmem

/-! ## Whole bodies -/

lemma receive_of_whole {b : Body} (h : b.IsWhole) :
    receive decode b = receiveFrom decode b.finished {} [.data b.octets] := by
  have hempty : ({} : Inlet).step = .stuck := rfl
  exact receiveFrom_of_whole hempty h

/-- What a whole body comes to, by what is taken out of its octets. -/
lemma receive_of_drain {b : Body} (hwhole : b.IsWhole)
    (h : (⟨b.octets, none⟩ : Inlet).drain decode = (ms, .ok j)) :
    receive decode b = ⟨ms,
      if !b.finished then .pending
      else if j.waiting.isEmpty then .finished else .failed unexpectedEnd⟩ := by
  rw [receive_of_whole hwhole, receiveFrom_of_ok (by simpa [Inlet.feed] using h), receiveFrom]
  split_ifs <;> simp

lemma receive_of_drain_error {b : Body} {s : Status} (hwhole : b.IsWhole)
    (h : (⟨b.octets, none⟩ : Inlet).drain decode = (ms, .error s)) :
    receive decode b = ⟨ms, .failed s⟩ := by
  rw [receive_of_whole hwhole, receiveFrom_of_error (by simpa [Inlet.feed] using h)]

/-- **Which bodies come without an error.**  No chunk breaks off, and the octets are good frames and
a fragment.  If the client has finished, then nothing is left, or a heading without any octet of the
message that it announces. -/
theorem receive_eq_iff {b : Body} {e : Ending} (he : ∀ s, e ≠ .failed s) :
    receive decode b = ⟨ms, e⟩ ↔
      b.IsWhole ∧ e = (if b.finished then .finished else .pending) ∧
      ∃ rest, Frames decode b.octets ms rest ∧ IsFragment rest ∧
        (b.finished = true → rest = [] ∨ IsLoneHeading rest) := by
  constructor
  · intro h
    have hwhole : b.IsWhole := by
      intro reason hmem
      obtain ⟨s, hs⟩ := failed_of_broken decode b.finished {} hmem
      rw [← receive, h] at hs
      exact he s hs
    cases hdrain : (⟨b.octets, none⟩ : Inlet).drain decode with
    | mk found left =>
        cases left with
        | error s =>
            rw [receive_of_drain_error hwhole hdrain] at h
            cases h
            exact absurd rfl (he s)
        | ok j =>
            obtain ⟨hframes, hfragment, hj⟩ :=
              frames_of_drain (Inlet.isAdmitted_none b.octets) hdrain
            have hwaiting := Inlet.waiting_eq_nil_iff hj (stuck_of_drain hdrain)
            rw [receive_of_drain hwhole hdrain] at h
            cases hfinished : b.finished with
            | false =>
                rw [hfinished] at h
                cases h
                exact ⟨hwhole, rfl, j.octets, hframes, hfragment, fun hf => by cases hf⟩
            | true =>
                rw [hfinished] at h
                by_cases hempty : j.waiting = []
                · simp only [hempty, List.isEmpty_nil] at h
                  cases h
                  exact ⟨hwhole, rfl, j.octets, hframes, hfragment, fun _ => hwaiting.1 hempty⟩
                · simp only [List.isEmpty_iff, hempty] at h
                  cases h
                  exact absurd rfl (he _)
  · rintro ⟨hwhole, rfl, rest, hframes, hfragment, hrest⟩
    obtain ⟨j, hdrain, rfl⟩ := exists_drain_iff.2 ⟨hframes, hfragment⟩
    rw [receive_of_drain hwhole hdrain]
    cases hfinished : b.finished with
    | false => rfl
    | true =>
        obtain ⟨-, -, hj⟩ := frames_of_drain (Inlet.isAdmitted_none b.octets) hdrain
        have hempty := (Inlet.waiting_eq_nil_iff hj (stuck_of_drain hdrain)).2 (hrest hfinished)
        simp [hempty]

/-! ## The codes of errors -/

lemma code_ne_ok_of_header? {bs : Octets} {s : Status} (h : header? bs = .error s) :
    s.code ≠ .ok := by
  rw [header?.eq_def] at h
  split at h
  · simp only at h
    split_ifs at h <;> cases h <;> exact Code.noConfusion
  · cases h

lemma code_ne_ok_of_drain {s : Status}
    (hdecode : ∀ payload s, decode payload = .error s → s.code ≠ .ok)
    (h : i.drain decode = (ms, .error s)) : s.code ≠ .ok := by
  fun_induction Inlet.drain decode i generalizing ms with
  | case1 i k hstep ih => exact ih h
  | case2 i payload k hstep m hm ms' rest hrest ih =>
      cases h
      exact ih hrest
  | case3 i payload k hstep s' hs =>
      cases h
      exact hdecode payload s hs
  | case4 i hstep => cases h
  | case5 i s' hstep =>
      cases h
      rw [Inlet.step] at hstep
      split at hstep
      · split at hstep <;> cases hstep
      · split at hstep <;> cases hstep
        exact code_ne_ok_of_header? (by assumption)

/-- No error has the code of a success. -/
theorem code_ne_ok_of_receiveFrom {s : Status}
    (hdecode : ∀ payload s, decode payload = .error s → s.code ≠ .ok)
    (h : (receiveFrom decode finished i chunks).ending = .failed s) : s.code ≠ .ok := by
  induction chunks generalizing i with
  | nil =>
      rw [receiveFrom] at h
      split_ifs at h
      cases h
      exact Code.noConfusion
  | cons c chunks ih =>
      cases c with
      | broken reason =>
          cases h
          exact Code.noConfusion
      | data bs =>
          cases hdrain : (i.feed bs).drain decode with
          | mk found left =>
              cases left with
              | error s' =>
                  rw [receiveFrom_of_error hdrain] at h
                  cases h
                  exact code_ne_ok_of_drain hdecode hdrain
              | ok j =>
                  rw [receiveFrom_of_ok hdrain] at h
                  exact ih h

end Receive

end StandIn.Grpc
