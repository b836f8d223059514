import StandIn.Ingress.Service
import StandIn.Proofs.Grpc.Bodies
import StandIn.Proofs.Http.Fields
import StandIn.Proofs.Ingress.Schedule

/-!
# What the ingress accepts

Neither way of sending telemetry tells a client anything but that its batches arrived.  A stream is
held open as long as it is in order, and is acknowledged when it breaks.  A single batch is
acknowledged if it arrived, and nothing of what it held shows.

Both depend on where a body ends.  A body that ends in the middle of a frame is not in order; but if
all that is there of the frame is its heading, then that is not noticed.

* `Carries` — the batches of a body, and what is left of it.
* `stream_of_body` — when a stream is held open, and how it is answered otherwise.
* `send_of_body` — when a batch is acknowledged, and that all acknowledgements are alike.
* `stream_open_at_heading`, `send_accepted_at_heading` — bodies that end behind a heading.
-/

namespace StandIn

open Grpc

/-! ## Answers -/

namespace Grpc

/-- The value that tells how a call ended.  It stands behind the message if there is one. -/
def Answer.status? (a : Answer) : Option Http.FieldValue :=
  (a.trailers.getD a.headers).get? grpcStatus

/-- The call went well, and the one message of the answer is empty. -/
structure Answer.IsBareSuccess (a : Answer) : Prop where
  http : httpStatus = 200
  body : a.body = frame []
  trailed : a.trailers.isSome = true
  status : a.status?.map (·.octets) = some (Utf8.encode "0")

lemma octets_ofMessage_number_iff (c : Code) :
    (Http.FieldValue.ofMessage (toString c.number)).octets = Utf8.encode "0" ↔ c = .ok := by
  cases c <;> decide +kernel

/-- A call that was refused tells its code among the header fields. -/
lemma status?_refusal (s : Status) :
    (Answer.refusal s).status? = some (.ofMessage (toString s.code.number)) := by
  have hcommon : Answer.commonFields.values grpcStatus = [] := by decide
  have hfields : s.fields.get? grpcStatus = some (.ofMessage (toString s.code.number)) := by
    rw [Status.fields, Http.Headers.get?_eq_head?]
    have hempty : Http.Headers.empty.values grpcStatus = [] := rfl
    split_ifs <;> simp [hempty]
  rw [Http.Headers.get?_eq_head?, Http.Headers.values] at hfields
  rw [Http.Headers.values] at hcommon
  simp [Answer.status?, Answer.refusal, Http.Headers.get?_eq_head?, Http.Headers.values,
    Http.Headers.empty, hcommon, hfields]

end Grpc

namespace Ingress

lemma isBareSuccess_acknowledge (o : Operation) : (acknowledge o).IsBareSuccess := by
  have hstatus : (acknowledge o).status? = some (.ofMessage (toString Code.ok.number)) := by
    cases o <;> rfl
  refine ⟨rfl, by cases o <;> rfl, rfl, ?_⟩
  rw [hstatus, Option.map_some, (octets_ofMessage_number_iff .ok).2 rfl]

/-! ## Streams -/

/-- Batches that are sent one after the other wait in that order. -/
lemma foldl_send (bs : List EnvelopeBatch) (earlier : List Item) :
    bs.foldl (fun c b => c.send (.batch b)) ({ waiting := earlier } : Call)
      = { waiting := earlier ++ bs.map .batch } := by
  induction bs generalizing earlier with
  | nil => simp
  | cons b bs ih =>
      have hrest := ih (earlier ++ [.batch b])
      rw [List.append_assoc] at hrest
      exact hrest

/-- **A stream is answered only if it breaks.** -/
lemma answer_streamOutcome (peer : Option Net.SocketAddress) (a : Arrivals EnvelopeBatch) :
    (streamOutcome peer a).answer = match a.ending with
      | .failed _ => some (acknowledge .batchSender)
      | .finished | .pending => none := by
  obtain ⟨batches, ending⟩ := a
  rw [streamOutcome, Call.ofArrivals, foldl_send batches []]
  cases ending with
  | finished => simp [Call.finish, Call.poll, Call.code?]
  | pending => simp [Call.poll, Call.code?]
  | failed s => simp [Call.send, Call.poll, Call.code?, Call.firstError?]

/-! ## What a body carries -/

lemma readBatch_nil : readBatch [] = .ok {} := by
  decide_cbv

/-- The batches of a body of which no chunk breaks off, and the octets behind their frames. -/
structure Carries (b : Body) (batches : List EnvelopeBatch) (rest : Octets) : Prop where
  whole : b.IsWhole
  frames : Frames readBatch b.octets batches rest

/-- A body carries its batches in one way only. -/
lemma Carries.unique {b : Body} {batches batches' : List EnvelopeBatch} {rest rest' : Octets}
    (h : Carries b batches rest) (hrest : IsFragment rest) (h' : Carries b batches' rest')
    (hrest' : IsFragment rest') : batches = batches' ∧ rest = rest' :=
  h.frames.unique hrest h'.frames hrest'

/-- All frames of the body are good.  The last one may be incomplete as long as the client has not
finished. -/
def IsInOrder (b : Body) : Prop :=
  ∃ batches rest, Carries b batches rest ∧ IsFragment rest ∧ (b.finished = true → rest = [])

/-- The client has finished behind the heading of a message, of which nothing is there. -/
def EndsAtHeading (b : Body) : Prop :=
  b.finished = true ∧ ∃ batches rest, Carries b batches rest ∧ IsLoneHeading rest

/-- The body is one or more good frames. -/
def IsSubmission (b : Body) : Prop :=
  ∃ batches, Carries b batches [] ∧ batches ≠ []

/-- The body is one or more good frames, and the heading of a message of which nothing is there. -/
def IsSubmissionAndHeading (b : Body) : Prop :=
  ∃ batches rest, Carries b batches rest ∧ batches ≠ [] ∧ IsLoneHeading rest

lemma exists_receive_iff {b : Body} {batches : List EnvelopeBatch} :
    (∃ e, (∀ s, e ≠ .failed s) ∧ receive readBatch b = ⟨batches, e⟩) ↔
      ∃ rest, Carries b batches rest ∧ IsFragment rest ∧
        (b.finished = true → rest = [] ∨ IsLoneHeading rest) := by
  constructor
  · rintro ⟨e, he, h⟩
    obtain ⟨hwhole, -, rest, hframes, hrest⟩ := (receive_eq_iff he).1 h
    exact ⟨rest, ⟨hwhole, hframes⟩, hrest⟩
  · rintro ⟨rest, hcarries, hrest⟩
    refine ⟨if b.finished then .finished else .pending, ?_, ?_⟩
    · intro s
      split_ifs <;> exact Ending.noConfusion
    · refine (receive_eq_iff ?_).2 ⟨hcarries.whole, rfl, rest, hcarries.frames, hrest⟩
      intro s
      split_ifs <;> exact Ending.noConfusion

lemma code_ne_ok_of_receive {b : Body} {s : Status} (h : (receive readBatch b).ending = .failed s) :
    s.code ≠ .ok := by
  refine code_ne_ok_of_receiveFrom (fun payload s hs => ?_) h
  rw [readBatch] at hs
  split at hs <;> cases hs
  exact Code.noConfusion

/-! ## Calls -/

section Serve

variable {peer : Option Net.SocketAddress} {headers : Http.Headers} {b : Body}

lemma compression?_of_plain (h : headers.values grpcEncoding = []) :
    compression? headers = none := by
  rw [compression?, Http.Headers.get?_eq_head?, h]
  rfl

lemma serve_batchSender (h : headers.values grpcEncoding = []) :
    serve peer Operation.batchSender.path headers b = streamOutcome peer (receive readBatch b) := by
  have hpath : Operation.ofPath? Operation.batchSender.path = some .batchSender := by decide
  rw [serve, hpath, compression?_of_plain h]

lemma serve_send (h : headers.values grpcEncoding = []) :
    serve peer Operation.send.path headers b = ⟨sendAnswer (receive readBatch b), []⟩ := by
  have hpath : Operation.ofPath? Operation.send.path = some .send := by decide
  rw [serve, hpath, compression?_of_plain h]

end Serve

/-- A stream is held open exactly if no error comes of its body. -/
lemma answer_eq_none_iff (peer : Option Net.SocketAddress) (b : Body) :
    (streamOutcome peer (receive readBatch b)).answer = none ↔ IsInOrder b ∨ EndsAtHeading b := by
  have hopen : (streamOutcome peer (receive readBatch b)).answer = none ↔
      ∃ batches e, (∀ s, e ≠ .failed s) ∧ receive readBatch b = ⟨batches, e⟩ := by
    rw [answer_streamOutcome]
    constructor
    · intro h
      refine ⟨(receive readBatch b).messages, (receive readBatch b).ending, fun s hs => ?_, rfl⟩
      simp [hs] at h
    · rintro ⟨batches, e, he, h⟩
      rw [h]
      cases e with
      | finished => rfl
      | pending => rfl
      | failed s => exact absurd rfl (he s)
  simp only [hopen, exists_receive_iff]
  constructor
  · rintro ⟨batches, rest, hcarries, hfragment, hrest⟩
    cases hfinished : b.finished with
    | false => exact .inl ⟨batches, rest, hcarries, hfragment, fun h => by simp [hfinished] at h⟩
    | true =>
        obtain rfl | hheading := hrest hfinished
        · exact .inl ⟨batches, [], hcarries, hfragment, fun _ => rfl⟩
        · exact .inr ⟨hfinished, batches, rest, hcarries, hheading⟩
  · rintro (⟨batches, rest, hcarries, hfragment, hrest⟩ | ⟨-, batches, rest, hcarries, hheading⟩)
    · exact ⟨batches, rest, hcarries, hfragment, fun h => .inl (hrest h)⟩
    · exact ⟨batches, rest, hcarries, hheading.isFragment, fun _ => .inr hheading⟩

lemma not_isInOrder_of_endsAtHeading {b : Body} (h : EndsAtHeading b) : ¬IsInOrder b := by
  obtain ⟨hfinished, batches, rest, hcarries, hheading⟩ := h
  rintro ⟨batches', rest', hcarries', hfragment, hrest⟩
  obtain ⟨-, rfl⟩ := hcarries.unique hheading.isFragment hcarries' hfragment
  exact hheading.ne_nil (hrest hfinished)

/-- **When a stream is held open.**  Whatever is sent, a stream is not answered at all, or it is told
that the call went well, and nothing else.  It is not answered if all of its frames are good, where
the last one may be incomplete as long as the client has not finished.  That is when no answer is
given, except that a stream is also held open of which the client finished right behind a
heading. -/
theorem stream_of_body (peer : Option Net.SocketAddress) {headers : Http.Headers}
    (hplain : headers.values grpcEncoding = []) (b : Body) :
    let answer := (serve peer Operation.batchSender.path headers b).answer
    (answer = none ∨ ∃ a, answer = some a ∧ a.IsBareSuccess) ∧
    (answer = none ↔ IsInOrder b ∨ EndsAtHeading b) ∧
    ((answer = none ↔ IsInOrder b) ↔ ¬EndsAtHeading b) := by
  intro answer
  have hanswer : answer = (streamOutcome peer (receive readBatch b)).answer :=
    congrArg Outcome.answer (serve_batchSender hplain)
  have hopen : answer = none ↔ IsInOrder b ∨ EndsAtHeading b := by
    rw [hanswer, answer_eq_none_iff]
  refine ⟨?_, hopen, ?_⟩
  · rw [hanswer, answer_streamOutcome]
    cases (receive readBatch b).ending with
    | finished => exact .inl rfl
    | pending => exact .inl rfl
    | failed s => exact .inr ⟨_, rfl, isBareSuccess_acknowledge .batchSender⟩
  · rw [hopen]
    constructor
    · intro hiff hheading
      exact not_isInOrder_of_endsAtHeading hheading (hiff.1 (.inr hheading))
    · intro hheading
      exact or_iff_left hheading

/-- A stream may be cut anywhere, also within a heading, as long as the client goes on. -/
theorem stream_open_within_heading :
    (Http.Headers.empty.values grpcEncoding = []) ∧
    (serve none Operation.batchSender.path .empty
      ⟨[.data [0, 0, 0], .data [], .data [0, 0, 0, 1]], false⟩).answer = none := by
  have hwhole : Body.IsWhole ⟨[.data [0, 0, 0], .data [], .data [0, 0, 0, 1]], false⟩ :=
    fun reason hmem => by simp at hmem
  have hframes : Frames readBatch [0, 0, 0, 0, 0, 0, 1] [{}] [0, 1] :=
    .cons [] (by decide) readBatch_nil (.nil [0, 1])
  exact ⟨rfl, (stream_of_body none rfl _).2.1.2
    (.inl ⟨_, _, ⟨hwhole, hframes⟩, .inl (by decide), fun h => by cases h⟩)⟩

/-- **A stream that is held open behind a heading.**  A message of 35 octets is announced, and then
the client finishes. -/
theorem stream_open_at_heading :
    (serve none Operation.batchSender.path .empty ⟨[.data [0, 0, 0, 0, 35]], true⟩).answer = none ∧
    ¬IsInOrder ⟨[.data [0, 0, 0, 0, 35]], true⟩ := by
  have hends : EndsAtHeading ⟨[.data [0, 0, 0, 0, 35]], true⟩ := by
    refine ⟨rfl, [], [0, 0, 0, 0, 35], ⟨fun reason hmem => by simp at hmem, .nil _⟩, ?_⟩
    exact ⟨35, by decide, by decide, rfl⟩
  refine ⟨?_, not_isInOrder_of_endsAtHeading hends⟩
  rw [serve_batchSender rfl]
  exact (answer_eq_none_iff none _).2 (.inr hends)

/-! ## Single batches -/

/-- The answer says that the call went well. -/
def Outcome.Succeeds (o : Outcome) : Prop :=
  ∃ a, o.answer = some a ∧ a.status?.map (·.octets) = some (Utf8.encode "0")

lemma not_succeeds_refusal {s : Status} (h : s.code ≠ .ok) (log : List Log.Event) :
    ¬Outcome.Succeeds ⟨some (.refusal s), log⟩ := by
  rintro ⟨a, ha, hstatus⟩
  cases ha
  rw [status?_refusal, Option.map_some, Option.some.injEq, octets_ofMessage_number_iff] at hstatus
  exact h hstatus

/-- A single batch is acknowledged if the client has finished, and at least one message came of its
body without an error. -/
lemma succeeds_sendAnswer_iff (b : Body) (log : List Log.Event) :
    Outcome.Succeeds ⟨sendAnswer (receive readBatch b), log⟩ ↔
      ∃ batches, batches ≠ [] ∧ receive readBatch b = ⟨batches, .finished⟩ := by
  have hcode (s : Status) (h : (receive readBatch b).ending = .failed s) : s.code ≠ .ok :=
    code_ne_ok_of_receive h
  generalize receive readBatch b = a at hcode ⊢
  obtain ⟨batches, ending⟩ := a
  cases ending with
  | pending =>
      refine iff_of_false ?_ (by simp)
      rintro ⟨a, ha, -⟩
      cases ha
  | failed s => exact iff_of_false (not_succeeds_refusal (hcode s rfl) log) (by simp)
  | finished =>
      cases batches with
      | nil =>
          have hmissing : missingMessage.code ≠ .ok := by decide
          exact iff_of_false (not_succeeds_refusal hmissing log) (by simp)
      | cons batch batches =>
          refine iff_of_true ?_ ⟨_, List.cons_ne_nil _ _, rfl⟩
          exact ⟨acknowledge .send, rfl, (isBareSuccess_acknowledge .send).status⟩

lemma eq_of_succeeds {b : Body} {log : List Log.Event}
    (h : Outcome.Succeeds ⟨sendAnswer (receive readBatch b), log⟩) :
    sendAnswer (receive readBatch b) = some (acknowledge .send) := by
  obtain ⟨batches, hbatches, hreceive⟩ := (succeeds_sendAnswer_iff b log).1 h
  simp [hreceive, sendAnswer, hbatches]

lemma exists_finished_iff {b : Body} (h : b.finished = true) :
    (∃ batches, batches ≠ [] ∧ receive readBatch b = ⟨batches, .finished⟩) ↔
      IsSubmission b ∨ IsSubmissionAndHeading b := by
  have hnotFailed : ∀ s, Ending.finished ≠ .failed s := fun _ => Ending.noConfusion
  simp only [receive_eq_iff hnotFailed, h, if_true, true_and, forall_true_left]
  constructor
  · rintro ⟨batches, hbatches, hwhole, rest, hframes, -, rfl | hheading⟩
    · exact .inl ⟨batches, ⟨hwhole, hframes⟩, hbatches⟩
    · exact .inr ⟨batches, rest, ⟨hwhole, hframes⟩, hbatches, hheading⟩
  · rintro (⟨batches, hcarries, hbatches⟩ | ⟨batches, rest, hcarries, hbatches, hheading⟩)
    · exact ⟨batches, hbatches, hcarries.whole, [], hcarries.frames, .inl (by simp), .inl rfl⟩
    · exact ⟨batches, hbatches, hcarries.whole, rest, hcarries.frames, hheading.isFragment,
        .inr hheading⟩

lemma not_isSubmission_of_heading {b : Body} (h : IsSubmissionAndHeading b) : ¬IsSubmission b := by
  obtain ⟨batches, rest, hcarries, -, hheading⟩ := h
  rintro ⟨batches', hcarries', -⟩
  obtain ⟨-, rfl⟩ := hcarries.unique hheading.isFragment hcarries' (.inl (by simp))
  exact hheading.ne_nil rfl

/-- **When a batch is acknowledged, and what that tells.**  The client has finished.  The call goes
well if its body is one or more good frames.  That is when it goes well, except that it also does if
there is the heading of one more message behind the frames.  Of two calls that go well, nobody can
tell which is which: their answers are the same, header fields, empty message and trailing fields,
and so is what is logged of them. -/
theorem send_of_body {peer peer' : Option Net.SocketAddress} {headers headers' : Http.Headers}
    (hplain : headers.values grpcEncoding = []) (hplain' : headers'.values grpcEncoding = [])
    {b b' : Body} (hfinished : b.finished = true) :
    let o := serve peer Operation.send.path headers b
    let o' := serve peer' Operation.send.path headers' b'
    (o.Succeeds ↔ IsSubmission b ∨ IsSubmissionAndHeading b) ∧
    ((o.Succeeds ↔ IsSubmission b) ↔ ¬IsSubmissionAndHeading b) ∧
    (o.Succeeds → o'.Succeeds → o = o' ∧ ∃ a, o.answer = some a ∧ a.IsBareSuccess) := by
  intro o o'
  have ho : o = ⟨sendAnswer (receive readBatch b), []⟩ := serve_send hplain
  have ho' : o' = ⟨sendAnswer (receive readBatch b'), []⟩ := serve_send hplain'
  have hsucceeds : o.Succeeds ↔ IsSubmission b ∨ IsSubmissionAndHeading b := by
    rw [ho, succeeds_sendAnswer_iff, exists_finished_iff hfinished]
  refine ⟨hsucceeds, ?_, fun h h' => ?_⟩
  · rw [hsucceeds]
    constructor
    · intro hiff hheading
      exact not_isSubmission_of_heading hheading (hiff.1 (.inr hheading))
    · intro hheading
      exact or_iff_left hheading
  · rw [ho] at h ⊢
    rw [ho'] at h' ⊢
    rw [eq_of_succeeds h, eq_of_succeeds h']
    exact ⟨rfl, _, rfl, isBareSuccess_acknowledge .send⟩

/-- One empty batch, and two batches of which one has an envelope, in pieces. -/
theorem send_of_two_bodies :
    let b : Body := ⟨[.data [0, 0, 0, 0, 0]], true⟩
    let b' : Body := ⟨[.data [0, 0, 0], .data [0, 0, 0, 0, 0, 0, 2, 10, 0]], true⟩
    IsSubmission b ∧ IsSubmission b' ∧
    serve none Operation.send.path .empty b = serve none Operation.send.path .empty b' := by
  intro b b'
  have hb : IsSubmission b := by
    refine ⟨[{}], ⟨fun reason hmem => by simp [b] at hmem, ?_⟩, by simp⟩
    exact .cons [] (by decide) readBatch_nil (.nil [])
  have hb' : IsSubmission b' := by
    refine ⟨[{}, ⟨[{}]⟩], ⟨fun reason hmem => by simp [b'] at hmem, ?_⟩, by simp⟩
    exact .cons [] (by decide) readBatch_nil
      (.cons [10, 0] (by decide) (by decide +kernel) (.nil []))
  have hplain : Http.Headers.empty.values grpcEncoding = [] := rfl
  obtain ⟨hsucceeds, -, hequal⟩ := @send_of_body none none _ _ hplain hplain b b' rfl
  obtain ⟨hsucceeds', -⟩ := @send_of_body none none _ _ hplain hplain b' b rfl
  exact ⟨hb, hb', (hequal (hsucceeds.2 (.inl hb)) (hsucceeds'.2 (.inl hb'))).1⟩

/-- **A submission that goes well although its last message is not there.**  An empty batch is sent,
and then the heading of a message of 5 octets. -/
theorem send_accepted_at_heading :
    (serve none Operation.send.path .empty
      ⟨[.data [0, 0, 0, 0, 0, 0, 0, 0, 0, 5]], true⟩).Succeeds ∧
    ¬IsSubmission ⟨[.data [0, 0, 0, 0, 0, 0, 0, 0, 0, 5]], true⟩ := by
  have hends : IsSubmissionAndHeading ⟨[.data [0, 0, 0, 0, 0, 0, 0, 0, 0, 5]], true⟩ := by
    refine ⟨[{}], [0, 0, 0, 0, 5], ⟨fun reason hmem => by simp at hmem, ?_⟩, by simp, ?_⟩
    · exact .cons [] (by decide) readBatch_nil (.nil [0, 0, 0, 0, 5])
    · exact ⟨5, by decide, by decide, rfl⟩
  refine ⟨?_, not_isSubmission_of_heading hends⟩
  rw [serve_send rfl, succeeds_sendAnswer_iff]
  exact (exists_finished_iff rfl).2 (.inr hends)

end Ingress

end StandIn
