import StandIn.Proofs.Relay.Deeds

/-!
# How an exchange ends

An exchange can go wrong in many places: in the middle of a body, in what a request asks for, on the
way to the target and on the way back.  Each of them has its own way out, and every one of them must
leave one answer and one line in the access log behind.

* `handle_of_forward_ok`, `handle_of_forward_error` — a request that is forwarded.
* `Exchange.IsBadGateway` — the relay's own word that the target gave no answer.
* `isBadGateway_handle_iff` — it is given for failures, and for nothing else.
* `outcome_of_handle` — what is answered and logged in all cases.
-/

namespace StandIn.Relay

open Http (Transport Request Response Incoming)

/-- The text of the answer if the target gives none. -/
def badGatewayText : Octets := Utf8.encode "Bad Gateway"

/-- Whether the relay answered for a target that gave no answer, and said why. -/
def Exchange.IsBadGateway (e : Exchange) : Prop :=
  e.response.status = 502 ∧ e.response.body = badGatewayText ∧
    ∃ f, .tell (unforwardedEvent f) ∈ e.deeds

section Forwarded

variable {t : Target} {transport : Transport} {earlier : List Request}
  {remote : Net.SocketAddress} {r : Incoming}

/-- The target's answer is passed on, and nothing is said besides. -/
lemma handle_of_forward_ok (h : r.failure = none)
    (hroute : (routeOf r.head).disposition = .forward) {response : Response}
    (hok : (t.forward transport earlier remote ⟨r.head, r.pieces.flatten⟩).2 = .ok response) :
    handle t transport earlier remote r
      = ⟨response,
          .observe (observe (observedTarget r.head.uri) r.pieces.flatten) ::
            (t.forward transport earlier remote ⟨r.head, r.pieces.flatten⟩).1 ++
            [.tell (accessEvent remote r.head response.status r.pieces.flatten.length)]⟩ := by
  have hanswer := answer_of_forward_ok t transport earlier remote ⟨r.head, r.pieces.flatten⟩
    hroute hok
  rw [handle_of_received t transport earlier remote r h, hanswer]

lemma handle_of_forward_error (h : r.failure = none)
    (hroute : (routeOf r.head).disposition = .forward) {f : Failure}
    (herror : (t.forward transport earlier remote ⟨r.head, r.pieces.flatten⟩).2 = .error f) :
    handle t transport earlier remote r
      = ⟨badGateway,
          .observe (observe (observedTarget r.head.uri) r.pieces.flatten) ::
            ((t.forward transport earlier remote ⟨r.head, r.pieces.flatten⟩).1 ++
              [.tell (unforwardedEvent f)]) ++
            [.tell (accessEvent remote r.head badGateway.status r.pieces.flatten.length)]⟩ := by
  have hanswer := answer_of_forward_error t transport earlier remote ⟨r.head, r.pieces.flatten⟩
    hroute herror
  rw [handle_of_received t transport earlier remote r h, hanswer]

/-- An answer that is passed on is never accompanied by a complaint. -/
lemma unforwarded_not_mem_of_forward_ok (h : r.failure = none)
    (hroute : (routeOf r.head).disposition = .forward) {response : Response}
    (hok : (t.forward transport earlier remote ⟨r.head, r.pieces.flatten⟩).2 = .ok response)
    (f : Failure) :
    .tell (unforwardedEvent f) ∉ (handle t transport earlier remote r).deeds := by
  rw [handle_of_forward_ok h hroute hok]
  simp only [List.cons_append, List.mem_cons, List.mem_append, List.not_mem_nil, or_false,
    reduceCtorEq, false_or, not_or]
  constructor
  · intro hmem
    obtain ⟨uri, huri⟩ := eq_forwardingEvent_of_mem_forward t transport earlier remote _ hmem
    have hsource := congrArg Log.Event.source huri
    simp [unforwardedEvent, relaySource, Target.forwardingEvent] at hsource
  · intro heq
    have hsource := congrArg Log.Event.source (Deed.tell.inj heq)
    exact source_unforwardedEvent_ne f hsource

/-- **For failures, and for nothing else.** -/
theorem isBadGateway_handle_iff (h : r.failure = none)
    (hroute : (routeOf r.head).disposition = .forward) :
    (handle t transport earlier remote r).IsBadGateway
      ↔ ∃ f, (t.forward transport earlier remote ⟨r.head, r.pieces.flatten⟩).2 = .error f := by
  constructor
  · rintro ⟨-, -, f, hf⟩
    cases hres : (t.forward transport earlier remote ⟨r.head, r.pieces.flatten⟩).2 with
    | ok response => exact absurd hf (unforwarded_not_mem_of_forward_ok h hroute hres f)
    | error f => exact ⟨f, rfl⟩
  · rintro ⟨f, hf⟩
    rw [Exchange.IsBadGateway, handle_of_forward_error h hroute hf]
    refine ⟨rfl, rfl, f, ?_⟩
    simp

/-- The target's answer as it is passed on. -/
lemma passed_on_of_forward_ok (h : r.failure = none)
    (hroute : (routeOf r.head).disposition = .forward) {response : Response}
    (hok : (t.forward transport earlier remote ⟨r.head, r.pieces.flatten⟩).2 = .ok response) :
    ∃ q up, sent (handle t transport earlier remote r).deeds = [q] ∧
      transport earlier q = .ok up ∧
      (handle t transport earlier remote r).response
        = { up with headers := up.headers.endToEnd } := by
  obtain ⟨q, up, hq, hup, hresponse⟩ :=
    (forward_eq_ok_iff t transport earlier remote ⟨r.head, r.pieces.flatten⟩).1 hok
  refine ⟨q, up, ?_, hup, ?_⟩
  · rw [sent_handle, Target.relayed?, collect_of_received h]
    dsimp only
    rw [if_pos hroute, hq]
    rfl
  · rw [handle_of_forward_ok h hroute hok, hresponse]

/-- The target may answer just as the relay does for it.  To the client the two look the same. -/
lemma answered_badGateway_iff (h : r.failure = none)
    (hroute : (routeOf r.head).disposition = .forward) :
    (handle t transport earlier remote r).response.status = 502 ∧
        (handle t transport earlier remote r).response.body = badGatewayText
      ↔ (∃ f, (t.forward transport earlier remote ⟨r.head, r.pieces.flatten⟩).2 = .error f) ∨
        ∃ q up, sent (handle t transport earlier remote r).deeds = [q] ∧
          transport earlier q = .ok up ∧ up.status = 502 ∧ up.body = badGatewayText := by
  cases hres : (t.forward transport earlier remote ⟨r.head, r.pieces.flatten⟩).2 with
  | error f =>
      obtain ⟨hstatus, hbody, -⟩ := (isBadGateway_handle_iff h hroute).2 ⟨f, hres⟩
      exact iff_of_true ⟨hstatus, hbody⟩ (.inl ⟨f, rfl⟩)
  | ok response =>
      obtain ⟨q, up, hsent, hup, hresponse⟩ := passed_on_of_forward_ok h hroute hres
      rw [hresponse]
      constructor
      · rintro ⟨hstatus, hbody⟩
        exact .inr ⟨q, up, hsent, hup, hstatus, hbody⟩
      · rintro (⟨f, hf⟩ | ⟨q', up', hsent', hup', hstatus, hbody⟩)
        · cases hf
        · obtain rfl : q = q' := List.singleton_inj.1 (hsent.symm.trans hsent')
          obtain rfl : up = up' := Except.ok.inj (hup.symm.trans hup')
          exact ⟨hstatus, hbody⟩

end Forwarded

/-- **How an exchange ends.**  Whatever the request is, and whatever the target does, there is one
line in the access log and it shows the status that was answered.

If the body breaks off, however much of it came, the request is refused and neither observed nor
sent.  If it is forwarded, the relay answers for the target exactly if forwarding failed; otherwise
the answer is that of the target without the fields of one hop.  The client sees the same status and
text only if the target itself answers so.  What is observed is the same in all cases. -/
theorem outcome_of_handle (t : Target) (transport : Transport) (earlier : List Request)
    (remote : Net.SocketAddress) (r : Incoming) :
    let e := handle t transport earlier remote r
    let outcome := (t.forward transport earlier remote ⟨r.head, r.pieces.flatten⟩).2
    accessed e.deeds = [accessEvent remote r.head e.response.status
      (if r.failure = none then r.pieces.flatten.length else 0)] ∧
    (r.failure ≠ none → e.response.status = 400 ∧ e.response.body = [] ∧
      observed e.deeds = [] ∧ sent e.deeds = []) ∧
    (r.failure = none → (routeOf r.head).disposition = .forward →
      (e.IsBadGateway ↔ ∃ f, outcome = .error f) ∧
      (∀ response, outcome = .ok response →
        ∃ q up, sent e.deeds = [q] ∧ transport earlier q = .ok up ∧
          e.response = { up with headers := up.headers.endToEnd }) ∧
      (e.response.status = 502 ∧ e.response.body = badGatewayText ↔
        (∃ f, outcome = .error f) ∨
          ∃ q up, sent e.deeds = [q] ∧ transport earlier q = .ok up ∧
            up.status = 502 ∧ up.body = badGatewayText)) ∧
    (∀ t' transport' earlier',
      observed (handle t' transport' earlier' remote r).deeds = observed e.deeds) := by
  intro e outcome
  refine ⟨accessed_handle t transport earlier remote r, ?_, ?_, ?_⟩
  · intro h
    obtain ⟨reason, h⟩ := Option.ne_none_iff_exists'.1 h
    have he : e = _ := handle_of_unread t transport earlier remote r h
    rw [he]
    exact ⟨rfl, rfl, rfl, rfl⟩
  · intro h hroute
    exact ⟨isBadGateway_handle_iff h hroute, fun _ hok => passed_on_of_forward_ok h hroute hok,
      answered_badGateway_iff h hroute⟩
  · intro t' transport' earlier'
    exact (observed_handle t' transport' earlier' remote r).trans
      (observed_handle t transport earlier remote r).symm

/-- Where nobody can be reached, the relay answers for the target. -/
theorem outcome_of_unreachable :
    (handle ⟨Target.defaultName, ⟨some "http", some "h", "/", none⟩⟩ Transport.unreachable []
      (.v4 ⟨10, 0, 0, 7⟩ 5000)
      ⟨⟨.get, ⟨none, none, "/", none⟩, .http11, .empty⟩, [[1], [2]], none⟩).IsBadGateway := by
  obtain ⟨-, -, hforward, -⟩ := outcome_of_handle
    ⟨Target.defaultName, ⟨some "http", some "h", "/", none⟩⟩ Transport.unreachable []
    (.v4 ⟨10, 0, 0, 7⟩ 5000) ⟨⟨.get, ⟨none, none, "/", none⟩, .http11, .empty⟩, [[1], [2]], none⟩
  exact (hforward rfl (by rfl)).1.2 ⟨_, rfl⟩

end StandIn.Relay
