import Mathlib.Data.List.Forall2
import Mathlib.Tactic.Lemma
import StandIn.Relay.Exchange

/-!
# What is done for a request

Everything that is done for a request is one list of deeds.  Claims about the relay are claims
about that list: what was observed, what was sent, and what the access log says.  This file goes
through the functions that write it, from the inside to the outside, and says once for each of them
what it adds.

* `observed`, `accessed` — the observations and the access log, beside `sent`.
* `Target.outgoing?` — what is handed to the target, which depends on nothing but the request.
* `sent_forward`, `forward_eq_ok_iff` — forwarding.
* `deeds_answer` — answering.
* `Target.relayed?`, `sent_handle`, `observed_handle`, `accessed_handle` — one request.
* `sent_handleAll`, `forall₂_handleAll` — any number of requests.
-/

namespace StandIn.Relay

open Http (Transport Request Response Incoming)

/-! ## Reading deeds -/

/-- The observations that were made. -/
def observed (deeds : List Deed) : List Observation :=
  deeds.filterMap fun
    | .observe o => some o
    | _ => none

/-- The part of the log that has a line for every exchange. -/
def accessSource : String := "access"

/-- The lines that were written into the access log. -/
def accessed (deeds : List Deed) : List Log.Event :=
  deeds.filterMap fun
    | .tell e => if e.source = accessSource then some e else none
    | _ => none

section Reading

variable (ds ds' : List Deed) (o : Observation) (r : Request) (e : Log.Event)

@[simp] lemma sent_nil : sent [] = [] := rfl
@[simp] lemma sent_observe : sent (.observe o :: ds) = sent ds := rfl
@[simp] lemma sent_send : sent (.send r :: ds) = r :: sent ds := rfl
@[simp] lemma sent_tell : sent (.tell e :: ds) = sent ds := rfl
@[simp] lemma sent_append : sent (ds ++ ds') = sent ds ++ sent ds' := List.filterMap_append

@[simp] lemma observed_nil : observed [] = [] := rfl
@[simp] lemma observed_observe : observed (.observe o :: ds) = o :: observed ds := rfl
@[simp] lemma observed_send : observed (.send r :: ds) = observed ds := rfl
@[simp] lemma observed_tell : observed (.tell e :: ds) = observed ds := rfl
@[simp] lemma observed_append : observed (ds ++ ds') = observed ds ++ observed ds' :=
  List.filterMap_append

@[simp] lemma accessed_nil : accessed [] = [] := rfl
@[simp] lemma accessed_observe : accessed (.observe o :: ds) = accessed ds := rfl
@[simp] lemma accessed_send : accessed (.send r :: ds) = accessed ds := rfl
@[simp] lemma accessed_append : accessed (ds ++ ds') = accessed ds ++ accessed ds' :=
  List.filterMap_append

lemma accessed_tell_of_eq {e : Log.Event} (h : e.source = accessSource) (ds : List Deed) :
    accessed (.tell e :: ds) = e :: accessed ds := by
  simp [accessed, h]

lemma accessed_tell_of_ne {e : Log.Event} (h : e.source ≠ accessSource) (ds : List Deed) :
    accessed (.tell e :: ds) = accessed ds := by
  simp [accessed, h]

end Reading

/-- Only the line of an exchange belongs into the access log. -/
lemma source_unforwardedEvent_ne (f : Failure) : (unforwardedEvent f).source ≠ accessSource := by
  simp [unforwardedEvent, relaySource, accessSource]

lemma source_unreadEvent_ne (reason : String) : (unreadEvent reason).source ≠ accessSource := by
  simp [unreadEvent, relaySource, accessSource]

lemma source_forwardingEvent_ne (t : Target) (uri : Http.Uri) :
    (t.forwardingEvent uri).source ≠ accessSource := by
  simp [Target.forwardingEvent, accessSource]

/-! ## Forwarding -/

/-- The request that is handed to the target, if there is one: it must have a place on the target,
and be such that it can be sent at all. -/
def Target.outgoing? (t : Target) (remote : Net.SocketAddress) (r : Request) : Option Request :=
  match t.prepare remote r with
  | .ok q => if Http.Client.check q.head = none then some q else none
  | .error _ => none

section Forward

variable (t : Target) (transport : Transport) (earlier : List Request)
  (remote : Net.SocketAddress) (r : Request)

lemma sent_forward :
    sent (t.forward transport earlier remote r).1 = (t.outgoing? remote r).toList := by
  rw [Target.forward, Target.outgoing?]
  cases t.prepare remote r with
  | error f => rfl
  | ok q =>
      dsimp only
      cases hcheck : Http.Client.check q.head <;> rfl

lemma observed_forward : observed (t.forward transport earlier remote r).1 = [] := by
  rw [Target.forward]
  cases t.prepare remote r with
  | error f => rfl
  | ok q =>
      dsimp only
      cases Http.Client.check q.head <;> rfl

lemma accessed_forward : accessed (t.forward transport earlier remote r).1 = [] := by
  rw [Target.forward]
  cases t.prepare remote r with
  | error f => rfl
  | ok q =>
      dsimp only
      cases Http.Client.check q.head <;>
        simp [accessed_tell_of_ne (source_forwardingEvent_ne t q.head.uri)]

/-- All that forwarding tells is that a request is sent on. -/
lemma eq_forwardingEvent_of_mem_forward {e : Log.Event}
    (h : Deed.tell e ∈ (t.forward transport earlier remote r).1) :
    ∃ uri, e = t.forwardingEvent uri := by
  rw [Target.forward] at h
  cases hprep : t.prepare remote r with
  | error f => simp [hprep] at h
  | ok q =>
      refine ⟨q.head.uri, ?_⟩
      cases hcheck : Http.Client.check q.head <;> simpa [hprep, hcheck] using h

/-- **When the target's answer is passed on.**  The request was handed to the target, the target
answered, and nothing but the fields of one hop is missing from the answer. -/
theorem forward_eq_ok_iff {response : Response} :
    (t.forward transport earlier remote r).2 = .ok response
      ↔ ∃ q up, t.outgoing? remote r = some q ∧ transport earlier q = .ok up ∧
          response = { up with headers := up.headers.endToEnd } := by
  rw [Target.forward, Target.outgoing?]
  cases t.prepare remote r with
  | error f => simp
  | ok q =>
      cases hcheck : Http.Client.check q.head with
      | some e => simp [hcheck]
      | none =>
          cases hup : transport earlier q with
          | error e => simp [hcheck, hup]
          | ok up => simp [hcheck, hup, eq_comm]

end Forward

/-! ## Answering -/

section Answer

variable (t : Target) (transport : Transport) (earlier : List Request)
  (remote : Net.SocketAddress) (r : Request)

lemma answer_of_accept {status : Nat} (h : (routeOf r.head).disposition = .accept status) :
    answer t transport earlier remote r = ⟨localResponse status, []⟩ := by
  rw [answer, h]

lemma answer_of_forward_ok (h : (routeOf r.head).disposition = .forward) {response : Response}
    (hok : (t.forward transport earlier remote r).2 = .ok response) :
    answer t transport earlier remote r
      = ⟨response, (t.forward transport earlier remote r).1⟩ := by
  rw [answer, h]
  generalize t.forward transport earlier remote r = outcome at hok ⊢
  obtain ⟨deeds, result⟩ := outcome
  cases hok
  rfl

lemma answer_of_forward_error (h : (routeOf r.head).disposition = .forward) {f : Failure}
    (herror : (t.forward transport earlier remote r).2 = .error f) :
    answer t transport earlier remote r
      = ⟨badGateway,
        (t.forward transport earlier remote r).1 ++ [.tell (unforwardedEvent f)]⟩ := by
  rw [answer, h]
  generalize t.forward transport earlier remote r = outcome at herror ⊢
  obtain ⟨deeds, result⟩ := outcome
  cases herror
  rfl

/-- Answering does nothing, or it does what forwarding does and may complain in the end. -/
lemma deeds_answer :
    ((routeOf r.head).disposition ≠ .forward ∧
      (answer t transport earlier remote r).deeds = []) ∨
    ((routeOf r.head).disposition = .forward ∧ ∃ complaint : List Deed,
      (answer t transport earlier remote r).deeds
        = (t.forward transport earlier remote r).1 ++ complaint ∧
      (complaint = [] ∨ ∃ f, complaint = [.tell (unforwardedEvent f)])) := by
  cases h : (routeOf r.head).disposition with
  | accept status =>
      refine .inl ⟨by simp, ?_⟩
      rw [answer_of_accept t transport earlier remote r h]
  | forward =>
      refine .inr ⟨rfl, ?_⟩
      cases hres : (t.forward transport earlier remote r).2 with
      | ok response =>
          refine ⟨[], ?_, .inl rfl⟩
          rw [answer_of_forward_ok t transport earlier remote r h hres, List.append_nil]
      | error f =>
          refine ⟨_, ?_, .inr ⟨f, rfl⟩⟩
          rw [answer_of_forward_error t transport earlier remote r h hres]

lemma sent_answer :
    sent (answer t transport earlier remote r).deeds
      = if (routeOf r.head).disposition = .forward then (t.outgoing? remote r).toList else [] := by
  obtain ⟨h, hdeeds⟩ | ⟨h, complaint, hdeeds, rfl | ⟨f, rfl⟩⟩ :=
    deeds_answer t transport earlier remote r
  · rw [hdeeds, if_neg h, sent_nil]
  · rw [hdeeds, if_pos h, List.append_nil, sent_forward]
  · rw [hdeeds, if_pos h, sent_append, sent_forward, sent_tell, sent_nil, List.append_nil]

lemma observed_answer : observed (answer t transport earlier remote r).deeds = [] := by
  obtain ⟨-, hdeeds⟩ | ⟨-, complaint, hdeeds, rfl | ⟨f, rfl⟩⟩ :=
    deeds_answer t transport earlier remote r
  · rw [hdeeds, observed_nil]
  · rw [hdeeds, List.append_nil, observed_forward]
  · rw [hdeeds, observed_append, observed_forward, observed_tell, observed_nil, List.append_nil]

lemma accessed_answer : accessed (answer t transport earlier remote r).deeds = [] := by
  obtain ⟨-, hdeeds⟩ | ⟨-, complaint, hdeeds, rfl | ⟨f, rfl⟩⟩ :=
    deeds_answer t transport earlier remote r
  · rw [hdeeds, accessed_nil]
  · rw [hdeeds, List.append_nil, accessed_forward]
  · rw [hdeeds, accessed_append, accessed_forward,
      accessed_tell_of_ne (source_unforwardedEvent_ne f), accessed_nil, List.append_nil]

end Answer

/-! ## One request -/

section Handle

variable (t : Target) (transport : Transport) (earlier : List Request)
  (remote : Net.SocketAddress) (r : Incoming)

/-- The request that is handed to the target for one that comes in, if there is one. -/
def Target.relayed? (t : Target) (remote : Net.SocketAddress) (r : Incoming) : Option Request :=
  match r.collect with
  | .ok body =>
    if (routeOf r.head).disposition = .forward then t.outgoing? remote ⟨r.head, body⟩ else none
  | .error _ => none

lemma collect_of_received {r : Incoming} (h : r.failure = none) :
    r.collect = .ok r.pieces.flatten := by
  rw [Incoming.collect, h]

lemma handle_of_unread {reason : String} (h : r.failure = some reason) :
    handle t transport earlier remote r
      = ⟨badRequest, [.tell (unreadEvent reason),
          .tell (accessEvent remote r.head badRequest.status 0)]⟩ := by
  rw [handle, Incoming.collect, h]

/-- A request that arrived is observed, answered, and logged. -/
lemma handle_of_received (h : r.failure = none) :
    handle t transport earlier remote r
      = ⟨(answer t transport earlier remote ⟨r.head, r.pieces.flatten⟩).response,
          .observe (observe (observedTarget r.head.uri) r.pieces.flatten) ::
            (answer t transport earlier remote ⟨r.head, r.pieces.flatten⟩).deeds ++
            [.tell (accessEvent remote r.head
              (answer t transport earlier remote ⟨r.head, r.pieces.flatten⟩).response.status
              r.pieces.flatten.length)]⟩ := by
  rw [handle, collect_of_received h]

/-- **What is sent on** depends on the request alone: not on what was sent before, nor on what the
target makes of it. -/
theorem sent_handle :
    sent (handle t transport earlier remote r).deeds = (t.relayed? remote r).toList := by
  cases h : r.failure with
  | none =>
      rw [handle_of_received t transport earlier remote r h, Target.relayed?, collect_of_received h]
      dsimp only
      rw [List.cons_append, sent_observe, sent_append, sent_answer, sent_tell, sent_nil,
        List.append_nil]
      split_ifs <;> rfl
  | some reason =>
      rw [handle_of_unread t transport earlier remote r h, Target.relayed?, Incoming.collect, h]
      rfl

/-- What is observed, in full: the body that arrived, before anything else is done. -/
lemma observed_handle :
    observed (handle t transport earlier remote r).deeds
      = if r.failure = none then [observe (observedTarget r.head.uri) r.pieces.flatten]
        else [] := by
  cases h : r.failure with
  | none =>
      rw [handle_of_received t transport earlier remote r h, if_pos rfl]
      dsimp only
      rw [List.cons_append, observed_observe, observed_append, observed_answer, observed_tell,
        observed_nil, List.append_nil]
  | some reason =>
      rw [handle_of_unread t transport earlier remote r h]
      rfl

/-- Every exchange has one line in the access log, which shows the status that was answered. -/
lemma accessed_handle :
    accessed (handle t transport earlier remote r).deeds
      = [accessEvent remote r.head (handle t transport earlier remote r).response.status
          (if r.failure = none then r.pieces.flatten.length else 0)] := by
  cases h : r.failure with
  | none =>
      rw [handle_of_received t transport earlier remote r h, if_pos rfl]
      dsimp only
      rw [List.cons_append, accessed_observe, accessed_append, accessed_answer,
        accessed_tell_of_eq rfl, accessed_nil, List.nil_append]
  | some reason =>
      rw [handle_of_unread t transport earlier remote r h,
        accessed_tell_of_ne (source_unreadEvent_ne reason), accessed_tell_of_eq rfl]
      rfl

end Handle

/-! ## Any number of requests -/

/-- **What is sent on in a run.**  The requests that are relayed, in the order in which they were
handled. -/
theorem sent_handleAll (t : Target) (transport : Transport) (earlier : List Request)
    (rs : List (Net.SocketAddress × Incoming)) :
    sent ((handleAll t transport earlier rs).flatMap (·.deeds))
      = rs.filterMap fun p => t.relayed? p.1 p.2 := by
  -- what was sent before grows from step to step, but no request depends on it
  induction rs generalizing earlier with
  | nil => rfl
  | cons p rs ih =>
      obtain ⟨remote, r⟩ := p
      rw [handleAll, List.flatMap_cons, sent_append, ih, sent_handle]
      cases h : t.relayed? remote r <;> simp [h]

/-- What holds of every exchange, whatever was sent before it, holds of all exchanges of a run. -/
lemma forall₂_handleAll {t : Target} {transport : Transport}
    {holds : Net.SocketAddress × Incoming → Exchange → Prop}
    (h : ∀ earlier remote r, holds (remote, r) (handle t transport earlier remote r))
    (earlier : List Request) (rs : List (Net.SocketAddress × Incoming)) :
    List.Forall₂ holds rs (handleAll t transport earlier rs) := by
  induction rs generalizing earlier with
  | nil => exact .nil
  | cons p rs ih => exact .cons (h earlier p.1 p.2) (ih _)

end StandIn.Relay
