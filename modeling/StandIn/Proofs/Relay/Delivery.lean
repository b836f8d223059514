import StandIn.Proofs.Relay.Deeds
import StandIn.Proofs.Relay.Location

/-!
# What reaches the target

A run of the relay hands requests to the target.  Which ones, and in which order, can be told from
the requests that came in, without looking at the target at all.

* `Target.Relays` — the requests that are handed on.
* `Target.placed` — the request that the target gets for one that came in.
* `Target.relayed?_eq` — one request.
* `delivery_of_run` — a run: every request is observed first and once, the target gets what it
  should, and submissions of tasks end at the relay.
* `asterisk_not_delivered` — a request that is forwarded but has no place on its target.
-/

namespace StandIn.Relay

open Http (Transport Request Incoming)

/-! ## Which requests are handed on -/

/-- Whether a request submits a task that is answered on the spot. -/
def IsSubmission (h : Http.Head) : Prop :=
  h.method = .post ∧ h.uri.path = submitTaskPath

instance (h : Http.Head) : Decidable (IsSubmission h) :=
  inferInstanceAs (Decidable (_ ∧ _))

lemma routeOf_of_isSubmission {h : Http.Head} (hs : IsSubmission h) :
    routeOf h = .submitTask := by
  obtain ⟨hmethod, hpath⟩ := hs
  rw [routeOf, Route.resolve, if_pos ⟨hmethod, hpath⟩]

/-- Every request but the submission of a task goes to the target. -/
lemma disposition_eq_forward_iff (h : Http.Head) :
    (routeOf h).disposition = .forward ↔ ¬IsSubmission h := by
  by_cases hs : IsSubmission h
  · rw [routeOf_of_isSubmission hs]
    simp [Route.disposition, hs]
  · have hne : ¬(h.method = .post ∧ h.uri.path = submitTaskPath) := hs
    rw [routeOf, Route.resolve, if_neg hne]
    split_ifs <;> simp [Route.disposition, hs]

/-- Whether a request asks for a tunnel in the version that has none. -/
def IsOldTunnel (h : Http.Head) : Prop :=
  h.version = .http10 ∧ h.method = Http.Client.connectMethod

instance (h : Http.Head) : Decidable (IsOldTunnel h) :=
  inferInstanceAs (Decidable (_ ∧ _))

namespace Target

/-- Whether a request is handed on: it arrived in full, it is not answered on the spot, what it asks
for has a place on the target, and a client can ask for it. -/
def Relays (t : Target) (r : Incoming) : Prop :=
  r.failure = none ∧ ¬IsSubmission r.head ∧ t.Reaches r.head.uri ∧ ¬IsOldTunnel r.head

instance (t : Target) (r : Incoming) : Decidable (t.Relays r) :=
  inferInstanceAs (Decidable (_ ∧ _ ∧ _ ∧ _))

/-- The request that the target gets.  Method, version and body are those that came in. -/
def placed (t : Target) (remote : Net.SocketAddress) (r : Request) : Request :=
  { r with head := { r.head with
      uri := t.located r.head.uri
      headers := appendClient r.head.headers.endToEnd remote.address } }

section Handing

variable {t : Target} (hb : t.base.IsAbsolute)

include hb

lemma outgoing?_eq (remote : Net.SocketAddress) {r : Request} (hu : r.head.uri.Form) :
    t.outgoing? remote r = if t.Reaches r.head.uri ∧ ¬IsOldTunnel r.head then
      some (t.placed remote r) else none := by
  have hcheck : Http.Client.check (t.placed remote r).head = none ↔ ¬IsOldTunnel r.head := by
    simp [Http.Client.check, placed, located, hb.scheme, hb.authority, IsOldTunnel]
  rw [outgoing?, prepare, locate_eq hb hu]
  -- the obstacles in the order in which they are met: length, place, and what the client refuses
  by_cases hlong : Http.Uri.maxSize < (t.pathAndQuery r.head.uri).utf8ByteSize
  · have hout : ¬t.Reaches r.head.uri := fun h => Nat.not_lt.2 h.1 hlong
    rw [if_pos hlong, if_neg fun h => hout h.1]
    rfl
  · rw [if_neg hlong]
    by_cases hmis : t.Misplaces r.head.uri
    · rw [if_pos hmis, if_neg fun h => h.1.2 hmis]
      rfl
    · have hin : t.Reaches r.head.uri := ⟨Nat.not_lt.1 hlong, hmis⟩
      rw [if_neg hmis]
      simp only [hin, true_and, ← hcheck]
      rfl

/-- **What is handed on for one request.** -/
theorem relayed?_eq (remote : Net.SocketAddress) {r : Incoming} (hu : r.head.uri.Form) :
    t.relayed? remote r
      = if t.Relays r then some (t.placed remote ⟨r.head, r.pieces.flatten⟩) else none := by
  cases h : r.failure with
  | some reason =>
      have hunread : ¬t.Relays r := fun hr => by simp [Relays, h] at hr
      rw [relayed?, Incoming.collect, h, if_neg hunread]
  | none =>
      rw [relayed?, collect_of_received h]
      dsimp only
      rw [outgoing?_eq hb remote hu]
      simp only [disposition_eq_forward_iff]
      by_cases hs : IsSubmission r.head
      · rw [if_neg (not_not.2 hs), if_neg fun hr => hr.2.1 hs]
      · rw [if_pos hs]
        simp only [Relays, h, hs, not_false_eq_true, true_and]

end Handing

end Target

/-! ## A run -/

/-- Whether the first thing that was done was an observation, and the only one. -/
def Exchange.ObservesFirst (e : Exchange) (o : Observation) : Prop :=
  ∃ later, e.deeds = .observe o :: later ∧ observed later = []

lemma observesFirst_handle (t : Target) (transport : Transport) (earlier : List Request)
    (remote : Net.SocketAddress) {r : Incoming} (h : r.failure = none) :
    (handle t transport earlier remote r).ObservesFirst
      (observe (observedTarget r.head.uri) r.pieces.flatten) := by
  have hobs := observed_handle t transport earlier remote r
  rw [handle_of_received t transport earlier remote r h, if_pos h] at hobs
  rw [handle_of_received t transport earlier remote r h]
  exact ⟨_, rfl, by simpa using hobs⟩

/-- A submission is answered by the relay, whatever its query, fields and body are. -/
lemma handle_of_isSubmission (t : Target) (transport : Transport) (earlier : List Request)
    (remote : Net.SocketAddress) {r : Incoming} (hs : IsSubmission r.head) :
    sent (handle t transport earlier remote r).deeds = [] ∧
      (r.failure = none →
        (handle t transport earlier remote r).response = localResponse 202) := by
  have hroute := routeOf_of_isSubmission hs
  constructor
  · rw [sent_handle, Target.relayed?, hroute]
    cases r.collect <;> rfl
  · intro h
    have haccept : (routeOf r.head).disposition = .accept 202 := by rw [hroute]; rfl
    have hanswer := answer_of_accept t transport earlier remote ⟨r.head, r.pieces.flatten⟩ haccept
    rw [handle_of_received t transport earlier remote r h, hanswer]

/-- **What a run does.**  The target's base is one that can be set up, and every request asks for
something that can be read; nothing is assumed about the target.

Every request that arrives in full is observed once, before anything else is done for it, by its
path with query and by all pieces of its body in a row.  The target gets the requests that are
handed on, each once and in their order, with the method that was asked for and the very body that
was observed.  Submissions of tasks are accepted with nothing in the body, and never get there. -/
theorem delivery_of_run {name value : String} {base : Http.Uri}
    (hbase : Settings.readScheduler value = .ok base) (transport : Transport)
    (earlier : List Request) {rs : List (Net.SocketAddress × Incoming)}
    (hrs : ∀ p ∈ rs, ∃ s, Http.Uri.parse s = .ok p.2.head.uri) :
    let t : Target := ⟨name, base⟩
    let exchanges := handleAll t transport earlier rs
    List.Forall₂ (fun p e => p.2.failure = none →
        e.ObservesFirst (observe (observedTarget p.2.head.uri) p.2.pieces.flatten))
      rs exchanges ∧
    sent (exchanges.flatMap (·.deeds))
      = (rs.filter (t.Relays ·.2)).map (fun p => t.placed p.1 ⟨p.2.head, p.2.pieces.flatten⟩) ∧
    List.Forall₂ (fun p e => IsSubmission p.2.head →
        sent e.deeds = [] ∧
        (p.2.failure = none → e.response.status = 202 ∧ e.response.body = []))
      rs exchanges := by
  intro t exchanges
  have hb := Settings.isAbsolute_of_readScheduler hbase
  refine ⟨?_, ?_, ?_⟩
  · exact forall₂_handleAll (fun earlier remote r h =>
      observesFirst_handle t transport earlier remote h) earlier rs
  · rw [sent_handleAll]
    refine filterMap_eq_map_filter fun p hp => ?_
    obtain ⟨s, hs⟩ := hrs p hp
    simp only [Target.relayed?_eq (t := t) hb p.1 (Http.Uri.form_of_parse hs), decide_eq_true_eq]
  · refine forall₂_handleAll (fun earlier remote r hs => ?_) earlier rs
    obtain ⟨hsent, hresponse⟩ := handle_of_isSubmission t transport earlier remote hs
    refine ⟨hsent, fun h => ?_⟩
    rw [hresponse h]
    exact ⟨rfl, rfl⟩

/-- A submission is kept, and what follows it is handed on below the path of the base. -/
theorem delivery_of_submission_and_get :
    sent ((handleAll ⟨Target.defaultName, ⟨some "http", some "h", "/base/", none⟩⟩
        Transport.unreachable []
        [(.v4 ⟨10, 0, 0, 7⟩ 5000,
            ⟨⟨.post, ⟨none, none, "/v1/tasks", none⟩, .http11, .empty⟩, [], none⟩),
          (.v4 ⟨10, 0, 0, 7⟩ 5000,
            ⟨⟨.get, ⟨none, none, "/x", some "y"⟩, .http11, .empty⟩, [[1], [2]], none⟩)]).flatMap
        (·.deeds))
      = [⟨⟨.get, ⟨some "http", some "h", "/base/x", some "y"⟩, .http11,
          ⟨[(forwardedFor, ⟨Utf8.encode "10.0.0.7", by decide⟩)]⟩⟩, [1, 2]⟩] := by
  have hread : Settings.readScheduler "http://h/base/"
      = .ok ⟨some "http", some "h", "/base/", none⟩ := by rfl
  have hsubmission : Http.Uri.parse "/v1/tasks" = .ok ⟨none, none, "/v1/tasks", none⟩ := by rfl
  have hget : Http.Uri.parse "/x?y" = .ok ⟨none, none, "/x", some "y"⟩ := by rfl
  refine (delivery_of_run hread Transport.unreachable [] ?_).2.1.trans (by rfl)
  intro p hp
  simp only [List.mem_cons, List.not_mem_nil, or_false] at hp
  rcases hp with rfl | rfl
  · exact ⟨_, hsubmission⟩
  · exact ⟨_, hget⟩

/-- **Not every request that is forwarded gets there.**  The base has a query but no path, so the
asterisk has no place on it: the request arrives in full and submits no task, and yet the target
gets nothing. -/
theorem asterisk_not_delivered :
    let base : Http.Uri := ⟨some "http", some "h", "", some "t=1"⟩
    let r : Incoming :=
      ⟨⟨⟨"OPTIONS", by decide⟩, ⟨none, none, "*", none⟩, .http11, .empty⟩, [], none⟩
    Settings.readScheduler "http://h?t=1" = .ok base ∧
    Http.Uri.parse "*" = .ok r.head.uri ∧
    r.failure = none ∧ ¬IsSubmission r.head ∧
    sent ((handleAll ⟨Target.defaultName, base⟩ Transport.unreachable []
      [(.v4 ⟨10, 0, 0, 7⟩ 5000, r)]).flatMap (·.deeds)) = [] := by
  decide +kernel

end StandIn.Relay
