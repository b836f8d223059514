import StandIn.Proofs.Http.UriForm
import StandIn.Proofs.Relay.Deeds
import StandIn.Proofs.Text.Division

/-!
# What is seen of a request

Two parts of the relay look for submissions of encoded tasks.  The routes go by method and path; the
observer goes by the target as one text, in which the query stands as well, and does not know the
method.  This file compares them.

* `Seen.IsTask` — what was taken for the submission of an encoded task.
* `observe_of_divides` — what is shown of a body that is not taken for a task.
* `isTask_observe_iff` — the observer's view, in terms of path and query.
* `observation_of_handle` — the observation of a request beside its route.
* `get_observed_as_task` — the observer and the routes do not always agree.
-/

namespace StandIn.Relay

open Http (Transport Request Incoming)

/-- Whether a body was taken for an encoded task request, which it may be or not. -/
def Seen.IsTask : Seen → Prop
  | decoded _ | failed _ => True
  | raw _ => False

/-- All that is not taken for a task is shown as text. -/
lemma seen_observe_of_ne {target : String} (h : target ≠ desireTaskPath) (body : Octets) :
    (observe target body).seen = .raw (Utf8.lossy body) := by
  rw [observe]
  exact if_neg h

/-- **All octets are shown, as well as can be.**  A body that is not taken for a task divides in just
one way into characters and ill-formed subparts, and it is seen as a text in which each character
stands as it is and each ill-formed subpart as one mark.  So a text is seen as it is. -/
theorem observe_of_divides {target : String} (h : target ≠ desireTaskPath) (body : Octets) :
    (∃! ps, Utf8.Divides ps body) ∧
      (∀ ps, Utf8.Divides ps body →
        observe target body = ⟨target, .raw (String.ofList (ps.map Utf8.Piece.shown))⟩) ∧
      ∀ s, body = Utf8.encode s → observe target body = ⟨target, .raw s⟩ := by
  have hseen : observe target body = ⟨target, .raw (Utf8.lossy body)⟩ :=
    congrArg (Observation.mk target) (seen_observe_of_ne h body)
  refine ⟨⟨Utf8.pieces body, Utf8.divides_pieces body, fun _ => Utf8.divides_iff.1⟩, ?_, ?_⟩
  · intro ps hps
    rw [hseen, Utf8.lossy_eq, Utf8.divides_iff.1 hps]
  · rintro s rfl
    rw [hseen, Utf8.lossy_encode]

/-- A stray octet, an overlong sequence, half of a surrogate, and the fronts of two characters of
which the second one is cut off by the end of the body. -/
theorem observe_of_divides_illFormed :
    observe "/v1/tasks/desire.r2?x"
        [0x6f, 0xff, 0xe0, 0x80, 0xed, 0xa0, 0xf0, 0x90, 0x80, 0x6b, 0xe2, 0x82]
      = ⟨"/v1/tasks/desire.r2?x",
          .raw "o\uFFFD\uFFFD\uFFFD\uFFFD\uFFFD\uFFFDk\uFFFD"⟩ := by
  have hpieces : Utf8.pieces
      [0x6f, 0xff, 0xe0, 0x80, 0xed, 0xa0, 0xf0, 0x90, 0x80, 0x6b, 0xe2, 0x82]
      = [.char 'o', .illFormed [0xff], .illFormed [0xe0], .illFormed [0x80], .illFormed [0xed],
          .illFormed [0xa0], .illFormed [0xf0, 0x90, 0x80], .char 'k', .illFormed [0xe2, 0x82]] := by
    with_unfolding_all rfl
  exact (observe_of_divides (by decide) _).2.1 _ (Utf8.divides_iff.2 hpieces.symm)

lemma isTask_observe (target : String) (body : Octets) :
    (observe target body).seen.IsTask ↔ target = desireTaskPath := by
  by_cases h : target = desireTaskPath
  · rw [observe, if_pos h]
    cases decodeDesireTask body <;> simp [Seen.IsTask, h]
  · rw [seen_observe_of_ne h]
    simp [Seen.IsTask, h]

/-- The text that is observed is the path of encoded tasks only if that is the path and there is no
query, whatever form the identifier has. -/
lemma observedTarget_eq_desireTaskPath_iff {u : Http.Uri} (hu : u.Form) :
    observedTarget u = desireTaskPath ↔ u.path = desireTaskPath ∧ u.query = none := by
  rw [observedTarget]
  exact Http.Uri.observed_eq_iff hu (by decide) (by decide) (by decide)

/-- **What the observer goes by.**  Path and query, and not what the body holds. -/
theorem isTask_observe_iff {u : Http.Uri} (hu : u.Form) (body : Octets) :
    (observe (observedTarget u) body).seen.IsTask
      ↔ u.path = desireTaskPath ∧ u.query = none := by
  rw [isTask_observe, observedTarget_eq_desireTaskPath_iff hu]

/-! ## Beside the routes -/

lemma path_ne_of_submitTask {h : Http.Head} (hroute : routeOf h = .submitTask) :
    h.uri.path ≠ desireTaskPath := by
  rw [routeOf, Route.resolve] at hroute
  split_ifs at hroute with hsubmit
  rw [hsubmit.2]
  decide

/-- Of the requests with the usual method, the routes and the observer single out the same. -/
lemma routeOf_eq_desireTask_iff {h : Http.Head} (hpost : h.method = .post) :
    routeOf h = .desireTask ↔ h.uri.path = desireTaskPath := by
  rw [routeOf, Route.resolve]
  by_cases hpath : h.uri.path = desireTaskPath
  · have hne : desireTaskPath ≠ submitTaskPath := by decide
    simp [hpost, hpath, hne]
  · split_ifs <;> simp_all

/-- **What is seen of a request.**  It asks for something that can be read, and its body arrives in
full; nothing else is assumed of it, or of the target.

There is one observation.  It is that of a task exactly if path and query say so, whatever the
method is.  For the usual method this is the route of encoded tasks, unless there is a query; on the
other two routes the body is shown as text, unless another method asks for the very path of encoded
tasks. -/
theorem observation_of_handle (t : Target) (transport : Transport) (earlier : List Request)
    (remote : Net.SocketAddress) {r : Incoming} {s : String}
    (hparse : Http.Uri.parse s = .ok r.head.uri) (h : r.failure = none) :
    ∃ o, observed (handle t transport earlier remote r).deeds = [o] ∧
      (o.seen.IsTask ↔ r.head.uri.path = desireTaskPath ∧ r.head.uri.query = none) ∧
      (r.head.method = .post →
        (o.seen.IsTask ↔ routeOf r.head = .desireTask ∧ r.head.uri.query = none)) ∧
      (routeOf r.head = .submitTask → o.seen = .raw (Utf8.lossy r.pieces.flatten)) ∧
      (routeOf r.head = .catchAll →
        ¬(r.head.uri.path = desireTaskPath ∧ r.head.uri.query = none) →
        o.seen = .raw (Utf8.lossy r.pieces.flatten)) := by
  have hu := Http.Uri.form_of_parse hparse
  have hraw : ¬(r.head.uri.path = desireTaskPath ∧ r.head.uri.query = none) →
      (observe (observedTarget r.head.uri) r.pieces.flatten).seen
        = .raw (Utf8.lossy r.pieces.flatten) := fun hne =>
    seen_observe_of_ne (mt (observedTarget_eq_desireTaskPath_iff hu).1 hne) _
  refine ⟨observe (observedTarget r.head.uri) r.pieces.flatten, ?_, ?_, ?_, ?_, ?_⟩
  · rw [observed_handle, if_pos h]
  · exact isTask_observe_iff hu _
  · intro hpost
    rw [isTask_observe_iff hu, routeOf_eq_desireTask_iff hpost]
  · intro hroute
    exact hraw fun hpath => path_ne_of_submitTask hroute hpath.1
  · intro _ hne
    exact hraw hne

/-- A query makes the body of a task one like any other. -/
theorem observation_of_query :
    ∃ o, observed (handle ⟨Target.defaultName, ⟨some "http", some "h", "/", none⟩⟩
        Transport.unreachable [] (.v4 ⟨10, 0, 0, 7⟩ 5000)
        ⟨⟨.post, ⟨none, none, "/v1/tasks/desire.r2", some "x"⟩, .http11, .empty⟩,
          [[0x68], [0x69]], none⟩).deeds = [o] ∧ ¬o.seen.IsTask := by
  have hparse : Http.Uri.parse "/v1/tasks/desire.r2?x"
      = .ok ⟨none, none, "/v1/tasks/desire.r2", some "x"⟩ := by rfl
  obtain ⟨o, hobserved, htask, -⟩ :=
    observation_of_handle ⟨Target.defaultName, ⟨some "http", some "h", "/", none⟩⟩
      Transport.unreachable [] (.v4 ⟨10, 0, 0, 7⟩ 5000)
      (r := ⟨⟨.post, ⟨none, none, "/v1/tasks/desire.r2", some "x"⟩, .http11, .empty⟩,
        [[0x68], [0x69]], none⟩) hparse rfl
  refine ⟨o, hobserved, fun h => ?_⟩
  have hquery := (htask.1 h).2
  cases hquery

/-- **The observer and the routes do not always agree.**  The request has the path of encoded tasks
but another method.  It belongs to no task, and yet what is seen is that of a task. -/
theorem get_observed_as_task :
    let r : Incoming :=
      ⟨⟨.get, ⟨none, none, "/v1/tasks/desire.r2", none⟩, .http11, .empty⟩, [], none⟩
    Http.Uri.parse "/v1/tasks/desire.r2" = .ok r.head.uri ∧
    r.failure = none ∧ routeOf r.head = .catchAll ∧
    ∃ o, observed (handle ⟨Target.defaultName, ⟨some "http", some "h", "/", none⟩⟩
      Transport.unreachable [] (.v4 ⟨10, 0, 0, 7⟩ 5000) r).deeds = [o] ∧ o.seen.IsTask := by
  refine ⟨by rfl, rfl, by decide, _, ?_, (isTask_observe _ []).2 (by rfl)⟩
  rw [observed_handle]
  rfl

end StandIn.Relay
