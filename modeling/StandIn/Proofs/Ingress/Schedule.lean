import Mathlib.Data.List.Induction
import Mathlib.Tactic.Lemma
import Mathlib.Tactic.SplitIfs
import StandIn.Ingress.Call

/-!
# Schedules of a call

What a client does to a call and when the ingress looks at it are mixed freely: several items may
have come before the ingress looks, and it may look while nothing has come.  This file shows that
only what the client does counts.

* `Schedule` — what the client does, step by step, and after which steps the ingress looks.
* `queued`, `closes`, `deeds` — what a schedule comes down to.
* `Course` — a call with what was told of it; `Course.step` is one step, `play` a whole schedule.
* `Accounts` — what the course of a schedule is at every moment; `Accounts.step` keeps it.
* `course_of_schedule` — what each look finds, what makes no difference, and what is told.
-/

namespace StandIn.Ingress

/-- What a client does in a step. -/
inductive Deed where
  | send (i : Item)
  | finish
  | nothing
  deriving DecidableEq, Repr

/-- A step.  The ingress looks at the call at its end, unless it is held back. -/
structure Step where
  deed : Deed
  held : Bool := false
  deriving DecidableEq, Repr

/-- Steps in the order in which they are taken. -/
abbrev Schedule := List Step

/-! ## What a schedule comes down to -/

/-- Whether the client finishes. -/
def closes (s : Schedule) : Bool :=
  s.any (·.deed = .finish)

/-- The items that a client sends until it finishes. -/
def queued : Schedule → List Item
  | [] => []
  | ⟨.send i, _⟩ :: s => i :: queued s
  | ⟨.nothing, _⟩ :: s => queued s
  | ⟨.finish, _⟩ :: _ => []

/-- What the client does, whenever the ingress looks. -/
def deeds (s : Schedule) : List Deed :=
  (s.map (·.deed)).filter (· ≠ .nothing)

section Schedules

variable (s t : Schedule) (held : Bool)

@[simp] lemma closes_append : closes (s ++ t) = (closes s || closes t) := List.any_append

@[simp] lemma closes_send (i : Item) : closes (⟨.send i, held⟩ :: s) = closes s := rfl
@[simp] lemma closes_nothing : closes (⟨.nothing, held⟩ :: s) = closes s := rfl
@[simp] lemma closes_finish : closes (⟨.finish, held⟩ :: s) = true := rfl

/-- What comes behind the end is not queued. -/
lemma queued_append : queued (s ++ t) = queued s ++ if closes s then [] else queued t := by
  induction s with
  | nil => rfl
  | cons step s ih =>
      obtain ⟨deed, held⟩ := step
      cases deed with
      | send i =>
          rw [List.cons_append, queued, queued, ih]
          rfl
      | nothing =>
          rw [List.cons_append, queued, queued, ih]
          rfl
      | finish => rfl

/-- Items and end in their order are all that counts for what is queued. -/
lemma queued_and_closes_of_deeds {s t : Schedule} (h : deeds s = deeds t) :
    queued s = queued t ∧ closes s = closes t := by
  -- what is queued can be read off the deeds alone
  have hread : ∀ u : Schedule,
      queued u = queued ((deeds u).map (⟨·, true⟩)) ∧
      closes u = closes ((deeds u).map (⟨·, true⟩)) := by
    intro u
    induction u with
    | nil => exact ⟨rfl, rfl⟩
    | cons step u ih =>
        obtain ⟨deed, held⟩ := step
        cases deed with
        | send i => exact ⟨congrArg (i :: ·) ih.1, ih.2⟩
        | nothing => exact ih
        | finish => exact ⟨rfl, rfl⟩
  rw [(hread s).1, (hread s).2, (hread t).1, (hread t).2, h]
  exact ⟨rfl, rfl⟩

end Schedules

/-! ## Playing a schedule -/

/-- A call, and what was told of it. -/
structure Course where
  call : Call := {}
  log : List Log.Event := []

/-- A call after what the client does. -/
def Call.after (c : Call) : Deed → Call
  | .send i => c.send i
  | .finish => c.finish
  | .nothing => c

/-- One step: the client does something, and the ingress looks at the call or does not. -/
def Course.step (c : Course) (s : Step) : Course :=
  let call := c.call.after s.deed
  if s.held then { c with call }
  else ⟨call.poll.1, c.log ++ call.poll.2⟩

/-- The course of a call from its beginning. -/
def play (s : Schedule) : Course :=
  s.foldl Course.step {}

@[simp] lemma play_concat (s : Schedule) (step : Step) :
    play (s ++ [step]) = (play s).step step := by
  simp only [play, List.foldl_append, List.foldl_cons, List.foldl_nil]

/-- The state of a call.  A call that has ended looks at nothing any more, so that what still waits
does not belong to its state. -/
def Call.state (c : Call) : Call :=
  match c.progress with
  | .ended _ => { c with waiting := [] }
  | .reading | .holding => c

/-! ## Errors among items -/

@[simp] lemma firstError?_append (is js : List Item) :
    Call.firstError? (is ++ js) = (Call.firstError? is).or (Call.firstError? js) := by
  induction is with
  | nil => rfl
  | cons i is ih =>
      cases i with
      | batch b => exact ih
      | error code => rfl

/-- Batches alone are no error. -/
@[simp] lemma firstError?_batches (bs : List EnvelopeBatch) :
    Call.firstError? (bs.map .batch) = none := by
  induction bs with
  | nil => rfl
  | cons b bs ih => exact ih

/-- How far a call has come at a look, after what a schedule comes down to. -/
def verdict (s : Schedule) : Progress :=
  match Call.firstError? (queued s) with
  | some code => .ended code
  | none => if closes s then .holding else .reading

/-- **What the course of a schedule is at every moment.**  As long as the call is read, the errors
that are queued are those that wait, and nothing was told.  Once it is held, no error was queued, and
that was told.  If it has ended, then with the first error. -/
structure Accounts (s : Schedule) (c : Course) : Prop where
  finished : c.call.finished = closes s
  reading : c.call.progress = .reading →
    Call.firstError? (queued s) = Call.firstError? c.call.waiting ∧ c.log = []
  holding : c.call.progress = .holding →
    verdict s = .holding ∧ c.call.waiting = [] ∧ c.log = [heldOpen]
  ended : ∀ code, c.call.progress = .ended code →
    verdict s = .ended code ∧ c.log = []

lemma verdict_eq_ended_iff {s : Schedule} {code : Grpc.Code} :
    verdict s = .ended code ↔ Call.firstError? (queued s) = some code := by
  rw [verdict]
  cases Call.firstError? (queued s) with
  | some c => simp
  | none => cases closes s <;> simp

lemma verdict_eq_holding_iff {s : Schedule} :
    verdict s = .holding ↔ Call.firstError? (queued s) = none ∧ closes s = true := by
  rw [verdict]
  cases Call.firstError? (queued s) with
  | some c => simp
  | none => cases closes s <;> simp

/-- Once the call is held or has ended, nothing more makes a difference. -/
lemma verdict_append {s : Schedule} (h : verdict s ≠ .reading) (t : Schedule) :
    verdict (s ++ t) = verdict s := by
  cases hv : verdict s with
  | reading => exact absurd hv h
  | ended code =>
      rw [verdict_eq_ended_iff] at hv ⊢
      rw [queued_append, firstError?_append, hv, Option.some_or]
  | holding =>
      rw [verdict_eq_holding_iff] at hv ⊢
      rw [queued_append, closes_append, hv.2, if_pos rfl, List.append_nil, Bool.true_or]
      exact ⟨hv.1, rfl⟩

/-- The course at the beginning. -/
lemma Accounts.nil : Accounts [] {} where
  finished := rfl
  reading := fun _ => ⟨rfl, rfl⟩
  holding := fun h => by cases h
  ended := fun _ h => by cases h

/-- What the client does keeps the account. -/
lemma Accounts.after {s : Schedule} {c : Course} (h : Accounts s c) (step : Step) :
    Accounts (s ++ [step]) { c with call := c.call.after step.deed } := by
  obtain ⟨deed, held⟩ := step
  have hprogress : (c.call.after deed).progress = c.call.progress := by
    cases deed with
    | send i =>
        rw [Call.after, Call.send]
        split_ifs <;> rfl
    | finish => rfl
    | nothing => rfl
  have hfinished : (c.call.after deed).finished = closes (s ++ [⟨deed, held⟩]) := by
    cases deed with
    | send i =>
        rw [Call.after, Call.send, closes_append, ← h.finished]
        split_ifs <;> simp [closes]
    | finish => simp [Call.after, Call.finish, closes]
    | nothing => simp [Call.after, h.finished, closes]
  refine ⟨hfinished, fun hr => ?_, fun hh => ?_, fun code he => ?_⟩
  · rw [hprogress] at hr
    obtain ⟨herror, hlog⟩ := h.reading hr
    refine ⟨?_, hlog⟩
    cases deed with
    | send i =>
        rw [queued_append, firstError?_append, herror, Call.after, Call.send, h.finished]
        split_ifs
        · simp [Call.firstError?]
        · rw [firstError?_append]
          rfl
    | finish => simpa [queued_append, queued, Call.after, Call.finish] using herror
    | nothing => simpa [queued_append, queued, Call.after] using herror
  · rw [hprogress] at hh
    obtain ⟨hverdict, hwaiting, hlog⟩ := h.holding hh
    have hcloses := (verdict_eq_holding_iff.1 hverdict).2
    refine ⟨(verdict_append (by simp [hverdict]) _).trans hverdict, ?_, hlog⟩
    cases deed with
    | send i =>
        -- after the end of the stream nothing arrives
        rw [Call.after, Call.send, if_pos (h.finished.trans hcloses)]
        exact hwaiting
    | finish => exact hwaiting
    | nothing => exact hwaiting
  · rw [hprogress] at he
    obtain ⟨hverdict, hlog⟩ := h.ended code he
    exact ⟨(verdict_append (by simp [hverdict]) _).trans hverdict, hlog⟩

/-- **What a look finds.**  However the schedule came about, the call comes as far as the schedule
tells, and nothing is left waiting. -/
theorem Accounts.look {s : Schedule} {c : Course} (h : Accounts s c) :
    c.call.poll.1.state = ⟨[], closes s, verdict s⟩ ∧
    c.log ++ c.call.poll.2 = if verdict s = .holding then [heldOpen] else [] := by
  cases hprogress : c.call.progress with
  | reading =>
      obtain ⟨herror, hlog⟩ := h.reading hprogress
      rw [Call.poll, hprogress, hlog, verdict, herror, ← h.finished]
      cases Call.firstError? c.call.waiting with
      | some code => exact ⟨rfl, rfl⟩
      | none =>
          cases hfinished : c.call.finished with
          | true => simp [Call.state]
          | false => simp [Call.state]
  | holding =>
      obtain ⟨hverdict, hwaiting, hlog⟩ := h.holding hprogress
      rw [Call.poll, hprogress, hverdict, hlog, ← h.finished]
      refine ⟨?_, rfl⟩
      simp only [Call.state, hprogress]
      rw [← hwaiting, ← hprogress]
  | ended code =>
      obtain ⟨hverdict, hlog⟩ := h.ended code hprogress
      rw [Call.poll, hprogress, hverdict, hlog, ← h.finished]
      refine ⟨?_, by simp⟩
      simp only [Call.state, hprogress]

lemma progress_state (c : Call) : c.state.progress = c.progress := by
  rw [Call.state]
  split <;> rfl

lemma finished_state (c : Call) : c.state.finished = c.finished := by
  rw [Call.state]
  split <;> rfl

/-- A call that goes on is all state. -/
lemma state_of_not_ended {c : Call} (h : ∀ code, c.progress ≠ .ended code) : c.state = c := by
  cases hprogress : c.progress with
  | ended code => exact absurd hprogress (h code)
  | reading => rw [Call.state, hprogress]
  | holding => rw [Call.state, hprogress]

lemma Accounts.poll {s : Schedule} {c : Course} (h : Accounts s c) :
    Accounts s ⟨c.call.poll.1, c.log ++ c.call.poll.2⟩ := by
  obtain ⟨hstate, hlog⟩ := h.look
  have hprogress : c.call.poll.1.progress = verdict s := by
    rw [← progress_state, hstate]
  have hwaiting (hgoes : ∀ code, verdict s ≠ .ended code) : c.call.poll.1.waiting = [] := by
    rw [← state_of_not_ended (c := c.call.poll.1) (by rwa [hprogress]), hstate]
  refine ⟨?_, fun hr => ?_, fun hh => ?_, fun code he => ?_⟩
  · rw [← finished_state, hstate]
  · have hverdict : verdict s = .reading := hprogress.symm.trans hr
    refine ⟨?_, by rw [hlog, if_neg (by simp [hverdict])]⟩
    rw [hwaiting (by simp [hverdict])]
    cases herror : Call.firstError? (queued s) with
    | none => rfl
    | some code =>
        rw [verdict_eq_ended_iff.2 herror] at hverdict
        cases hverdict
  · have hverdict : verdict s = .holding := hprogress.symm.trans hh
    exact ⟨hverdict, hwaiting (by simp [hverdict]), by rw [hlog, if_pos hverdict]⟩
  · have hverdict : verdict s = .ended code := hprogress.symm.trans he
    exact ⟨hverdict, by rw [hlog, if_neg (by simp [hverdict])]⟩

/-- **A step keeps the account.** -/
theorem Accounts.step {s : Schedule} {c : Course} (h : Accounts s c) (step : Step) :
    Accounts (s ++ [step]) (c.step step) := by
  rw [Course.step]
  split_ifs
  · exact h.after step
  · exact (h.after step).poll

/-- Every schedule is accounted for. -/
theorem accounts_play (s : Schedule) : Accounts s (play s) := by
  induction s using List.reverseRecOn with
  | nil => exact .nil
  | append_singleton s step ih =>
      rw [play_concat]
      exact ih.step step

/-- After a step that is not held back, the call and the log are told by the schedule alone. -/
lemma look_play (s : Schedule) {step : Step} (h : step.held = false) :
    (play (s ++ [step])).call.state = ⟨[], closes (s ++ [step]), verdict (s ++ [step])⟩ ∧
    (play (s ++ [step])).log = if verdict (s ++ [step]) = .holding then [heldOpen] else [] := by
  have hlook := ((accounts_play s).after step).look
  rw [play_concat, Course.step, h]
  exact hlook

lemma progress_play (s : Schedule) {step : Step} (h : step.held = false) :
    (play (s ++ [step])).call.progress = verdict (s ++ [step]) := by
  rw [← progress_state, (look_play s h).1]

/-- A call is told to be held open only if it is. -/
lemma log_play (s : Schedule) :
    (play s).log = [] ∨ (play s).log = [heldOpen] ∧ verdict s = .holding := by
  have h := accounts_play s
  cases hprogress : (play s).call.progress with
  | reading => exact .inl (h.reading hprogress).2
  | holding => exact .inr ⟨(h.holding hprogress).2.2, (h.holding hprogress).1⟩
  | ended code => exact .inl (h.ended code hprogress).2

/-- What a step tells: nothing, unless the ingress looks and finds the end of the stream. -/
lemma log_play_concat (s : Schedule) (step : Step) :
    (play (s ++ [step])).log
      = if step.held = false ∧ verdict (s ++ [step]) = .holding then [heldOpen]
        else (play s).log := by
  cases hheld : step.held with
  | true =>
      rw [play_concat, Course.step, hheld]
      simp
  | false =>
      rw [(look_play s hheld).2]
      split_ifs with hverdict hboth hboth
      · rfl
      · exact absurd ⟨rfl, hverdict⟩ hboth
      · exact absurd hboth.2 hverdict
      · obtain hnil | ⟨-, hholding⟩ := log_play s
        · exact hnil.symm
        · -- a call that was held before is held still
          have hstill := verdict_append (s := s) (by simp [hholding]) [step]
          exact absurd (hstill.trans hholding) hverdict

/-! ## All schedules -/

/-- The ingress looks, and nothing else happens. -/
def Step.look : Step := ⟨.nothing, false⟩

/-- **What a schedule comes to.**  Each look finds the code of the first error that was sent before
the end, and the call open if there is none.  What the client does after its end or after an error
has no effect.  After two schedules with the same deeds a look finds the same state and the same
log, whichever steps were held back.  That the call is held open is told at most once, as soon as a
look finds the end and no error before it. -/
theorem course_of_schedule :
    (∀ (s : Schedule) (step : Step), step.held = false →
      (play (s ++ [step])).call.code? = Call.firstError? (queued (s ++ [step]))) ∧
    (∀ s t : Schedule, closes s = true ∨ Call.firstError? (queued s) ≠ none →
      (play (s ++ t ++ [Step.look])).call.progress = (play (s ++ [Step.look])).call.progress ∧
      (play (s ++ t ++ [Step.look])).log = (play (s ++ [Step.look])).log) ∧
    (∀ s t : Schedule, deeds s = deeds t →
      (play (s ++ [Step.look])).call.state = (play (t ++ [Step.look])).call.state ∧
      (play (s ++ [Step.look])).log = (play (t ++ [Step.look])).log) ∧
    (∀ s : Schedule, (play s).log = [] ∨ (play s).log = [heldOpen]) ∧
    (∀ (s : Schedule) (step : Step), (play (s ++ [step])).log
      = if step.held = false ∧ closes (s ++ [step]) = true ∧
          Call.firstError? (queued (s ++ [step])) = none
        then [heldOpen] else (play s).log) := by
  refine ⟨fun s step hheld => ?_, fun s t hdone => ?_, fun s t hdeeds => ?_, fun s => ?_,
    fun s step => ?_⟩
  · rw [Call.code?, progress_play s hheld, verdict]
    cases Call.firstError? (queued (s ++ [step])) with
    | some code => rfl
    | none => cases closes (s ++ [step]) <;> rfl
  · have hverdict : verdict s ≠ .reading := by
      rw [verdict]
      cases herror : Call.firstError? (queued s) with
      | some code => simp
      | none => simp [hdone.resolve_right (by simp [herror])]
    have hlook : Step.look.held = false := rfl
    have hlater : verdict (s ++ t ++ [Step.look]) = verdict s := by
      rw [List.append_assoc, verdict_append hverdict]
    have hnow : verdict (s ++ [Step.look]) = verdict s := verdict_append hverdict _
    rw [progress_play _ hlook, progress_play _ hlook, (look_play (s ++ t) hlook).2,
      (look_play s hlook).2, hlater, hnow]
    exact ⟨rfl, rfl⟩
  · have hsame : deeds (s ++ [Step.look]) = deeds (t ++ [Step.look]) := by
      simpa [deeds, Step.look] using hdeeds
    obtain ⟨hqueued, hcloses⟩ := queued_and_closes_of_deeds hsame
    have hverdict : verdict (s ++ [Step.look]) = verdict (t ++ [Step.look]) := by
      rw [verdict, verdict, hqueued, hcloses]
    have hlook : Step.look.held = false := rfl
    have hs := look_play s hlook
    have ht := look_play t hlook
    rw [hs.1, ht.1, hs.2, ht.2, hverdict, hcloses]
    exact ⟨rfl, rfl⟩
  · exact (log_play s).imp_right And.left
  · simp only [log_play_concat, verdict_eq_holding_iff,
      and_comm (a := closes (s ++ [step]) = true)]

/-- Of two errors that come while the ingress does not look, the first one counts. -/
theorem course_of_two_errors :
    (play [⟨.send (.batch {}), true⟩, ⟨.send (.error .cancelled), true⟩,
      ⟨.send (.error .unknown), true⟩, ⟨.finish, false⟩]).call.code? = some .cancelled :=
  course_of_schedule.1 [⟨.send (.batch {}), true⟩, ⟨.send (.error .cancelled), true⟩,
    ⟨.send (.error .unknown), true⟩] ⟨.finish, false⟩ rfl

end StandIn.Ingress
