import Mathlib.Logic.Relation
import StandIn.Ingress.Service
import StandIn.Proofs.Grpc.Bodies

/-!
# Bodies in other chunks

The chunks in which a body arrives are an accident of the network.  A chunk may end within a heading,
within a message or between two frames, and it may have no octets at all.  None of this shows, neither
in the answer to a call nor in what is logged of it, be the body good or not.

An error may be noticed earlier or later if octets arrive in other chunks.  What counts is that the
same messages come before it, and that no octet behind it is looked at.

* `Divides` — a chunk is cut in two, or an empty one is put in.
* `Redivided` — any number of such changes, and their reverse.
* `Redivided.receiveFrom_eq` — the same messages come of the chunks, wherever they start.
* `serve_of_redivided` — the same becomes of the call.
-/

namespace StandIn

namespace Grpc

/-- One change of the chunks that leaves their octets as they are, and every break between the same
octets as before. -/
inductive Divides : List Chunk → List Chunk → Prop where
  /-- A chunk is cut in two. -/
  | cut (front : List Chunk) (as bs : Octets) (back : List Chunk) :
      Divides (front ++ .data (as ++ bs) :: back) (front ++ .data as :: .data bs :: back)
  /-- A chunk without octets is put in. -/
  | pad (front back : List Chunk) : Divides (front ++ back) (front ++ .data [] :: back)

/-- The same octets and breaks in other chunks: some are cut, some are joined, and empty ones are put
in or left out. -/
abbrev Redivided : List Chunk → List Chunk → Prop := Relation.EqvGen Divides

section Receive

variable {M : Type} {decode : Octets → Except Status M} {finished : Bool} {i : Inlet}
  {chunks chunks' : List Chunk}

/-- Chunks in front leave an inlet from which nothing more can be taken, or an error.  So what follows
may be replaced by what comes to the same at every such inlet. -/
lemma receiveFrom_append_congr (hi : i.step = .stuck)
    (h : ∀ j : Inlet, j.step = .stuck →
      receiveFrom decode finished j chunks = receiveFrom decode finished j chunks')
    (front : List Chunk) :
    receiveFrom decode finished i (front ++ chunks)
      = receiveFrom decode finished i (front ++ chunks') := by
  induction front generalizing i with
  | nil => exact h i hi
  | cons c front ih =>
      rw [List.cons_append, List.cons_append]
      cases c with
      | broken reason => rfl
      | data bs =>
          cases hdrain : (i.feed bs).drain decode with
          | mk found left =>
              cases left with
              | error s => rw [receiveFrom_of_error hdrain, receiveFrom_of_error hdrain]
              | ok j =>
                  rw [receiveFrom_of_ok hdrain, receiveFrom_of_ok hdrain,
                    ih (stuck_of_drain hdrain)]

/-- One change makes no difference. -/
lemma Divides.receiveFrom_eq (hi : i.step = .stuck) (h : Divides chunks chunks') :
    receiveFrom decode finished i chunks = receiveFrom decode finished i chunks' := by
  cases h with
  | cut front as bs back =>
      exact receiveFrom_append_congr hi (fun j _ => (receiveFrom_data_data as bs).symm) front
  | pad front back =>
      exact receiveFrom_append_congr hi (fun j hj => (receiveFrom_data_nil hj).symm) front

/-- **The same messages come of the same octets.**  It does not matter into which chunks they are
divided, nor what was left from before. -/
theorem Redivided.receiveFrom_eq (hi : i.step = .stuck) (h : Redivided chunks chunks') :
    receiveFrom decode finished i chunks = receiveFrom decode finished i chunks' := by
  induction h with
  | rel chunks chunks' hdivides => exact hdivides.receiveFrom_eq hi
  | refl chunks => rfl
  | symm chunks chunks' _ ih => exact ih.symm
  | trans chunks between chunks' _ _ ih ih' => exact ih.trans ih'

end Receive

end Grpc

namespace Ingress

open Grpc

/-- **Chunks do not show.**  Of two bodies with the same octets, the same breaks between them and the
same end, the same becomes on every path: both calls are open or both are answered, with the same
header fields, body and trailing fields, and the same is logged. -/
theorem serve_of_redivided (peer : Option Net.SocketAddress) (path : String)
    (headers : Http.Headers) {b b' : Body} (hchunks : Redivided b.chunks b'.chunks)
    (hend : b.finished = b'.finished) :
    serve peer path headers b = serve peer path headers b' := by
  have hempty : ({} : Inlet).step = .stuck := rfl
  have hreceive : receive readBatch b = receive readBatch b' := by
    rw [receive, receive, hend]
    exact hchunks.receiveFrom_eq hempty
  rw [serve, serve, hreceive]

/-- A frame that is cut within its heading, and one that is not, in front of a break. -/
theorem serve_of_cut_heading :
    let b : Body := ⟨[.data [0, 0, 0], .data [0, 0, 1], .broken "reset"], true⟩
    let b' : Body := ⟨[.data [0, 0, 0, 0, 0, 1], .data [], .broken "reset"], true⟩
    Redivided b.chunks b'.chunks ∧
    serve none Operation.send.path .empty b = serve none Operation.send.path .empty b' ∧
    serve none Operation.batchSender.path .empty b
      = serve none Operation.batchSender.path .empty b' := by
  intro b b'
  have hjoined : Redivided b.chunks [.data [0, 0, 0, 0, 0, 1], .broken "reset"] :=
    .symm _ _ (.rel _ _ (.cut [] [0, 0, 0] [0, 0, 1] [.broken "reset"]))
  have hpadded : Redivided [.data [0, 0, 0, 0, 0, 1], .broken "reset"] b'.chunks :=
    .rel _ _ (.pad [.data [0, 0, 0, 0, 0, 1]] [.broken "reset"])
  have hchunks : Redivided b.chunks b'.chunks := hjoined.trans _ _ _ hpadded
  exact ⟨hchunks, serve_of_redivided _ _ _ hchunks rfl, serve_of_redivided _ _ _ hchunks rfl⟩

end Ingress

end StandIn
