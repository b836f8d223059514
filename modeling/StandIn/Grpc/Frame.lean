import StandIn.Grpc.Status
import StandIn.Octets

/-!
# Frames

The messages of a call travel one behind the other, each after a header of five octets: a flag that
tells whether the message is compressed, and its length.  The octets arrive in chunks that have
nothing to do with the frames.

* `frame` — a message with its header.
* `header?` — reads a header, and refuses what is compressed or too long.
* `Inlet` — what has arrived and was not yet taken out.
* `Inlet.step` — takes one message out of it; `Inlet.drain` takes all that are complete.
* `Body`, `Arrivals` — what a client sends, and the messages that come out of it.
* `receive` — how the one becomes the other, chunk by chunk.
-/

namespace StandIn.Grpc

/-- The most octets that a message may have. -/
def maxMessage : Nat := 4 * 1024 * 1024

/-- The four octets of a length, the most significant first. -/
def lengthOctets (n : Nat) : Octets :=
  [(n / 0x1000000).toUInt8, (n / 0x10000).toUInt8, (n / 0x100).toUInt8, n.toUInt8]

/-- A message behind its header. -/
def frame (message : Octets) : Octets :=
  0 :: lengthOctets message.length ++ message

/-! ## Errors -/

/-- A message is said to be compressed, and no call is. -/
def compressedMessage : Status :=
  ⟨.internal,
    "protocol error: received message with compressed-flag but no grpc-encoding was specified"⟩

/-- A header starts with no flag. -/
def invalidFlag (flag : UInt8) : Status :=
  ⟨.internal, s!"protocol error: received message with invalid compression flag: {flag.toNat}" ++
    " (valid flags are 0 and 1), while sending request"⟩

/-- A message is longer than messages may be. -/
def messageTooLong (length : Nat) : Status :=
  ⟨.outOfRange, s!"Error, message length too large: found {length} bytes," ++
    s!" the limit is: {maxMessage} bytes"⟩

/-- The client has finished in the middle of a frame. -/
def unexpectedEnd : Status :=
  ⟨.internal, "Unexpected EOF decoding stream."⟩

/-- The body of a call broke off. -/
def brokenBody (reason : String) : Status :=
  ⟨.unknown, s!"error reading a body from connection: {reason}"⟩

/-! ## Taking messages out -/

/-- The length that the header in front announces, and what stands behind it; `none` if the header
is not complete. -/
def header? : Octets → Except Status (Option (Nat × Octets))
  | flag :: a :: b :: c :: d :: rest =>
    if flag = 1 then .error compressedMessage
    else if flag ≠ 0 then .error (invalidFlag flag)
    else
      let length := ((a.toNat * 256 + b.toNat) * 256 + c.toNat) * 256 + d.toNat
      if maxMessage < length then .error (messageTooLong length) else .ok (some (length, rest))
  | _ => .ok none

/-- Behind a header there is less than before. -/
theorem length_of_header? {bs rest : Octets} {n : Nat} (h : header? bs = .ok (some (n, rest))) :
    rest.length < bs.length := by
  unfold header? at h
  split at h
  · split at h
    · cases h
    · split at h
      · cases h
      · simp only at h
        split at h
        · cases h
        · cases h
          simp only [List.length_cons]
          omega
  · cases h

/-- What has arrived and was not yet taken out.  `announced` is the length of the message in front,
once its header has been read. -/
structure Inlet where
  waiting : Octets := []
  announced : Option Nat := none
  deriving DecidableEq, Repr

namespace Inlet

/-- More has arrived. -/
def feed (i : Inlet) (bs : Octets) : Inlet :=
  { i with waiting := i.waiting ++ bs }

/-- What becomes of an inlet in one step. -/
inductive Step where
  /-- A header was read. -/
  | opened (i : Inlet)
  /-- A message was taken out. -/
  | message (payload : Octets) (i : Inlet)
  /-- Too little has arrived. -/
  | stuck
  | failed (s : Status)
  deriving DecidableEq, Repr

/-- Reads the header in front, or takes out the message that it announced. -/
def step (i : Inlet) : Step :=
  match i.announced with
  | some n =>
    if n ≤ i.waiting.length then .message (i.waiting.take n) ⟨i.waiting.drop n, none⟩ else .stuck
  | none =>
    match header? i.waiting with
    | .error s => .failed s
    | .ok none => .stuck
    | .ok (some (n, rest)) => .opened ⟨rest, some n⟩

/-- What can still be taken out of an inlet: a message shortens what is waiting or at least ends
the one that was announced. -/
def weight (i : Inlet) : Nat :=
  2 * i.waiting.length + i.announced.toList.length

/-- Reading a header leaves less. -/
theorem weight_of_opened {i j : Inlet} (h : i.step = .opened j) : j.weight < i.weight := by
  unfold step at h
  split at h
  · split at h <;> cases h
  · rename_i hn
    split at h <;> cases h
    rename_i hh
    have := length_of_header? hh
    simp only [weight, hn, Option.toList_some, Option.toList_none, List.length_cons,
      List.length_nil]
    omega

/-- Taking out a message leaves less. -/
theorem weight_of_message {i j : Inlet} {payload : Octets} (h : i.step = .message payload j) :
    j.weight < i.weight := by
  unfold step at h
  split at h
  · rename_i n hn
    split at h <;> cases h
    simp only [weight, hn, List.length_drop, Option.toList_some, Option.toList_none,
      List.length_cons, List.length_nil]
    omega
  · split at h <;> cases h

/-- Takes out everything that is complete, as `decode` reads it, up to the first error. -/
def drain {M : Type} (decode : Octets → Except Status M) (i : Inlet) :
    List M × Except Status Inlet :=
  match _h : i.step with
  | .opened j => drain decode j
  | .message payload j =>
    match decode payload with
    | .ok m =>
      let (ms, rest) := drain decode j
      (m :: ms, rest)
    | .error s => ([], .error s)
  | .stuck => ([], .ok i)
  | .failed s => ([], .error s)
  termination_by i.weight
  decreasing_by
    · exact weight_of_opened (by assumption)
    · exact weight_of_message (by assumption)

end Inlet

/-! ## Whole bodies -/

/-- A piece of the body of a call. -/
inductive Chunk where
  | data (bs : Octets)
  /-- The body breaks off for a reason that tells no code.  This leaves out bodies that the client
  itself takes back by cancelling its call: it waits for no answer, and the call is dropped. -/
  | broken (reason : String)
  deriving DecidableEq, Repr

/-- What a client has sent, and whether it has finished. -/
structure Body where
  chunks : List Chunk
  finished : Bool := true
  deriving DecidableEq, Repr

/-- How a stream of messages goes on after those that have come. -/
inductive Ending where
  | finished
  /-- More may come. -/
  | pending
  | failed (s : Status)
  deriving DecidableEq, Repr

/-- The messages that have come, and how it goes on. -/
structure Arrivals (M : Type) where
  messages : List M
  ending : Ending
  deriving DecidableEq, Repr

/-- The messages in the chunks that are still to be looked at.  A client may not finish while
octets are waiting. -/
def receiveFrom {M : Type} (decode : Octets → Except Status M) (finished : Bool) :
    Inlet → List Chunk → Arrivals M
  | i, [] =>
    if !finished then ⟨[], .pending⟩
    else if i.waiting.isEmpty then ⟨[], .finished⟩
    else ⟨[], .failed unexpectedEnd⟩
  | _, .broken reason :: _ => ⟨[], .failed (brokenBody reason)⟩
  | i, .data bs :: chunks =>
    match (i.feed bs).drain decode with
    | (ms, .error s) => ⟨ms, .failed s⟩
    | (ms, .ok j) =>
      let rest := receiveFrom decode finished j chunks
      ⟨ms ++ rest.messages, rest.ending⟩

/-- The messages in a body. -/
def receive {M : Type} (decode : Octets → Except Status M) (b : Body) : Arrivals M :=
  receiveFrom decode b.finished {} b.chunks

end StandIn.Grpc
