import StandIn.Proofs.Wire.RoundTrip
import StandIn.Task
import StandIn.Telemetry

/-!
# The messages that are exchanged

* `MessageType` — the message types, each with its values and its codec.
* `MessageType.decode_of_writes` — every message is read back from whatever is written for it.
-/

namespace StandIn

open Wire Wire.Field Wire.Scalar

/-! ## Each codec is faithful -/

lemma EnvironmentVariable.isFaithful_codec : EnvironmentVariable.codec.IsFaithful 0 := by
  refine Codec.isFaithful_of_carried (by decide) fun _ _ _ =>
    .cons (carries_scalar isFaithful_text ?_ rfl) <|
    .cons (carries_scalar isFaithful_text ?_ rfl) <|
    .nil _
  all_goals exact ⟨fun _ _ => rfl, fun _ => rfl, fun _ _ _ => rfl⟩

lemma RunAction.isFaithful_codec : RunAction.codec.IsFaithful 1 := by
  refine Codec.isFaithful_of_carried (by decide) fun _ hdepth _ =>
    .cons (carries_scalar isFaithful_text ?_ rfl) <|
    .cons (carries_repeated isFaithful_text ?_ rfl) <|
    .cons (carries_scalar isFaithful_text ?_ rfl) <|
    .cons (carries_messages EnvironmentVariable.isFaithful_codec hdepth ?_ rfl) <|
    .cons (carries_scalar isFaithful_text ?_ rfl) <|
    .cons (carries_scalar isFaithful_text ?_ rfl) <|
    .cons (carries_scalar isFaithful_bool ?_ rfl) <|
    .nil _
  all_goals exact ⟨fun _ _ => rfl, fun _ => rfl, fun _ _ _ => rfl⟩

lemma Action.isFaithful_codec : Action.codec.IsFaithful 2 := by
  refine Codec.isFaithful_of_carried (by decide) fun _ hdepth _ =>
    .cons (carries_message? RunAction.isFaithful_codec hdepth ?_ rfl) <|
    .nil _
  all_goals exact ⟨fun _ _ => rfl, fun _ => rfl, fun _ _ _ => rfl⟩

lemma Network.isFaithful_codec : Network.codec.IsFaithful 1 := by
  refine Codec.isFaithful_of_carried (by decide) fun _ hdepth _ =>
    .cons (carries_dictionary hdepth ?_ rfl) <|
    .nil _
  all_goals exact ⟨fun _ _ => rfl, fun _ => rfl, fun _ _ _ => rfl⟩

lemma TaskDefinition.isFaithful_codec : TaskDefinition.codec.IsFaithful 3 := by
  refine Codec.isFaithful_of_carried (by decide) fun _ hdepth _ =>
    .cons (carries_scalar isFaithful_text ?_ rfl) <|
    .cons (carries_messages EnvironmentVariable.isFaithful_codec (by omega) ?_ rfl) <|
    .cons (carries_message? Action.isFaithful_codec (by omega) ?_ rfl) <|
    .cons (carries_scalar isFaithful_int32 ?_ rfl) <|
    .cons (carries_scalar isFaithful_int32 ?_ rfl) <|
    .cons (carries_scalar isFaithful_uint32 ?_ rfl) <|
    .cons (carries_scalar isFaithful_bool ?_ rfl) <|
    .cons (carries_scalar isFaithful_text ?_ rfl) <|
    .cons (carries_scalar isFaithful_text ?_ rfl) <|
    .cons (carries_scalar isFaithful_text ?_ rfl) <|
    .cons (carries_scalar isFaithful_text ?_ rfl) <|
    .cons (carries_scalar isFaithful_text ?_ rfl) <|
    .cons (carries_scalar isFaithful_text ?_ rfl) <|
    .cons (carries_scalar isFaithful_text ?_ rfl) <|
    .cons (carries_message? Network.isFaithful_codec (by omega) ?_ rfl) <|
    .cons (carries_repeated isFaithful_text ?_ rfl) <|
    .cons (carries_scalar isFaithful_int32 ?_ rfl) <|
    .cons (carries_scalar isFaithful_text ?_ rfl) <|
    .nil _
  all_goals exact ⟨fun _ _ => rfl, fun _ => rfl, fun _ _ _ => rfl⟩

lemma DesireTaskRequest.isFaithful_codec : DesireTaskRequest.codec.IsFaithful 4 := by
  refine Codec.isFaithful_of_carried (by decide) fun _ hdepth _ =>
    .cons (carries_message? TaskDefinition.isFaithful_codec hdepth ?_ rfl) <|
    .cons (carries_scalar isFaithful_text ?_ rfl) <|
    .cons (carries_scalar isFaithful_text ?_ rfl) <|
    .nil _
  all_goals exact ⟨fun _ _ => rfl, fun _ => rfl, fun _ _ _ => rfl⟩

lemma Envelope.isFaithful_codec : Envelope.codec.IsFaithful 1 := by
  refine Codec.isFaithful_of_carried (by decide) fun _ hdepth _ =>
    .cons (carries_scalar isFaithful_int64 ?_ rfl) <|
    .cons (carries_scalar isFaithful_text ?_ rfl) <|
    .cons (carries_scalar isFaithful_text ?_ rfl) <|
    .cons (carries_dictionary hdepth ?_ rfl) <|
    .nil _
  all_goals exact ⟨fun _ _ => rfl, fun _ => rfl, fun _ _ _ => rfl⟩

lemma EnvelopeBatch.isFaithful_codec : EnvelopeBatch.codec.IsFaithful 2 := by
  refine Codec.isFaithful_of_carried (by decide) fun _ hdepth _ =>
    .cons (carries_messages Envelope.isFaithful_codec hdepth ?_ rfl) <|
    .nil _
  all_goals exact ⟨fun _ _ => rfl, fun _ => rfl, fun _ _ _ => rfl⟩

lemma Acknowledgement.isFaithful_codec (name : String) :
    (Acknowledgement.codec name).IsFaithful 0 :=
  Codec.isFaithful_of_carried ⟨(fun _ hf => nomatch hf), List.nodup_nil⟩ fun _ _ _ => .nil _

/-! ## All of them -/

/-- The message types.  There are two acknowledgements, one for each way of sending. -/
inductive MessageType where
  | environmentVariable | runAction | action | network | taskDefinition | desireTaskRequest
  | envelope | envelopeBatch | batchSenderResponse | sendResponse
  deriving Repr, DecidableEq

namespace MessageType

/-- The values of a message type. -/
def Value : MessageType → Type
  | environmentVariable => EnvironmentVariable
  | runAction => RunAction
  | action => Action
  | network => Network
  | taskDefinition => TaskDefinition
  | desireTaskRequest => DesireTaskRequest
  | envelope => Envelope
  | envelopeBatch => EnvelopeBatch
  | batchSenderResponse => Acknowledgement
  | sendResponse => Acknowledgement

/-- The encoded form of a message type. -/
def codec : (t : MessageType) → Codec t.Value
  | environmentVariable => EnvironmentVariable.codec
  | runAction => RunAction.codec
  | action => Action.codec
  | network => Network.codec
  | taskDefinition => TaskDefinition.codec
  | desireTaskRequest => DesireTaskRequest.codec
  | envelope => Envelope.codec
  | envelopeBatch => EnvelopeBatch.codec
  | batchSenderResponse => Acknowledgement.codec "BatchSenderResponse"
  | sendResponse => Acknowledgement.codec "SendResponse"

/-- How many levels of messages there are below a message of the type. -/
def height : MessageType → Nat
  | environmentVariable => 0
  | runAction => 1
  | action => 2
  | network => 1
  | taskDefinition => 3
  | desireTaskRequest => 4
  | envelope => 1
  | envelopeBatch => 2
  | batchSenderResponse => 0
  | sendResponse => 0

lemma isFaithful_codec : (t : MessageType) → t.codec.IsFaithful t.height
  | environmentVariable => EnvironmentVariable.isFaithful_codec
  | runAction => RunAction.isFaithful_codec
  | action => Action.isFaithful_codec
  | network => Network.isFaithful_codec
  | taskDefinition => TaskDefinition.isFaithful_codec
  | desireTaskRequest => DesireTaskRequest.isFaithful_codec
  | envelope => Envelope.isFaithful_codec
  | envelopeBatch => EnvelopeBatch.isFaithful_codec
  | batchSenderResponse => Acknowledgement.isFaithful_codec _
  | sendResponse => Acknowledgement.isFaithful_codec _

lemma height_le_nestingLimit (t : MessageType) : t.height ≤ nestingLimit := by
  cases t <;> decide

/-- **What is written for a message is read back as this message.**  This is so for each message of
each type and for all octets that may be written for it, in whatever order the entries of its
dictionaries are put, as long as there are fewer than 2 ^ 64 octets, so that lengths are numbers of
64 bits.  The size that is announced for the message is the number of these octets; and what the
codec itself writes is among them. -/
theorem decode_of_writes (t : MessageType) (m : t.Value) :
    t.codec.Writes m (t.codec.encode m) ∧
      ∀ bs, t.codec.Writes m bs → bs.length < 2 ^ 64 →
        t.codec.decode bs = .ok m ∧ t.codec.size m = bs.length := by
  have hcodec := t.isFaithful_codec
  refine ⟨hcodec.encode m, fun bs hm hlength => ⟨?_, hcodec.size hm hlength⟩⟩
  exact hcodec.decode_eq t.height_le_nestingLimit hm hlength

/-- Two properties in descending order of their keys. -/
def descendingEntries : Octets :=
  entriesOctets 1 [("b", "2"), ("a", "1")]

theorem decode_of_writes_descending :
    network.codec.Writes ⟨.ofList [("a", "1"), ("b", "2")]⟩ descendingEntries ∧
      descendingEntries.length < 2 ^ 64 ∧
      network.codec.decode descendingEntries = .ok ⟨.ofList [("a", "1"), ("b", "2")]⟩ ∧
      network.codec.size ⟨.ofList [("a", "1"), ("b", "2")]⟩ = descendingEntries.length := by
  have hwrites : network.codec.Writes ⟨.ofList [("a", "1"), ("b", "2")]⟩ descendingEntries := by
    refine ⟨[(_, descendingEntries)], rfl, ?_, (List.append_nil _).symm⟩
    rw [List.forall_mem_singleton]
    exact ⟨[("b", "2"), ("a", "1")], by decide, rfl⟩
  have hlength : descendingEntries.length < 2 ^ 64 := by decide +kernel
  exact ⟨hwrites, hlength, (decode_of_writes network _).2 _ hwrites hlength⟩

end MessageType

end StandIn
