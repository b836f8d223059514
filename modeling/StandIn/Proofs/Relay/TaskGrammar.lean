import StandIn.Proofs.Wire.Grammar
import StandIn.Relay.Observation

/-!
# Which bodies are task requests

The body of a submission is decoded if it has the form that is declared for task requests, and
otherwise it is told why not.  There is one thing that is not looked at: the wire type of the entries
of a dictionary.

* `DesireTaskRequest.declared` — what is declared of task requests and their parts.
* `DesireTaskRequest.follows_codec` — the codec follows what is declared.
* `decodeDesireTask_cases` — what is seen of a body, by its form.
* `entry_of_any_wire_type` — a body that is decoded, and yet does not have the declared form.
-/

namespace StandIn

open Wire Wire.Field Wire.Scalar

/-! ## What is declared -/

def EnvironmentVariable.declared : List (Nat × Shape) :=
  [(1, .text), (2, .text)]

def RunAction.declared : List (Nat × Shape) :=
  [(1, .text), (2, .text), (3, .text), (4, .message EnvironmentVariable.declared), (6, .text),
    (7, .text), (8, .number)]

def Action.declared : List (Nat × Shape) :=
  [(3, .message RunAction.declared)]

def Network.declared : List (Nat × Shape) :=
  [(1, .dictionary)]

def TaskDefinition.declared : List (Nat × Shape) :=
  [(1, .text), (2, .message EnvironmentVariable.declared), (3, .message Action.declared),
    (4, .number), (5, .number), (6, .number), (7, .number), (8, .text), (9, .text), (10, .text),
    (11, .text), (12, .text), (13, .text), (17, .text), (19, .message Network.declared),
    (20, .text), (21, .number), (23, .text)]

/-- The fields of task requests.  Those of the parts of a request are declared likewise. -/
def DesireTaskRequest.declared : List (Nat × Shape) :=
  [(1, .message TaskDefinition.declared), (2, .text), (3, .text)]

/-! ## The codecs follow it -/

lemma follows_bool : Scalar.bool.Follows .number := follows_number rfl reads_bool

lemma follows_int32 : Scalar.int32.Follows .number := follows_number rfl reads_int32

lemma follows_uint32 : Scalar.uint32.Follows .number := follows_number rfl reads_uint32

lemma EnvironmentVariable.follows_codec :
    EnvironmentVariable.codec.Follows EnvironmentVariable.declared := fun _ =>
  .cons ⟨rfl, follows_scalar follows_text⟩ <|
  .cons ⟨rfl, follows_scalar follows_text⟩ .nil

lemma RunAction.follows_codec : RunAction.codec.Follows RunAction.declared := fun _ =>
  .cons ⟨rfl, follows_scalar follows_text⟩ <|
  .cons ⟨rfl, follows_repeated follows_text⟩ <|
  .cons ⟨rfl, follows_scalar follows_text⟩ <|
  .cons ⟨rfl, follows_messages EnvironmentVariable.follows_codec⟩ <|
  .cons ⟨rfl, follows_scalar follows_text⟩ <|
  .cons ⟨rfl, follows_scalar follows_text⟩ <|
  .cons ⟨rfl, follows_scalar follows_bool⟩ .nil

lemma Action.follows_codec : Action.codec.Follows Action.declared := fun _ =>
  .cons ⟨rfl, follows_message? RunAction.follows_codec⟩ .nil

lemma Network.follows_codec : Network.codec.Follows Network.declared := fun _ =>
  .cons ⟨rfl, follows_dictionary⟩ .nil

lemma TaskDefinition.follows_codec :
    TaskDefinition.codec.Follows TaskDefinition.declared := fun _ =>
  .cons ⟨rfl, follows_scalar follows_text⟩ <|
  .cons ⟨rfl, follows_messages EnvironmentVariable.follows_codec⟩ <|
  .cons ⟨rfl, follows_message? Action.follows_codec⟩ <|
  .cons ⟨rfl, follows_scalar follows_int32⟩ <|
  .cons ⟨rfl, follows_scalar follows_int32⟩ <|
  .cons ⟨rfl, follows_scalar follows_uint32⟩ <|
  .cons ⟨rfl, follows_scalar follows_bool⟩ <|
  .cons ⟨rfl, follows_scalar follows_text⟩ <|
  .cons ⟨rfl, follows_scalar follows_text⟩ <|
  .cons ⟨rfl, follows_scalar follows_text⟩ <|
  .cons ⟨rfl, follows_scalar follows_text⟩ <|
  .cons ⟨rfl, follows_scalar follows_text⟩ <|
  .cons ⟨rfl, follows_scalar follows_text⟩ <|
  .cons ⟨rfl, follows_scalar follows_text⟩ <|
  .cons ⟨rfl, follows_message? Network.follows_codec⟩ <|
  .cons ⟨rfl, follows_repeated follows_text⟩ <|
  .cons ⟨rfl, follows_scalar follows_int32⟩ <|
  .cons ⟨rfl, follows_scalar follows_text⟩ .nil

lemma DesireTaskRequest.follows_codec :
    DesireTaskRequest.codec.Follows DesireTaskRequest.declared := fun _ =>
  .cons ⟨rfl, follows_message? TaskDefinition.follows_codec⟩ <|
  .cons ⟨rfl, follows_scalar follows_text⟩ <|
  .cons ⟨rfl, follows_scalar follows_text⟩ .nil

namespace Relay

/-- The bodies of task requests: sequences of complete records, in which each declared field stands
in a record of one of the wire types that `allows` names. -/
def IsTaskRequest (allows : Shape → WireType → Prop) (body : Octets) : Prop :=
  IsMessage allows nestingLimit DesireTaskRequest.declared body

lemma decodeDesireTask_isOk_iff (body : Octets) :
    (∃ json, decodeDesireTask body = .ok json) ↔ IsTaskRequest Tolerates body := by
  rw [IsTaskRequest, ← DesireTaskRequest.follows_codec.decode_isOk_iff]
  constructor
  · rintro ⟨json, h⟩
    obtain ⟨m, hm, -⟩ := map_eq_ok_iff.1 h
    exact ⟨m, hm⟩
  · rintro ⟨m, hm⟩
    exact ⟨_, map_eq_ok_iff.2 ⟨m, hm, rfl⟩⟩

/-- **What is seen of a body, by its form.**  A body is decoded exactly if it is a task request in
which the entries of dictionaries may stand in records of any wire type; so each body that has the
declared form is decoded.  For any other body, and for no body else, the error is one of decoding,
and that is what is observed. -/
theorem decodeDesireTask_cases (body : Octets) :
    ((∃ json, decodeDesireTask body = .ok json) ↔ IsTaskRequest Tolerates body) ∧
    ((∃ e, decodeDesireTask body = .error e ∧
      (observe desireTaskPath body).seen = .failed e ∧
      (observe desireTaskPath body).seen.text
        = "failed to decode desire task request: " ++ e.message) ↔
      ¬IsTaskRequest Tolerates body) ∧
    (IsTaskRequest Demands body → ∃ json, decodeDesireTask body = .ok json) := by
  have hiff := decodeDesireTask_isOk_iff body
  refine ⟨hiff, ?_, fun h => hiff.2 (h.mono fun _ _ => .inl)⟩
  rw [← hiff]
  constructor
  · rintro ⟨e, he, -⟩ ⟨json, hjson⟩
    cases he.symm.trans hjson
  · intro h
    cases hrun : decodeDesireTask body with
    | ok json => exact absurd ⟨json, hrun⟩ h
    | error e =>
        have hseen : (observe desireTaskPath body).seen = .failed e := by
          simp only [observe, if_true, hrun]
        exact ⟨e, rfl, hseen, by rw [hseen]; rfl⟩

namespace Sample

/-- A text of one octet, behind its length. -/
def letter (s : String) : Octets := 1 :: Utf8.encode s

/-- An entry of a dictionary. -/
def entry : Octets := [0x0a] ++ (letter "a" ++ ([0x12] ++ (letter "b" ++ [])))

def network : Octets := [0x0a] ++ ((6 :: entry) ++ [])

def setting : Octets := [0x0a] ++ (letter "k" ++ [])

/-- A definition with a variable, a number, a network and a field that is not declared. -/
def definition : Octets :=
  [0x12] ++ ((3 :: setting) ++ ([0x20] ++ ([7] ++ ([0x9a, 1] ++ ((8 :: network) ++
    ([0xf0, 1] ++ ([0] ++ [])))))))

def request : Octets := [0x0a] ++ ((21 :: definition) ++ ([0x12] ++ (letter "g" ++ [])))

lemma isKey_octet {b : UInt8} {k : Reader.Key}
    (h : 1 ≤ k.number ∧ k.number * 8 + k.wireType.code = b.toNat ∧ b.toNat < 128) : IsKey [b] k :=
  isKey_singleton h.1 h.2.1 h.2.2

lemma payload_letter {depth : Nat} {s : String} (h : (Utf8.encode s).length = 1) :
    Shape.text.Payload Demands depth (letter s) :=
  payload_text_iff.2 ⟨s, delimited_cons h (by decide)⟩

lemma isMessage_entry {depth : Nat} : IsMessage Demands depth Shape.entry entry :=
  .cons_declared 1 .text rfl (isKey_octet (by decide)) (payload_letter rfl) <|
  .cons_declared 2 .text rfl (isKey_octet (by decide)) (payload_letter rfl) .nil

lemma isMessage_network {depth : Nat} :
    IsMessage Demands (depth + 1) Network.declared network :=
  .cons_declared 1 .dictionary rfl (isKey_octet (by decide))
    ⟨entry, delimited_cons rfl (by decide), isMessage_entry⟩ .nil

lemma isMessage_setting {depth : Nat} :
    IsMessage Demands depth EnvironmentVariable.declared setting :=
  .cons_declared 1 .text rfl (isKey_octet (by decide)) (payload_letter rfl) .nil

lemma isMessage_definition {depth : Nat} :
    IsMessage Demands (depth + 2) TaskDefinition.declared definition := by
  have hnetwork : IsKey [0x9a, 1] ⟨19, .delimited⟩ :=
    ⟨by decide, by decide, .more (by decide) (.last (by decide)), by decide, by decide⟩
  have hundeclared : IsKey [0xf0, 1] ⟨30, .varint⟩ :=
    ⟨by decide, by decide, .more (by decide) (.last (by decide)), by decide, by decide⟩
  exact .cons_declared 2 (.message _) rfl (isKey_octet (by decide))
      ⟨setting, delimited_cons rfl (by decide), isMessage_setting⟩ <|
    .cons_declared 4 .number rfl (isKey_octet (by decide))
      (payload_number_iff.2 ⟨7, isNumber_singleton (by decide)⟩) <|
    .cons_declared 19 (.message _) rfl hnetwork
      ⟨network, delimited_cons rfl (by decide), isMessage_network⟩ <|
    .cons_undeclared rfl hundeclared ⟨0, isNumber_singleton (by decide)⟩ .nil

lemma isTaskRequest_request : IsTaskRequest Demands request :=
  .cons_declared 1 (.message _) rfl (isKey_octet (by decide))
    ⟨definition, delimited_cons rfl (by decide), isMessage_definition⟩ <|
  .cons_declared 2 .text rfl (isKey_octet (by decide)) (payload_letter rfl) .nil

end Sample

/-- A request whose definition has a variable, a network with an entry, and an undeclared field. -/
theorem decodeDesireTask_cases_nested :
    Sample.request = [0x0a, 0x15, 0x12, 0x03, 0x0a, 0x01, 0x6b, 0x20, 0x07, 0x9a, 0x01, 0x08, 0x0a,
      0x06, 0x0a, 0x01, 0x61, 0x12, 0x01, 0x62, 0xf0, 0x01, 0x00, 0x12, 0x01, 0x67] ∧
    IsTaskRequest Demands Sample.request ∧
    ∃ json, decodeDesireTask Sample.request = .ok json :=
  ⟨rfl, Sample.isTaskRequest_request,
    (decodeDesireTask_cases Sample.request).2.2 Sample.isTaskRequest_request⟩

/-- A task request with network properties, in which an empty entry stands in a record of the wire
type of numbers. -/
def numberedEntry : Octets := [0x0a, 0x05, 0x9a, 0x01, 0x02, 0x08, 0x00]

lemma not_isTaskRequest_numberedEntry : ¬IsTaskRequest Demands numberedEntry := by
  intro h
  have hkey : Reader.key.run numberedEntry
      = .ok (⟨1, .delimited⟩, [0x05, 0x9a, 0x01, 0x02, 0x08, 0x00]) := by rfl
  have hdefinition : IsMessage Demands 99 TaskDefinition.declared [0x9a, 0x01, 0x02, 0x08, 0x00] :=
    h.of_run hkey rfl (show Reader.varint.run _ = .ok (5, [0x9a, 0x01, 0x02, 0x08, 0x00]) by rfl)
  have hkey : Reader.key.run [0x9a, 0x01, 0x02, 0x08, 0x00]
      = .ok (⟨19, .delimited⟩, [0x02, 0x08, 0x00]) := by rfl
  have hnetwork : IsMessage Demands 98 Network.declared [0x08, 0x00] :=
    hdefinition.of_run hkey rfl (show Reader.varint.run _ = .ok (2, [0x08, 0x00]) by rfl)
  have hkey : Reader.key.run [0x08, 0x00] = .ok (⟨1, .varint⟩, [0x00]) := by rfl
  obtain ⟨p, more, -, ⟨hwire, -⟩, -⟩ := hnetwork.of_run_key hkey
  cases hwire

/-- **The wire type of an entry is not looked at.**  The body does not have the declared form, and
yet it is decoded. -/
theorem entry_of_any_wire_type :
    ¬IsTaskRequest Demands numberedEntry ∧ ∃ json, decodeDesireTask numberedEntry = .ok json := by
  have hok : (decodeDesireTask numberedEntry).isOk = true := by decide +kernel
  refine ⟨not_isTaskRequest_numberedEntry, ?_⟩
  cases hrun : decodeDesireTask numberedEntry with
  | ok json => exact ⟨json, rfl⟩
  | error e =>
      rw [hrun] at hok
      cases hok

end Relay

end StandIn
