import StandIn.Proofs.Wire.Messages

/-!
# What merging does to the parts of a message

A record meets what earlier ones left of its field, and each kind of field has its own way with it.
A single value is replaced, a list grows, a message is merged into, and an entry of a dictionary
takes the place of the one that had its key.

* `Part`, `MessageType.parts` — the parts of messages: the number of the records of each, what they
  hold, and where its value is.
* `Part.Law` — what becomes of a part by some records.
* `MergesOctets`, `MessageType.Merges` — what becomes of a message by some octets, told for all its
  parts and at every level.
* `MergesOctets.append` — octets that follow each other do what they do together.
-/

namespace StandIn

namespace Wire

open Reader

/-! ## Parts of messages -/

/-- A part of the messages in `M`: the number that its records have, what they hold, and where in a
message its value is. -/
inductive Part (M : Type) : Type 1 where
  /-- One value. -/
  | scalar {α : Type} (number : Nat) (s : Scalar α) (get : M → α)
  /-- A list of values. -/
  | repeated {α : Type} (number : Nat) (s : Scalar α) (get : M → List α)
  /-- At most one message. -/
  | message? (number : Nat) (t : MessageType) (get : M → Option t.Value)
  /-- A list of messages. -/
  | messages (number : Nat) (t : MessageType) (get : M → List t.Value)
  | dictionary (number : Nat) (get : M → Dictionary)

namespace Part

variable {M : Type}

/-- The number of the records of a part. -/
def number : Part M → Nat
  | scalar n .. | repeated n .. | message? n .. | messages n .. | dictionary n _ => n

/-- The value of a part, with its type. -/
def value : Part M → M → Σ α : Type, α
  | scalar _ _ get, m => ⟨_, get m⟩
  | repeated _ _ get, m => ⟨_, get m⟩
  | message? _ _ get, m => ⟨_, get m⟩
  | messages _ _ get, m => ⟨_, get m⟩
  | dictionary _ get, m => ⟨_, get m⟩

/-- The parts of one entry of a dictionary, which are its key and its value. -/
def entry : List (Part (String × String)) :=
  [.scalar 1 .text (·.1), .scalar 2 .text (·.2)]

end Part

end Wire

namespace MessageType

open Wire

/-- The parts of the messages of a type. -/
def parts : (t : MessageType) → List (Wire.Part t.Value)
  | environmentVariable => [
    .scalar 1 .text EnvironmentVariable.name,
    .scalar 2 .text EnvironmentVariable.value]
  | runAction => [
    .scalar 1 .text RunAction.path,
    .repeated 2 .text RunAction.args,
    .scalar 3 .text RunAction.dir,
    .messages 4 environmentVariable RunAction.env,
    .scalar 6 .text RunAction.user,
    .scalar 7 .text RunAction.logSource,
    .scalar 8 .bool RunAction.suppressLogOutput]
  | action => [.message? 3 runAction Action.run]
  | network => [.dictionary 1 Network.properties]
  | taskDefinition => [
    .scalar 1 .text TaskDefinition.rootFs,
    .messages 2 environmentVariable TaskDefinition.environment,
    .message? 3 action TaskDefinition.action,
    .scalar 4 .int32 TaskDefinition.diskMb,
    .scalar 5 .int32 TaskDefinition.memoryMb,
    .scalar 6 .uint32 TaskDefinition.cpuWeight,
    .scalar 7 .bool TaskDefinition.privileged,
    .scalar 8 .text TaskDefinition.logSource,
    .scalar 9 .text TaskDefinition.logGuid,
    .scalar 10 .text TaskDefinition.metricsGuid,
    .scalar 11 .text TaskDefinition.resultFile,
    .scalar 12 .text TaskDefinition.completionCallbackUrl,
    .scalar 13 .text TaskDefinition.note,
    .scalar 17 .text TaskDefinition.trustedSystemCertificatesPath,
    .message? 19 network TaskDefinition.network,
    .repeated 20 .text TaskDefinition.placementTags,
    .scalar 21 .int32 TaskDefinition.maxPids,
    .scalar 23 .text TaskDefinition.imageUsername]
  | desireTaskRequest => [
    .message? 1 taskDefinition DesireTaskRequest.taskDefinition,
    .scalar 2 .text DesireTaskRequest.taskGuid,
    .scalar 3 .text DesireTaskRequest.domain]
  | envelope => [
    .scalar 1 .int64 Envelope.timestamp,
    .scalar 2 .text Envelope.sourceId,
    .scalar 8 .text Envelope.instanceId,
    .dictionary 9 Envelope.tags]
  | envelopeBatch => [.messages 1 envelope EnvelopeBatch.batch]
  | batchSenderResponse => []
  | sendResponse => []

end MessageType

namespace Wire

open Reader

/-! ## Records -/

/-- A record: its key, and its payload. -/
abbrev Record := Key × Octets

/-- The octets are those of the records, one after the other. -/
inductive Lists : List Record → Octets → Prop
  | nil : Lists [] []
  | cons {k : Key} {ks ps rest : Octets} {rs : List Record} (hk : IsKey ks k)
      (hrest : Lists rs rest) : Lists ((k, ps) :: rs) (ks ++ (ps ++ rest))

lemma Lists.append {rs ss : List Record} {p q : Octets} (hp : Lists rs p) (hq : Lists ss q) :
    Lists (rs ++ ss) (p ++ q) := by
  induction hp with
  | nil => exact hq
  | cons hk _ ih =>
      rw [List.append_assoc, List.append_assoc]
      exact .cons hk ih

lemma Lists.record {k : Key} {ks ps : Octets} (hk : IsKey ks k) : Lists [(k, ps)] (ks ++ ps) := by
  have h : Lists [(k, ps)] (ks ++ (ps ++ [])) := .cons hk .nil
  rwa [List.append_nil] at h

/-- The records with a number. -/
def numbered (n : Nat) (rs : List Record) : List Record :=
  rs.filter (·.1.number = n)

lemma numbered_append (n : Nat) (rs ss : List Record) :
    numbered n (rs ++ ss) = numbered n rs ++ numbered n ss :=
  List.filter_append ..

/-- What holds of a single record that has the number. -/
lemma forall₂_numbered {β : Type} {R : Record → β → Prop} {n : Nat} {r : Record} {x : β}
    (hn : r.1.number = n) (h : R r x) : List.Forall₂ R (numbered n [r]) [x] := by
  have hself : numbered n [r] = [r] := List.filter_eq_self.2 (by simpa using hn)
  rw [hself]
  exact .cons h .nil

lemma numbered_of_ne {n : Nat} {r : Record} (h : n ≠ r.1.number) : numbered n [r] = [] := by
  rw [numbered, List.filter_eq_nil_iff, List.forall_mem_singleton, decide_eq_true_eq]
  exact h.symm

/-- A record holds a value. -/
def Holds {α : Type} (s : Scalar α) (r : Record) (x : α) : Prop :=
  r.1.wireType = s.wireType ∧ s.read.Spells r.2 x

/-- A record holds the octets of a message. -/
def HoldsMessage (r : Record) (body : Octets) : Prop :=
  r.1.wireType = .delimited ∧ Delimited body r.2

/-! ## What becomes of a message -/

/-- What becomes of messages in a message, and of entries in a dictionary, by some octets. -/
structure Inner where
  message : (t : MessageType) → t.Value → Octets → t.Value → Prop
  entry : String × String → Octets → String × String → Prop

/-- What becomes of a message that may not be there yet.  The octets of several records are merged
as if they stood in one. -/
def MergesOption {N : Type} (merges : N → Octets → N → Prop) (empty : N) (bodies : List Octets)
    (old new : Option N) : Prop :=
  match bodies with
  | [] => new = old
  | _ :: _ => ∃ x, merges (old.getD empty) bodies.flatten x ∧ new = some x

/-- What becomes of a part by some records.  The last value counts, a list gets longer, a message is
merged into the one that is there, and of entries with the same key the last one counts. -/
def Part.Law {M : Type} (inner : Inner) (part : Part M) (rs : List Record) (old new : M) : Prop :=
  match part with
  | scalar number s get => ∃ xs, List.Forall₂ (Holds s) (numbered number rs) xs ∧
      get new = xs.getLast?.getD (get old)
  | repeated number s get => ∃ xs, List.Forall₂ (Holds s) (numbered number rs) xs ∧
      get new = get old ++ xs
  | message? number t get => ∃ bodies, List.Forall₂ HoldsMessage (numbered number rs) bodies ∧
      MergesOption (inner.message t) t.codec.empty bodies (get old) (get new)
  | messages number t get => ∃ bodies xs, List.Forall₂ HoldsMessage (numbered number rs) bodies ∧
      List.Forall₂ (inner.message t t.codec.empty) bodies xs ∧ get new = get old ++ xs
  | dictionary number get => ∃ bodies es,
      List.Forall₂ (fun r body => Delimited body r.2) (numbered number rs) bodies ∧
      List.Forall₂ (inner.entry ("", "")) bodies es ∧
      ∀ key, (get new).get? key = (es.reverse.lookup key).or ((get old).get? key)

/-- What becomes of a message by some records.  Records that belong to no part are passed over. -/
structure MergesRecords {M : Type} (inner : Inner) (depth : Nat) (parts : List (Part M))
    (rs : List Record) (old new : M) : Prop where
  law : ∀ part ∈ parts, part.Law inner rs old new
  passed : ∀ r ∈ rs, (∀ part ∈ parts, part.number ≠ r.1.number) → Passed depth r.1 r.2

/-- What becomes of a message by some octets. -/
def MergesOctets {M : Type} (inner : Inner) (depth : Nat) (parts : List (Part M)) (old : M)
    (bs : Octets) (new : M) : Prop :=
  ∃ rs, Lists rs bs ∧ MergesRecords inner depth parts rs old new

/-- What becomes of messages in a message, if so many more levels may open. -/
def inner : (depth : Nat) → Inner
  | 0 => ⟨fun _ _ _ _ => False, fun _ _ _ => False⟩
  | depth + 1 => ⟨fun t => MergesOctets (inner depth) depth t.parts,
      MergesOctets (inner depth) depth Part.entry⟩

section Append

variable {M N : Type} {parts : List (Part M)} {i : Inner} {rs ss : List Record} {a b c : M}

/-- Octets that follow each other do what they do together. -/
def Composes (merges : N → Octets → N → Prop) : Prop :=
  ∀ ⦃x y z p q⦄, merges x p y → merges y q z → merges x (p ++ q) z

lemma MergesOption.append {merges : N → Octets → N → Prop} {empty : N} {ps qs : List Octets}
    {x y z : Option N} (h : Composes merges) (hp : MergesOption merges empty ps x y)
    (hq : MergesOption merges empty qs y z) : MergesOption merges empty (ps ++ qs) x z := by
  cases ps with
  | nil =>
      obtain rfl : y = x := hp
      exact hq
  | cons p ps =>
      obtain ⟨y, hy, rfl⟩ := hp
      cases qs with
      | nil =>
          obtain rfl : z = some y := hq
          rw [List.append_nil]
          exact ⟨y, hy, rfl⟩
      | cons q qs =>
          obtain ⟨z, hz, rfl⟩ := hq
          refine ⟨z, ?_, rfl⟩
          rw [List.flatten_append]
          exact h hy hz

lemma Part.Law.append {part : Part M} (h : ∀ t, Composes (i.message t))
    (hr : part.Law i rs a b) (hs : part.Law i ss b c) : part.Law i (rs ++ ss) a c := by
  cases part with
  | scalar number s get =>
      obtain ⟨xs, hxs, hb⟩ := hr
      obtain ⟨ys, hys, hc⟩ := hs
      refine ⟨xs ++ ys, ?_, ?_⟩
      · rw [numbered_append]
        exact List.rel_append hxs hys
      · rw [hc, hb, List.getLast?_append]
        cases ys.getLast? <;> rfl
  | repeated number s get =>
      obtain ⟨xs, hxs, hb⟩ := hr
      obtain ⟨ys, hys, hc⟩ := hs
      refine ⟨xs ++ ys, ?_, ?_⟩
      · rw [numbered_append]
        exact List.rel_append hxs hys
      · rw [hc, hb, List.append_assoc]
  | message? number t get =>
      obtain ⟨ps, hps, hb⟩ := hr
      obtain ⟨qs, hqs, hc⟩ := hs
      refine ⟨ps ++ qs, ?_, hb.append (h t) hc⟩
      rw [numbered_append]
      exact List.rel_append hps hqs
  | messages number t get =>
      obtain ⟨ps, xs, hps, hxs, hb⟩ := hr
      obtain ⟨qs, ys, hqs, hys, hc⟩ := hs
      refine ⟨ps ++ qs, xs ++ ys, ?_, List.rel_append hxs hys, ?_⟩
      · rw [numbered_append]
        exact List.rel_append hps hqs
      · rw [hc, hb, List.append_assoc]
  | dictionary number get =>
      obtain ⟨ps, es, hps, hes, hb⟩ := hr
      obtain ⟨qs, fs, hqs, hfs, hc⟩ := hs
      refine ⟨ps ++ qs, es ++ fs, ?_, List.rel_append hes hfs, fun key => ?_⟩
      · rw [numbered_append]
        exact List.rel_append hps hqs
      · rw [hc, hb, List.reverse_append, List.lookup_append, Option.or_assoc]

lemma composes_mergesOctets (h : ∀ t, Composes (i.message t)) (depth : Nat) :
    Composes (MergesOctets i depth parts) := by
  rintro a b c p q ⟨rs, hrs, hb⟩ ⟨ss, hss, hc⟩
  refine ⟨rs ++ ss, hrs.append hss, fun part hpart => ?_, fun r hr => ?_⟩
  · exact (hb.law part hpart).append h (hc.law part hpart)
  · exact (List.mem_append.1 hr).elim (hb.passed r) (hc.passed r)

lemma composes_inner (depth : Nat) (t : MessageType) : Composes ((inner depth).message t) := by
  induction depth generalizing t with
  | zero => exact fun _ _ _ _ _ h => h.elim
  | succ depth ih => exact composes_mergesOctets ih depth

/-- **Merging octets one after the other is merging them together**, at every level. -/
theorem MergesOctets.append {depth : Nat} {p q : Octets}
    (hp : MergesOctets (inner depth) depth parts a p b)
    (hq : MergesOctets (inner depth) depth parts b q c) :
    MergesOctets (inner depth) depth parts a (p ++ q) c :=
  composes_mergesOctets (composes_inner depth) depth hp hq

end Append

end Wire

/-- What becomes of a message by some octets, at every level. -/
def MessageType.Merges (t : MessageType) (old : t.Value) (bs : Octets) (new : t.Value) : Prop :=
  Wire.MergesOctets (Wire.inner Wire.nestingLimit) Wire.nestingLimit t.parts old bs new

end StandIn
