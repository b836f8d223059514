import StandIn.Proofs.Basic
import StandIn.Proofs.Json.Reading
import StandIn.Proofs.Text.Dictionary
import StandIn.Relay.Observation

/-!
# What the log tells of a task request

A task request is logged as JSON.  Parts of it are left out while they are empty, and others are
written even then; here is what reads a request back from its JSON, so that nothing is lost and no
two requests look alike.

* `DesireTaskRequest.ofJson?` — the request with a given JSON, with readers for all its parts.
* `DesireTaskRequest.ofText?` — the request with a given text.
* `decodeDesireTask_faithful` — what is logged of a body that is decoded.
-/

namespace StandIn

namespace Json

/-! ## Parts of documents -/

section Readers

variable {α : Type}

def members? : Json → Option (List (String × Json))
  | .object members => some members
  | _ => none

def text? : Json → Option String
  | .text s => some s
  | _ => none

def bool? : Json → Option Bool
  | .bool b => some b
  | _ => none

def int32? : Json → Option Int32
  | .number n => some (Int32.ofInt n)
  | _ => none

def uint32? : Json → Option UInt32
  | .number n => some (UInt32.ofNat n.toNat)
  | _ => none

/-- The items of an array, each read by `read`. -/
def array? (read : Json → Option α) : Json → Option (List α)
  | .array items => items.mapM read
  | _ => none

/-- A member that is always there. -/
def required (read : Json → Option α) (found : Option Json) : Option α :=
  found.bind read

/-- A member that may have been left out, in place of `default`. -/
def optional (default : α) (read : Json → Option α) : Option Json → Option α
  | none => some default
  | some j => read j

/-- A value in place of which there may be null. -/
def nullable (read : Json → Option α) : Json → Option (Option α)
  | .null => some none
  | j => (read j).map some

lemma mapM_map_eq_some {β : Type} {f : α → β} {g : β → Option α} (h : ∀ x, g (f x) = some x)
    (xs : List α) : (xs.map f).mapM g = some xs := by
  induction xs with
  | nil => rfl
  | cons x xs ih => rw [List.map_cons, List.mapM_cons, h, ih]; rfl

lemma array?_map {f : α → Json} {read : Json → Option α} (h : ∀ x, read (f x) = some x)
    (xs : List α) : array? read (.array (xs.map f)) = some xs :=
  mapM_map_eq_some h xs

/-- A list that is left out while it is empty. -/
lemma optional_array {f : α → Json} {read : Json → Option α} (h : ∀ x, read (f x) = some x)
    (xs : List α) :
    optional [] (array? read) (if xs = [] then none else some (.array (xs.map f))) = some xs := by
  split_ifs with hxs
  · rw [hxs]
    rfl
  · exact array?_map h xs

/-- A value that is left out while there is none. -/
lemma optional_map {f : α → Json} {read : Json → Option α} (h : ∀ x, read (f x) = some x)
    (o : Option α) :
    optional none (fun j => (read j).map some) (o.map f) = some o := by
  cases o with
  | none => rfl
  | some x => exact congrArg (Option.map some) (h x)

/-- A text that is left out while it is empty. -/
lemma optional_text (s : String) :
    optional "" text? (if s = "" then none else some (.text s)) = some s := by
  split_ifs with hs
  · rw [hs]
    rfl
  · rfl

lemma nullable_getD {f : α → Json} {read : Json → Option α} (h : ∀ x, read (f x) = some x)
    (hf : ∀ x, f x ≠ .null) (o : Option α) : nullable read ((o.map f).getD .null) = some o := by
  cases o with
  | none => rfl
  | some x =>
      rw [Option.map_some, Option.getD_some, nullable, h]
      · rfl
      · exact hf x

@[simp]
lemma lookup_member? (shown : Bool) (key k : String) (value : Json) :
    (member? shown key value).lookup k = if k = key ∧ shown = true then some value else none := by
  rw [member?]
  by_cases hk : k = key
  · cases shown <;> simp [hk]
  · have hne : (k == key) = false := by simpa using hk
    cases shown <;> simp [List.lookup_cons, hk, hne]

@[simp]
lemma lookup_option? (key k : String) (value : α → Json) (o : Option α) :
    (option? key value o).lookup k = if k = key then o.map value else none := by
  by_cases hk : k = key
  · cases o <;> simp [option?, hk]
  · have hne : (k == key) = false := by simpa using hk
    cases o <;> simp [option?, List.lookup_cons, hk, hne]

end Readers

end Json

open Json

/-! ## Reading requests back -/

def EnvironmentVariable.ofJson? (j : Json) : Option EnvironmentVariable := do
  let members ← j.members?
  return {
    name := ← required text? (members.lookup "name")
    value := ← required text? (members.lookup "value") }

lemma EnvironmentVariable.ofJson?_toJson (v : EnvironmentVariable) : ofJson? v.toJson = some v := by
  simp [ofJson?, toJson, members?, required, text?, List.lookup_cons]

def RunAction.ofJson? (j : Json) : Option RunAction := do
  let members ← j.members?
  return {
    path := ← required text? (members.lookup "path")
    args := ← required (array? text?) (members.lookup "args")
    dir := ← required text? (members.lookup "dir")
    env := ← optional [] (array? EnvironmentVariable.ofJson?) (members.lookup "env")
    user := ← required text? (members.lookup "user")
    logSource := ← required text? (members.lookup "log_source")
    suppressLogOutput := ← required bool? (members.lookup "suppress_log_output") }

lemma RunAction.ofJson?_toJson (a : RunAction) : ofJson? a.toJson = some a := by
  have hargs := array?_map (fun s => (rfl : text? (.text s) = some s)) a.args
  have henv := optional_array EnvironmentVariable.ofJson?_toJson a.env
  simp [ofJson?, toJson, members?, required, text?, bool?, List.lookup_cons, List.lookup_append,
    hargs, henv]

def Action.ofJson? (j : Json) : Option Action := do
  let members ← j.members?
  return {
    run := ← optional none (fun j => (RunAction.ofJson? j).map some) (members.lookup "run") }

lemma Action.ofJson?_toJson (a : Action) : ofJson? a.toJson = some a := by
  have hrun := optional_map RunAction.ofJson?_toJson a.run
  simp [ofJson?, toJson, members?, hrun]

def Dictionary.ofJson? (j : Json) : Option Dictionary := do
  let members ← j.members?
  let entries ← members.mapM fun m => (text? m.2).map fun value => (m.1, value)
  return ofList entries

lemma Dictionary.ofJson?_toJson (d : Dictionary) : ofJson? d.toJson = some d := by
  have hentries := mapM_map_eq_some (f := fun e : String × String => (e.1, Json.text e.2))
    (g := fun m => (text? m.2).map fun value => (m.1, value)) (fun _ => rfl) d.entries
  have hd : ofList d.entries = d := foldl_insert_eq .rfl
  simp [ofJson?, toJson, members?, hentries, hd]

def Network.ofJson? (j : Json) : Option Network := do
  let members ← j.members?
  return { properties := ← required Dictionary.ofJson? (members.lookup "properties") }

lemma Network.ofJson?_toJson (n : Network) : ofJson? n.toJson = some n := by
  simp [ofJson?, toJson, members?, required, Dictionary.ofJson?_toJson]

def TaskDefinition.ofJson? (j : Json) : Option TaskDefinition := do
  let members ← j.members?
  return {
    rootFs := ← required text? (members.lookup "rootfs")
    environment := ← optional [] (array? EnvironmentVariable.ofJson?) (members.lookup "env")
    action := ← optional none (fun j => (Action.ofJson? j).map some) (members.lookup "action")
    diskMb := ← required int32? (members.lookup "disk_mb")
    memoryMb := ← required int32? (members.lookup "memory_mb")
    cpuWeight := ← required uint32? (members.lookup "cpu_weight")
    privileged := ← required bool? (members.lookup "privileged")
    logSource := ← required text? (members.lookup "log_source")
    logGuid := ← required text? (members.lookup "log_guid")
    metricsGuid := ← required text? (members.lookup "metrics_guid")
    resultFile := ← required text? (members.lookup "result_file")
    completionCallbackUrl := ← required text? (members.lookup "completion_callback_url")
    note := ← required text? (members.lookup "annotation")
    trustedSystemCertificatesPath :=
      ← required text? (members.lookup "trusted_system_certificates_path")
    network := ← optional none (fun j => (Network.ofJson? j).map some) (members.lookup "network")
    placementTags := ← optional [] (array? text?) (members.lookup "placement_tags")
    maxPids := ← required int32? (members.lookup "max_pids")
    imageUsername := ← optional "" text? (members.lookup "image_username") }

lemma TaskDefinition.ofJson?_toJson (t : TaskDefinition) : ofJson? t.toJson = some t := by
  have henvironment := optional_array EnvironmentVariable.ofJson?_toJson t.environment
  have haction := optional_map Action.ofJson?_toJson t.action
  have hnetwork := optional_map Network.ofJson?_toJson t.network
  have htags := optional_array (fun s => (rfl : text? (.text s) = some s)) t.placementTags
  rw [ofJson?, toJson, members?, Option.bind_eq_bind, Option.bind_some]
  -- first all members are looked up, and then the values that are found are read
  simp only [List.cons_append, List.nil_append, List.append_assoc, List.lookup_cons,
    List.lookup_append, String.reduceBEq, String.reduceEq, lookup_member?, lookup_option?,
    Bool.not_eq_eq_eq_not, Bool.not_true, List.isEmpty_eq_false_iff, bne_iff_ne, ne_eq, true_and,
    false_and, ite_not, ↓reduceIte, Option.or_self, Option.or_none, Option.none_or, Option.or_some,
    Option.getD_none]
  simp only [required, text?, bool?, int32?, uint32?, Option.bind_some, Option.pure_def,
    Option.bind_eq_bind, Int32.ofInt_toInt, Int.toNat_natCast, UInt32.ofNat_toNat,
    henvironment, haction, hnetwork, htags, optional_text]

/-- The request with the given JSON. -/
def DesireTaskRequest.ofJson? (j : Json) : Option DesireTaskRequest := do
  let members ← j.members?
  return {
    taskDefinition :=
      ← required (nullable TaskDefinition.ofJson?) (members.lookup "task_definition")
    taskGuid := ← required text? (members.lookup "task_guid")
    domain := ← required text? (members.lookup "domain") }

/-- **No part of a request is lost in its JSON.** -/
theorem DesireTaskRequest.ofJson?_toJson (r : DesireTaskRequest) : ofJson? r.toJson = some r := by
  have hdefinition := nullable_getD TaskDefinition.ofJson?_toJson (fun _ => nofun) r.taskDefinition
  simp [ofJson?, toJson, members?, required, text?, List.lookup_cons, hdefinition]

/-- The request with the given text. -/
def DesireTaskRequest.ofText? (s : String) : Option DesireTaskRequest :=
  (Json.read? s).bind ofJson?

lemma DesireTaskRequest.ofText?_compact (r : DesireTaskRequest) :
    ofText? r.toJson.compact = some r := by
  rw [ofText?, read?_compact, Option.bind_some, ofJson?_toJson]

namespace Relay

/-- **What is logged of a task request is faithful.**  The body is any one that is decoded.

Its text is one document of the JSON grammar, and no octet of it is a control, so it stays on its
line.  The request is read back from it by a reader that knows nothing else, and so another body
with the same text holds the same request. -/
theorem decodeDesireTask_faithful {body : Octets} {r : DesireTaskRequest}
    (h : DesireTaskRequest.codec.decode body = .ok r) :
    ∃ text, decodeDesireTask body = .ok text ∧
      (observe desireTaskPath body).seen = .decoded text ∧
      Json.IsDocument text ∧ (∀ b ∈ Utf8.encode text, 0x20 ≤ b.toNat) ∧
      DesireTaskRequest.ofText? text = some r ∧
      ∀ body' r', DesireTaskRequest.codec.decode body' = .ok r' →
        decodeDesireTask body' = .ok text → r' = r := by
  have htext {body : Octets} {r : DesireTaskRequest}
      (h : DesireTaskRequest.codec.decode body = .ok r) :
      decodeDesireTask body = .ok r.toJson.compact := map_eq_ok_iff.2 ⟨r, h, rfl⟩
  refine ⟨r.toJson.compact, htext h, ?_, isDocument_compact _, le_of_mem_encode_compact _,
    r.ofText?_compact, fun body' r' h' hsame => ?_⟩
  · simp only [observe, if_true, htext h]
  · rw [htext h', Except.ok.injEq] at hsame
    have hread := r'.ofText?_compact
    rw [hsame, r.ofText?_compact] at hread
    exact (Option.some_inj.1 hread).symm

/-- A quote and a line feed, as they could end a text or a line. -/
theorem decodeDesireTask_faithful_quote :
    ∃ text, decodeDesireTask [0x12, 0x02, 0x22, 0x0a] = .ok text ∧
      text = "\x7b\"task_definition\":null,\"task_guid\":\"\\\"\\n\",\"domain\":\"\"\x7d" ∧
      DesireTaskRequest.ofText? text = some { taskGuid := "\"\n" } := by
  have hdecode : DesireTaskRequest.codec.decode [0x12, 0x02, 0x22, 0x0a]
      = .ok { taskGuid := "\"\n" } := by decide +kernel
  obtain ⟨text, htext, -, -, -, hread, -⟩ := decodeDesireTask_faithful hdecode
  have hline : decodeDesireTask [0x12, 0x02, 0x22, 0x0a] = .ok
      "\x7b\"task_definition\":null,\"task_guid\":\"\\\"\\n\",\"domain\":\"\"\x7d" := by
    decide +kernel
  exact ⟨text, htext, Except.ok.inj (htext.symm.trans hline), hread⟩

end Relay

end StandIn
