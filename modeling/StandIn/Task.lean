import StandIn.Wire.Codec
import StandIn.Json

/-!
# Task submissions

What a client of the scheduler sends to have a task run.  Of a submission only what the log shows
is declared; all other fields are passed over when it is read.

* `DesireTaskRequest` and its parts — the submission.
* `DesireTaskRequest.codec` — the encoded form.
* `DesireTaskRequest.toJson` — the form in which it is logged, under the scheduler's own names.
  Some parts are left out while they are empty; the order is that of the declarations.
-/

namespace StandIn

open Wire

/-- One variable of a process's environment. -/
structure EnvironmentVariable where
  name : String := ""
  value : String := ""
  deriving DecidableEq, Repr, Inhabited

/-- A process to start. -/
structure RunAction where
  path : String := ""
  args : List String := []
  dir : String := ""
  env : List EnvironmentVariable := []
  user : String := ""
  logSource : String := ""
  suppressLogOutput : Bool := false
  deriving DecidableEq, Repr, Inhabited

/-- What a task does.  Of the kinds of action only the running of a process is declared. -/
structure Action where
  run : Option RunAction := none
  deriving DecidableEq, Repr, Inhabited

/-- Properties of the network that a task is put on. -/
structure Network where
  properties : Dictionary := .empty
  deriving DecidableEq, Repr, Inhabited

/-- How a task is to be run. -/
structure TaskDefinition where
  rootFs : String := ""
  environment : List EnvironmentVariable := []
  action : Option Action := none
  diskMb : Int32 := 0
  memoryMb : Int32 := 0
  cpuWeight : UInt32 := 0
  privileged : Bool := false
  logSource : String := ""
  logGuid : String := ""
  metricsGuid : String := ""
  resultFile : String := ""
  completionCallbackUrl : String := ""
  note : String := ""
  trustedSystemCertificatesPath : String := ""
  network : Option Network := none
  placementTags : List String := []
  maxPids : Int32 := 0
  imageUsername : String := ""
  deriving DecidableEq, Repr, Inhabited

/-- A request to run a task. -/
structure DesireTaskRequest where
  taskDefinition : Option TaskDefinition := none
  taskGuid : String := ""
  domain : String := ""
  deriving DecidableEq, Repr, Inhabited

/-! ## Encoded form -/

/-- The encoded form of a variable. -/
def EnvironmentVariable.codec : Codec EnvironmentVariable where
  name := "EnvironmentVariable"
  empty := {}
  fields := [
    .scalar 1 "name" .text (·.name) fun m x => { m with name := x },
    .scalar 2 "value" .text (·.value) fun m x => { m with value := x }]

/-- The encoded form of a process to start. -/
def RunAction.codec : Codec RunAction where
  name := "RunAction"
  empty := {}
  fields := [
    .scalar 1 "path" .text (·.path) fun m x => { m with path := x },
    .repeated 2 "args" .text (·.args) fun m x => { m with args := x },
    .scalar 3 "dir" .text (·.dir) fun m x => { m with dir := x },
    .messages 4 "env" EnvironmentVariable.codec (·.env) fun m x => { m with env := x },
    .scalar 6 "user" .text (·.user) fun m x => { m with user := x },
    .scalar 7 "log_source" .text (·.logSource) fun m x => { m with logSource := x },
    .scalar 8 "suppress_log_output" .bool (·.suppressLogOutput) fun m x =>
      { m with suppressLogOutput := x }]

/-- The encoded form of an action. -/
def Action.codec : Codec Action where
  name := "Action"
  empty := {}
  fields := [.message? 3 "run_action" RunAction.codec (·.run) fun m x => { m with run := x }]

/-- The encoded form of network properties. -/
def Network.codec : Codec Network where
  name := "Network"
  empty := {}
  fields := [.dictionary 1 "properties" (·.properties) fun m x => { m with properties := x }]

/-- The encoded form of a task definition. -/
def TaskDefinition.codec : Codec TaskDefinition where
  name := "TaskDefinition"
  empty := {}
  fields := [
    .scalar 1 "root_fs" .text (·.rootFs) fun m x => { m with rootFs := x },
    .messages 2 "environment_variables" EnvironmentVariable.codec (·.environment) fun m x =>
      { m with environment := x },
    .message? 3 "action" Action.codec (·.action) fun m x => { m with action := x },
    .scalar 4 "disk_mb" .int32 (·.diskMb) fun m x => { m with diskMb := x },
    .scalar 5 "memory_mb" .int32 (·.memoryMb) fun m x => { m with memoryMb := x },
    .scalar 6 "cpu_weight" .uint32 (·.cpuWeight) fun m x => { m with cpuWeight := x },
    .scalar 7 "privileged" .bool (·.privileged) fun m x => { m with privileged := x },
    .scalar 8 "log_source" .text (·.logSource) fun m x => { m with logSource := x },
    .scalar 9 "log_guid" .text (·.logGuid) fun m x => { m with logGuid := x },
    .scalar 10 "metrics_guid" .text (·.metricsGuid) fun m x => { m with metricsGuid := x },
    .scalar 11 "result_file" .text (·.resultFile) fun m x => { m with resultFile := x },
    .scalar 12 "completion_callback_url" .text (·.completionCallbackUrl) fun m x =>
      { m with completionCallbackUrl := x },
    .scalar 13 "annotation" .text (·.note) fun m x => { m with note := x },
    .scalar 17 "trusted_system_certificates_path" .text (·.trustedSystemCertificatesPath)
      fun m x => { m with trustedSystemCertificatesPath := x },
    .message? 19 "network" Network.codec (·.network) fun m x => { m with network := x },
    .repeated 20 "placement_tags" .text (·.placementTags) fun m x => { m with placementTags := x },
    .scalar 21 "max_pids" .int32 (·.maxPids) fun m x => { m with maxPids := x },
    .scalar 23 "image_username" .text (·.imageUsername) fun m x => { m with imageUsername := x }]

/-- The encoded form of a submission. -/
def DesireTaskRequest.codec : Codec DesireTaskRequest where
  name := "DesireTaskRequest"
  empty := {}
  fields := [
    .message? 1 "task_definition" TaskDefinition.codec (·.taskDefinition) fun m x =>
      { m with taskDefinition := x },
    .scalar 2 "task_guid" .text (·.taskGuid) fun m x => { m with taskGuid := x },
    .scalar 3 "domain" .text (·.domain) fun m x => { m with domain := x }]

/-! ## Logged form -/

/-- A member that is left out unless the condition holds. -/
def Json.member? (shown : Bool) (key : String) (value : Json) : List (String × Json) :=
  if shown then [(key, value)] else []

/-- A member that is left out while there is no value. -/
def Json.option? {α : Type} (key : String) (value : α → Json) : Option α → List (String × Json)
  | none => []
  | some a => [(key, value a)]

/-- A variable as it is logged. -/
def EnvironmentVariable.toJson (v : EnvironmentVariable) : Json :=
  .object [("name", .text v.name), ("value", .text v.value)]

/-- A process to start as it is logged. -/
def RunAction.toJson (a : RunAction) : Json :=
  .object <|
    [("path", .text a.path),
      ("args", .array (a.args.map .text)),
      ("dir", .text a.dir)] ++
    Json.member? (!a.env.isEmpty) "env" (.array (a.env.map (·.toJson))) ++
    [("user", .text a.user),
      ("log_source", .text a.logSource),
      ("suppress_log_output", .bool a.suppressLogOutput)]

/-- An action as it is logged. -/
def Action.toJson (a : Action) : Json :=
  .object (Json.option? "run" RunAction.toJson a.run)

/-- A dictionary as it is logged: its keys ascend. -/
def Dictionary.toJson (d : Dictionary) : Json :=
  .object (d.entries.map fun e => (e.1, .text e.2))

/-- Network properties as they are logged. -/
def Network.toJson (n : Network) : Json :=
  .object [("properties", n.properties.toJson)]

/-- A task definition as it is logged. -/
def TaskDefinition.toJson (t : TaskDefinition) : Json :=
  .object <|
    [("rootfs", .text t.rootFs)] ++
    Json.member? (!t.environment.isEmpty) "env" (.array (t.environment.map (·.toJson))) ++
    Json.option? "action" Action.toJson t.action ++
    [("disk_mb", .number t.diskMb.toInt),
      ("memory_mb", .number t.memoryMb.toInt),
      ("cpu_weight", .number t.cpuWeight.toNat),
      ("privileged", .bool t.privileged),
      ("log_source", .text t.logSource),
      ("log_guid", .text t.logGuid),
      ("metrics_guid", .text t.metricsGuid),
      ("result_file", .text t.resultFile),
      ("completion_callback_url", .text t.completionCallbackUrl),
      ("annotation", .text t.note),
      ("trusted_system_certificates_path", .text t.trustedSystemCertificatesPath)] ++
    Json.option? "network" Network.toJson t.network ++
    Json.member? (!t.placementTags.isEmpty) "placement_tags"
      (.array (t.placementTags.map .text)) ++
    [("max_pids", .number t.maxPids.toInt)] ++
    Json.member? (t.imageUsername != "") "image_username" (.text t.imageUsername)

/-- A submission as it is logged. -/
def DesireTaskRequest.toJson (r : DesireTaskRequest) : Json :=
  .object [
    ("task_definition", (r.taskDefinition.map (·.toJson)).getD .null),
    ("task_guid", .text r.taskGuid),
    ("domain", .text r.domain)]

end StandIn
