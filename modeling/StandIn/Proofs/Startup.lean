import Mathlib.Tactic.Lemma
import StandIn.Program
import StandIn.Proofs.Basic

/-!
# Nothing is half-started

Before a stand-in asks for its socket it has read its settings, loaded its certificates and made of
them what it needs to speak.  Only then does it matter what the host makes of the address.

* `Course.stages_of_error`, `Course.stages_of_ok` — the stages that both stand-ins go through.
* `Log.Record.IsListening`, `Act.IsQuiet` — what a stand-in tells when it listens, and all else that
  it tells.
* `Program.preparation` — the stages of a program, apart from what is told.
* `Program.serve_of_error`, `Program.serve_of_ok` — a program is prepared, or does not begin.
* `Program.startup` — a run that is not prepared fails for the first reason, whatever the host would
  have made of the address.  One that is prepared asks for one socket.
-/

namespace StandIn

/-! ## Courses -/

namespace Course

variable {α β : Type}

lemma ofExcept_ok_bind (a : α) (next : α → Course β) : ofExcept (.ok a) >>= next = next a :=
  rfl

lemma loadBundle_bind_of_ok {files : Files} {paths : Tls.Paths} {b : Tls.Bundle}
    (h : Tls.Bundle.load files paths = .ok b) (next : Tls.Bundle → Course β) :
    loadBundle files paths >>= next
      = ⟨.tell ⟨none, b.loadedEvent paths⟩ :: (next b).acts, (next b).result⟩ := by
  rw [loadBundle, h]
  rfl

lemma loadBundle_bind_of_error {files : Files} {paths : Tls.Paths} {f : Failure}
    (h : Tls.Bundle.load files paths = .error f) (next : Tls.Bundle → Course β) :
    loadBundle files paths >>= next = ⟨[], .error f⟩ := by
  rw [loadBundle, h]
  rfl

/-! Both stand-ins go through the same stages, each with settings and certificates of its own. -/

section Stages

variable {σ τ γ : Type} {files : Files} {settings : Except Failure σ} {paths : σ → Tls.Paths}
variable {build : Tls.Bundle → Except Failure τ} {make : σ → Tls.Bundle → τ → γ} {f : Failure}
variable {q : γ}

/-- What comes before the socket, and then the rest. -/
def stages (files : Files) (settings : Except Failure σ) (paths : σ → Tls.Paths)
    (build : Tls.Bundle → Except Failure τ) (next : σ → τ → Course α) : Course α := do
  let s ← ofExcept settings
  let b ← loadBundle files (paths s)
  let t ← ofExcept (build b)
  next s t

/-- What comes before the socket, apart from what is told. -/
def results (files : Files) (settings : Except Failure σ) (paths : σ → Tls.Paths)
    (build : Tls.Bundle → Except Failure τ) (make : σ → Tls.Bundle → τ → γ) :
    Except Failure γ := do
  let s ← settings
  let b ← Tls.Bundle.load files (paths s)
  let t ← build b
  return make s b t

/-- The first stage that fails ends all of it.  At most it was told of a bundle before. -/
lemma stages_of_error (h : results files settings paths build make = .error f) :
    ∃ told : List (Tls.Bundle × Tls.Paths), ∀ next : σ → τ → Course α,
      stages files settings paths build next
        = ⟨told.map fun x => .tell ⟨none, x.1.loadedEvent x.2⟩, .error f⟩ := by
  obtain rfl | ⟨s, rfl, h⟩ := bind_eq_error_iff.1 h
  · exact ⟨[], fun next => rfl⟩
  obtain hload | ⟨b, hload, h⟩ := bind_eq_error_iff.1 h
  · refine ⟨[], fun next => ?_⟩
    rw [stages, ofExcept_ok_bind, loadBundle_bind_of_error hload]
    rfl
  obtain hbuild | ⟨t, -, h⟩ := bind_eq_error_iff.1 h
  · refine ⟨[(b, paths s)], fun next => ?_⟩
    rw [stages, ofExcept_ok_bind, loadBundle_bind_of_ok hload, hbuild]
    rfl
  · cases h

lemma results_eq_ok (h : results files settings paths build make = .ok q) :
    ∃ s b t, settings = .ok s ∧ Tls.Bundle.load files (paths s) = .ok b ∧ build b = .ok t ∧
      make s b t = q := by
  obtain ⟨s, hsettings, h⟩ := bind_eq_ok_iff.1 h
  obtain ⟨b, hload, h⟩ := bind_eq_ok_iff.1 h
  obtain ⟨t, hbuild, h⟩ := bind_eq_ok_iff.1 h
  cases h
  exact ⟨s, b, t, hsettings, hload, hbuild, rfl⟩

lemma stages_of_ok (h : results files settings paths build make = .ok q) :
    ∃ s b t, make s b t = q ∧ ∀ next : σ → τ → Course α,
      stages files settings paths build next
        = ⟨.tell ⟨none, b.loadedEvent (paths s)⟩ :: (next s t).acts, (next s t).result⟩ := by
  obtain ⟨s, b, t, rfl, hload, hbuild, hq⟩ := results_eq_ok h
  refine ⟨s, b, t, hq, fun next => ?_⟩
  rw [stages, ofExcept_ok_bind, loadBundle_bind_of_ok hload, hbuild, ofExcept_ok_bind]

end Stages

/-- A socket is asked for, and if there is one, it is told of until the interruption. -/
def listening (host : Net.Host) (address : Net.SocketAddress) (span : Log.Span)
    (events : Net.SocketAddress → List Log.Event) : Course Unit :=
  ⟨.listen address :: match host.bind address with
    | .ok a => (events a).map fun e => .tell ⟨span, e⟩
    | .error _ => [], (host.bind address).map fun _ => ()⟩

lemma listen_bind_tell (host : Net.Host) (address : Net.SocketAddress) (span : Log.Span)
    (first : Net.SocketAddress → Log.Event) (second third : Log.Event) :
    (Course.listen host address >>= fun a => Course.tell span (first a) >>= fun _ =>
        Course.tell span second >>= fun _ => Course.tell span third)
      = listening host address span fun a => [first a, second, third] := by
  rw [listening]
  change Course.bind _ _ = _
  rw [Course.bind, Course.listen]
  cases host.bind address <;> rfl

end Course

/-! ## Listening -/

/-- It is told that a stand-in listens. -/
def Log.Record.IsListening (r : Log.Record) : Prop :=
  (∃ s, r.event = Ingress.listeningEvent s) ∨ ∃ a t, r.event = Relay.listeningEvent a t

lemma Log.Record.not_isListening {r : Log.Record} (hingress : r.event.source ≠ Ingress.serverSource)
    (hrelay : r.event.source ≠ Relay.relaySource) : ¬ r.IsListening := by
  rintro (⟨s, h⟩ | ⟨a, t, h⟩)
  · exact hingress (congrArg Log.Event.source h)
  · exact hrelay (congrArg Log.Event.source h)

/-- Something is told, and not that a stand-in listens. -/
def Act.IsQuiet (act : Act) : Prop :=
  ∃ r, act = .tell r ∧ ¬ r.IsListening

lemma Act.IsQuiet.not_isListening {r : Log.Record} (h : (Act.tell r).IsQuiet) :
    ¬ r.IsListening := by
  obtain ⟨r', hr, hquiet⟩ := h
  cases hr
  exact hquiet

lemma Act.IsQuiet.ne_listen {act : Act} {a : Net.SocketAddress} (h : act.IsQuiet) :
    act ≠ .listen a := by
  obtain ⟨r, rfl, -⟩ := h
  nofun

lemma Act.isQuiet_loadedEvent (b : Tls.Bundle) (paths : Tls.Paths) :
    (Act.tell ⟨none, b.loadedEvent paths⟩).IsQuiet := by
  have hsource : "sched_doubles::utils::certs" ≠ Ingress.serverSource ∧
      "sched_doubles::utils::certs" ≠ Relay.relaySource := by decide
  exact ⟨_, rfl, Log.Record.not_isListening hsource.1 hsource.2⟩

/-- What a program tells of itself is not that it listens. -/
lemma Act.isQuiet_ownEvent (p : Program) (level : Log.Level) (message : String) :
    (Act.tell ⟨none, p.ownEvent level message⟩).IsQuiet := by
  have hsource : p.source ≠ Ingress.serverSource ∧ p.source ≠ Relay.relaySource := by
    cases p <;> decide
  exact ⟨_, rfl, Log.Record.not_isListening hsource.1 hsource.2⟩

/-! ## Being prepared -/

/-- What a stand-in has when it is prepared: the address that it asks for, and what it tells. -/
structure Preparation where
  listen : Net.SocketAddress
  /-- What was told of its bundle. -/
  loaded : Log.Event
  /-- What it will tell of the address at which it listens. -/
  listening : Net.SocketAddress → Log.Event

namespace Course

variable {α : Type}

/-- The course fails for the given reason.  No socket was asked for. -/
structure IsUnbegun (c : Course α) (f : Failure) : Prop where
  result : c.result = .error f
  quiet : ∀ act ∈ c.acts, act.IsQuiet

/-- In the course one socket is asked for, as prepared.  The bundle was told of before.  It is told
that the stand-in listens if it does. -/
structure IsBegun (c : Course α) (q : Preparation) (host : Net.Host) : Prop where
  asked : ∃ before after, c.acts = before ++ .listen q.listen :: after ∧
    (∀ act ∈ before, act.IsQuiet) ∧ .tell ⟨none, q.loaded⟩ ∈ before ∧ ∀ a, .listen a ∉ after
  told : (∃ r, .tell r ∈ c.acts ∧ r.IsListening) ↔ ∃ a, host.bind q.listen = .ok a
  result : (∃ a, c.result = .ok a) ↔ ∃ a, host.bind q.listen = .ok a

end Course

namespace Program

/-- Settings, bundle and what is made of the bundle, in this order. -/
def preparation (p : Program) (files : Files) (s : Sources) : Except Failure Preparation :=
  match p with
  | ingress => do
    let settings ← IngressSettings.load s files
    let b ← Tls.Bundle.load files settings.tls
    let tls ← Tls.serverTls b.certPem b.keyPem b.caPem
    return ⟨settings.listen, b.loadedEvent settings.tls,
      fun a => Ingress.listeningEvent ⟨a, some tls⟩⟩
  | relay => do
    let settings ← RelaySettings.load s files
    let b ← Tls.Bundle.load files settings.tls
    let _ ← Tls.clientTls b
    return ⟨settings.listen, b.loadedEvent settings.tls,
      fun a => Relay.listeningEvent a ⟨Relay.Target.defaultName, settings.scheduler⟩⟩

/-- What a program tells last. -/
def stoppedEvent : Program → Log.Event
  | ingress => Ingress.stoppedEvent
  | relay => Relay.stoppedEvent

section Runs

variable {p : Program} {files : Files} {s : Sources} {f : Failure} {q : Preparation}
variable {environment given : List (String × String)}

/-- A program that is not prepared tells of its bundle at most, and fails. -/
lemma serve_of_error (h : p.preparation files s = .error f) :
    ∃ told : List (Tls.Bundle × Tls.Paths), ∀ host, p.serve host files s
      = ⟨told.map fun x => .tell ⟨none, x.1.loadedEvent x.2⟩, .error f⟩ := by
  cases p with
  | ingress =>
    obtain ⟨told, hstages⟩ := Course.stages_of_error h
    exact ⟨told, fun host => hstages _⟩
  | relay =>
    obtain ⟨told, hstages⟩ := Course.stages_of_error h
    exact ⟨told, fun host => hstages _⟩

/-- A program that is prepared asks for a socket. -/
lemma serve_of_ok (h : p.preparation files s = .ok q) (host : Net.Host) :
    p.serve host files s = ⟨.tell ⟨none, q.loaded⟩ ::
      (Course.listening host q.listen p.span fun a =>
        [q.listening a, interruptedEvent p.source, p.stoppedEvent]).acts,
      (host.bind q.listen).map fun _ => ()⟩ := by
  cases p with
  | ingress =>
    obtain ⟨settings, b, tls, rfl, hstages⟩ := Course.stages_of_ok h
    refine (hstages _).trans ?_
    rw [Course.listen_bind_tell]
    rfl
  | relay =>
    obtain ⟨settings, b, tls, rfl, hstages⟩ := Course.stages_of_ok h
    refine (hstages _).trans ?_
    rw [Course.listen_bind_tell]
    rfl

lemma isListening_of_preparation (h : p.preparation files s = .ok q) (span : Option Log.Span)
    (a : Net.SocketAddress) : Log.Record.IsListening ⟨span, q.listening a⟩ := by
  cases p with
  | ingress =>
    obtain ⟨settings, b, tls, -, -, -, rfl⟩ := Course.results_eq_ok h
    exact .inl ⟨_, rfl⟩
  | relay =>
    obtain ⟨settings, b, tls, -, -, -, rfl⟩ := Course.results_eq_ok h
    exact .inr ⟨_, _, rfl⟩

lemma loaded_of_preparation (h : p.preparation files s = .ok q) :
    ∃ (b : Tls.Bundle) (paths : Tls.Paths), q.loaded = b.loadedEvent paths := by
  cases p with
  | ingress =>
    obtain ⟨settings, b, tls, -, -, -, rfl⟩ := Course.results_eq_ok h
    exact ⟨b, _, rfl⟩
  | relay =>
    obtain ⟨settings, b, tls, -, -, -, rfl⟩ := Course.results_eq_ok h
    exact ⟨b, _, rfl⟩

/-! ## Runs -/

/-- Around what is served stands what a program tells of itself. -/
lemma exists_course_eq (p : Program) (host : Net.Host) (files : Files) (s : Sources) :
    ∃ starting ending : Act, starting.IsQuiet ∧ ending.IsQuiet ∧ p.course host files s
      = ⟨starting :: (p.serve host files s).acts ++ [ending], (p.serve host files s).result⟩ := by
  refine ⟨_, _, Act.isQuiet_ownEvent .., ?_, rfl⟩
  cases (p.serve host files s).result with
  | ok u => exact Act.isQuiet_ownEvent ..
  | error f => exact Act.isQuiet_ownEvent ..

lemma execution_of_error (h : p.preparation files (p.sources environment given) = .error f) :
    ∃ c : Course Unit, c.IsUnbegun f ∧
      ∀ host, p.execution host files environment given = c := by
  obtain ⟨told, hserve⟩ := serve_of_error h
  obtain ⟨starting, ending, hstarting, hending, hcourse⟩ :=
    exists_course_eq p (.isolated []) files (p.sources environment given)
  rw [hserve] at hcourse
  refine ⟨p.execution (.isolated []) files environment given, ⟨?_, ?_⟩, fun host => ?_⟩
  · rw [execution, hcourse]
  · rw [execution, hcourse]
    intro act hact
    simp only [List.cons_append, List.mem_cons, List.mem_append, List.mem_map,
      List.not_mem_nil, or_false] at hact
    obtain rfl | ⟨x, -, rfl⟩ | rfl := hact
    · exact hstarting
    · exact Act.isQuiet_loadedEvent ..
    · exact hending
  · rw [execution, course, hserve, execution, course, hserve]

lemma execution_of_ok (h : p.preparation files (p.sources environment given) = .ok q)
    (host : Net.Host) : (p.execution host files environment given).IsBegun q host := by
  obtain ⟨b, paths, hloaded⟩ := loaded_of_preparation h
  obtain ⟨starting, ending, hstarting, hending, hcourse⟩ :=
    exists_course_eq p host files (p.sources environment given)
  have hquiet : ∀ act ∈ [starting, .tell ⟨none, q.loaded⟩], act.IsQuiet := by
    rw [List.forall_mem_cons, List.forall_mem_singleton]
    exact ⟨hstarting, hloaded ▸ Act.isQuiet_loadedEvent b paths⟩
  have hmem : Act.tell ⟨none, q.loaded⟩ ∈ [starting, .tell ⟨none, q.loaded⟩] :=
    .tail _ (.head _)
  rw [execution, hcourse, serve_of_ok h, Course.listening]
  cases hbind : host.bind q.listen with
  | ok a =>
    refine ⟨⟨_, _, rfl, hquiet, hmem, fun a' ha' => ?_⟩, ?_, iff_of_true ⟨(), rfl⟩ ⟨a, hbind⟩⟩
    · have hsame : .listen a' = ending := by simpa using ha'
      exact hending.ne_listen hsame.symm
    · refine iff_of_true ⟨_, ?_, isListening_of_preparation h (some p.span) a⟩ ⟨a, hbind⟩
      simp
  | error cause =>
    have hnone : ¬ ∃ a, host.bind q.listen = .ok a := by simp [hbind]
    refine ⟨⟨_, _, rfl, hquiet, hmem, fun a' ha' => ?_⟩, iff_of_false ?_ hnone,
      iff_of_false nofun hnone⟩
    · exact hending.ne_listen (List.mem_singleton.1 ha').symm
    · rintro ⟨r, hr, hlistening⟩
      simp only [List.cons_append, List.nil_append, List.mem_cons, List.not_mem_nil, or_false,
        reduceCtorEq, false_or] at hr
      obtain rfl | hr | rfl := hr
      · exact hstarting.not_isListening hlistening
      · exact (hquiet _ (hr ▸ hmem)).not_isListening hlistening
      · exact hending.not_isListening hlistening

/-- **Nothing is half-started.**  A run that its arguments stop does not look at the host.  Any
other run that is not prepared fails for the first reason, without asking for a socket or telling
that it listens, and it is the same on every host.  A run that is prepared asks for its socket then,
and for no other one. -/
theorem startup (p : Program) (files : Files) (environment : List (String × String))
    (arguments : List String) :
    (∀ stop, CommandLine.read p.command arguments = .error stop → ∀ host host' files',
      p.run host' files' environment arguments = p.run host files environment arguments) ∧
    ∀ given, CommandLine.read p.command arguments = .ok given →
      (∀ f, p.preparation files (p.sources environment given) = .error f →
        ∃ c, c.IsUnbegun f ∧ ∀ host, p.execution host files environment given = c ∧
          (p.run host files environment arguments).status = 1 ∧
          (p.run host files environment arguments).err = failureLines f) ∧
      ∀ q, p.preparation files (p.sources environment given) = .ok q → ∀ host,
        (p.execution host files environment given).IsBegun q host := by
  refine ⟨fun stop hread host host' files' => ?_, fun given hread =>
    ⟨fun f h => ?_, fun q h => ?_⟩⟩
  · rw [run, run, hread]
    cases stop with
    | help full => cases full <;> rfl
    | version => rfl
    | misuse m => rfl
  · obtain ⟨c, hunbegun, hexecution⟩ := execution_of_error h
    refine ⟨c, hunbegun, fun host => ⟨hexecution host, ?_, ?_⟩⟩
    · simp only [run, hread, hexecution host, hunbegun.result]
    · simp only [run, hread, hexecution host, hunbegun.result]
  · exact execution_of_ok h

end Runs

/-! A bundle that can be loaded, but not used: what its files hold is three zeros each. -/

namespace Sample

def environment : List (String × String) :=
  [("METRON_CERT", "c"), ("METRON_KEY", "k"), ("METRON_CA", "a")]

def pem (label : String) : Octets :=
  Utf8.encode s!"-----BEGIN {label}-----\nAAAA\n-----END {label}-----\n"

def files : Files :=
  .ofList [("c", pem "CERTIFICATE"), ("k", pem "PRIVATE KEY"), ("a", pem "CERTIFICATE")]

def paths : Tls.Paths := ⟨"c", "k", "a"⟩

def failure : Failure :=
  .transport "transport error" ["Error parsing TLS certificate."]

lemma preparation_eq :
    preparation ingress files (ingress.sources environment []) = .error failure := by
  have hsettings : IngressSettings.load (ingress.sources environment []) files
      = .ok ⟨.v4 ⟨0, 0, 0, 0⟩ 3456, paths⟩ := by
    decide +kernel
  have hload : Tls.Bundle.load files paths = .ok ⟨pem "CERTIFICATE", pem "PRIVATE KEY",
      pem "CERTIFICATE", [[0, 0, 0]], ⟨.pkcs8, [0, 0, 0]⟩, [[0, 0, 0]]⟩ := by
    decide +kernel
  have htls : Tls.serverTls (pem "CERTIFICATE") (pem "PRIVATE KEY") (pem "CERTIFICATE")
      = .error failure := by
    decide +kernel
  rw [preparation, hsettings]
  change Except.bind (Tls.Bundle.load files paths) _ = _
  rw [hload]
  change Except.bind (Tls.serverTls _ _ _) _ = _
  rw [htls]
  rfl

end Sample

theorem startup_of_unusable_bundle :
    CommandLine.read ingress.command [] = .ok [] ∧ ∃ c, c.IsUnbegun Sample.failure ∧
      ∀ host, ingress.execution host Sample.files Sample.environment [] = c ∧
        (ingress.run host Sample.files Sample.environment []).status = 1 ∧
        (ingress.run host Sample.files Sample.environment []).err
          = failureLines Sample.failure :=
  ⟨by decide +kernel, ((startup ingress Sample.files Sample.environment []).2 []
    (by decide +kernel)).1 Sample.failure Sample.preparation_eq⟩

end Program

end StandIn
