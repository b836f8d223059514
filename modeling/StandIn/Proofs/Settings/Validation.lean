import StandIn.Proofs.Settings.Layers

/-!
# What validation reports

Whoever starts a stand-in without its settings is told of all that are missing at once, and not of
one after the other.  So what is missing comes before everything else that may be wrong.

* `Settings.isMissing`, `Members.missing` — the settings that a table does not give.
* `Settings.Reports` — what both stand-ins have in common: missing settings, then the address.
* `IngressSettings.Judges`, `RelaySettings.Judges` — the whole judgement of each.
* `load_of_merged` — whatever the sources are, the stand-ins judge the table that comes of them.
-/

namespace StandIn

open Settings

namespace Settings

/-- Whether a setting of the given value is missing: it is absent, it is nothing, or it is white space
alone. -/
def isMissing : Option Value → Bool
  | none | some .null => true
  | some (.text s) => Text.isBlankText s
  | some (.list ..) | some (.table ..) => false

/-- Whether a value is a text or nothing, and so can be that of a setting. -/
def Value.isScalar : Value → Bool
  | .null | .text _ => true
  | .list .. | .table .. => false

lemma Value.isScalar_iff {v : Value} : v.isScalar = true ↔ v = .null ∨ ∃ s, v = .text s := by
  cases v <;> simp [isScalar]

namespace Members

/-- The settings are texts or nothing, as far as they are there. -/
def HoldsTexts (ms : Members) (settings : List String) : Prop :=
  ∀ key ∈ settings, ∀ v ∈ ms.get? key, v.isScalar = true

instance (ms : Members) (settings : List String) : Decidable (ms.HoldsTexts settings) :=
  inferInstanceAs (Decidable (∀ key ∈ settings, ∀ v ∈ ms.get? key, v.isScalar = true))

/-- The variables of the settings that are missing, in the order in which they are required. -/
def missing (ms : Members) (required : List Requirement) : List String :=
  (required.filter fun r => isMissing (ms.get? r.key)).map (·.variableName)

/-- The text of a name. -/
def text? (ms : Members) (name : String) : Option String :=
  (ms.get? name).bind Value.text?

/-- The text of the address to listen on. -/
def listenText (ms : Members) (default : String) : String :=
  (ms.text? listenKey).getD default

end Members

/-- How a table is judged by either stand-in. -/
structure Reports {α : Type} (ms : Members) (required : List Requirement)
    (variableName default : String) (result : Except Failure α) : Prop where
  /-- It is reported that settings are missing exactly if some are, and then which, whatever else may
  be wrong. -/
  missing : ∀ names, result = .error (.missingSettings names) ↔
    names ≠ [] ∧ names = ms.missing required
  /-- If none is missing, then what is given as the address has to be one. -/
  listen : ms.missing required = [] →
    Net.SocketAddress.parse? (ms.listenText default) = none →
    result = .error (.invalidSetting variableName
      s!"{Quoted.quote (ms.listenText default)}: invalid socket address syntax")

/-! ## Texts and tables -/

lemma given?_eq_some {texts : List (String × String)} {key s : String}
    (h : given? texts key = some s) : texts.lookup key = some s :=
  (Option.filter_eq_some_iff.1 h).1

lemma missing_eq_nil_iff {texts : List (String × String)} {required : List Requirement} :
    missing texts required = [] ↔ ∀ r ∈ required, ∃ s, given? texts r.key = some s := by
  rw [missing, List.map_eq_nil_iff, List.filter_eq_nil_iff]
  simp [Option.ne_none_iff_exists']

/-- What is missing among the texts of a table is what is missing in the table. -/
lemma missing_eq_missing {ms : Members} {settings : List String} {required : List Requirement}
    {texts : List (String × String)} (hms : ms.HoldsTexts settings)
    (hrequired : ∀ r ∈ required, r.key ∈ settings)
    (htexts : ∀ key ∈ settings, texts.lookup key = ms.text? key) :
    missing texts required = ms.missing required := by
  have hmissing (r) (hr : r ∈ required) :
      (given? texts r.key).isNone = isMissing (ms.get? r.key) := by
    rw [given?, htexts _ (hrequired r hr), Members.text?]
    cases hv : ms.get? r.key with
    | none => rfl
    | some v =>
        rcases Value.isScalar_iff.1 (hms _ (hrequired r hr) v hv) with rfl | ⟨s, rfl⟩
        · rfl
        · by_cases hblank : Text.isBlankText s <;> simp [Value.text?, isMissing, hblank]
  rw [missing, Members.missing, List.filter_congr hmissing]

lemma readListen_eq (variableName value : String) :
    readListen variableName value = match Net.SocketAddress.parse? value with
      | some a => .ok a
      | none => .error (.invalidSetting variableName
          s!"{Quoted.quote value}: invalid socket address syntax") :=
  rfl

/-- What cannot be read as the base of the scheduler is reported under its variable. -/
lemma eq_invalidSetting_of_readScheduler {value : String} {f : Failure}
    (h : readScheduler value = .error f) :
    ∃ reason, f = .invalidSetting schedulerVariable reason := by
  rw [readScheduler] at h
  dsimp only at h
  split at h
  · exact ⟨_, (Except.error.inj h).symm⟩
  · split at h
    · exact ⟨_, (Except.error.inj h).symm⟩
    · split_ifs at h
      · exact ⟨_, (Except.error.inj h).symm⟩
      · exact ⟨_, (Except.error.inj h).symm⟩

section Reports

variable {α : Type} {ms : Members} {required : List Requirement} {variableName default : String}
  {result : Except Failure α} {rest : Net.SocketAddress → Except Failure α}

/-- A validation that looks at what is missing first, and then at the address, judges as both
stand-ins do, if nothing after that is told of missing settings. -/
lemma reports_of_cases
    (hmissing : ms.missing required ≠ [] →
      result = .error (.missingSettings (ms.missing required)))
    (hgiven : ms.missing required = [] →
      result = (readListen variableName (ms.listenText default)).bind rest)
    (hrest : ∀ a names, rest a ≠ .error (.missingSettings names)) :
    Reports ms required variableName default result where
  missing := by
    intro names
    by_cases h : ms.missing required = []
    · refine iff_of_false (fun hresult => ?_) fun hnames => hnames.1 (hnames.2.trans h)
      rw [hgiven h, readListen_eq] at hresult
      split at hresult
      · exact hrest _ _ hresult
      · cases hresult
    · rw [hmissing h]
      constructor
      · intro hnames
        cases hnames
        exact ⟨h, rfl⟩
      · rintro ⟨-, rfl⟩
        rfl
  listen := by
    intro h hlisten
    rw [hgiven h, readListen_eq, hlisten]
    rfl

lemma eq_rest_of_parse? (hgiven : result = (readListen variableName (ms.listenText default)).bind rest)
    {a : Net.SocketAddress} (ha : Net.SocketAddress.parse? (ms.listenText default) = some a) :
    result = rest a := by
  rw [hgiven, readListen_eq, ha]
  rfl

end Reports

/-! ## Sources -/

lemma nodup_foldl_set {base : Members} (h : base.names.Nodup) (paths : List (KeyPath × String)) :
    (paths.foldl (fun ms (path, value) => ms.set (.text value) path) base).names.Nodup := by
  induction paths generalizing base with
  | nil => exact h
  | cons p paths ih =>
      obtain ⟨path, value⟩ := p
      obtain ⟨v, hv⟩ := base.set_eq_insert (.text value) path
      have hset : (base.set (.text value) path).names.Nodup := by
        rw [hv]
        exact Members.nodup_insert h _ _
      exact ih hset

/-- No name recurs in what sources give. -/
lemma nodup_merge {s : Sources} {files : Files} {stem : String} {defaults merged : Members}
    (h : s.merge files stem defaults = .ok merged) : merged.names.Nodup := by
  rw [Sources.merge_eq_bind] at h
  obtain ⟨paths, -, h⟩ := bind_eq_ok_iff.1 h
  obtain ⟨fromFile, -, rfl⟩ := map_eq_ok_iff.1 h
  exact nodup_foldl_set (Members.nodup_layer (Members.nodup_layer_nil defaults) _) paths

/-- If the settings that sources give are texts, then just these texts are validated. -/
lemma exists_validated {α : Type} {s : Sources} {files : Files} {stem : String}
    {defaults merged : Members} {settings : List String}
    (hmerge : s.merge files stem defaults = .ok merged) (hms : merged.HoldsTexts settings)
    (validate : List (String × String) → Except Failure α) :
    ∃ found, (∀ key ∈ settings, found.lookup key = merged.text? key) ∧
      (do
        let merged ← orFailure (s.merge files stem defaults)
        let found ← orFailure (texts settings merged)
        validate found) = validate found := by
  have hnodup := nodup_merge hmerge
  have htext : ∀ e ∈ merged, e.1 ∈ settings → e.2 = .null ∨ ∃ t, e.2 = .text t :=
    fun e he hkey => Value.isScalar_iff.1 (hms e.1 hkey e.2 (lookup_of_mem hnodup he))
  obtain ⟨found, htexts, hfound⟩ := exists_texts hnodup htext
  refine ⟨found, hfound, ?_⟩
  rw [hmerge]
  change (orFailure (texts settings merged)).bind validate = _
  rw [htexts]
  rfl

end Settings

/-! ## The ingress -/

namespace IngressSettings

/-- How the ingress judges a table of settings. -/
structure Judges (ms : Members) (result : Except Failure IngressSettings) : Prop
    extends Reports ms required "METRON_LISTEN_ADDR" defaultListen result where
  /-- Next, the address has to be one of IPv4. -/
  family : ms.missing required = [] → ∀ a,
    Net.SocketAddress.parse? (ms.listenText defaultListen) = some a → a.isIPv4 = false →
    result = .error (.invalidSetting "METRON_LISTEN_ADDR" s!"{a.render} is not an IPv4 address")
  /-- Otherwise the ingress starts, with the paths as they were given. -/
  accepted : ms.missing required = [] → ∀ a,
    Net.SocketAddress.parse? (ms.listenText defaultListen) = some a → a.isIPv4 = true →
    ∃ cert key ca, ms.text? "cert" = some cert ∧ ms.text? "key" = some key ∧
      ms.text? "ca" = some ca ∧ result = .ok ⟨a, ⟨cert, key, ca⟩⟩

/-- What is left to be done once the address is known. -/
def ofListen (tls : Tls.Paths) (a : Net.SocketAddress) : Except Failure IngressSettings :=
  if a.isIPv4 then .ok ⟨a, tls⟩
  else .error (.invalidSetting "METRON_LISTEN_ADDR" s!"{a.render} is not an IPv4 address")

variable {texts : List (String × String)}

lemma ofTexts_of_missing (h : missing texts required ≠ []) :
    ofTexts texts = .error (.missingSettings (missing texts required)) := by
  rw [ofTexts]
  split
  · rename_i cert key ca hcert hkey hca
    refine absurd (missing_eq_nil_iff.2 ?_) h
    simp [required, hcert, hkey, hca]
  · rfl

lemma ofTexts_of_given (h : missing texts required = []) :
    ∃ cert key ca, texts.lookup "cert" = some cert ∧ texts.lookup "key" = some key ∧
      texts.lookup "ca" = some ca ∧
      ofTexts texts = (readListen "METRON_LISTEN_ADDR"
        ((texts.lookup listenKey).getD defaultListen)).bind (ofListen ⟨cert, key, ca⟩) := by
  have hgiven := missing_eq_nil_iff.1 h
  obtain ⟨cert, hcert⟩ := hgiven ⟨"METRON_CERT", "cert"⟩ (by decide)
  obtain ⟨key, hkey⟩ := hgiven ⟨"METRON_KEY", "key"⟩ (by decide)
  obtain ⟨ca, hca⟩ := hgiven ⟨"METRON_CA", "ca"⟩ (by decide)
  refine ⟨cert, key, ca, given?_eq_some hcert, given?_eq_some hkey, given?_eq_some hca, ?_⟩
  rw [ofTexts, hcert, hkey, hca]
  rfl

lemma ofListen_ne_missing (tls : Tls.Paths) (a : Net.SocketAddress) (names : List String) :
    ofListen tls a ≠ .error (.missingSettings names) := by
  rw [ofListen]
  split_ifs <;> simp

/-- The ingress judges a table of texts by the texts. -/
lemma judges_ofTexts {ms : Members} (hms : ms.HoldsTexts keys)
    (htexts : ∀ key ∈ keys, texts.lookup key = ms.text? key) : Judges ms (ofTexts texts) := by
  have hmissing : missing texts required = ms.missing required :=
    missing_eq_missing hms (fun r hr => List.mem_cons_of_mem _ (List.mem_map_of_mem hr)) htexts
  by_cases h : ms.missing required = []
  · obtain ⟨cert, key, ca, hcert, hkey, hca, hgiven⟩ := ofTexts_of_given (hmissing.trans h)
    rw [htexts _ (by decide)] at hcert hkey hca hgiven
    refine ⟨reports_of_cases (absurd h) (fun _ => hgiven) (ofListen_ne_missing _),
      fun _ a ha hfamily => ?_, fun _ a ha hfamily => ?_⟩
    · rw [eq_rest_of_parse? hgiven ha, ofListen, hfamily]
      rfl
    · refine ⟨cert, key, ca, hcert, hkey, hca, ?_⟩
      rw [eq_rest_of_parse? hgiven ha, ofListen, hfamily]
      rfl
  · have hnone := ofTexts_of_missing (hmissing ▸ h)
    rw [hmissing] at hnone
    exact ⟨reports_of_cases (fun _ => hnone) (fun h' => absurd h' h)
      (ofListen_ne_missing ⟨"", "", ""⟩), fun h' => absurd h' h, fun h' => absurd h' h⟩

end IngressSettings

/-! ## The relay -/

namespace RelaySettings

/-- How the relay judges a table of settings. -/
structure Judges (ms : Members) (result : Except Failure RelaySettings) : Prop
    extends Reports ms required "DIEGO_LISTEN_ADDR" defaultListen result where
  /-- Next, the base of the scheduler has to be one. -/
  scheduler : ms.missing required = [] → ∀ a,
    Net.SocketAddress.parse? (ms.listenText defaultListen) = some a →
    ∃ url, ms.text? "url" = some url ∧ ∀ f, readScheduler url = .error f →
      result = .error f ∧ ∃ reason, f = .invalidSetting "DIEGO_URL" reason
  /-- Otherwise the relay starts, with the base and the paths as they were given. -/
  accepted : ms.missing required = [] → ∀ a,
    Net.SocketAddress.parse? (ms.listenText defaultListen) = some a →
    ∃ url ca cert key, ms.text? "url" = some url ∧ ms.text? "ca" = some ca ∧
      ms.text? "client_cert" = some cert ∧ ms.text? "client_key" = some key ∧
      ∀ u, readScheduler url = .ok u → result = .ok ⟨a, u, ⟨cert, key, ca⟩⟩

/-- What is left to be done once the address is known. -/
def ofListen (url : String) (tls : Tls.Paths) (a : Net.SocketAddress) :
    Except Failure RelaySettings :=
  (readScheduler url).bind fun u => .ok ⟨a, u, tls⟩

variable {texts : List (String × String)}

lemma ofTexts_of_missing (h : missing texts required ≠ []) :
    ofTexts texts = .error (.missingSettings (missing texts required)) := by
  rw [ofTexts]
  split
  · rename_i url ca cert key hurl hca hcert hkey
    refine absurd (missing_eq_nil_iff.2 ?_) h
    simp [required, hurl, hca, hcert, hkey]
  · rfl

lemma ofTexts_of_given (h : missing texts required = []) :
    ∃ url ca cert key, texts.lookup "url" = some url ∧ texts.lookup "ca" = some ca ∧
      texts.lookup "client_cert" = some cert ∧ texts.lookup "client_key" = some key ∧
      ofTexts texts = (readListen "DIEGO_LISTEN_ADDR"
        ((texts.lookup listenKey).getD defaultListen)).bind (ofListen url ⟨cert, key, ca⟩) := by
  have hgiven := missing_eq_nil_iff.1 h
  obtain ⟨url, hurl⟩ := hgiven ⟨schedulerVariable, "url"⟩ (by decide)
  obtain ⟨ca, hca⟩ := hgiven ⟨"DIEGO_CA", "ca"⟩ (by decide)
  obtain ⟨cert, hcert⟩ := hgiven ⟨"DIEGO_CLIENT_CERT", "client_cert"⟩ (by decide)
  obtain ⟨key, hkey⟩ := hgiven ⟨"DIEGO_CLIENT_KEY", "client_key"⟩ (by decide)
  refine ⟨url, ca, cert, key, given?_eq_some hurl, given?_eq_some hca, given?_eq_some hcert,
    given?_eq_some hkey, ?_⟩
  rw [ofTexts, hurl, hca, hcert, hkey]
  rfl

lemma ofListen_ne_missing (url : String) (tls : Tls.Paths) (a : Net.SocketAddress)
    (names : List String) : ofListen url tls a ≠ .error (.missingSettings names) := by
  rw [ofListen]
  cases hread : readScheduler url with
  | error f =>
      obtain ⟨reason, rfl⟩ := eq_invalidSetting_of_readScheduler hread
      simp [Except.bind]
  | ok u => simp [Except.bind]

/-- The relay judges a table of texts by the texts. -/
lemma judges_ofTexts {ms : Members} (hms : ms.HoldsTexts keys)
    (htexts : ∀ key ∈ keys, texts.lookup key = ms.text? key) : Judges ms (ofTexts texts) := by
  have hmissing : missing texts required = ms.missing required :=
    missing_eq_missing hms (fun r hr => List.mem_cons_of_mem _ (List.mem_map_of_mem hr)) htexts
  by_cases h : ms.missing required = []
  · obtain ⟨url, ca, cert, key, hurl, hca, hcert, hkey, hgiven⟩ :=
      ofTexts_of_given (hmissing.trans h)
    rw [htexts _ (by decide)] at hurl hca hcert hkey hgiven
    refine ⟨reports_of_cases (absurd h) (fun _ => hgiven) (ofListen_ne_missing _ _),
      fun _ a ha => ⟨url, hurl, fun f hread => ⟨?_, eq_invalidSetting_of_readScheduler hread⟩⟩,
      fun _ a ha => ⟨url, ca, cert, key, hurl, hca, hcert, hkey, fun u hread => ?_⟩⟩ <;>
    · rw [eq_rest_of_parse? hgiven ha, ofListen, hread]
      rfl
  · have hnone := ofTexts_of_missing (hmissing ▸ h)
    rw [hmissing] at hnone
    exact ⟨reports_of_cases (fun _ => hnone) (fun h' => absurd h' h)
      (ofListen_ne_missing "" ⟨"", "", ""⟩), fun h' => absurd h' h, fun h' => absurd h' h⟩

end RelaySettings

/-! ## Whole sources -/

/-- **What is reported, and in which order.**  Whatever the sources are, and whatever else they hold:
if the settings in the table that comes of them are texts or nothing, then each stand-in reports all
that is missing; if nothing is, what is wrong with the address; next, the ingress whether it is of the
wrong family, and the relay what is wrong with the base of the scheduler; and starts otherwise. -/
theorem load_of_merged {s : Sources} {files : Files} {merged : Members} :
    (s.merge files IngressSettings.stem [(listenKey, .text IngressSettings.defaultListen)]
        = .ok merged → merged.HoldsTexts IngressSettings.keys →
      IngressSettings.Judges merged (IngressSettings.load s files)) ∧
    (s.merge files RelaySettings.stem [(listenKey, .text RelaySettings.defaultListen)]
        = .ok merged → merged.HoldsTexts RelaySettings.keys →
      RelaySettings.Judges merged (RelaySettings.load s files)) := by
  constructor
  · intro hmerge hms
    obtain ⟨found, hfound, hload⟩ := exists_validated hmerge hms IngressSettings.ofTexts
    rw [IngressSettings.load, hload]
    exact IngressSettings.judges_ofTexts hms hfound
  · intro hmerge hms
    obtain ⟨found, hfound, hload⟩ := exists_validated hmerge hms RelaySettings.ofTexts
    rw [RelaySettings.load, hload]
    exact RelaySettings.judges_ofTexts hms hfound

/-- What is known of the table that sources give can be computed. -/
lemma exists_merged_of_any {merged : Except SettingsError Members} {p : Members → Prop}
    [DecidablePred p] (h : merged.toOption.any (fun ms => decide (p ms)) = true) :
    ∃ ms, merged = .ok ms ∧ p ms := by
  cases merged with
  | error e => cases h
  | ok ms => exact ⟨ms, rfl, of_decide_eq_true h⟩

/-- The ingress is told of two paths at once, one that is nothing in the file and one that is white
space, and not of its address.  The relay has all settings, and is told of its scheduler. -/
theorem load_of_merged_null :
    let s : Sources := ⟨some "c.json",
      [("METRON_KEY", "k"), ("METRON_CA", "\u2003"), ("METRON_LISTEN_ADDR", "nowhere"),
        ("DIEGO_URL", "ftp://h"), ("DIEGO_CA", "a"), ("DIEGO_CLIENT_CERT", " c "),
        ("DIEGO_CLIENT_KEY", "k")], []⟩
    let files : Files := .ofList [("c.json", Utf8.encode "\x7b\"cert\": null\x7d")]
    IngressSettings.load s files = .error (.missingSettings ["METRON_CERT", "METRON_CA"]) ∧
    ∃ reason, RelaySettings.load s files = .error (.invalidSetting "DIEGO_URL" reason) := by
  intro s files
  constructor
  · obtain ⟨merged, hmerge, hms, hmissing⟩ := @exists_merged_of_any
      (s.merge files IngressSettings.stem [(listenKey, .text IngressSettings.defaultListen)])
      (fun ms => ms.HoldsTexts IngressSettings.keys ∧
        ms.missing IngressSettings.required = ["METRON_CERT", "METRON_CA"]) _ (by decide +kernel)
    have hjudges := load_of_merged.1 hmerge hms
    exact (hjudges.missing _).2 ⟨by simp, hmissing.symm⟩
  · obtain ⟨merged, hmerge, hms, hmissing, hlisten, hurl⟩ := @exists_merged_of_any
      (s.merge files RelaySettings.stem [(listenKey, .text RelaySettings.defaultListen)])
      (fun ms => ms.HoldsTexts RelaySettings.keys ∧ ms.missing RelaySettings.required = [] ∧
        ms.listenText RelaySettings.defaultListen = RelaySettings.defaultListen ∧
        ms.text? "url" = some "ftp://h") _ (by decide +kernel)
    have hjudges := load_of_merged.2 hmerge hms
    have haddress : Net.SocketAddress.parse? (merged.listenText RelaySettings.defaultListen)
        = some (.v4 ⟨0, 0, 0, 0⟩ 1234) := by
      rw [hlisten]
      decide +kernel
    obtain ⟨url, hurl', hscheduler⟩ := hjudges.scheduler hmissing _ haddress
    cases hurl.symm.trans hurl'
    cases hread : readScheduler "ftp://h" with
    | ok u =>
        have hfails : (readScheduler "ftp://h").isOk = false := by decide +kernel
        rw [hread] at hfails
        cases hfails
    | error f =>
        obtain ⟨hload, reason, rfl⟩ := hscheduler f hread
        exact ⟨reason, hload⟩

end StandIn
