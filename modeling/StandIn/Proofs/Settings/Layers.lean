import StandIn.Proofs.Settings.Merging
import StandIn.Settings.Validation

/-!
# Settings in layers

A setting has the value of the topmost layer that gives one: an override, a variable, the file, the
default.  An empty override counts as a value and an empty variable does not.  Nothing else in any
layer matters, as long as no name is a path to something within a setting.

* `Sources.value?` — the value that a setting has in the topmost layer that gives one.
* `Sources.layered` — all settings that have a value.
* `Sources.validate_of_isFlat` — what is merged and read is what is layered.
* `load_of_isFlat` — the stand-ins are given the settings that are layered.
* `setting_hidden_by_path` — a name in a file that leads below a setting.
-/

namespace StandIn

namespace Settings

/-! ## Layers -/

/-- The members that texts make up. -/
def asMembers (entries : List (String × String)) : Members :=
  entries.map fun e => (e.1, .text e.2)

/-- The members of a table that holds nothing but texts. -/
def flat? : Members → Option (List (String × String))
  | [] => some []
  | (name, .text s) :: rest => (flat? rest).map ((name, s) :: ·)
  | _ => none

/-- What stands behind the prefix of a variable's name, in lower case. -/
def behind? (stem name : String) : Option String :=
  let start := (lowercase (stem ++ "_")).toList
  let name := (lowercase name).toList
  if start.isPrefixOf name then some (String.ofList (name.drop start.length)) else none

/-- The variables with the prefix that are not empty, by what stands behind it. -/
def variablesOf (stem : String) (environment : List (String × String)) : List (String × String) :=
  environment.filterMap fun (name, value) =>
    if value.isEmpty then none else (behind? stem name).map (·, value)

/-- The name is a path to something within a setting, as `cert.x` and `cert[0]` are. -/
def LeadsBelow (settings : List String) (name : String) : Prop :=
  pathOf name ≠ .name name ∧ (pathOf name).root ∈ settings

instance (settings : List String) : DecidablePred (LeadsBelow settings) := fun _ =>
  inferInstanceAs (Decidable (_ ∧ _))

end Settings

namespace Sources

open Settings

variable (s : Sources) (files : Files) (stem : String) (settings : List String) (listen : String)
  (entries : List (String × String))

/-- The entries of the file, if it holds nothing but texts.  There are none if there is no file. -/
def flatFile? : Option (List (String × String)) :=
  match s.file with
  | none => some []
  | some path => (load files path).toOption.bind flat?

/-- The value of a setting in the topmost layer that has one, where the entries are those of the
file.  Of several values in one layer the last one counts. -/
def value? (key : String) : Option String :=
  (latest? s.overrides key).or <|
    (latest? (variablesOf stem s.environment) key).or <|
      (latest? entries key).or <|
        if key = listenKey then some listen else none

/-- The settings that have a value. -/
def layered : List (String × String) :=
  settings.filterMap fun key => (s.value? stem listen entries key).map (key, ·)

/-- No name leads below a setting: those of variables are no paths, and in the file, where names
are in lower case, the paths lead elsewhere.  Only settings are overridden. -/
structure IsFlat : Prop where
  lower : ∀ e ∈ entries, lowercase e.1 = e.1
  file : ∀ e ∈ entries, ¬LeadsBelow settings e.1
  environment : ∀ v ∈ s.environment, ∀ key ∈ behind? stem v.1,
    key.toList.all KeyPath.isNameChar = true
  overrides : ∀ o ∈ s.overrides, o.1 ∈ settings

end Sources

namespace Settings

lemma mem_asMembers {entries : List (String × String)} {e : String × Value} :
    e ∈ asMembers entries ↔ ∃ s, (e.1, s) ∈ entries ∧ e.2 = .text s := by
  obtain ⟨name, v⟩ := e
  simp only [asMembers, List.mem_map, Prod.mk.injEq, Prod.exists]
  constructor
  · rintro ⟨name', s, hmem, rfl, rfl⟩
    exact ⟨s, hmem, rfl⟩
  · rintro ⟨s, hmem, rfl⟩
    exact ⟨name, s, hmem, rfl, rfl⟩

lemma latest?_asMembers (entries : List (String × String)) (key : String) :
    latest? (asMembers entries) key = (latest? entries key).map Value.text :=
  latest?_map Value.text entries key

lemma eq_asMembers_of_flat? {ms : Members} {entries : List (String × String)}
    (h : flat? ms = some entries) : ms = asMembers entries := by
  fun_induction flat? ms generalizing entries with
  | case1 =>
      cases h
      rfl
  | case2 name s rest ih =>
      obtain ⟨entries', hrest, rfl⟩ := Option.map_eq_some_iff.1 h
      rw [ih hrest]
      rfl
  | case3 => cases h

lemma setsText_of_forall {settings : List String} {source : Members}
    (htext : ∀ e ∈ source, ∃ s, e.2 = .text s) (hlower : ∀ e ∈ source, lowercase e.1 = e.1)
    (h : ∀ e ∈ source, ¬LeadsBelow settings e.1) {key : String} (hkey : key ∈ settings) :
    SetsText source key := by
  intro e he hroot
  rw [(isPlain_root_pathOf (hlower e he)).lower] at hroot
  have hpath : pathOf e.1 = .name e.1 := by
    by_contra hne
    exact h e he ⟨hne, hroot ▸ hkey⟩
  rw [hpath] at hroot
  exact ⟨hroot, htext e he⟩

/-- All settings are names in lower case, and have only the characters of names. -/
def ArePlain (settings : List String) : Prop :=
  ∀ key ∈ settings, key ≠ "" ∧ key.toList.all KeyPath.isNameChar = true ∧ lowercase key = key

lemma ArePlain.parse {settings : List String} (h : ArePlain settings) {key : String}
    (hkey : key ∈ settings) : KeyPath.parse key = .ok (.name key) := by
  obtain ⟨hne, hchars, -⟩ := h key hkey
  exact KeyPath.parse_of_forall hne (List.all_eq_true.1 hchars)

lemma ArePlain.isPlain {settings : List String} (h : ArePlain settings) {key : String}
    (hkey : key ∈ settings) : IsPlain key :=
  ⟨by rw [pathOf, h.parse hkey], (h key hkey).2.2⟩

lemma not_leadsBelow_of_pathOf {settings : List String} {name : String}
    (h : pathOf name = .name name) : ¬LeadsBelow settings name :=
  fun hleads => hleads.1 h

lemma isPlain_listenKey : IsPlain listenKey :=
  ⟨pathOf_of_forall (List.all_eq_true.1 (by decide)), by decide⟩

/-! ## Variables -/

lemma lowercase_of_behind? {stem name key : String} (h : behind? stem name = some key) :
    lowercase key = key := by
  simp only [behind?, Option.ite_none_right_eq_some, Option.some.injEq] at h
  obtain ⟨-, rfl⟩ := h
  refine lowercase_of_sublist (lowercase_lowercase name) ?_
  rw [String.toList_ofList]
  exact List.drop_sublist _ _

lemma mem_variablesOf {stem : String} {environment : List (String × String)}
    {e : String × String} (h : e ∈ variablesOf stem environment) :
    ∃ v ∈ environment, behind? stem v.1 = some e.1 := by
  obtain ⟨v, hv, he⟩ := List.mem_filterMap.1 h
  dsimp only at he
  split_ifs at he
  obtain ⟨key, hkey, rfl⟩ := Option.map_eq_some_iff.1 he
  exact ⟨v, hv, hkey⟩

lemma ofEnvironment_eq (stem : String) (environment : List (String × String)) :
    ofEnvironment stem environment = Members.ofList (asMembers (variablesOf stem environment)) := by
  rw [ofEnvironment, asMembers, variablesOf, List.map_filterMap]
  congr 2
  funext ⟨name, value⟩
  by_cases hvalue : value = ""
  · simp [hvalue]
  · by_cases hprefix : (lowercase (stem ++ "_")).toList <+: (lowercase name).toList <;>
      simp [behind?, hvalue, hprefix]

end Settings

namespace Sources

open Settings

variable {s : Sources} {files : Files} {stem : String} {settings : List String} {listen : String}
  {entries : List (String × String)}

/-- Overrides of settings are laid over all else. -/
lemma layer_overrides {overrides : List (String × String)}
    (h : ∀ o ∈ overrides, KeyPath.parse o.1 = .ok (.name o.1)) :
    ∃ paths, readOverrides overrides = .ok paths ∧
      ∀ ms : Members, paths.foldl (fun ms (path, value) => ms.set (.text value) path) ms
        = ms.layer (asMembers overrides) := by
  induction overrides with
  | nil => exact ⟨[], rfl, fun ms => rfl⟩
  | cons o overrides ih =>
      obtain ⟨name, value⟩ := o
      have hname := h _ List.mem_cons_self
      obtain ⟨paths, hread, hlayer⟩ := ih fun o ho => h o (List.mem_cons_of_mem _ ho)
      refine ⟨(.name name, value) :: paths, ?_, fun ms => ?_⟩
      · rw [readOverrides, hname, hread]
        rfl
      · rw [List.foldl_cons, hlayer]
        simp only [asMembers, List.map_cons, Members.layer_cons, pathOf, hname]

/-- The members that the file holds.  There are none if there is no file. -/
def fileMembers (s : Sources) (files : Files) : Except SettingsError Members :=
  match s.file with
  | some path => load files path
  | none => .ok []

/-- **How the layers come together.**  The names of the overrides are read first, and then the file.
Nothing else can fail. -/
lemma merge_eq_bind (s : Sources) (files : Files) (stem : String) (defaults : Members) :
    s.merge files stem defaults = (readOverrides s.overrides).bind fun paths =>
      (s.fileMembers files).map fun fromFile =>
        paths.foldl (fun ms (path, value) => ms.set (.text value) path)
          ((Members.layer [] defaults).layer
            ((Members.layer [] fromFile).layer (ofEnvironment stem s.environment))) := by
  rw [merge, fileMembers]
  cases readOverrides s.overrides with
  | error e => rfl
  | ok paths =>
      cases s.file with
      | none => rfl
      | some path =>
          simp only
          cases load files path <;> rfl

/-- The file, and over it the variables. -/
def fileAndVariables (stem : String) (environment entries : List (String × String)) : Members :=
  (Members.layer [] (asMembers entries)).layer (ofEnvironment stem environment)

lemma merge_eq {paths : List (KeyPath × String)} (hread : readOverrides s.overrides = .ok paths)
    (hfile : s.flatFile? files = some entries) (defaults : Members) :
    s.merge files stem defaults = .ok
      (paths.foldl (fun ms (path, value) => ms.set (.text value) path)
        ((Members.layer [] defaults).layer (fileAndVariables stem s.environment entries))) := by
  have hmembers : s.fileMembers files = .ok (asMembers entries) := by
    rw [fileMembers]
    cases hs : s.file with
    | none =>
        rw [flatFile?, hs] at hfile
        cases hfile
        rfl
    | some path =>
        rw [flatFile?, hs] at hfile
        obtain ⟨ms, hms, hflat⟩ := Option.bind_eq_some_iff.1 hfile
        cases eq_asMembers_of_flat? hflat
        cases hload : load files path with
        | error e => rw [hload] at hms; cases hms
        | ok ms => rw [hload] at hms; cases hms; exact hload
  rw [merge_eq_bind, hread, hmembers]
  rfl

section FileAndVariables

variable {environment : List (String × String)} {key : String}
  (hlower : ∀ e ∈ entries, lowercase e.1 = e.1) (hfile : ∀ e ∈ entries, ¬LeadsBelow settings e.1)
  (henvironment : ∀ v ∈ environment, ∀ key ∈ behind? stem v.1,
    key.toList.all KeyPath.isNameChar = true)

include hlower hfile in
/-- A layer of texts gives a setting the last text that it has for it. -/
lemma get?_layer_asMembers (hkey : key ∈ settings) (hplain : IsPlain key) (ms : Members) :
    (ms.layer (asMembers entries)).get? key
      = ((latest? entries key).map .text).or (ms.get? key) := by
  rw [Members.get?_layer hplain, latest?_asMembers]
  refine setsText_of_forall (fun e he => ?_) (fun e he => ?_) (fun e he => ?_) hkey <;>
    obtain ⟨s, hmem, hs⟩ := mem_asMembers.1 he
  · exact ⟨s, hs⟩
  · exact hlower (e.1, s) hmem
  · exact hfile (e.1, s) hmem

/-- Each member that is made of the environment is made of a variable with the prefix. -/
lemma exists_of_mem_ofEnvironment {e : String × Value} (he : e ∈ ofEnvironment stem environment) :
    (∃ s, e.2 = .text s) ∧ ∃ v ∈ environment, behind? stem v.1 = some e.1 := by
  rw [ofEnvironment_eq] at he
  obtain ⟨s, hmem, hs⟩ := mem_asMembers.1 (Members.mem_ofList he)
  exact ⟨⟨s, hs⟩, mem_variablesOf hmem⟩

include henvironment in
lemma setsText_ofEnvironment (hkey : key ∈ settings) :
    SetsText (ofEnvironment stem environment) key := by
  refine setsText_of_forall (fun e he => ?_) (fun e he => ?_) (fun e he => ?_) hkey <;>
    obtain ⟨htext, v, hv, hbehind⟩ := exists_of_mem_ofEnvironment he
  · exact htext
  · exact lowercase_of_behind? hbehind
  · have hchars := List.all_eq_true.1 (henvironment v hv _ hbehind)
    exact not_leadsBelow_of_pathOf (pathOf_of_forall hchars)

lemma nodup_fileAndVariables : (fileAndVariables stem environment entries).names.Nodup :=
  Members.nodup_layer (Members.nodup_layer_nil _) _

include hlower in
/-- Names start paths before they are merged, and stand for themselves afterwards. -/
lemma isPlain_of_mem_fileAndVariables {name : String}
    (h : name ∈ (fileAndVariables stem environment entries).names) : IsPlain name := by
  have hplain {name' : String} (hlower' : lowercase name' = name') :
      IsPlain (lowercase (pathOf name').root) := by
    rw [(isPlain_root_pathOf hlower').lower]
    exact isPlain_root_pathOf hlower'
  rcases Members.mem_names_layer h with hmem | ⟨e, he, rfl⟩
  · rcases Members.mem_names_layer hmem with hmem | ⟨e, he, rfl⟩
    · cases hmem
    · obtain ⟨s, hmem, -⟩ := mem_asMembers.1 he
      exact hplain (hlower (e.1, s) hmem)
  · obtain ⟨-, v, -, hbehind⟩ := exists_of_mem_ofEnvironment he
    exact hplain (lowercase_of_behind? hbehind)

include hlower hfile henvironment

lemma get?_fileAndVariables (hkey : key ∈ settings) (hplain : IsPlain key) :
    (fileAndVariables stem environment entries).get? key
      = ((latest? (variablesOf stem environment) key).or (latest? entries key)).map .text := by
  have hvariables : latest? (ofEnvironment stem environment) key
      = (latest? (variablesOf stem environment) key).map .text := by
    have hnodup : (ofEnvironment stem environment).names.Nodup := Members.nodup_ofList _
    rw [latest?_of_nodup hnodup, ← Members.get?, ofEnvironment_eq, Members.get?_ofList,
      latest?_asMembers]
  rw [fileAndVariables,
    Members.get?_layer hplain (setsText_ofEnvironment henvironment hkey),
    get?_layer_asMembers hlower hfile hkey hplain, hvariables, Option.map_or]
  exact congrArg _ (Option.or_none ..)

lemma setsText_fileAndVariables (hkey : key ∈ settings) (hplain : IsPlain key) :
    SetsText (fileAndVariables stem environment entries) key := by
  intro e he hroot
  have hname : IsPlain e.1 := isPlain_of_mem_fileAndVariables hlower (Members.mem_names he)
  rw [hname.path, KeyPath.root, hname.lower] at hroot
  have hget : (fileAndVariables stem environment entries).get? key = some e.2 :=
    lookup_of_mem nodup_fileAndVariables (hroot ▸ he)
  rw [get?_fileAndVariables hlower hfile henvironment hkey hplain] at hget
  obtain ⟨s, -, hs⟩ := Option.map_eq_some_iff.1 hget
  exact ⟨hroot, s, hs.symm⟩

end FileAndVariables

lemma layer_default :
    Members.layer [] [(listenKey, .text listen)] = [(listenKey, .text listen)] := by
  rw [Members.layer_cons, Members.set_text isPlain_listenKey]
  rfl

/-- All layers, one over the other. -/
lemma exists_merged (hsettings : ArePlain settings) (hfile : s.flatFile? files = some entries)
    (hflat : s.IsFlat stem settings entries) :
    ∃ merged, s.merge files stem [(listenKey, .text listen)] = .ok merged ∧ merged.names.Nodup ∧
      ∀ key ∈ settings, merged.get? key = (s.value? stem listen entries key).map .text := by
  have hoverrides (o) (ho : o ∈ s.overrides) : IsPlain o.1 :=
    hsettings.isPlain (hflat.overrides o ho)
  obtain ⟨paths, hread, hlayer⟩ :=
    layer_overrides fun o ho => hsettings.parse (hflat.overrides o ho)
  refine ⟨_, merge_eq hread hfile _, ?_, fun key hkey => ?_⟩
  · rw [hlayer, layer_default]
    exact Members.nodup_layer (Members.nodup_layer (by simp [Members.names]) _) _
  · have hplain := hsettings.isPlain hkey
    have hdefault : Members.get? [(listenKey, .text listen)] key
        = (if key = listenKey then some listen else none).map .text := by
      rw [Members.get?, lookup_cons_eq, List.lookup_nil]
      simp only [eq_comm]
      split_ifs <;> rfl
    rw [hlayer, layer_default,
      get?_layer_asMembers (fun o ho => (hoverrides o ho).lower)
        (fun o ho => not_leadsBelow_of_pathOf (hoverrides o ho).path) hkey hplain,
      Members.get?_layer hplain (setsText_fileAndVariables hflat.lower hflat.file
        hflat.environment hkey hplain),
      latest?_of_nodup nodup_fileAndVariables, ← Members.get?,
      get?_fileAndVariables hflat.lower hflat.file hflat.environment hkey hplain, hdefault,
      ← Option.map_or, ← Option.map_or, Option.or_assoc, value?]

lemma lookup_layered {key : String} (hkey : key ∈ settings) :
    (s.layered stem settings listen entries).lookup key = s.value? stem listen entries key := by
  rw [layered, lookup_filterMap, if_pos hkey]

/-- **What is merged and read is what is layered.**  A validation that looks at nothing but the
settings cannot tell them apart. -/
theorem validate_of_isFlat {α : Type} {validate : List (String × String) → Except Failure α}
    (hsettings : ArePlain settings) (hfile : s.flatFile? files = some entries)
    (hflat : s.IsFlat stem settings entries)
    (hvalidate : ∀ t t' : List (String × String),
      (∀ key ∈ settings, t.lookup key = t'.lookup key) → validate t = validate t') :
    (do
      let merged ← orFailure (s.merge files stem [(listenKey, .text listen)])
      let found ← orFailure (texts settings merged)
      validate found) = validate (s.layered stem settings listen entries) := by
  obtain ⟨merged, hmerge, hnodup, hvalues⟩ := exists_merged hsettings hfile hflat
  have htext : ∀ e ∈ merged, e.1 ∈ settings → e.2 = .null ∨ ∃ t, e.2 = .text t := by
    intro e he hkey
    have hget : merged.get? e.1 = some e.2 := lookup_of_mem hnodup he
    rw [hvalues _ hkey] at hget
    obtain ⟨t, -, ht⟩ := Option.map_eq_some_iff.1 hget
    exact .inr ⟨t, ht.symm⟩
  obtain ⟨found, htexts, hfound⟩ := exists_texts hnodup htext
  have hlookup : ∀ key ∈ settings,
      found.lookup key = (s.layered stem settings listen entries).lookup key := by
    intro key hkey
    rw [hfound key hkey, hvalues key hkey, lookup_layered hkey]
    cases s.value? stem listen entries key <;> rfl
  rw [hmerge]
  change (orFailure (texts settings merged)).bind validate = _
  rw [htexts]
  exact hvalidate _ _ hlookup

end Sources

/-! ## The stand-ins -/

section Validation

open Settings

variable {t t' : List (String × String)}

lemma given?_congr {key : String} (h : t.lookup key = t'.lookup key) :
    given? t key = given? t' key := by
  rw [given?, given?, h]

lemma missing_congr {required : List Requirement}
    (h : ∀ r ∈ required, t.lookup r.key = t'.lookup r.key) :
    missing t required = missing t' required := by
  rw [missing, missing, List.filter_congr fun r hr => by rw [given?_congr (h r hr)]]

/-- Validation looks at nothing but the settings. -/
lemma IngressSettings.ofTexts_congr (h : ∀ key ∈ keys, t.lookup key = t'.lookup key) :
    ofTexts t = ofTexts t' := by
  have hgiven (key) (hkey : key ∈ keys) := given?_congr (h key hkey)
  have hmissing : missing t required = missing t' required :=
    missing_congr fun r hr => h _ (List.mem_cons_of_mem _ (List.mem_map_of_mem hr))
  rw [ofTexts, ofTexts, hgiven "cert" (by decide), hgiven "key" (by decide),
    hgiven "ca" (by decide), h listenKey (by decide), hmissing]

lemma RelaySettings.ofTexts_congr (h : ∀ key ∈ keys, t.lookup key = t'.lookup key) :
    ofTexts t = ofTexts t' := by
  have hgiven (key) (hkey : key ∈ keys) := given?_congr (h key hkey)
  have hmissing : missing t required = missing t' required :=
    missing_congr fun r hr => h _ (List.mem_cons_of_mem _ (List.mem_map_of_mem hr))
  rw [ofTexts, ofTexts, hgiven "url" (by decide), hgiven "ca" (by decide),
    hgiven "client_cert" (by decide), hgiven "client_key" (by decide), h listenKey (by decide),
    hmissing]

lemma IngressSettings.arePlain_keys : ArePlain keys := by
  unfold ArePlain
  decide

lemma RelaySettings.arePlain_keys : ArePlain keys := by
  unfold ArePlain
  decide

end Validation

/-- **The stand-ins start with the settings that are layered.**  What the file and the environment
hold besides makes no difference. -/
theorem load_of_isFlat {s : Sources} {files : Files} {entries : List (String × String)}
    (hfile : s.flatFile? files = some entries) :
    (s.IsFlat IngressSettings.stem IngressSettings.keys entries →
      IngressSettings.load s files = IngressSettings.ofTexts (s.layered IngressSettings.stem
        IngressSettings.keys IngressSettings.defaultListen entries)) ∧
    (s.IsFlat RelaySettings.stem RelaySettings.keys entries →
      RelaySettings.load s files = RelaySettings.ofTexts (s.layered RelaySettings.stem
        RelaySettings.keys RelaySettings.defaultListen entries)) := by
  constructor
  · intro hflat
    exact Sources.validate_of_isFlat IngressSettings.arePlain_keys hfile hflat
      fun _ _ => IngressSettings.ofTexts_congr
  · intro hflat
    exact Sources.validate_of_isFlat RelaySettings.arePlain_keys hfile hflat
      fun _ _ => RelaySettings.ofTexts_congr

/-- A variable, the file and an override each give the ingress one path, as the other variable is
empty.  What is given as white space alone is as good as nothing to the relay. -/
theorem load_of_three_sources :
    let s : Sources := ⟨some "c.toml",
      [("Metron_Cert", "variable"), ("METRON_KEY", ""), ("DIEGO_URL", "http://a"),
        ("PATH", "/bin")],
      [("ca", "override")]⟩
    let files : Files := .ofList [("c.toml", Utf8.encode
      "cert = 'file'\nkey = 'file'\nca = 'file'\nclient_cert = ' '\ncolour = 'red'\n")]
    (IngressSettings.load s files).map (·.tls) = .ok ⟨"variable", "file", "override"⟩ ∧
    RelaySettings.load s files
      = .error (.missingSettings ["DIEGO_CLIENT_CERT", "DIEGO_CLIENT_KEY"]) := by
  intro s files
  have hfile : s.flatFile? files = some [("cert", "file"), ("key", "file"), ("ca", "file"),
    ("client_cert", " "), ("colour", "red")] := by decide +kernel
  obtain ⟨hingress, hrelay⟩ := load_of_isFlat hfile
  rw [hingress ⟨by decide +kernel, by decide +kernel, by decide +kernel, by decide +kernel⟩,
    hrelay ⟨by decide +kernel, by decide +kernel, by decide +kernel, by decide +kernel⟩]
  decide +kernel

/-- **A name in a file that hides a setting.**  The file holds one text, and its name, in lower
case, is that of no setting.  But the name is a path, and leads below one. -/
theorem setting_hidden_by_path :
    let s : Sources := ⟨some "c.toml", [], []⟩
    let files : Files := .ofList [("c.toml", Utf8.encode "\"cert.x\" = \"y\"\n")]
    s.flatFile? files = some [("cert.x", "y")] ∧
    Settings.lowercase "cert.x" = "cert.x" ∧ "cert.x" ∉ IngressSettings.keys ∧
    IngressSettings.load s files = .error (.settings (.wrongType "map" "cert" none)) ∧
    IngressSettings.load s files ≠ IngressSettings.ofTexts (s.layered IngressSettings.stem
      IngressSettings.keys IngressSettings.defaultListen [("cert.x", "y")]) := by
  decide +kernel

end StandIn
