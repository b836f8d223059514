import StandIn.Proofs.Settings.Validation

/-!
# What a table holds for some of its names

A source bears on a name of a table only by those of its own names that start there.  So what comes
of layers for some names is what comes of the layers with all other names left out.  Which names there
are, and in which order, depends only on the names of the layers: those that are there keep their
place, and others are added behind them.

* `target` — the name of a table that a name of a source bears on.
* `Members.restrict`, `Members.restrict_layer` — layers with some of the names.
* `Members.names_layer` — the names of layers.
* `Members.unfit`, `bind_texts_congr` — the settings that are no texts, the first of which is reported.
-/

namespace StandIn.Settings

/-- The name of a table that a name of a source bears on. -/
def target (name : String) : String := lowercase (pathOf name).root

/-- Names in lower case bear on names that stand for themselves. -/
lemma target_eq_root {name : String} (h : lowercase name = name) :
    target name = (pathOf name).root :=
  (isPlain_root_pathOf h).lower

lemma IsPlain.target_eq {name : String} (h : IsPlain name) : target name = name := by
  rw [target, h.path, KeyPath.root, h.lower]

lemma target_target {name : String} (h : lowercase name = name) :
    target (target name) = target name := by
  rw [target_eq_root h]
  exact (isPlain_root_pathOf h).target_eq

namespace Members

variable {p q : String → Bool} {ms : Members}

/-! ## Some of the names -/

/-- The members with the names that are wanted. -/
def restrict (p : String → Bool) (ms : Members) : Members := ms.filter fun e => p e.1

lemma restrict_cons (e : String × Value) (ms : Members) :
    restrict p (e :: ms) = if p e.1 then e :: restrict p ms else restrict p ms :=
  List.filter_cons

lemma restrict_restrict (ms : Members) :
    (ms.restrict q).restrict p = ms.restrict fun name => p name && q name :=
  List.filter_filter ..

lemma restrict_congr (h : ∀ name ∈ ms.names, p name = q name) : ms.restrict p = ms.restrict q :=
  List.filter_congr fun _ he => h _ (mem_names he)

lemma names_restrict (p : String → Bool) (ms : Members) :
    (ms.restrict p).names = ms.names.filter p := by
  rw [names, restrict, names, List.filter_map]
  rfl

lemma get?_restrict {name : String} (h : p name = true) :
    (ms.restrict p).get? name = ms.get? name := by
  simp only [get?]
  induction ms with
  | nil => rfl
  | cons e ms ih =>
      rw [restrict_cons, lookup_cons_eq]
      split_ifs with hp hname hname
      · rw [lookup_cons_eq, if_pos hname]
      · rw [lookup_cons_eq, if_neg hname, ih]
      · exact absurd (hname ▸ h) hp
      · exact ih

lemma restrict_insert (ms : Members) (name : String) (v : Value) :
    (ms.insert name v).restrict p
      = if p name then (ms.restrict p).insert name v else ms.restrict p := by
  induction ms with
  | nil => rw [insert, restrict_cons]; rfl
  | cons e ms ih =>
      obtain ⟨n, old⟩ := e
      rw [insert]
      by_cases hn : n = name
      · subst hn
        rw [if_pos rfl, restrict_cons, restrict_cons]
        split_ifs with hp
        · rw [insert, if_pos rfl]
        · rfl
      · rw [if_neg hn, restrict_cons, restrict_cons, ih]
        split_ifs
        · rw [insert, if_neg hn]
        all_goals rfl

lemma restrict_set (ms : Members) (v : Value) (path : KeyPath) :
    (ms.set v path).restrict p
      = if p (lowercase path.root) then (ms.restrict p).set v path else ms.restrict p := by
  obtain ⟨f, hf⟩ := exists_set_eq v path
  rw [hf, hf, restrict_insert]
  split_ifs with hp
  · rw [get?_restrict hp]
  · rfl

/-- **Layers with some of the names.**  What a source bears on other names can be left out. -/
theorem restrict_layer (ms source : Members) :
    (ms.layer source).restrict p
      = (ms.restrict p).layer (source.restrict fun name => p (target name)) := by
  induction source generalizing ms with
  | nil => rfl
  | cons e source ih =>
      rw [layer_cons, ih, restrict_set, restrict_cons]
      change (if p (target e.1) then _ else _ : Members).layer _ = _
      split_ifs
      · rw [layer_cons]
      · rfl

lemma restrict_ofList (entries : List (String × Value)) :
    (ofList entries).restrict p = ofList (entries.filter fun e => p e.1) := by
  induction entries using List.reverseRecOn with
  | nil => rfl
  | append_singleton entries e ih =>
      rw [ofList_concat, restrict_insert, ih, List.filter_append, List.filter_cons]
      split_ifs
      · exact (ofList_concat _ _).symm
      · exact congrArg ofList (List.append_nil _).symm

lemma ofList_replicate (n : Nat) (e : String × Value) :
    ofList (List.replicate (n + 1) e) = [e] := by
  induction n with
  | zero => rfl
  | succ n ih =>
      rw [List.replicate_succ', ofList_concat, ih, insert, if_pos rfl]

/-! ## Names -/

/-- A name is added behind all others, unless it is there. -/
def addName (names : List String) (name : String) : List String :=
  if name ∈ names then names else names ++ [name]

lemma mem_addName {names : List String} {other : String} (h : other ∈ names) (name : String) :
    other ∈ addName names name := by
  rw [addName]
  split_ifs
  · exact h
  · exact List.mem_append_left _ h

lemma names_set (ms : Members) (v : Value) (path : KeyPath) :
    (ms.set v path).names = addName ms.names (lowercase path.root) := by
  obtain ⟨v', hv'⟩ := ms.set_eq_insert v path
  rw [hv', names_insert, addName]

lemma names_layer (ms source : Members) :
    (ms.layer source).names = (source.names.map target).foldl addName ms.names := by
  induction source generalizing ms with
  | nil => rfl
  | cons e source ih =>
      rw [layer_cons, ih, names_set]
      rfl

lemma names_layer_congr (ms : Members) {source source' : Members}
    (h : source.names = source'.names) : (ms.layer source).names = (ms.layer source').names := by
  rw [names_layer, names_layer, h]

/-- Names that are there make no difference. -/
lemma foldl_addName_filter {known names : List String} (h : ∀ name ∈ known, name ∈ names)
    (added : List String) :
    added.foldl addName names = (added.filter (· ∉ known)).foldl addName names := by
  induction added generalizing names with
  | nil => rfl
  | cons name added ih =>
      have hrest := ih fun other hother => mem_addName (h other hother) name
      rw [List.foldl_cons, hrest, List.filter_cons]
      split_ifs with hknown
      · rw [List.foldl_cons]
      · have hmem : name ∈ names := h name (by simpa using hknown)
        rw [addName, if_pos hmem]

/-- What is laid over the names that are there adds no names. -/
lemma names_restrict_layer (p : String → Bool) (ms source : Members) :
    ((ms.layer source).restrict p).names
      = ((ms.layer (source.restrict fun name => target name ∉ ms.names)).restrict p).names := by
  have hnames : (ms.layer source).names
      = (ms.layer (source.restrict fun name => target name ∉ ms.names)).names := by
    rw [names_layer, names_layer, foldl_addName_filter fun _ => id, names_restrict,
      List.filter_map]
    rfl
  rw [names_restrict, names_restrict, hnames]

/-- Tables with the same names in the same order, and the same values, are equal. -/
lemma ext_of_names {ms ms' : Members} (hnodup : ms.names.Nodup) (hnames : ms.names = ms'.names)
    (h : ∀ name ∈ ms.names, ms.get? name = ms'.get? name) : ms = ms' := by
  have hnodup' : ms'.names.Nodup := hnames ▸ hnodup
  refine List.ext_getElem (by simpa [names] using congrArg List.length hnames) fun i hi hi' => ?_
  have hname : ms[i].1 = ms'[i].1 := by
    have hget := congrArg (·[i]?) hnames
    simpa [names, hi, hi'] using hget
  have hvalue : ms.get? ms[i].1 = some ms[i].2 := lookup_of_mem hnodup (List.getElem_mem hi)
  have hvalue' : ms'.get? ms'[i].1 = some ms'[i].2 :=
    lookup_of_mem hnodup' (List.getElem_mem hi')
  rw [h _ (mem_names (List.getElem_mem hi)), hname, hvalue'] at hvalue
  exact Prod.ext hname (Option.some.inj hvalue).symm

/-! ## Settings that are no texts -/

/-- The settings that are lists or tables, in the order of the table. -/
def unfit (settings : List String) (ms : Members) : Members :=
  ms.filter fun e => e.1 ∈ settings && !e.2.isScalar

lemma unfit_cons (settings : List String) (e : String × Value) (ms : Members) :
    unfit settings (e :: ms)
      = if e.1 ∈ settings ∧ e.2.isScalar = false then e :: ms.unfit settings
        else ms.unfit settings := by
  simp only [unfit, List.filter_cons, Bool.and_eq_true, decide_eq_true_eq, Bool.not_eq_true']

/-- Whether the value that a table has for a setting is a list or a table. -/
def isUnfit (settings : List String) (ms : Members) (name : String) : Bool :=
  name ∈ settings && (ms.get? name).any (!·.isScalar)

lemma unfit_eq_restrict (hnodup : ms.names.Nodup) (settings : List String) :
    ms.unfit settings = ms.restrict (ms.isUnfit settings) := by
  refine List.filter_congr fun e he => ?_
  have hget : ms.get? e.1 = some e.2 := lookup_of_mem hnodup he
  rw [isUnfit, hget, Option.any_some]

lemma scalar_of_unfit {settings : List String} (h : ms.unfit settings = []) :
    ∀ e ∈ ms, e.1 ∈ settings → e.2 = .null ∨ ∃ s, e.2 = .text s := by
  intro e he hkey
  have hfit := List.filter_eq_nil_iff.1 h e he
  exact Value.isScalar_iff.1 (by simpa [hkey] using hfit)

lemma isUnfit_congr {settings : List String} {ms ms' : Members}
    (h : ∀ key ∈ settings, ms.get? key = ms'.get? key) :
    ms.isUnfit settings = ms'.isUnfit settings := by
  funext name
  by_cases hname : name ∈ settings
  · rw [isUnfit, isUnfit, h name hname]
  · simp [isUnfit, hname]

end Members

lemma exists_textOf?_eq_ok {v : Value} (h : v.isScalar = true) (name : String) :
    ∃ found, textOf? name v = .ok found := by
  rcases Value.isScalar_iff.1 h with rfl | ⟨s, rfl⟩
  · exact ⟨none, rfl⟩
  · exact ⟨some s, rfl⟩

lemma exists_textOf?_eq_error {v : Value} (h : v.isScalar = false) (name : String) :
    ∃ f, textOf? name v = .error f := by
  cases v with
  | null => cases h
  | text s => cases h
  | list items origin => exact ⟨_, rfl⟩
  | table ms => exact ⟨_, rfl⟩

/-- The first setting that is no text is reported, and what stands behind it is not looked at. -/
lemma texts_of_unfit {settings : List String} {ms rest : Members} {e : String × Value}
    (h : ms.unfit settings = e :: rest) :
    ∃ f, textOf? e.1 e.2 = .error f ∧ texts settings ms = .error f := by
  induction ms with
  | nil => cases h
  | cons e' ms ih =>
      obtain ⟨name, v⟩ := e'
      rw [Members.unfit_cons] at h
      simp only [texts, List.contains_iff_mem]
      by_cases hname : name ∈ settings
      · rw [if_pos hname]
        cases hv : v.isScalar with
        | true =>
            rw [if_neg (by simp [hv])] at h
            obtain ⟨f, hf, htexts⟩ := ih h
            obtain ⟨found, hfound⟩ := exists_textOf?_eq_ok hv name
            refine ⟨f, hf, ?_⟩
            rw [hfound, htexts]
            rfl
        | false =>
            rw [if_pos ⟨hname, hv⟩] at h
            cases h
            obtain ⟨f, hf⟩ := exists_textOf?_eq_error hv name
            refine ⟨f, hf, ?_⟩
            rw [hf]
            rfl
      · rw [if_neg fun hunfit => hname hunfit.1] at h
        rw [if_neg hname]
        exact ih h

/-- **What reading the settings depends on**: their values, and which of those that are no texts comes
first.  Their places in the table do not matter otherwise. -/
theorem bind_texts_congr {α : Type} {settings : List String} {ms ms' : Members}
    (hnodup : ms.names.Nodup) (hnodup' : ms'.names.Nodup)
    (hvalues : ∀ key ∈ settings, ms.get? key = ms'.get? key)
    (hunfit : ms.unfit settings = ms'.unfit settings)
    {validate : List (String × String) → Except Failure α}
    (hvalidate : ∀ t t' : List (String × String),
      (∀ key ∈ settings, t.lookup key = t'.lookup key) → validate t = validate t') :
    (orFailure (texts settings ms)).bind validate
      = (orFailure (texts settings ms')).bind validate := by
  cases h : ms.unfit settings with
  | nil =>
      obtain ⟨found, htexts, hfound⟩ := exists_texts hnodup (Members.scalar_of_unfit h)
      obtain ⟨found', htexts', hfound'⟩ :=
        exists_texts hnodup' (Members.scalar_of_unfit (hunfit ▸ h))
      rw [htexts, htexts']
      refine hvalidate _ _ fun key hkey => ?_
      rw [hfound key hkey, hfound' key hkey, hvalues key hkey]
  | cons e rest =>
      obtain ⟨f, hf, htexts⟩ := texts_of_unfit h
      obtain ⟨f', hf', htexts'⟩ := texts_of_unfit (hunfit ▸ h)
      cases hf.symm.trans hf'
      rw [htexts, htexts']

end StandIn.Settings
