import Mathlib.Data.List.DropRight
import Mathlib.Tactic.Lemma
import StandIn.Proofs.Http.UriForm
import StandIn.Proofs.Text.Utf8
import StandIn.Relay.Target
import StandIn.Settings.Scheduler

/-!
# Where a request is sent

What a request asks for is moved onto the target by putting texts together and reading the result
again.  Reading could fail, or could find other parts than those that were put together.  It does
neither, except in two cases that can be told in advance: the text may get too long, and an
asterisk cannot stand in front of a query.

* `Target.Reaches` — the requests for which neither case arises.
* `Settings.isAbsolute_of_readScheduler` — what is known about the base of a relay that was set up.
* `Target.locate_eq` — the outcome in all cases.
* `Target.locate_of_parse` — the place of a request on a base that can be set up.
* `Target.not_every_request_reaches` — both obstacles are met by requests that can be read.
* `Target.same_place_iff` — two requests get to the same place exactly if they ask for the same.
-/

namespace StandIn

/-- The base of a relay is an absolute identifier. -/
lemma Settings.isAbsolute_of_readScheduler {value : String} {u : Http.Uri}
    (h : Settings.readScheduler value = .ok u) : u.IsAbsolute := by
  rw [Settings.readScheduler] at h
  dsimp only at h
  split at h
  · cases h
  rename_i u' hparse
  split at h
  · cases h
  rename_i s hs
  split_ifs at h with hweb ha
  cases h
  refine ⟨Http.Uri.form_of_parse hparse, ?_, ?_⟩
  · rw [hs]
    rfl
  · simpa [Option.isSome_iff_ne_none] using ha

namespace Relay

open Http Http.Uri

/-! ## Trimming the base -/

lemma toList_trimSlashes (s : String) :
    (Target.trimSlashes s).toList = s.toList.rdropWhile (· = '/') := by
  rw [Target.trimSlashes, String.toList_ofList]
  rfl

lemma mem_of_mem_trimSlashes {s : String} {c : Char} (h : c ∈ (Target.trimSlashes s).toList) :
    c ∈ s.toList := by
  rw [toList_trimSlashes] at h
  exact (List.rdropWhile_prefix _ _).subset h

lemma isRooted_trimSlashes {s : String} (h : IsRooted s) : IsRooted (Target.trimSlashes s) := by
  have hpre := List.rdropWhile_prefix (· = '/') s.toList
  rw [← toList_trimSlashes] at hpre
  rcases h with rfl | ⟨rest, hrest⟩
  · exact .inl rfl
  · rw [hrest, List.prefix_cons_iff] at hpre
    rcases hpre with hpre | ⟨rest', hpre, -⟩
    · exact .inl (String.toList_inj.1 hpre)
    · exact .inr ⟨rest', hpre⟩

namespace Target

/-! ## The joined text -/

lemma isQueryChar_of_mem_joinQueries {base own : Option String}
    (hbase : ∀ q ∈ base, ∀ c ∈ q.toList, isQueryChar c = true)
    (hown : ∀ q ∈ own, ∀ c ∈ q.toList, isQueryChar c = true) :
    ∀ q ∈ joinQueries base own, ∀ c ∈ q.toList, isQueryChar c = true := by
  intro q hq c hc
  cases base with
  | none =>
      cases own with
      | none => cases hq
      | some own => exact hown q hq c hc
  | some base =>
      cases own with
      | none => exact hbase q hq c hc
      | some own =>
          cases hq
          simp only [String.toList_append, List.mem_append] at hc
          rcases hc with (hc | hc) | hc
          · exact hbase base rfl c hc
          · have hand : c = '&' := by simpa using hc
            rw [hand]
            decide
          · exact hown own rfl c hc

lemma isPathAndQuery_joined {t : Target} {u : Uri} (hb : Form t.base) (hu : Form u) :
    IsPathAndQuery (trimSlashes t.base.path ++ u.path) (joinQueries t.base.query u.query) where
  path_chars := by
    intro c hc
    rw [String.toList_append, List.mem_append] at hc
    rcases hc with hc | hc
    · exact hb.isPathAndQuery.path_chars c (mem_of_mem_trimSlashes hc)
    · exact hu.isPathAndQuery.path_chars c hc
  query_chars := isQueryChar_of_mem_joinQueries hb.isPathAndQuery.query_chars
    hu.isPathAndQuery.query_chars

lemma toList_pathAndQuery (t : Target) (u : Uri) :
    (t.pathAndQuery u).toList = (trimSlashes t.base.path ++ u.path).toList
      ++ (querySuffix (joinQueries t.base.query u.query)).toList := by
  rw [pathAndQuery, String.toList_append]

/-- Whether the asterisk would come to stand in front of a query: the base has a query, and no path
that could stand in front of the asterisk. -/
def Misplaces (t : Target) (u : Uri) : Prop :=
  u.path = "*" ∧ trimSlashes t.base.path = "" ∧ t.base.query.isSome

instance (t : Target) (u : Uri) : Decidable (t.Misplaces u) :=
  inferInstanceAs (Decidable (_ ∧ _ ∧ _))

lemma startsAsPath_of_isRooted {path : String} (h : IsRooted path) (query : Option String) :
    startsAsPath (path.toList ++ (querySuffix query).toList) = true := by
  rcases h with rfl | ⟨rest, hrest⟩
  · cases query with
    | none => rfl
    | some q => simp [toList_querySuffix_some, startsAsPath]
  · simp [hrest, startsAsPath]

/-- Behind a path that is empty, the asterisk can only stand alone. -/
lemma startsAsPath_asterisk {path : String} (h : IsRooted path) (query : Option String) :
    startsAsPath ((path ++ "*").toList ++ (querySuffix query).toList) = true
      ↔ ¬(path = "" ∧ query.isSome) := by
  rcases h with rfl | ⟨rest, hrest⟩
  · cases query with
    | none => simp [toList_querySuffix_none, startsAsPath]
    | some q => simp [toList_querySuffix_some, startsAsPath]
  · have hne : path ≠ "" := fun h => by simp [h] at hrest
    simp [hne, hrest, startsAsPath]

/-- The joined text starts as a path does, unless an asterisk comes to stand in front of a query. -/
lemma startsAsPath_joined {t : Target} {u : Uri} (hb : IsRooted t.base.path) (hu : Form u) :
    startsAsPath (t.pathAndQuery u).toList = true ↔ ¬t.Misplaces u := by
  have hbase := isRooted_trimSlashes hb
  rw [toList_pathAndQuery]
  rcases hu.isRooted_path with rfl | hroot
  · have hquery : (joinQueries t.base.query none).isSome = t.base.query.isSome := by
      cases t.base.query <;> rfl
    have hpath : Uri.path ⟨none, none, "*", none⟩ = "*" := rfl
    rw [hpath, startsAsPath_asterisk hbase, hquery, Misplaces]
    simp [hpath]
  · have hplaced : ¬t.Misplaces u := fun h => not_isRooted_asterisk (h.1 ▸ hroot)
    simp only [startsAsPath_of_isRooted (hbase.append hroot), hplaced, not_false_eq_true]

/-! ## The outcome -/

/-- Whether what a request asks for has a place on the target. -/
def Reaches (t : Target) (u : Uri) : Prop :=
  (t.pathAndQuery u).utf8ByteSize ≤ maxSize ∧ ¬t.Misplaces u

instance (t : Target) (u : Uri) : Decidable (t.Reaches u) :=
  inferInstanceAs (Decidable (_ ∧ _))

/-- What a request asks for, on the target. -/
def located (t : Target) (u : Uri) : Uri where
  scheme := t.base.scheme
  authority := t.base.authority
  rawPath := trimSlashes t.base.path ++ u.path
  query := joinQueries t.base.query u.query

/-- **The outcome in all cases.**  Only the two known obstacles keep a request from its place, and
what is found there is what was put together: the target's scheme and authority, its path followed
by that of the request, and both queries. -/
theorem locate_eq {t : Target} {u : Uri} (hb : IsAbsolute t.base) (hu : Form u) :
    t.locate u
      = if maxSize < (t.pathAndQuery u).utf8ByteSize then
          .error (t.failure UriError.tooLong.message)
        else if t.Misplaces u then .error (t.failure UriError.noLeadingSlash.message)
        else .ok (t.located u) := by
  obtain ⟨s, hs⟩ := Option.isSome_iff_exists.1 hb.scheme
  obtain ⟨a, ha⟩ := Option.isSome_iff_exists.1 hb.authority
  have hread := pathAndQuery_append_querySuffix (isPathAndQuery_joined hb.form hu)
  rw [← toList_pathAndQuery] at hread
  rw [locate, ofParts, hs, ha]
  split_ifs with hlong hmis
  · rfl
  · rw [if_neg fun h => (startsAsPath_joined hb.isRooted_path hu).1 h hmis] at hread
    rw [hread]
    rfl
  · rw [if_pos ((startsAsPath_joined hb.isRooted_path hu).2 hmis)] at hread
    rw [hread, located, hs, ha]
    rfl

/-! ## Identifiers as they are read -/

/-- The path of what a request asks for, on the target.  It is the root if there is nothing else. -/
lemma path_located {t : Target} (hb : IsAbsolute t.base) (u : Uri) :
    (t.located u).path = if trimSlashes t.base.path ++ u.path = "" then "/"
      else trimSlashes t.base.path ++ u.path := by
  have hscheme : (t.located u).scheme.isSome = true := by
    simp only [located]
    exact hb.scheme
  simp only [path, hscheme, true_or, and_true]
  rfl

/-- **Where a request gets.**  The base is one that can be set up, and the request asks for
something that can be read.

If neither obstacle is met, there is a place on the target: its scheme and authority are those of
the base, whatever the request says; its path is that of the base without the slashes at its end,
followed by the path of the request; and both queries are kept.  Otherwise the failure tells which
obstacle it was. -/
theorem locate_of_parse {name value s : String} {base u : Uri}
    (hbase : Settings.readScheduler value = .ok base) (hu : parse s = .ok u) :
    let t : Target := ⟨name, base⟩
    let path := trimSlashes base.path ++ u.path
    (t.Reaches u → ∃ located, t.locate u = .ok located ∧
      located.scheme = base.scheme ∧ located.authority = base.authority ∧
      located.path = (if path = "" then "/" else path) ∧
      located.query = joinQueries base.query u.query) ∧
    (maxSize < (t.pathAndQuery u).utf8ByteSize →
      t.locate u = .error (.forward name "uri too long")) ∧
    ((t.pathAndQuery u).utf8ByteSize ≤ maxSize → t.Misplaces u →
      t.locate u = .error (.forward name "path does not start with slash")) := by
  intro t path
  have hb : IsAbsolute t.base := Settings.isAbsolute_of_readScheduler hbase
  have houtcome := locate_eq hb (form_of_parse hu)
  refine ⟨fun hreaches => ?_, fun hlong => ?_, fun hfits hmis => ?_⟩
  · rw [if_neg (Nat.not_lt.2 hreaches.1), if_neg hreaches.2] at houtcome
    exact ⟨_, houtcome, rfl, rfl, path_located hb u, rfl⟩
  · rw [houtcome, if_pos hlong]
    rfl
  · rw [houtcome, if_neg (Nat.not_lt.2 hfits), if_pos hmis]
    rfl

/-- Slashes at the end of the base are dropped, and an empty query counts. -/
theorem locate_of_empty_query :
    ∃ located, (⟨defaultName, ⟨some "http", some "h:80", "/base//", some "t=1"⟩⟩ : Target).locate
        ⟨some "http", some "elsewhere", "/a/b", some ""⟩ = .ok located ∧
      located.authority = some "h:80" ∧ located.path = "/base/a/b" ∧
      located.query = some "t=1&" := by
  have hread : Settings.readScheduler "http://h:80/base//?t=1"
      = .ok ⟨some "http", some "h:80", "/base//", some "t=1"⟩ := by rfl
  have hparse : parse "http://elsewhere/a/b?"
      = .ok ⟨some "http", some "elsewhere", "/a/b", some ""⟩ := by rfl
  obtain ⟨located, hlocate, -, hauthority, hpath, hquery⟩ :=
    (@locate_of_parse defaultName _ _ _ _ hread hparse).1 (by decide +kernel)
  exact ⟨located, hlocate, hauthority, hpath.trans (by decide +kernel), hquery.trans (by rfl)⟩

/-- A path of one slash and `n` letters. -/
def longPath (n : Nat) : String := String.ofList ('/' :: List.replicate n 'a')

lemma toList_longPath (n : Nat) : (longPath n).toList = '/' :: List.replicate n 'a' := by
  rw [longPath, String.toList_ofList]

lemma utf8ByteSize_longPath (n : Nat) : (longPath n).utf8ByteSize = n + 1 := by
  rw [← Utf8.length_encode, Utf8.encode, toList_longPath, List.flatMap_cons, List.length_append,
    List.length_flatMap, List.map_replicate, List.sum_replicate_nat]
  exact (Nat.add_comm _ _).trans (congrArg (· + 1) (Nat.mul_one n))

lemma parse_longPath {n : Nat} (h : n + 1 ≤ maxSize) :
    parse (longPath n) = .ok ⟨none, none, longPath n, none⟩ := by
  refine parse_of_isPathChar (toList_longPath n) (fun c hc => ?_) (by rwa [utf8ByteSize_longPath])
  rw [toList_longPath, List.mem_cons] at hc
  rcases hc with rfl | hc
  · decide
  · rw [List.eq_of_mem_replicate hc]
    decide

/-- **Both obstacles are met.**  The bases can be set up and the requests can be read; and yet there
is no place for the asterisk in front of a query, nor for a path of the greatest length behind
another one. -/
theorem not_every_request_reaches :
    let bare : Uri := ⟨some "http", some "h", "", some "t=1"⟩
    let asterisk : Uri := ⟨none, none, "*", none⟩
    let deep : Uri := ⟨some "http", some "h", "/b", none⟩
    let long : Uri := ⟨none, none, longPath 65533, none⟩
    (Settings.readScheduler "http://h?t=1" = .ok bare ∧ parse "*" = .ok asterisk ∧
      locate ⟨defaultName, bare⟩ asterisk
        = .error (.forward defaultName "path does not start with slash")) ∧
    (Settings.readScheduler "http://h/b" = .ok deep ∧ parse (longPath 65533) = .ok long ∧
      locate ⟨defaultName, deep⟩ long = .error (.forward defaultName "uri too long")) := by
  intro bare asterisk deep long
  have hdeep : Settings.readScheduler "http://h/b" = .ok deep := by rfl
  have hparse : parse (longPath 65533) = .ok long := parse_longPath (by decide)
  refine ⟨by decide +kernel, hdeep, hparse, ?_⟩
  have hlong : maxSize < (pathAndQuery ⟨defaultName, deep⟩ long).utf8ByteSize := by
    have hpath : Uri.path long = longPath 65533 := by
      rw [Uri.path, if_neg]
      simp [long]
    rw [pathAndQuery, String.utf8ByteSize_append, String.utf8ByteSize_append, hpath,
      utf8ByteSize_longPath]
    have hbase : (trimSlashes (⟨defaultName, deep⟩ : Target).base.path).utf8ByteSize = 2 := by
      decide +kernel
    have hmax : maxSize = 65534 := rfl
    omega
  rw [locate_eq (Settings.isAbsolute_of_readScheduler hdeep) (form_of_parse hparse), if_pos hlong]
  rfl

/-! ## Requests kept apart -/

/-- Different queries stay different, also if one of them is absent or empty. -/
lemma joinQueries_inj {base own₁ own₂ : Option String} :
    joinQueries base own₁ = joinQueries base own₂ ↔ own₁ = own₂ := by
  refine ⟨fun h => ?_, congrArg _⟩
  cases base with
  | none =>
      have halone (own : Option String) : joinQueries none own = own := by cases own <;> rfl
      rwa [halone, halone] at h
  | some b =>
      -- a query of its own makes the joined one longer, even if it is empty
      have hlonger (q : String) : b ++ "&" ++ q ≠ b := by
        intro h
        have hlength := congrArg String.length h
        have hand : "&".length = 1 := rfl
        rw [String.length_append, String.length_append] at hlength
        omega
      cases own₁ with
      | none =>
          cases own₂ with
          | none => rfl
          | some q => exact absurd (Option.some.inj h).symm (hlonger q)
      | some q =>
          cases own₂ with
          | none => exact absurd (Option.some.inj h) (hlonger q)
          | some q' =>
              have htexts := congrArg String.toList (Option.some.inj h)
              simp only [String.toList_append, List.append_right_inj] at htexts
              rw [String.toList_inj.1 htexts]

lemma eq_located_of_locate {t : Target} {u w : Uri} (hb : IsAbsolute t.base) (hu : Form u)
    (h : t.locate u = .ok w) : w = t.located u := by
  rw [locate_eq hb hu] at h
  split_ifs at h
  exact (Except.ok.inj h).symm

lemma path_located_of_ne {t : Target} (hb : IsAbsolute t.base) {u : Uri} (hne : u.path ≠ "") :
    (t.located u).path = trimSlashes t.base.path ++ u.path := by
  rw [path_located hb, if_neg]
  intro hempty
  have hlist := congrArg String.toList hempty
  rw [String.toList_append, String.toList_empty, List.append_eq_nil_iff] at hlist
  exact hne (String.toList_inj.1 hlist.2)

/-- **Requests are kept apart.**  The base is one that can be set up, and two requests that can be
read have a path.  They get to the same path and query exactly if they ask for the same path and
query; an absent query and an empty one are different. -/
theorem same_place_iff {name value s₁ s₂ : String} {base u₁ u₂ w₁ w₂ : Uri}
    (hbase : Settings.readScheduler value = .ok base)
    (hu₁ : parse s₁ = .ok u₁) (hu₂ : parse s₂ = .ok u₂)
    (hne₁ : u₁.path ≠ "") (hne₂ : u₂.path ≠ "")
    (hw₁ : locate ⟨name, base⟩ u₁ = .ok w₁) (hw₂ : locate ⟨name, base⟩ u₂ = .ok w₂) :
    w₁.path = w₂.path ∧ w₁.query = w₂.query ↔ u₁.path = u₂.path ∧ u₁.query = u₂.query := by
  have hb : IsAbsolute (⟨name, base⟩ : Target).base := Settings.isAbsolute_of_readScheduler hbase
  obtain rfl := eq_located_of_locate hb (form_of_parse hu₁) hw₁
  obtain rfl := eq_located_of_locate hb (form_of_parse hu₂) hw₂
  refine and_congr ?_ joinQueries_inj
  rw [path_located_of_ne hb hne₁, path_located_of_ne hb hne₂, ← String.toList_inj,
    String.toList_append, String.toList_append, List.append_right_inj, String.toList_inj]

/-- Behind the query of the base, an empty query leaves a trace. -/
theorem empty_query_kept_apart :
    let t : Target := ⟨defaultName, ⟨some "http", some "h", "/b/", some "t=1"⟩⟩
    ∃ w₁ w₂, t.locate ⟨some "http", some "elsewhere", "/a", some ""⟩ = .ok w₁ ∧
      t.locate ⟨none, none, "/a", none⟩ = .ok w₂ ∧
      ¬(w₁.path = w₂.path ∧ w₁.query = w₂.query) := by
  intro t
  have hread : Settings.readScheduler "http://h/b/?t=1" = .ok t.base := by rfl
  have hu₁ : parse "http://elsewhere/a?" = .ok ⟨some "http", some "elsewhere", "/a", some ""⟩ := by
    rfl
  have hu₂ : parse "/a" = .ok ⟨none, none, "/a", none⟩ := by rfl
  have hw₁ : t.locate ⟨some "http", some "elsewhere", "/a", some ""⟩
      = .ok ⟨some "http", some "h", "/b/a", some "t=1&"⟩ := by decide +kernel
  have hw₂ : t.locate ⟨none, none, "/a", none⟩
      = .ok ⟨some "http", some "h", "/b/a", some "t=1"⟩ := by decide +kernel
  refine ⟨_, _, hw₁, hw₂, fun hsame => ?_⟩
  have hqueries := (same_place_iff hread hu₁ hu₂ (by decide) (by decide) hw₁ hw₂).1 hsame
  exact absurd hqueries.2 (by decide)

/-- A bare authority has no path, and gets to where the root is. -/
example :
    let t : Target := ⟨defaultName, ⟨some "http", some "h", "", none⟩⟩
    (t.locate ⟨none, some "x:1", "", none⟩).map path = .ok "/" ∧
      (t.locate ⟨none, none, "/", none⟩).map path = .ok "/" := by
  decide +kernel

end Target

end Relay

end StandIn
