import Mathlib.Data.List.TakeWhile
import Mathlib.Tactic.Lemma
import StandIn.Http.Uri.Parser
import StandIn.Proofs.Basic

/-!
# The forms of resource identifiers

`Uri` has more values than there are identifiers: a bare authority with a path, or a path with a
hash in it, could be written down but are never read.  Whatever is said about requests is about
identifiers that were read, and those have one of four forms.

* `Uri.IsPathAndQuery` — the characters that a path and a query are made of.
* `Uri.Form` — the four forms: asterisk, path, bare authority and absolute identifier.
* `Uri.form_of_parse` — whatever is read has one of them.
* `Uri.IsAbsolute` — the identifiers that tell where a request goes.
* `Uri.pathAndQuery_append_querySuffix` — a path and a query that were put together are read back.
* `Uri.parse_of_isPathChar` — a path from the root is read as it stands.
* `Uri.observed_eq_iff` — path and query as one text can only be a given path if there is no query.
-/

namespace StandIn.Http.Uri

/-! ## Paths and queries -/

/-- A path and a query that consist of the characters for them. -/
structure IsPathAndQuery (path : String) (query : Option String) : Prop where
  path_chars : ∀ c ∈ path.toList, isPathChar c = true
  query_chars : ∀ q ∈ query, ∀ c ∈ q.toList, isQueryChar c = true

/-- A path that is empty or starts at the root. -/
def IsRooted (path : String) : Prop :=
  path = "" ∨ ∃ rest, path.toList = '/' :: rest

lemma IsRooted.append {s t : String} (hs : IsRooted s) (ht : IsRooted t) : IsRooted (s ++ t) := by
  rcases hs with rfl | ⟨rest, hrest⟩
  · rwa [String.empty_append]
  · exact .inr ⟨rest ++ t.toList, by rw [String.toList_append, hrest, List.cons_append]⟩

lemma not_isRooted_asterisk : ¬IsRooted "*" := by
  rintro (h | ⟨rest, h⟩)
  · exact absurd h (by decide)
  · simp at h

lemma ne_hash_of_isPathChar {c : Char} (h : isPathChar c = true) : c ≠ '#' := by
  rintro rfl
  exact absurd h (by decide)

lemma ne_question_of_isPathChar {c : Char} (h : isPathChar c = true) : c ≠ '?' := by
  rintro rfl
  exact absurd h (by decide)

lemma ne_hash_of_isQueryChar {c : Char} (h : isQueryChar c = true) : c ≠ '#' := by
  rintro rfl
  exact absurd h (by decide)

/-- What a path with a query was read from: the path is what stands in front of the first question
mark or hash. -/
lemma of_pathAndQuery {cs : List Char} {path : String} {query : Option String}
    (h : pathAndQuery cs = .ok (path, query)) :
    IsPathAndQuery path query ∧
      path.toList = (cs.takeWhile (· ≠ '#')).takeWhile (· ≠ '?') := by
  rw [pathAndQuery] at h
  split at h
  · cases h
  dsimp only at h
  split at h
  · cases h
  rename_i hchars
  simp only [Bool.or_eq_true, Bool.not_eq_true', not_or, Bool.not_eq_false,
    List.all_eq_true] at hchars
  obtain ⟨rfl, rfl⟩ := Prod.mk.inj (Except.ok.inj h)
  refine ⟨⟨?_, ?_⟩, String.toList_ofList⟩
  · rw [String.toList_ofList]
    exact hchars.1
  · intro q hq c hc
    split_ifs at hq
    · cases hq
      rw [String.toList_ofList] at hc
      exact hchars.2 c hc
    · cases hq

/-- Where a path may begin, it begins at the root or is empty. -/
lemma isRooted_of_pathAndQuery {cs : List Char} {path : String} {query : Option String}
    (h : pathAndQuery cs = .ok (path, query))
    (hcs : ∀ c rest, cs = c :: rest → Authority.isEnd c = true) : IsRooted path := by
  have hpath := (of_pathAndQuery h).2
  cases cs with
  | nil => exact .inl (by simpa using hpath)
  | cons c rest =>
      have hc := hcs c rest rfl
      simp only [Authority.isEnd, Bool.or_eq_true, decide_eq_true_eq] at hc
      obtain (rfl | rfl) | rfl := hc
      · exact .inr ⟨_, by rw [hpath, List.takeWhile_cons_of_pos (by decide),
          List.takeWhile_cons_of_pos (by decide)]⟩
      · exact .inl (by simpa using hpath)
      · exact .inl (by simpa using hpath)

/-! ## Forms -/

/-- The forms in which identifiers occur. -/
inductive Form : Uri → Prop where
  | asterisk : Form ⟨none, none, "*", none⟩
  | origin {path : String} {query : Option String} (hchars : IsPathAndQuery path query)
      (hroot : ∃ rest, path.toList = '/' :: rest) : Form ⟨none, none, path, query⟩
  | authority (a : String) : Form ⟨none, some a, "", none⟩
  | absolute (s a : String) {path : String} {query : Option String}
      (hchars : IsPathAndQuery path query) (hroot : IsRooted path) :
      Form ⟨some s, some a, path, query⟩

lemma form_of_ofPath {rest : List Char} {u : Uri} (h : ofPath ('/' :: rest) = .ok u) : Form u := by
  rw [ofPath, map_eq_ok_iff] at h
  obtain ⟨⟨path, query⟩, hread, rfl⟩ := h
  obtain ⟨hchars, hpath⟩ := of_pathAndQuery hread
  rw [List.takeWhile_cons_of_pos (by decide), List.takeWhile_cons_of_pos (by decide)] at hpath
  exact .origin hchars ⟨_, hpath⟩

lemma form_of_ofAuthority {cs : List Char} {excess : UriError} {u : Uri}
    (h : ofAuthority cs excess = .ok u) : Form u := by
  rw [ofAuthority, bind_eq_ok_iff] at h
  obtain ⟨⟨front, rest⟩, -, h⟩ := h
  dsimp only at h
  split_ifs at h
  cases h
  exact .authority _

/-- An authority ends where a path may begin. -/
lemma isEnd_of_split {cs front rest : List Char} (h : Authority.split cs = .ok (front, rest)) :
    ∀ c r, rest = c :: r → Authority.isEnd c = true := by
  rw [Authority.split] at h
  split at h
  · cases h
  obtain ⟨s, -, h⟩ := bind_eq_ok_iff.1 h
  split_ifs at h
  obtain ⟨rfl, rfl⟩ := Prod.mk.inj (Except.ok.inj h)
  intro c r hr
  rw [drop_length_takeWhile] at hr
  simpa using not_of_dropWhile_eq_cons hr

lemma form_of_ofAbsolute {scheme : String} {cs : List Char} {u : Uri}
    (h : ofAbsolute scheme cs = .ok u) : Form u := by
  rw [ofAbsolute, bind_eq_ok_iff] at h
  obtain ⟨⟨front, rest⟩, hsplit, h⟩ := h
  dsimp only at h
  split_ifs at h
  obtain ⟨⟨path, query⟩, hread, rfl⟩ := map_eq_ok_iff.1 h
  exact .absolute _ _ (of_pathAndQuery hread).1
    (isRooted_of_pathAndQuery hread (isEnd_of_split hsplit))

/-- **Whatever is read has one of the four forms.** -/
theorem form_of_parse {s : String} {u : Uri} (h : parse s = .ok u) : Form u := by
  rw [parse] at h
  split at h
  · cases h
  split at h
  · cases h
  · cases h
    exact .asterisk
  · exact form_of_ofPath h
  · split_ifs at h
    · exact form_of_ofAuthority h
    · obtain ⟨⟨scheme, rest⟩, -, h⟩ := bind_eq_ok_iff.1 h
      cases scheme with
      | none => exact form_of_ofAuthority h
      | some scheme => exact form_of_ofAbsolute h

/-- An identifier that tells where a request goes. -/
structure IsAbsolute (u : Uri) : Prop where
  form : Form u
  scheme : u.scheme.isSome
  authority : u.authority.isSome

/-- The path that counts is rooted as well, the asterisk apart. -/
lemma Form.isRooted_path {u : Uri} (hu : Form u) :
    u = ⟨none, none, "*", none⟩ ∨ IsRooted u.path := by
  cases hu with
  | asterisk => exact .inl rfl
  | origin _ hroot =>
      rw [path]
      split_ifs
      · exact .inr (.inr ⟨[], rfl⟩)
      · exact .inr (.inr hroot)
  | authority a => exact .inr (.inl rfl)
  | absolute s a _ hroot =>
      rw [path]
      split_ifs
      · exact .inr (.inr ⟨[], rfl⟩)
      · exact .inr hroot

lemma IsAbsolute.isRooted_path {u : Uri} (hu : IsAbsolute u) : IsRooted u.path := by
  rcases hu.form.isRooted_path with h | h
  · have hscheme := hu.scheme
    rw [h] at hscheme
    cases hscheme
  · exact h

lemma Form.isPathAndQuery {u : Uri} (hu : Form u) : IsPathAndQuery u.path u.query := by
  have hraw : IsPathAndQuery u.rawPath u.query := by
    cases hu with
    | asterisk => exact ⟨List.all_eq_true.1 (by decide), by simp⟩
    | origin hchars => exact hchars
    | authority a => exact ⟨by simp, by simp⟩
    | absolute s a hchars => exact hchars
  refine ⟨?_, hraw.query_chars⟩
  rw [path]
  split_ifs
  · exact List.all_eq_true.1 (by decide)
  · exact hraw.path_chars

/-! ## Putting paths and queries together -/

lemma toList_querySuffix_none : (querySuffix none).toList = [] := rfl

lemma toList_querySuffix_some (q : String) : (querySuffix (some q)).toList = '?' :: q.toList := by
  rw [querySuffix, String.toList_append]
  rfl

/-- **A path and a query that were put together are read back**, if the whole may start as it does.
Neither of them can hold a hash, and the path no question mark, so nothing is cut off and the parts
are found again. -/
theorem pathAndQuery_append_querySuffix {path : String} {query : Option String}
    (h : IsPathAndQuery path query) :
    pathAndQuery (path.toList ++ (querySuffix query).toList)
      = if startsAsPath (path.toList ++ (querySuffix query).toList) then .ok (path, query)
        else .error .noLeadingSlash := by
  have hshown : (path.toList ++ (querySuffix query).toList).takeWhile (· ≠ '#')
      = path.toList ++ (querySuffix query).toList := by
    refine List.takeWhile_eq_self_iff.2 fun c hc => decide_eq_true ?_
    rcases List.mem_append.1 hc with hc | hc
    · exact ne_hash_of_isPathChar (h.path_chars c hc)
    · cases query with
      | none => simp [toList_querySuffix_none] at hc
      | some q =>
          rw [toList_querySuffix_some, List.mem_cons] at hc
          rcases hc with rfl | hc
          · decide
          · exact ne_hash_of_isQueryChar (h.query_chars q rfl c hc)
  have hpath : (path.toList ++ (querySuffix query).toList).takeWhile (· ≠ '?') = path.toList := by
    rw [List.takeWhile_append_of_pos fun c hc =>
      decide_eq_true (ne_question_of_isPathChar (h.path_chars c hc))]
    cases query with
    | none => simp [toList_querySuffix_none]
    | some q => simp [toList_querySuffix_some]
  have hquery : ((querySuffix query).toList.tail).all isQueryChar = true := by
    cases query with
    | none => rfl
    | some q =>
        rw [toList_querySuffix_some, List.tail_cons, List.all_eq_true]
        exact h.query_chars q rfl
  rw [pathAndQuery]
  dsimp only
  rw [hshown, hpath, List.drop_left, List.all_eq_true.2 h.path_chars, hquery]
  by_cases hstart : startsAsPath (path.toList ++ (querySuffix query).toList) = true
  · rw [hstart]
    cases query with
    | none => simp [toList_querySuffix_none]
    | some q => simp [toList_querySuffix_some]
  · simp [hstart]

/-- A path from the root is read as it stands, if it is not too long. -/
lemma parse_of_isPathChar {path : String} {rest : List Char} (hroot : path.toList = '/' :: rest)
    (hchars : ∀ c ∈ path.toList, isPathChar c = true) (hsize : path.utf8ByteSize ≤ maxSize) :
    parse path = .ok ⟨none, none, path, none⟩ := by
  have hpath : IsPathAndQuery path none := ⟨hchars, by simp⟩
  have hread := pathAndQuery_append_querySuffix hpath
  rw [toList_querySuffix_none, List.append_nil, hroot, if_pos (by rfl)] at hread
  rw [parse, if_neg (Nat.not_lt.2 hsize), hroot]
  simp only
  rw [ofPath, hread]
  rfl

/-! ## Path and query as one text -/

/-- A text without a question mark is a path with its query only if there is no query. -/
lemma append_querySuffix_eq_iff {path p : String} {query : Option String}
    (hquestion : '?' ∉ p.toList) : path ++ querySuffix query = p ↔ path = p ∧ query = none := by
  cases query with
  | none => simp [querySuffix]
  | some q =>
      refine ⟨fun h => absurd ?_ hquestion, fun h => by simp at h⟩
      rw [← h, String.toList_append, toList_querySuffix_some]
      simp

/-- Apart from the root, the path is as it was written. -/
lemma path_eq_iff {u : Uri} {p : String} (hempty : p ≠ "") (hroot : p ≠ "/") :
    u.path = p ↔ u.rawPath = p := by
  rw [path]
  split_ifs with h
  · rw [h.1]
    exact ⟨fun hp => absurd hp.symm hroot, fun hp => absurd hp.symm hempty⟩
  · rfl

/-- Only an identifier without a query can have a given path as its path and query.  The root is
an exception: an absolute identifier may leave it out. -/
theorem observed_eq_iff {u : Uri} (hu : Form u) {p : String} (hquestion : '?' ∉ p.toList)
    (hempty : p ≠ "") (hroot : p ≠ "/") :
    u.pathAndQuery?.getD u.path = p ↔ u.path = p ∧ u.query = none := by
  have written : (if u.rawPath ++ querySuffix u.query = "" then "/"
      else u.rawPath ++ querySuffix u.query) = p ↔ u.rawPath = p ∧ u.query = none := by
    rw [← append_querySuffix_eq_iff hquestion]
    split_ifs with hw
    · rw [hw]
      exact ⟨fun h => absurd h.symm hroot, fun h => absurd h.symm hempty⟩
    · rfl
  rw [path_eq_iff hempty hroot]
  cases hu with
  | asterisk => exact written
  | origin => exact written
  | authority a => simp [pathAndQuery?, path]
  | absolute => exact written

end StandIn.Http.Uri
