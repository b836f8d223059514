import Mathlib.Data.List.Basic
import Mathlib.Tactic.Lemma
import StandIn.Pem

/-!
# What a PEM file says

A reader takes one line after another.  Here the same files are described from outside: which lines
are a section, what it holds, and where a file cannot be read on.  Every file is described in
exactly one way, and this is how it is read.

* `lines` — the lines of a file, each with its end.
* `scan` — the reader as one walk along the lines, `sections_eq_scan`.
* `Encloses`, `Spans` — the lines inside a section, and the lines of a section.
* `Breaks` — the lines that cannot be read, and why.
* `Reads` — what a file says: its known sections in order, and the fault at which it ends, if any.
* `exists_reads` — every file says something.
* `sections_eq_outcome_iff` — it is what is read.
-/

namespace StandIn.Pem

/-! ## Lines -/

/-- The lines of a file, each with its end, which only the last one may lack. -/
def lines : Octets → List Octets
  | [] => []
  | b :: bs =>
    if isLineEnd b then [b] :: lines bs
    else
      match lines bs with
      | [] => [[b]]
      | line :: rest => (b :: line) :: rest

/-- Nothing but the lines makes up a file. -/
lemma flatten_lines (bs : Octets) : (lines bs).flatten = bs := by
  induction bs with
  | nil => rfl
  | cons b bs ih =>
      rw [lines]
      split_ifs
      · rw [List.flatten_cons, ih, List.singleton_append]
      · cases hlines : lines bs with
        | nil =>
            rw [← ih, hlines]
            rfl
        | cons line rest =>
            rw [← ih, hlines]
            rfl

lemma lines_eq {bs : Octets} (h : bs ≠ []) :
    lines bs = (splitLine bs).1 :: lines (splitLine bs).2 := by
  induction bs with
  | nil => exact absurd rfl h
  | cons b bs ih =>
      rw [lines, splitLine]
      split_ifs
      · rfl
      · by_cases hbs : bs = []
        · rw [hbs]
          rfl
        · rw [ih hbs]

/-- A line that has an end is apart from what follows. -/
lemma lines_append (bs rest : Octets) {e : UInt8} (he : isLineEnd e = true) :
    lines (bs ++ e :: rest) = lines (bs ++ [e]) ++ lines rest := by
  induction bs with
  | nil => simp [lines, he]
  | cons b bs ih =>
      rw [List.cons_append, List.cons_append, lines, lines, ih]
      split_ifs
      · rfl
      · obtain ⟨line, later, hlater⟩ := List.exists_cons_of_ne_nil
          (show lines (bs ++ [e]) ≠ [] by
            intro hnil
            have hflat := flatten_lines (bs ++ [e])
            rw [hnil] at hflat
            simp at hflat)
        rw [hlater]
        rfl

/-- The line begins a section, if only it does so as it must. -/
abbrev IsBegin (line : Octets) : Prop :=
  beginMark <+: line

/-- The line ends a section of the label, whatever stands behind the label. -/
abbrev IsEnd (label line : Octets) : Prop :=
  endMark ++ label <+: line

/-! ## The reader along the lines -/

/-- The known sections in some lines up to the first fault.  `label` is that of the section that is
open, and `content` what it held so far. -/
def scan (label : Option Octets) (content : Octets) : List Octets → List (Except Fault Section)
  | [] => (label.map fun l => .error (.missingEnd l)).toList
  | line :: rest =>
    if IsBegin line then
      match beginLabel line with
      | .error f => [.error f]
      | .ok l => scan (some l) content rest
    else
      match label with
      | none => scan none content rest
      | some l =>
        if IsEnd l line then
          match Kind.ofLabel? l with
          | none => scan none [] rest
          | some kind =>
            match Base64.decode content with
            | .error f => [.error (.content f)]
            | .ok der => .ok ⟨kind, der⟩ :: scan none [] rest
        else scan (some l) (content ++ line) rest

section Steps

variable {opened : Option Octets} {label content line : Octets} {rest : List Octets}

lemma scan_cons (opened : Option Octets) (content line : Octets) (rest : List Octets) :
    scan opened content (line :: rest) =
      if IsBegin line then
        match beginLabel line with
        | .error f => [.error f]
        | .ok l => scan (some l) content rest
      else
        match opened with
        | none => scan none content rest
        | some l =>
          if IsEnd l line then
            match Kind.ofLabel? l with
            | none => scan none [] rest
            | some kind =>
              match Base64.decode content with
              | .error f => [.error (.content f)]
              | .ok der => .ok ⟨kind, der⟩ :: scan none [] rest
          else scan (some l) (content ++ line) rest := by
  cases opened <;> rfl

lemma scan_illegal {f : Fault} (hbegin : IsBegin line) (hlabel : beginLabel line = .error f) :
    scan opened content (line :: rest) = [.error f] := by
  rw [scan_cons, if_pos hbegin, hlabel]

lemma scan_begin (hbegin : IsBegin line) (hlabel : beginLabel line = .ok label) :
    scan opened content (line :: rest) = scan (some label) content rest := by
  rw [scan_cons, if_pos hbegin, hlabel]

lemma scan_text (h : ¬IsBegin line) :
    scan none content (line :: rest) = scan none content rest := by
  rw [scan_cons, if_neg h]

lemma scan_line (hbegin : ¬IsBegin line) (hend : ¬IsEnd label line) :
    scan (some label) content (line :: rest) = scan (some label) (content ++ line) rest := by
  rw [scan_cons, if_neg hbegin]
  exact if_neg hend

lemma scan_end (hbegin : ¬IsBegin line) (hend : IsEnd label line) :
    scan (some label) content (line :: rest) =
      match Kind.ofLabel? label with
      | none => scan none [] rest
      | some kind =>
        match Base64.decode content with
        | .error f => [.error (.content f)]
        | .ok der => .ok ⟨kind, der⟩ :: scan none [] rest := by
  rw [scan_cons, if_neg hbegin]
  exact if_pos hend

/-- A section of no known kind is not looked into. -/
lemma scan_end_foreign (hbegin : ¬IsBegin line) (hend : IsEnd label line)
    (hkind : Kind.ofLabel? label = none) :
    scan (some label) content (line :: rest) = scan none [] rest := by
  rw [scan_end hbegin hend, hkind]

lemma scan_end_known {kind : Kind} {der : Octets} (hbegin : ¬IsBegin line)
    (hend : IsEnd label line) (hkind : Kind.ofLabel? label = some kind)
    (hder : Base64.decode content = .ok der) :
    scan (some label) content (line :: rest) = .ok ⟨kind, der⟩ :: scan none [] rest := by
  rw [scan_end hbegin hend, hkind, hder]

lemma scan_end_broken {kind : Kind} {f : Base64.Fault} (hbegin : ¬IsBegin line)
    (hend : IsEnd label line) (hkind : Kind.ofLabel? label = some kind)
    (hfault : Base64.decode content = .error f) :
    scan (some label) content (line :: rest) = [.error (.content f)] := by
  rw [scan_end hbegin hend, hkind, hfault]

end Steps

/-- Up to the end of the next known section, the reader of sections walks along the lines. -/
lemma scan_lines (label : Option Octets) (content bs : Octets) :
    scan label content (lines bs) =
      match next label content bs with
      | .error f => [.error f]
      | .ok none => []
      | .ok (some (s, rest)) => .ok s :: scan none [] (lines rest) := by
  fun_induction next label content bs with
  | case1 => rfl
  | case2 => rfl
  | case3 label content bs hbs line rest _ hbegin f hlabel =>
      rw [List.isPrefixOf_iff_prefix] at hbegin
      rw [lines_eq hbs, scan_illegal hbegin hlabel]
  | case4 label content bs hbs line rest _ hbegin l hlabel ih =>
      rw [List.isPrefixOf_iff_prefix] at hbegin
      rw [lines_eq hbs, scan_begin hbegin hlabel, ih]
  | case5 content bs hbs line rest _ hbegin ih =>
      rw [List.isPrefixOf_iff_prefix] at hbegin
      rw [lines_eq hbs, scan_text hbegin, ih]
  | case6 content bs hbs line rest _ hbegin l hend hkind ih =>
      rw [List.isPrefixOf_iff_prefix] at hbegin hend
      rw [lines_eq hbs, scan_end_foreign hbegin hend hkind, ih]
  | case7 content bs hbs line rest _ hbegin l hend kind hkind f hdecode =>
      rw [List.isPrefixOf_iff_prefix] at hbegin hend
      rw [lines_eq hbs, scan_end_broken hbegin hend hkind hdecode]
  | case8 content bs hbs line rest _ hbegin l hend kind hkind der hdecode =>
      rw [List.isPrefixOf_iff_prefix] at hbegin hend
      rw [lines_eq hbs, scan_end_known hbegin hend hkind hdecode]
  | case9 content bs hbs line rest _ hbegin l hend ih =>
      rw [List.isPrefixOf_iff_prefix] at hbegin hend
      rw [lines_eq hbs, scan_line hbegin hend, ih]

theorem sections_eq_scan (bs : Octets) : sections bs = scan none [] (lines bs) := by
  fun_induction sections bs with
  | case1 bs f h => rw [scan_lines, h]
  | case2 bs h => rw [scan_lines, h]
  | case3 bs s rest h _ ih => rw [scan_lines, h, ih]

/-! ## Sections as lines -/

/-- The line begins a section of the label, as it must. -/
structure Opens (label line : Octets) : Prop where
  isBegin : IsBegin line
  beginLabel_eq : beginLabel line = .ok label

/-- The lines stand inside a section that was opened with the label.  Behind them it is open with
the label `final`, because another section may begin within it, and they hold `content`. -/
inductive Encloses : (label : Octets) → List Octets → (final content : Octets) → Prop
  | nil {label : Octets} : Encloses label [] label []
  | line {label line final content : Octets} {rest : List Octets} :
    ¬IsBegin line → ¬IsEnd label line → Encloses label rest final content →
      Encloses label (line :: rest) final (line ++ content)
  | reopen {label other line final content : Octets} {rest : List Octets} :
    Opens other line → Encloses other rest final content →
      Encloses label (line :: rest) final content

/-- The lines are a section, from the one that begins it to the one that ends it. -/
inductive Spans : List Octets → (label content : Octets) → Prop
  | intro {opened label content first last : Octets} {inner : List Octets} :
    Opens opened first → Encloses opened inner label content → IsEnd label last →
      Spans (first :: (inner ++ [last])) label content

/-- The lines cannot be read, because of a fault in the section that they begin with. -/
inductive Breaks : List Octets → Fault → Prop
  | outside {line : Octets} {rest : List Octets} {f : Fault} :
    IsBegin line → beginLabel line = .error f → Breaks (line :: rest) f
  | inside {opened label content first line : Octets} {inner rest : List Octets} {f : Fault} :
    Opens opened first → Encloses opened inner label content →
      IsBegin line → beginLabel line = .error f → Breaks (first :: (inner ++ line :: rest)) f
  | unended {opened label content first : Octets} {inner : List Octets} :
    Opens opened first → Encloses opened inner label content →
      Breaks (first :: inner) (.missingEnd label)
  | content {span rest : List Octets} {label content : Octets} {kind : Kind} {f : Base64.Fault} :
    Spans span label content → Kind.ofLabel? label = some kind →
      Base64.decode content = .error f → Breaks (span ++ rest) (.content f)

/-- **What some lines say**: the known sections in order, and the fault at which reading ends.
Between sections there may be any lines that do not begin one. -/
inductive Reads : List Octets → List Section → Option Fault → Prop
  | nil : Reads [] [] none
  | fault {ls : List Octets} {f : Fault} : Breaks ls f → Reads ls [] (some f)
  | text {line : Octets} {rest : List Octets} {ss : List Section} {o : Option Fault} :
    ¬IsBegin line → Reads rest ss o → Reads (line :: rest) ss o
  | foreign {span rest : List Octets} {label content : Octets} {ss : List Section}
      {o : Option Fault} :
    Spans span label content → Kind.ofLabel? label = none →
      Reads rest ss o → Reads (span ++ rest) ss o
  | known {span rest : List Octets} {label content der : Octets} {kind : Kind}
      {ss : List Section} {o : Option Fault} :
    Spans span label content → Kind.ofLabel? label = some kind →
      Base64.decode content = .ok der →
      Reads rest ss o → Reads (span ++ rest) (⟨kind, der⟩ :: ss) o

/-- The two marks differ, so no line both begins and ends a section. -/
lemma not_isBegin_of_isEnd {label line : Octets} (h : IsEnd label line) : ¬IsBegin line := by
  intro hbegin
  obtain ⟨tail, rfl⟩ := h
  obtain ⟨back, hback⟩ := hbegin
  have hsixth := congrArg (·[5]?) hback
  have hmarks : beginMark = [45, 45, 45, 45, 45, 66, 69, 71, 73, 78, 32] ∧
      endMark = [45, 45, 45, 45, 45, 69, 78, 68, 32] := by decide
  rw [hmarks.1, hmarks.2] at hsixth
  simp at hsixth

/-! ## What a file says is what is read -/

/-- What is read: the sections, and then the fault. -/
def outcome (ss : List Section) (o : Option Fault) : List (Except Fault Section) :=
  ss.map .ok ++ (o.map .error).toList

lemma outcome_cons (s : Section) (ss : List Section) (o : Option Fault) :
    outcome (s :: ss) o = .ok s :: outcome ss o :=
  rfl

lemma outcome_injective {ss ss' : List Section} {o o' : Option Fault}
    (h : outcome ss o = outcome ss' o') : ss = ss' ∧ o = o' := by
  induction ss generalizing ss' with
  | nil =>
      cases ss' with
      | nil => cases o <;> cases o' <;> simp_all [outcome]
      | cons s ss' => cases o <;> simp [outcome] at h
  | cons s ss ih =>
      cases ss' with
      | nil => cases o' <;> simp [outcome] at h
      | cons s' ss' =>
          rw [outcome_cons, outcome_cons, List.cons.injEq, Except.ok.injEq] at h
          obtain ⟨rfl, rfl⟩ := ih h.2
          exact ⟨by rw [h.1], rfl⟩

/-- Inside a section the reader only gathers what it holds. -/
lemma Encloses.scan_append {label final content : Octets} {inner : List Octets}
    (h : Encloses label inner final content) (held : Octets) (rest : List Octets) :
    scan (some label) held (inner ++ rest) = scan (some final) (held ++ content) rest := by
  induction h generalizing held with
  | nil => rw [List.append_nil, List.nil_append]
  | line hbegin hend _ ih =>
      rw [List.cons_append, scan_line hbegin hend, ih, List.append_assoc]
  | reopen hopens _ ih =>
      rw [List.cons_append, scan_begin hopens.isBegin hopens.beginLabel_eq, ih]

/-- Through a section the reader gets to the line that ends it. -/
lemma Spans.scan_append {span : List Octets} {label content : Octets}
    (h : Spans span label content) :
    ∃ last, IsEnd label last ∧
      ∀ rest, scan none [] (span ++ rest) = scan (some label) content (last :: rest) := by
  obtain ⟨hopens, hencloses, hend⟩ := h
  refine ⟨_, hend, fun rest => ?_⟩
  rw [List.cons_append, scan_begin hopens.isBegin hopens.beginLabel_eq, List.append_assoc,
    hencloses.scan_append, List.nil_append, List.singleton_append]

lemma Breaks.scan_eq {ls : List Octets} {f : Fault} (h : Breaks ls f) :
    scan none [] ls = [.error f] := by
  cases h with
  | outside hbegin hlabel => exact scan_illegal hbegin hlabel
  | inside hopens hencloses hbegin hlabel =>
      rw [scan_begin hopens.isBegin hopens.beginLabel_eq, hencloses.scan_append,
        scan_illegal hbegin hlabel]
  | unended hopens hencloses =>
      have hscan := hencloses.scan_append [] []
      rw [List.append_nil] at hscan
      rw [scan_begin hopens.isBegin hopens.beginLabel_eq, hscan]
      rfl
  | content hspans hkind hfault =>
      obtain ⟨last, hend, hscan⟩ := hspans.scan_append
      rw [hscan, scan_end_broken (not_isBegin_of_isEnd hend) hend hkind hfault]

/-- What some lines say is what is read from them. -/
theorem Reads.scan_eq {ls : List Octets} {ss : List Section} {o : Option Fault}
    (h : Reads ls ss o) : scan none [] ls = outcome ss o := by
  induction h with
  | nil => rfl
  | fault hbreaks => exact hbreaks.scan_eq
  | text hbegin _ ih => rw [scan_text hbegin, ih]
  | foreign hspans hkind _ ih =>
      obtain ⟨last, hend, hscan⟩ := hspans.scan_append
      rw [hscan, scan_end_foreign (not_isBegin_of_isEnd hend) hend hkind, ih]
  | known hspans hkind hder _ ih =>
      obtain ⟨last, hend, hscan⟩ := hspans.scan_append
      rw [hscan, scan_end_known (not_isBegin_of_isEnd hend) hend hkind hder, ih, outcome_cons]

/-- Nothing else is said. -/
theorem Reads.unique {ls : List Octets} {ss ss' : List Section} {o o' : Option Fault}
    (h : Reads ls ss o) (h' : Reads ls ss' o') : ss = ss' ∧ o = o' :=
  outcome_injective (h.scan_eq.symm.trans h'.scan_eq)

/-- The lines behind one that begins a section stay inside it, or some line ends it, or some line
begins another one as it must not. -/
lemma exists_encloses (label : Octets) (ls : List Octets) :
    (∃ final content, Encloses label ls final content) ∨
      ∃ inner line rest final content, ls = inner ++ line :: rest ∧
        Encloses label inner final content ∧
        (IsEnd final line ∨ ∃ f, IsBegin line ∧ beginLabel line = .error f) := by
  induction ls generalizing label with
  | nil => exact .inl ⟨label, [], .nil⟩
  | cons line rest ih =>
      by_cases hend : IsEnd label line
      · exact .inr ⟨[], line, rest, label, [], rfl, .nil, .inl hend⟩
      · by_cases hbegin : IsBegin line
        · cases hlabel : beginLabel line with
          | error f => exact .inr ⟨[], line, rest, label, [], rfl, .nil, .inr ⟨f, hbegin, hlabel⟩⟩
          | ok other =>
              obtain ⟨final, content, h⟩ | ⟨inner, stop, later, final, content, rfl, h, hstop⟩ :=
                ih other
              · exact .inl ⟨final, content, .reopen ⟨hbegin, hlabel⟩ h⟩
              · exact .inr ⟨line :: inner, stop, later, final, content, rfl,
                  .reopen ⟨hbegin, hlabel⟩ h, hstop⟩
        · obtain ⟨final, content, h⟩ | ⟨inner, stop, later, final, content, rfl, h, hstop⟩ :=
            ih label
          · exact .inl ⟨final, line ++ content, .line hbegin hend h⟩
          · exact .inr ⟨line :: inner, stop, later, final, line ++ content, rfl,
              .line hbegin hend h, hstop⟩

/-- **Every file says something.** -/
theorem exists_reads (ls : List Octets) : ∃ ss o, Reads ls ss o := by
  match ls with
  | [] => exact ⟨[], none, .nil⟩
  | line :: rest =>
      by_cases hbegin : IsBegin line
      · cases hlabel : beginLabel line with
        | error f => exact ⟨[], some f, .fault (.outside hbegin hlabel)⟩
        | ok label =>
            obtain ⟨final, content, h⟩ | ⟨inner, stop, later, final, content, hrest, h, hstop⟩ :=
              exists_encloses label rest
            · exact ⟨[], _, .fault (.unended ⟨hbegin, hlabel⟩ h)⟩
            · obtain hend | ⟨f, hbegin', hlabel'⟩ := hstop
              · have hspans : Spans (line :: (inner ++ [stop])) final content :=
                  .intro ⟨hbegin, hlabel⟩ h hend
                have hlines : line :: rest = line :: (inner ++ [stop]) ++ later := by simp [hrest]
                rw [hlines]
                obtain ⟨ss, o, hlater⟩ := exists_reads later
                cases hkind : Kind.ofLabel? final with
                | none => exact ⟨ss, o, .foreign hspans hkind hlater⟩
                | some kind =>
                    cases hder : Base64.decode content with
                    | error f => exact ⟨[], _, .fault (.content hspans hkind hder)⟩
                    | ok der => exact ⟨⟨kind, der⟩ :: ss, o, .known hspans hkind hder hlater⟩
              · rw [hrest]
                exact ⟨[], some f, .fault (.inside ⟨hbegin, hlabel⟩ h hbegin' hlabel')⟩
      · obtain ⟨ss, o, h⟩ := exists_reads rest
        exact ⟨ss, o, .text hbegin h⟩
  termination_by ls.length
  decreasing_by
    · simp [hrest]
      omega
    · simp

/-- **What a file says is what is read from it**: the sections, and the fault behind them. -/
theorem sections_eq_outcome_iff {bs : Octets} {ss : List Section} {o : Option Fault} :
    sections bs = outcome ss o ↔ Reads (lines bs) ss o := by
  rw [sections_eq_scan]
  constructor
  · intro h
    obtain ⟨ss', o', hreads⟩ := exists_reads (lines bs)
    obtain ⟨rfl, rfl⟩ := outcome_injective (h.symm.trans hreads.scan_eq)
    exact hreads
  · exact Reads.scan_eq

end StandIn.Pem
