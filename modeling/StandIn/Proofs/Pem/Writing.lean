import Mathlib.Data.List.Basic
import Mathlib.Tactic.Lemma
import StandIn.Proofs.Pem.Base64
import StandIn.Proofs.Pem.Grammar

/-!
# PEM files that are written

Sections are written between the two lines that mark them, as base 64 that is cut into lines in any
way.  Around them there may be sections of any other kind and lines of text.  All of this is read
back.

* `IsMarked`, `IsLabel` — the lines that mark a section, and the labels that they can name.
* `beginLabel_of_isMarked` — the label of such a line is found again.
* `Writes` — files in which some sections are written in order.
* `Writes.reads` — a file says what was written in it.
* `renderAll`, `writes_renderAll` — sections that are rendered one after another are a written file.
-/

namespace StandIn.Pem

/-! ## Marked lines -/

/-- Octets that may follow the dashes at the end of a marked line. -/
def isTrail (b : UInt8) : Bool :=
  isLineEnd b || b = 32

/-- The line marks the begin or the end of a section of the label. -/
def IsMarked (mark label line : Octets) : Prop :=
  ∃ trail, (∀ b ∈ trail, isTrail b = true) ∧ line = mark ++ label ++ dashes ++ trail

/-- The label can be told from the dashes behind it. -/
def IsLabel (label : Octets) : Prop :=
  ∀ b ∈ label.getLast?, b ≠ 45 ∧ isTrail b = false

lemma dashes_eq : dashes = [45, 45, 45, 45, 45] := by decide

lemma beginMark_eq : beginMark = [45, 45, 45, 45, 45, 66, 69, 71, 73, 78, 32] := by decide

lemma trailingDashes_trail {trail : Octets} (h : ∀ b ∈ trail, isTrail b = true) (bs : Octets)
    (count : Nat) (front : Octets) :
    trailingDashes (trail ++ bs) count front = trailingDashes bs count front := by
  induction trail with
  | nil => rfl
  | cons b trail ih =>
      rw [List.forall_mem_cons] at h
      have hdash : b ≠ 45 := by
        rintro rfl
        exact absurd h.1 (by decide)
      rw [List.cons_append, trailingDashes, if_neg hdash, ih h.2]
      exact if_pos h.1

lemma trailingDashes_dashes (bs front : Octets) :
    trailingDashes (dashes ++ bs) 0 front = trailingDashes bs 5 bs := by
  simp [dashes_eq, trailingDashes]

/-- In front of the dashes there is the label, or the mark if the label is empty. -/
lemma trailingDashes_label {label : Octets} (h : IsLabel label) (count : Nat) (front : Octets) :
    trailingDashes (beginMark ++ label).reverse count front = (count, front) := by
  rw [List.reverse_append]
  cases hreversed : label.reverse with
  | nil =>
      rw [beginMark_eq]
      rfl
  | cons b reversed =>
      obtain ⟨hdash, htrail⟩ := h b (by rw [List.getLast?_eq_head?_reverse, hreversed]; rfl)
      rw [List.cons_append, trailingDashes, if_neg hdash]
      exact if_neg (by simpa [isTrail] using htrail)

/-- **The label of a line that begins a section is found again.** -/
theorem beginLabel_of_isMarked {label line : Octets} (hlabel : IsLabel label)
    (h : IsMarked beginMark label line) : beginLabel line = .ok label := by
  obtain ⟨trail, htrail, rfl⟩ := h
  have hback : ∀ b ∈ trail.reverse, isTrail b = true := fun b hb =>
    htrail b (List.mem_reverse.1 hb)
  have hcount : ∀ front, trailingDashes (beginMark ++ label ++ dashes ++ trail).reverse 0 front
      = (5, (beginMark ++ label).reverse) := by
    intro front
    have hdashes : dashes.reverse = dashes := by decide
    rw [List.reverse_append, trailingDashes_trail hback, List.reverse_append, hdashes,
      trailingDashes_dashes, trailingDashes_label hlabel]
  rw [beginLabel, hcount]
  simp

lemma isBegin_of_isMarked {label line : Octets} (h : IsMarked beginMark label line) :
    IsBegin line := by
  obtain ⟨trail, -, rfl⟩ := h
  exact ⟨label ++ dashes ++ trail, by simp⟩

lemma isEnd_of_isMarked {label line : Octets} (h : IsMarked endMark label line) :
    IsEnd label line := by
  obtain ⟨trail, -, rfl⟩ := h
  exact ⟨dashes ++ trail, by simp⟩

lemma Opens.of_isMarked {label line : Octets} (hlabel : IsLabel label)
    (h : IsMarked beginMark label line) : Opens label line :=
  ⟨isBegin_of_isMarked h, beginLabel_of_isMarked hlabel h⟩

lemma isLabel_label (k : Kind) : IsLabel (Utf8.encode k.label) := by
  have hlast : ∃ c, (Utf8.encode k.label).getLast? = some c ∧ c ≠ 45 ∧ isTrail c = false := by
    rw [Utf8.encode, List.getLast?_flatMap]
    cases k <;> exact ⟨_, rfl, by decide⟩
  obtain ⟨c, hc, hdash⟩ := hlast
  rw [IsLabel, hc]
  rintro b ⟨⟩
  exact hdash

lemma ofLabel?_label (k : Kind) : Kind.ofLabel? (Utf8.encode k.label) = some k := by
  cases k <;> decide

/-! ## Written files -/

/-- **Some sections are written in a file of these lines**, in order.  Between them there may be
lines that begin no section, and sections of labels that are not known, whatever these hold. -/
inductive Writes : List Octets → List Section → Prop
  | nil : Writes [] []
  | text {line : Octets} {rest : List Octets} {ss : List Section} :
    ¬IsBegin line → Writes rest ss → Writes (line :: rest) ss
  | foreign {label first last : Octets} {inner rest : List Octets} {ss : List Section} :
    IsLabel label → Kind.ofLabel? label = none →
      IsMarked beginMark label first → (∀ line ∈ inner, ¬IsBegin line ∧ ¬IsEnd label line) →
      IsMarked endMark label last → Writes rest ss → Writes (first :: (inner ++ last :: rest)) ss
  | known {s : Section} {first last : Octets} {inner rest : List Octets} {ss : List Section} :
    IsMarked beginMark (Utf8.encode s.kind.label) first →
      inner.flatten.filter (!Base64.isBlank ·) = Base64.encode s.content →
      IsMarked endMark (Utf8.encode s.kind.label) last →
      Writes rest ss → Writes (first :: (inner ++ last :: rest)) (s :: ss)

/-- Lines of base 64 mark nothing, because there is no dash in them. -/
lemma not_isMark_of_filter {inner : List Octets} {bs : Octets}
    (h : inner.flatten.filter (!Base64.isBlank ·) = Base64.encode bs) :
    ∀ line ∈ inner, ¬IsBegin line ∧ ∀ label, ¬IsEnd label line := by
  intro line hline
  have hdash : 45 ∉ line := by
    intro hmem
    have hmem' : (45 : UInt8) ∈ inner.flatten := List.mem_flatten.2 ⟨line, hline, hmem⟩
    exact absurd (Base64.isCharacter_of_mem h 45 hmem') (by decide)
  refine ⟨fun hbegin => hdash (hbegin.subset (by decide)), fun label hend => hdash (hend.subset ?_)⟩
  exact List.mem_append_left _ (by decide)

/-- Inside a section, lines without a mark are what it holds. -/
lemma Encloses.of_not_isMark {label : Octets} {inner : List Octets}
    (h : ∀ line ∈ inner, ¬IsBegin line ∧ ¬IsEnd label line) :
    Encloses label inner label inner.flatten := by
  induction inner with
  | nil => exact .nil
  | cons line inner ih =>
      rw [List.forall_mem_cons] at h
      rw [List.flatten_cons]
      exact .line h.1.1 h.1.2 (ih h.2)

lemma Spans.of_isMarked {label first last : Octets} {inner : List Octets} (hlabel : IsLabel label)
    (hfirst : IsMarked beginMark label first)
    (hinner : ∀ line ∈ inner, ¬IsBegin line ∧ ¬IsEnd label line)
    (hlast : IsMarked endMark label last) :
    Spans (first :: (inner ++ [last])) label inner.flatten :=
  .intro (.of_isMarked hlabel hfirst) (.of_not_isMark hinner) (isEnd_of_isMarked hlast)

/-- **A file says what was written in it**, and has no fault. -/
theorem Writes.reads {ls : List Octets} {ss : List Section} (h : Writes ls ss) :
    Reads ls ss none := by
  induction h with
  | nil => exact .nil
  | text hbegin _ ih => exact .text hbegin ih
  | @foreign label first last inner rest ss hlabel hkind hfirst hinner hlast _ ih =>
      have hlines : first :: (inner ++ last :: rest) = first :: (inner ++ [last]) ++ rest := by simp
      rw [hlines]
      exact .foreign (.of_isMarked hlabel hfirst hinner hlast) hkind ih
  | @known s first last inner rest ss hfirst hcontent hlast _ ih =>
      have hlines : first :: (inner ++ last :: rest) = first :: (inner ++ [last]) ++ rest := by simp
      have hinner : ∀ line ∈ inner,
          ¬IsBegin line ∧ ¬IsEnd (Utf8.encode s.kind.label) line := fun line hline =>
        have hmark := not_isMark_of_filter hcontent line hline
        ⟨hmark.1, hmark.2 _⟩
      rw [hlines]
      exact .known (.of_isMarked (isLabel_label _) hfirst hinner hlast) (ofLabel?_label _)
        (Base64.decode_of_filter hcontent) ih

/-! ## Rendered sections -/

/-- Nothing is lost when a list is cut into pieces. -/
lemma flatten_pieces {α : Type} {size : Nat} (h : 0 < size) (xs : List α) :
    (pieces size xs).flatten = xs := by
  fun_induction pieces size xs with
  | case1 => exact absurd h (by simp)
  | case2 => rfl
  | case3 size x xs ih =>
      rw [List.flatten_cons, ih h, List.cons_append, List.take_append_drop]

/-- The octets are whole lines. -/
def IsEnded (bs : Octets) : Prop :=
  ∀ b ∈ bs.getLast?, isLineEnd b = true

lemma IsEnded.append {bs cs : Octets} (hbs : IsEnded bs) (hcs : IsEnded cs) :
    IsEnded (bs ++ cs) := by
  intro b hb
  rw [List.getLast?_append] at hb
  obtain hb | ⟨-, hb⟩ := Option.or_eq_some_iff.1 hb
  · exact hcs b hb
  · exact hbs b hb

lemma lines_append_of_isEnded {bs : Octets} (h : IsEnded bs) (rest : Octets) :
    lines (bs ++ rest) = lines bs ++ lines rest := by
  cases hlast : bs.getLast? with
  | none =>
      rw [List.getLast?_eq_none_iff.1 hlast]
      rfl
  | some e =>
      obtain ⟨front, rfl⟩ := List.getLast?_eq_some_iff.1 hlast
      rw [List.append_assoc, List.singleton_append]
      exact lines_append front rest (h e hlast)

lemma not_isLineEnd_of_all {bs : Octets} (h : bs.all (!isLineEnd ·) = true) :
    ∀ b ∈ bs, isLineEnd b = false := by
  intro b hb
  simpa using List.all_eq_true.1 h b hb

/-- A single line, and then others. -/
lemma lines_append_cons {bs : Octets} {e : UInt8} (h : ∀ b ∈ bs, isLineEnd b = false)
    (he : isLineEnd e = true) (rest : Octets) :
    lines (bs ++ e :: rest) = (bs ++ [e]) :: lines rest := by
  have hsingle : lines (bs ++ [e]) = [bs ++ [e]] := by
    induction bs with
    | nil => simp [lines, he]
    | cons b bs ih =>
        rw [List.forall_mem_cons] at h
        rw [List.cons_append, lines, if_neg (by simp [h.1]), ih h.2]
  rw [lines_append bs rest he, hsingle]
  rfl

/-- Some sections, one after another. -/
def renderAll (newline : Octets) (ss : List Section) : Octets :=
  ss.flatMap fun s => render newline (Utf8.encode s.kind.label) s.content

section Render

variable {newline : Octets}

/-- Line ends are lines of text. -/
lemma writes_newline (hends : ∀ b ∈ newline, isLineEnd b = true) {ls : List Octets}
    {ss : List Section} (h : Writes ls ss) : Writes (lines newline ++ ls) ss := by
  induction newline with
  | nil => exact h
  | cons b newline ih =>
      rw [List.forall_mem_cons] at hends
      rw [lines, if_pos hends.1]
      exact .text (by rw [IsBegin, beginMark_eq]; simp) (ih hends.2)

/-- Line ends are passed over in base 64. -/
lemma filter_newline (hends : ∀ b ∈ newline, isLineEnd b = true) :
    newline.filter (!Base64.isBlank ·) = [] := by
  rw [List.filter_eq_nil_iff]
  intro b hb
  have hend := hends b hb
  rw [isLineEnd, Bool.or_eq_true, decide_eq_true_eq, decide_eq_true_eq] at hend
  obtain rfl | rfl := hend <;> decide

lemma filter_flatMap_append (hends : ∀ b ∈ newline, isLineEnd b = true) (xss : List Octets) :
    (xss.flatMap (· ++ newline)).filter (!Base64.isBlank ·)
      = xss.flatten.filter (!Base64.isBlank ·) := by
  induction xss with
  | nil => rfl
  | cons xs xss ih =>
      rw [List.flatMap_cons, List.flatten_cons, List.filter_append, List.filter_append,
        List.filter_append, filter_newline hends, ih, List.append_nil]

lemma isEnded_of_forall (hends : ∀ b ∈ newline, isLineEnd b = true) : IsEnded newline :=
  fun b hb => hends b (List.mem_of_getLast? hb)

lemma isEnded_flatMap (hne : newline ≠ []) (hends : ∀ b ∈ newline, isLineEnd b = true)
    (xss : List Octets) : IsEnded (xss.flatMap (· ++ newline)) := by
  induction xss with
  | nil => simp [IsEnded]
  | cons xs xss ih =>
      refine .append ?_ ih
      intro b hb
      rw [List.getLast?_append_of_ne_nil _ hne] at hb
      exact isEnded_of_forall hends b hb

/-- A rendered section is a written one. -/
lemma writes_render_append (hne : newline ≠ []) (hends : ∀ b ∈ newline, isLineEnd b = true)
    (s : Section) {rest : Octets} {ss : List Section} (h : Writes (lines rest) ss) :
    Writes (lines (render newline (Utf8.encode s.kind.label) s.content ++ rest)) (s :: ss) := by
  obtain ⟨e, tail, rfl⟩ := List.exists_cons_of_ne_nil hne
  have he : isLineEnd e = true := hends e List.mem_cons_self
  have htail : ∀ b ∈ tail, isLineEnd b = true := fun b hb => hends b (List.mem_cons_of_mem e hb)
  have hmarks : (∀ b ∈ beginMark ++ Utf8.encode s.kind.label ++ dashes, isLineEnd b = false) ∧
      ∀ b ∈ endMark ++ Utf8.encode s.kind.label ++ dashes, isLineEnd b = false := by
    constructor <;> apply not_isLineEnd_of_all <;> cases s.kind <;> decide
  let body := tail ++ (pieces 64 (Base64.encode s.content)).flatMap (· ++ e :: tail)
  have hbody : IsEnded body := (isEnded_of_forall htail).append (isEnded_flatMap hne hends _)
  have hlines : lines (render (e :: tail) (Utf8.encode s.kind.label) s.content ++ rest)
      = (beginMark ++ Utf8.encode s.kind.label ++ dashes ++ [e]) :: (lines body ++
        (endMark ++ Utf8.encode s.kind.label ++ dashes ++ [e]) :: (lines tail ++ lines rest)) := by
    rw [← lines_append_of_isEnded (isEnded_of_forall htail), ← lines_append_cons hmarks.2 he,
      ← lines_append_of_isEnded hbody, ← lines_append_cons hmarks.1 he]
    simp [render, body]
  have hcontent : (lines body).flatten.filter (!Base64.isBlank ·) = Base64.encode s.content := by
    rw [flatten_lines, List.filter_append, filter_newline htail, filter_flatMap_append hends,
      flatten_pieces (by decide), List.nil_append, Base64.filter_encode]
  rw [hlines]
  exact .known ⟨[e], by simp [isTrail, he], rfl⟩ hcontent ⟨[e], by simp [isTrail, he], rfl⟩
    (writes_newline htail h)

/-- **Sections that are rendered one after another are a written file.** -/
theorem writes_renderAll (hne : newline ≠ []) (hends : ∀ b ∈ newline, isLineEnd b = true)
    (ss : List Section) : Writes (lines (renderAll newline ss)) ss := by
  induction ss with
  | nil => exact .nil
  | cons s ss ih => exact writes_render_append hne hends s ih

end Render

end StandIn.Pem
