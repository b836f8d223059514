import Mathlib.Data.List.Basic
import Mathlib.Data.List.TakeWhile
import Mathlib.Tactic.Lemma
import StandIn.Octets

/-!
# Results, and lists that a separator divides

Readers are put together from smaller ones, each of which may fail; to learn from a result what the
parts gave, the composition has to be taken apart again.  Lists that a separator divides occur in
header fields, where each item may have blanks around it.

* `bind_eq_ok_iff`, `map_eq_ok_iff` — a composed reader succeeds iff its parts do.
* `bind_eq_error_iff` — a composed reader fails where its first failing part does.
* `drop_length_takeWhile`, `not_of_dropWhile_eq_cons` — what follows a front of a list.
* `filterMap_eq_map_filter` — a selection as a filter and a map.
* `splitAt_eq_splitOn`, `splitAt_append_cons` — a separator divides the pieces of what is in front
  of it from those of what follows it.
* `exists_eq_append_trimBy`, `trimBy_append_append` — what trimming takes away, and what it finds.
-/

namespace StandIn

section Results

variable {ε α β : Type}

lemma bind_eq_ok_iff {x : Except ε α} {f : α → Except ε β} {b : β} :
    x.bind f = .ok b ↔ ∃ a, x = .ok a ∧ f a = .ok b := by
  cases x <;> simp [Except.bind]

lemma bind_eq_error_iff {x : Except ε α} {f : α → Except ε β} {e : ε} :
    x.bind f = .error e ↔ x = .error e ∨ ∃ a, x = .ok a ∧ f a = .error e := by
  cases x <;> simp [Except.bind]

lemma map_eq_ok_iff {x : Except ε α} {f : α → β} {b : β} :
    x.map f = .ok b ↔ ∃ a, x = .ok a ∧ f a = b := by
  cases x <;> simp [Except.map]

end Results

section Fronts

variable {α : Type} {p : α → Bool}

/-- Dropping as many items as a front has leaves what follows the front. -/
lemma drop_length_takeWhile (xs : List α) : xs.drop (xs.takeWhile p).length = xs.dropWhile p := by
  have h : (xs.takeWhile p ++ xs.dropWhile p).drop (xs.takeWhile p).length = xs.dropWhile p :=
    List.drop_left
  rwa [List.takeWhile_append_dropWhile] at h

/-- What follows a front starts with an item that does not belong to it. -/
lemma not_of_dropWhile_eq_cons {xs rest : List α} {x : α} (h : xs.dropWhile p = x :: rest) :
    p x = false := by
  have hne : xs.dropWhile p ≠ [] := by simp [h]
  have hhead := List.head_dropWhile_not p hne
  simpa only [h, List.head_cons] using hhead

end Fronts

/-- Keeping the items that are wanted, and turning each into another, can be done in one go. -/
lemma filterMap_eq_map_filter {α β : Type} {f : α → Option β} {p : α → Bool} {g : α → β}
    {xs : List α} (h : ∀ x ∈ xs, f x = if p x then some (g x) else none) :
    xs.filterMap f = (xs.filter p).map g := by
  rw [← List.filterMap_eq_map', List.filterMap_filter]
  exact List.filterMap_congr h

section Split

variable {α : Type} [DecidableEq α]

lemma splitAt_eq_splitOn (separator : α) (xs : List α) :
    splitAt separator xs = xs.splitOn separator := by
  induction xs with
  | nil => rfl
  | cons x xs ih =>
      rw [List.splitOn_eq_splitOnP] at ih ⊢
      rw [splitAt, ih, List.splitOnP_cons_eq_if_modifyHead]
      by_cases hx : x = separator
      · simp [hx]
      · obtain ⟨piece, pieces, hpieces⟩ :=
          List.exists_cons_of_ne_nil (List.splitOnP_ne_nil (· == separator) xs)
        simp [hx, hpieces]

lemma splitAt_ne_nil (separator : α) (xs : List α) : splitAt separator xs ≠ [] := by
  rw [splitAt_eq_splitOn]
  exact List.splitOnP_ne_nil _ xs

/-- **A separator divides.**  Whatever stands around it, the pieces in front of a separator and the
pieces behind it are those of the two parts. -/
theorem splitAt_append_cons (separator : α) (xs ys : List α) :
    splitAt separator (xs ++ separator :: ys)
      = splitAt separator xs ++ splitAt separator ys := by
  simp only [splitAt_eq_splitOn, List.splitOn_eq_splitOnP]
  exact List.splitOnP_append_cons xs ys (beq_self_eq_true separator)

lemma splitAt_of_not_mem {separator : α} {xs : List α} (h : separator ∉ xs) :
    splitAt separator xs = [xs] := by
  have hjoined := @List.splitOn_intercalate α [xs] _ _ separator (by simpa using h) (by simp)
  rw [splitAt_eq_splitOn]
  simpa using hjoined

end Split

section Trim

variable {α : Type} {p : α → Bool}

lemma trimBy_cons_of_pos {x : α} (hx : p x = true) (xs : List α) :
    trimBy p (x :: xs) = trimBy p xs := by
  rw [trimBy, List.dropWhile_cons_of_pos hx, trimBy]

lemma dropWhile_eq_self_of_forall {xs : List α} (h : ∀ x ∈ xs, p x = false) :
    xs.dropWhile p = xs := by
  cases xs with
  | nil => rfl
  | cons x xs => exact List.dropWhile_cons_of_neg (by simp [h x])

/-- Trimming takes nothing away but what is trimmed. -/
lemma exists_eq_append_trimBy (p : α → Bool) (xs : List α) :
    ∃ front back, xs = front ++ trimBy p xs ++ back ∧
      (∀ x ∈ front, p x = true) ∧ ∀ x ∈ back, p x = true := by
  have hback := congrArg List.reverse
    (List.takeWhile_append_dropWhile (p := p) (l := (xs.dropWhile p).reverse))
  rw [List.reverse_append, List.reverse_reverse, ← trimBy] at hback
  refine ⟨xs.takeWhile p, ((xs.dropWhile p).reverse.takeWhile p).reverse, ?_, ?_, ?_⟩
  · rw [List.append_assoc, hback, List.takeWhile_append_dropWhile]
  · intro x hx
    exact List.mem_takeWhile_imp hx
  · intro x hx
    exact List.mem_takeWhile_imp (List.mem_reverse.1 hx)

/-- Trimming finds what stands between things that are trimmed. -/
lemma trimBy_append_append {front word back : List α} (hfront : ∀ x ∈ front, p x = true)
    (hword : ∀ x ∈ word, p x = false) (hback : ∀ x ∈ back, p x = true) :
    trimBy p (front ++ word ++ back) = word := by
  rw [trimBy, List.append_assoc, List.dropWhile_append_of_pos hfront]
  cases word with
  | nil =>
      rw [List.nil_append, List.dropWhile_eq_nil_iff.2 hback]
      rfl
  | cons x word =>
      have hx : ¬p x = true := by simp [hword x List.mem_cons_self]
      rw [List.cons_append, List.dropWhile_cons_of_neg hx, ← List.cons_append, List.reverse_append,
        List.dropWhile_append_of_pos fun y hy => hback y (List.mem_reverse.1 hy),
        dropWhile_eq_self_of_forall fun y hy => hword y (List.mem_reverse.1 hy),
        List.reverse_reverse]

/-- Trimming keeps a list in which nothing could be trimmed. -/
lemma trimBy_eq_self {xs : List α} (h : ∀ x ∈ xs, p x = false) : trimBy p xs = xs := by
  have htrim := @trimBy_append_append α p [] xs [] (by simp) h (by simp)
  rwa [List.nil_append, List.append_nil] at htrim

end Trim

end StandIn
