/-!
# Octets

* `Octets` — octets as they are stored and sent.
* `pieces` — a list cut into pieces of one size.
* `splitAt` — a list cut at a separator.
* `trimBy` — a list without what stands at its ends.
-/

namespace StandIn

/-- Octets as they are stored and sent. -/
abbrev Octets := List UInt8

/-- Pieces of `size` items; what is left over at the end is a shorter one. -/
def pieces {α : Type} : (size : Nat) → List α → List (List α)
  | 0, _ => []
  | _, [] => []
  | size + 1, x :: xs => (x :: xs.take size) :: pieces (size + 1) (xs.drop size)
  termination_by _ items => items.length
  decreasing_by
    rw [List.length_drop, List.length_cons]
    omega

/-- What stands between the places where `separator` occurs; always at least one piece. -/
def splitAt {α : Type} [DecidableEq α] (separator : α) : List α → List (List α)
  | [] => [[]]
  | x :: xs =>
    let rest := splitAt separator xs
    if x = separator then [] :: rest
    else
      match rest with
      | piece :: pieces => (x :: piece) :: pieces
      | [] => [[x]]

/-- The list without the items of one kind at its ends. -/
def trimBy {α : Type} (p : α → Bool) (xs : List α) : List α :=
  ((xs.dropWhile p).reverse.dropWhile p).reverse

end StandIn
