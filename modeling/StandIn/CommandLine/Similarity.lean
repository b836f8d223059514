/-!
# Similar words

Who mistypes a name is told the name that was probably meant.

* `pairs` — characters that two words share at about the same place.
* `Score`, `similarity` — how similar two words are, between 0 and 1.
* `closest?` — the most similar of several words, if any is similar enough.
-/

namespace StandIn.CommandLine

/-- The characters of a word that occur in another one no more than `reach` places away, each with
its place there.  No place is taken twice; `free` are the characters that are not yet taken. -/
def pairs (reach : Nat) : (place : Nat) → List Char → (free : List (Nat × Char)) →
    List (Char × Nat)
  | _, [], _ => []
  | place, c :: cs, free =>
    match free.find? fun (p, d) => d = c ∧ place ≤ p + reach ∧ p ≤ place + reach with
    | some (p, _) => (c, p) :: pairs reach (place + 1) cs (free.filter (·.1 ≠ p))
    | none => pairs reach (place + 1) cs free

/-- A fraction. -/
structure Score where
  numerator : Nat
  denominator : Nat
  deriving DecidableEq, Repr

/-- Whether a fraction is less than another one. -/
def Score.lt (s t : Score) : Bool :=
  s.numerator * t.denominator < t.numerator * s.denominator

/-- How similar two words are: the mean of the shares of either word that the shared characters
make up, and of the part of them that stands in the same order. -/
def similarity (a b : List Char) : Score :=
  let reach := max a.length b.length / 2 - 1
  let shared := pairs reach 0 a ((List.range b.length).zip b)
  let m := shared.length
  if m = 0 then ⟨0, 1⟩
  else
    let inOrder := (shared.mergeSort fun x y => x.2 ≤ y.2).map (·.1)
    let displaced := ((shared.map (·.1)).zip inOrder).countP fun (x, y) => x ≠ y
    ⟨m * m * b.length + m * m * a.length + (m - displaced / 2) * a.length * b.length,
      3 * m * a.length * b.length⟩

/-- What is not more similar than this is not similar enough. -/
def threshold : Score := ⟨7, 10⟩

/-- The word that is most similar, the first of several, if it is similar enough. -/
def closest? (word : String) : (candidates : List String) → Option String
  | [] => none
  | c :: rest =>
    let score (s : String) : Score := similarity word.toList s.toList
    match closest? word rest with
    | some d => some (if (score c).lt (score d) then d else c)
    | none => if threshold.lt (score c) then some c else none

end StandIn.CommandLine
