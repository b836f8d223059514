import StandIn.Certificate.Defect

/-!
# Searching with a bounded effort

A peer chooses the certificates among which a path is sought, so the search counts what it does
and gives up when it did too much.

* `Budget` — what may still be done.
* `Search` — a step of the search: it spends from the budget, also when it fails.
* `Search.firstOf` — tries candidates in turn until one succeeds.
-/

namespace StandIn.Certificate

/-- What may still be done. -/
structure Budget where
  signatures : Nat := 100
  searches : Nat := 200000
  comparisons : Nat := 250000
  deriving DecidableEq, Repr

/-- A step of the search. -/
abbrev Search (α : Type) := Budget → Except Defect α × Budget

namespace Search

variable {α β : Type}

/-- Succeeds and spends nothing. -/
def pure (a : α) : Search α :=
  fun budget => (.ok a, budget)

/-- Fails and spends nothing. -/
def fail (d : Defect) : Search α :=
  fun budget => (.error d, budget)

/-- A result that was found without spending. -/
def ofExcept (r : Except Defect α) : Search α :=
  fun budget => (r, budget)

/-- One step after the other. -/
def andThen (s : Search α) (f : α → Search β) : Search β :=
  fun budget =>
    match s budget with
    | (.error d, rest) => (.error d, rest)
    | (.ok a, rest) => f a rest

/-- Pays for checking a signature. -/
def paySignature : Search Unit :=
  fun b => match b.signatures with
    | 0 => (.error .tooManySignatures, b)
    | n + 1 => (.ok (), { b with signatures := n })

/-- Pays for a deeper search. -/
def paySearch : Search Unit :=
  fun b => match b.searches with
    | 0 => (.error .tooManySearches, b)
    | n + 1 => (.ok (), { b with searches := n })

/-- Pays for comparing a name. -/
def payComparison : Search Unit :=
  fun b => match b.comparisons with
    | 0 => (.error .tooManyComparisons, b)
    | n + 1 => (.ok (), { b with comparisons := n })

/-- The result of the first candidate that succeeds.  If none does, the failure is the most
telling one, `defect` included; a fatal failure ends the search at once. -/
def firstOf (f : β → Search α) (defect : Defect) : List β → Search α
  | [] => fail defect
  | b :: bs => fun budget =>
    match f b budget with
    | (.ok a, rest) => (.ok a, rest)
    | (.error d, rest) =>
      if d.isFatal then (.error d, rest) else firstOf f (defect.moreTelling d) bs rest

/-- Takes one step for every item, until one fails. -/
def forEach (f : β → Search Unit) : List β → Search Unit
  | [] => pure ()
  | b :: bs => (f b).andThen fun _ => forEach f bs

end Search

end StandIn.Certificate
