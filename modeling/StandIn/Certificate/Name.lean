import StandIn.Certificate.Basic
import StandIn.Certificate.Search
import StandIn.Certificate.ServerName

/-!
# Names in certificates

* `Name` — one of the names that a certificate gives to its subject.
* `Certificate.names` — all of them, in order; a malformed one ends the list.
* `hostMatches` — whether a host name in a certificate covers a name or a constraint.
* `Certificate.isValidFor` — whether a certificate names a server.
* `checkConstraints` — whether all names on a path keep to an authority's constraints.
-/

namespace StandIn.Certificate

/-- A name that a certificate gives to its subject. -/
inductive Name where
  | host (name : Octets)
  | directory (name : Octets)
  | address (octets : Octets)
  | resource (name : Octets)
  /-- Any other kind of name. -/
  | other (kind : UInt8)
  deriving DecidableEq, Repr

/-- Takes a name off the front. -/
def Name.read (bs : Octets) : Except Defect (Name × Octets) := do
  let (item, rest) ← orElse (Der.item bs)
  match item.tag with
  | 0x82 => return (.host item.value, rest)
  | 0xA4 => return (.directory item.value, rest)
  | 0x87 => return (.address item.value, rest)
  | 0x86 => return (.resource item.value, rest)
  | 0xA0 => return (.other 0, rest)
  | 0x81 => return (.other 1, rest)
  | 0xA3 => return (.other 3, rest)
  | 0xA5 => return (.other 5, rest)
  | 0x88 => return (.other 8, rest)
  | _ => throw .badEncoding

/-- The names in the octets, up to the first malformed one; `fuel` is at least their number. -/
def namesIn : (fuel : Nat) → Octets → List (Except Defect Name)
  | _, [] => []
  | 0, _ => []
  | fuel + 1, bs =>
    match Name.read bs with
    | .error d => [.error d]
    | .ok (name, rest) => .ok name :: namesIn fuel rest

/-- The alternative names of the subject. -/
def namesOf (c : Certificate) : List (Except Defect Name) :=
  match c.alternativeNames with
  | none => []
  | some bs => namesIn bs.length bs

/-- The alternative names of the subject and then the name in the subject itself, unless the
former are malformed. -/
def allNamesOf (c : Certificate) : List (Except Defect Name) :=
  let names := namesOf c
  if names.any (fun n => n.toOption.isNone) then names else names ++ [.ok (.directory c.subject)]

/-! ## Host names -/

/-- What a host name is used for. -/
inductive HostRole where
  /-- It is looked for. -/
  | reference
  /-- A certificate gives it. -/
  | presented
  /-- An authority is constrained to it. -/
  | constraint
  deriving DecidableEq, Repr

/-- Whether the octets are labels with points between them, the last of which is not all digits.
A name that is looked for may end in a point, and a constraint may start with one. -/
def areLabels (role : HostRole) (bs : Octets) : Bool :=
  let parts := ServerName.labels bs
  let tail := if role = .constraint ∧ parts.head? = some [] then parts.tail else parts
  let kept := if role = .reference ∧ tail.getLast? = some [] then tail.dropLast else tail
  !kept.isEmpty && kept.all ServerName.isLabel &&
    !(kept.getLast?.any (·.all ServerName.isDigit))

/-- Whether the octets are a host name for the given use.  Only a certificate may give a name
whose first label is an asterisk; at least two labels follow it. -/
def isHostFor (role : HostRole) (bs : Octets) : Bool :=
  bs.length ≤ 253 &&
    match bs with
    | [] => role = .constraint
    | 0x2A :: rest =>
      role = .presented &&
        match rest with
        | 0x2E :: name => areLabels role name && 2 ≤ (ServerName.labels name).length
        | _ => false
    | _ => areLabels role bs

/-- A letter without its case. -/
def lower (b : UInt8) : UInt8 :=
  if 0x41 ≤ b && b ≤ 0x5A then b + 0x20 else b

/-- Compares octet by octet to the end of the presented name; the result is what the other name
still has, or none at a difference.  A presented name must not end in a point. -/
def compareHosts : (presented other : Octets) → Except Defect (Option Octets)
  | [], other => .ok (some other)
  | p :: ps, q :: qs =>
    if lower p = lower q then
      if ps.isEmpty ∧ p = 0x2E then .error .malformedName else compareHosts ps qs
    else .ok none
  | _ :: _, [] => .ok none

/-- Passes the first label of a name for the sake of an asterisk: at least one octet, up to a
point. -/
def passLabel : Octets → Option Octets
  | [] => none
  | _ :: rest =>
    match rest with
    | 0x2E :: _ => some rest
    | _ => passLabel rest

/-- The part of a presented name that is compared with a constraint, or the answer if that is
known already. -/
def alignToConstraint (presented constraint : Octets) : Bool ⊕ Octets :=
  if presented.length ≤ constraint.length then .inr presented
  else if constraint.isEmpty then .inl true
  else if constraint.head? = some 0x2E then
    .inr (presented.drop (presented.length - constraint.length))
  else
    match presented.drop (presented.length - constraint.length - 1) with
    | 0x2E :: rest => .inr rest
    | _ => .inl false

/-- Whether the rest of the other name may be left over. -/
def mayRemain (role : HostRole) (rest : Octets) : Bool :=
  rest.isEmpty || (role = .reference && rest = [0x2E])

/-- Whether a name that a certificate gives covers a name that is looked for, or keeps to a
constraint. -/
def hostMatches (role : HostRole) (presented other : Octets) : Except Defect Bool := do
  if !isHostFor .presented presented then throw .malformedName
  if !isHostFor role other then
    throw (if role = .constraint then .malformedNameConstraint else .malformedName)
  match if role = .constraint then alignToConstraint presented other else .inr presented with
  | .inl answer => return answer
  | .inr presented =>
    let (presented, other) := match presented with
      | 0x2A :: rest => (rest, passLabel other)
      | _ => (presented, some other)
    match other with
    | none => return false
    | some other =>
      match ← compareHosts presented other with
      | none => return false
      | some rest => return mayRemain role rest

/-- The octets of an address. -/
def addressOctets : Net.Address → Octets
  | .v4 ip => [ip.a, ip.b, ip.c, ip.d]
  | .v6 ip => ip.groups.toList.flatMap fun (g : UInt16) => [(g >>> 8).toUInt8, g.toUInt8]

/-- Whether a name covers a server; none where it says nothing about it. -/
def nameCovers (server : ServerName) (name : Name) : Option (Except Defect Unit) :=
  match server, name with
  | .host reference, .host presented =>
    match hostMatches .reference presented reference with
    | .ok true => some (.ok ())
    | .ok false => none
    | .error .malformedName => none
    | .error d => some (.error d)
  | .address ip, .address octets => if octets = addressOctets ip then some (.ok ()) else none
  | _, _ => none

/-- The first verdict of the names, or that none of them covers the server. -/
def firstVerdict (server : ServerName) : List (Except Defect Name) → Except Defect Unit
  | [] => .error .notValidForName
  | .error d :: _ => .error d
  | .ok name :: rest =>
    match nameCovers server name with
    | some verdict => verdict
    | none => firstVerdict server rest

/-- Whether a certificate names a server. -/
def isValidFor (c : Certificate) (server : ServerName) : Except Defect Unit :=
  firstVerdict server (namesOf c)

/-! ## Constraints -/

/-- The number of ones in front, among the eight bits of a number. -/
def leadingOnes (b : UInt8) : Nat :=
  ((List.range 8).takeWhile fun i => b.toNat.testBit (7 - i)).length

/-- The number of zeros at the end, among the eight bits of a number. -/
def trailingZeros (b : UInt8) : Nat :=
  ((List.range 8).takeWhile fun i => !b.toNat.testBit i).length

/-- Whether an address lies in a network.  Octets of the mask are looked at only as far as the
address agrees; `full` tells whether all of them were ones so far. -/
def inNetwork (full : Bool) : (address network mask : Octets) → Except Defect Bool
  | a :: as, n :: ns, m :: ms =>
    if leadingOnes m + trailingZeros m ≠ 8 ∨ (!full ∧ m ≠ 0) then .error .badNetworkMask
    else if (a ^^^ n) &&& m ≠ 0 then .ok false
    else inNetwork (full && m = 0xFF) as ns ms
  | _, _, _ => .ok true

/-- Whether an address keeps to a constraint, which is a network with its mask. -/
def addressMatches (address constraint : Octets) : Except Defect Bool :=
  match address.length, constraint.length with
  | 4, 8 => inNetwork true address (constraint.take 4) (constraint.drop 4)
  | 16, 32 => inNetwork true address (constraint.take 16) (constraint.drop 16)
  | 4, 32 | 16, 8 => .ok false
  | 4, _ | 16, _ => .error .badNetworkMask
  | _, _ => .error .badEncoding

/-- Which constraints: names have to lie within the permitted ones and outside the excluded
ones. -/
inductive Subtrees where
  | permitted | excluded
  deriving DecidableEq, Repr

/-- Whether a name matches the base of a constraint; none where they are of different kinds.
Names of directories are not compared: they are outside what is permitted and inside what is
excluded. -/
def matchesBase (subtrees : Subtrees) (name base : Name) : Option (Except Defect Bool) :=
  match name, base with
  | .host n, .host b => some (hostMatches .constraint n b)
  | .directory _, .directory _ => some (.ok (subtrees = .excluded))
  | .address n, .address b => some (addressMatches n b)
  | .other k, .other k' => if k = k' then some (.error .nameConstraintViolation) else none
  | _, _ => none

/-- Takes the base of a constraint off the front. -/
def readBase (bs : Octets) : Except Defect (Name × Octets) := do
  let (value, rest) ← orElse (Der.expect .sequence bs)
  return (← whole .trailingData (Name.read value), rest)

/-- Compares a name with the constraints of one kind; `hit` and `miss` tell what the permitted
ones among those seen so far said; `fuel` is at least the number of constraints. -/
def checkSubtrees (subtrees : Subtrees) (name : Name) (hit miss : Bool) :
    (fuel : Nat) → Octets → Search Unit
  | _, [] =>
    if miss && !hit then Search.fail .nameConstraintViolation else Search.pure ()
  | 0, _ => Search.fail .badEncoding
  | fuel + 1, bs =>
    Search.payComparison.andThen fun _ =>
      (Search.ofExcept (readBase bs)).andThen fun (base, rest) =>
        match matchesBase subtrees name base with
        | none => checkSubtrees subtrees name hit miss fuel rest
        | some (.error d) => Search.fail d
        | some (.ok answer) =>
          match subtrees with
          | .permitted => checkSubtrees subtrees name (hit || answer) (miss || !answer) fuel rest
          | .excluded =>
            if answer then Search.fail .nameConstraintViolation
            else checkSubtrees subtrees name hit miss fuel rest

/-- Compares a name with all constraints. -/
def checkName (permitted excluded : Option Octets) (name : Except Defect Name) : Search Unit :=
  (Search.ofExcept name).andThen fun name =>
    let check (subtrees : Subtrees) (bs : Option Octets) : Search Unit :=
      match bs with
      | none => Search.pure ()
      | some bs => checkSubtrees subtrees name false false bs.length bs
    (check .permitted permitted).andThen fun _ => check .excluded excluded

/-- The permitted and the excluded constraints. -/
def splitConstraints (bs : Octets) :
    Except Defect ((Option Octets × Option Octets) × Octets) := do
  let part (tag : Der.Tag) (bs : Octets) : Except Defect (Option Octets × Octets) :=
    if Der.isNext tag bs then do
      let (value, rest) ← orElse (Der.expect tag bs)
      return (some value, rest)
    else return (none, bs)
  let (permitted, bs) ← part .context0 bs
  let (excluded, rest) ← part .context1 bs
  return ((permitted, excluded), rest)

/-- Compares all names of the certificates with an authority's constraints.  Octets after the
constraints are a defect that is noticed only when all names have been compared. -/
def checkConstraints (constraints : Option Octets) (path : List Certificate) : Search Unit :=
  match constraints with
  | none => Search.pure ()
  | some bs =>
    (Search.ofExcept (splitConstraints bs)).andThen fun ((permitted, excluded), rest) =>
      (Search.forEach (fun c => Search.forEach (checkName permitted excluded) (allNamesOf c))
        path).andThen fun _ =>
          if rest.isEmpty then Search.pure () else Search.fail .badEncoding

end StandIn.Certificate
