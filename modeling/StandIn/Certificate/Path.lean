import StandIn.Certificate.Instant
import StandIn.Certificate.Name
import StandIn.Certificate.Signature

/-!
# Paths of certificates

A certificate is believed if a path leads from it to a trusted key: each certificate on it is
signed with the next one's key, and the last with that of an anchor.

* `checkAlone` — what has to hold of a certificate on a path whoever issued it.
* `checkValidity`, `checkBasicConstraints`, `checkPurpose` — its parts.
* `closes` — whether an anchor closes a path.
* `search` — seeks a path, depth first, through certificates that the peer sent along.
* `verifyPath` — whether there is one.

A path is a list whose last member is the certificate in question and whose head was issued by
what comes next.
-/

namespace StandIn.Certificate

/-- How many certificates may stand between the one in question and an anchor. -/
def maxLevels : Nat := 6

/-- What a certificate on a path is used for. -/
inductive Role where
  | leaf | authority
  deriving DecidableEq, Repr

/-- The encoded name of the purpose of a server's certificate. -/
def serverPurpose : Octets := [0x2b, 0x06, 0x01, 0x05, 0x05, 0x07, 0x03, 0x01]

/-! ## A certificate by itself -/

/-- Checks that the instant lies within a certificate's validity. -/
def checkValidity (validity : Octets) (now : Instant) : Except Defect Unit :=
  whole .badEncoding do
    let (start, bs) ← readInstant validity
    let (stop, rest) ← readInstant bs
    if stop < start then throw .emptyValidity
    if now < start then throw .notYetValid
    if stop < now then throw .expired
    return ((), rest)

/-- Takes the constraints on a certificate's role: whether it is an authority's, and how many
authorities may stand below it. -/
def readConstraints (bs : Octets) : Except Defect ((Bool × Option Nat) × Octets) := do
  let (authority, bs) ← boolean bs
  if bs.isEmpty then return ((authority, none), bs)
  let (limit, rest) ← smallNumber bs
  return ((authority, some limit), rest)

/-- Checks that a certificate may have its role, with `below` authorities below it. -/
def checkRole (role : Role) (below : Nat) (authority : Bool) (limit : Option Nat) :
    Except Defect Unit :=
  match role, authority, limit with
  | .leaf, true, _ => .error .authorityUsedAsLeaf
  | .authority, false, _ => .error .leafUsedAsAuthority
  | .authority, true, some n => if n < below then .error .pathTooLong else .ok ()
  | _, _, _ => .ok ()

/-- Checks the constraints on a certificate's role, if it has any. -/
def checkBasicConstraints (constraints : Option Octets) (role : Role) (below : Nat) :
    Except Defect Unit :=
  match constraints with
  | none => checkRole role below false none
  | some bs => do
    let ((authority, limit), rest) ← readConstraints bs
    checkRole role below authority limit
    if !rest.isEmpty then throw .badEncoding

/-- Seeks a purpose among the purposes in the octets; `fuel` is at least their number. -/
def findPurpose (purpose : Octets) : (fuel : Nat) → Octets → Except Defect Unit
  | 0, _ => .error .badEncoding
  | fuel + 1, bs => do
    let (found, rest) ← orElse (Der.expect .oid bs)
    if found = purpose then return ()
    if rest.isEmpty then throw .purposeNotFound
    findPurpose purpose fuel rest

/-- Checks that a certificate may be used for the purpose; one without purposes may be used for
any. -/
def checkPurpose (purposes : Option Octets) (purpose : Octets) : Except Defect Unit :=
  match purposes with
  | none => .ok ()
  | some bs => findPurpose purpose (bs.length + 1) bs

/-- Checks what has to hold of a certificate whoever issued it. -/
def checkAlone (c : Certificate) (now : Instant) (role : Role) (below : Nat) (purpose : Octets) :
    Except Defect Unit := do
  checkValidity c.validity now
  checkBasicConstraints c.basicConstraints role below
  checkPurpose c.purposes purpose

/-! ## A path -/

/-- Checks that each certificate is signed with the key of the one before it, and the first with
the given key. -/
def checkSignatures (publicKey : Octets) : List Certificate → Search Unit
  | [] => Search.pure ()
  | c :: below => (checkSigned publicKey c).andThen fun _ => checkSignatures c.publicKey below

/-- Checks the names on a path against the constraints of each authority above them. -/
def checkAllConstraints (constraints : Option Octets) : List Certificate → Search Unit
  | [] => Search.pure ()
  | c :: below =>
    (checkConstraints constraints (c :: below)).andThen fun _ =>
      checkAllConstraints c.nameConstraints below

/-- Checks that an anchor closes a path: it issued the head, all signatures hold, and all names
keep to the constraints. -/
def closes (path : List Certificate) (anchor : Anchor) : Search Unit :=
  match path with
  | [] => Search.fail .unknownIssuer
  | head :: _ =>
    if head.issuer ≠ anchor.subject then Search.fail .unknownIssuer
    else (checkSignatures anchor.publicKey path).andThen fun _ =>
      checkAllConstraints anchor.nameConstraints path

/-- Whether a certificate may come next: it has the name of the head's issuer, and is not on the
path already. -/
def continues (path : List Certificate) (candidate : Certificate) : Bool :=
  (path.head?.any fun head => candidate.subject = head.issuer) &&
    !path.any fun c => candidate.publicKey = c.publicKey && candidate.subject = c.subject

/-- The role of the head of a path. -/
def headRole (path : List Certificate) : Role :=
  if path.length = 1 then .leaf else .authority

/-- Seeks to close a path by an anchor, or to go on with a certificate that was sent along;
`deeper` is the search from there, if there is room. -/
def extendSearch (anchors : List Anchor) (sent : List Octets) (now : Instant) (purpose : Octets)
    (deeper : Option (List Certificate → Search Anchor)) (path : List Certificate) :
    Search Anchor :=
  match path with
  | [] => Search.fail .unknownIssuer
  | head :: _ =>
    (Search.ofExcept (checkAlone head now (headRole path) (path.length - 2) purpose)).andThen
      fun _ budget =>
        let close (a : Anchor) : Search Anchor := (closes path a).andThen fun _ => Search.pure a
        match Search.firstOf close .unknownIssuer anchors budget with
        | (.ok a, rest) => (.ok a, rest)
        | (.error d, rest) =>
          if d.isFatal then (.error d, rest)
          else
            let step (bs : Octets) : Search Anchor :=
              (Search.ofExcept (Certificate.ofOctets bs)).andThen fun candidate =>
                if continues path candidate then
                  Search.paySearch.andThen fun _ =>
                    match deeper with
                    | none => Search.fail .tooManyLevels
                    | some go => go (candidate :: path)
                else Search.fail .unknownIssuer
            Search.firstOf step d sent rest

/-- Seeks the anchor of a path to which at most `room` certificates may be added. -/
def search (anchors : List Anchor) (sent : List Octets) (now : Instant) (purpose : Octets) :
    (room : Nat) → (path : List Certificate) → Search Anchor
  | 0 => extendSearch anchors sent now purpose none
  | room + 1 => extendSearch anchors sent now purpose (some (search anchors sent now purpose room))

/-- The anchor to which a path leads from a certificate. -/
def verifyPath (anchors : List Anchor) (leaf : Certificate) (sent : List Octets) (now : Instant)
    (purpose : Octets) : Except Defect Anchor :=
  (search anchors sent now purpose maxLevels [leaf] {}).1

end StandIn.Certificate
