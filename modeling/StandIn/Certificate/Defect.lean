/-!
# What can be wrong with a certificate

* `Defect` — a reason for which a path of certificates is refused.
* `Defect.isFatal` — whether the search for a path ends with it.
* `Defect.rank` — how much a reason tells: where several paths fail, the reason that tells most is
  reported.
* `Complaint` — what a peer's certificate is refused with, and its wording.
-/

namespace StandIn.Certificate

/-- A reason for which a path of certificates is refused. -/
inductive Defect where
  | badEncoding
  | badTime
  | trailingData
  | notYetValid
  | expired
  | emptyValidity
  | unknownIssuer
  | notValidForName
  | badSignature
  | unsupportedSignature
  | unsupportedSignatureForKey
  | signatureMismatch
  | purposeNotFound
  | nameConstraintViolation
  | badNetworkMask
  | malformedNameConstraint
  | malformedName
  | pathTooLong
  | authorityUsedAsLeaf
  | leafUsedAsAuthority
  | unsupportedCriticalExtension
  | unsupportedVersion
  | invalidExtension
  | tooManyLevels
  | tooManySignatures
  | tooManySearches
  | tooManyComparisons
  deriving DecidableEq, Repr

namespace Defect

/-- Whether the search for a path ends with this reason: its effort is bounded. -/
def isFatal : Defect → Bool
  | tooManySignatures | tooManySearches | tooManyComparisons => true
  | _ => false

/-- How much a reason tells. -/
def rank : Defect → Nat
  | notYetValid | expired => 290
  | notValidForName => 280
  | badSignature => 260
  | signatureMismatch => 250
  | purposeNotFound => 240
  | nameConstraintViolation => 230
  | pathTooLong => 220
  | authorityUsedAsLeaf | leafUsedAsAuthority => 210
  | emptyValidity => 190
  | badNetworkMask => 180
  | unsupportedSignatureForKey => 150
  | unsupportedSignature => 140
  | unsupportedCriticalExtension | unsupportedVersion => 130
  | tooManyLevels => 61
  | malformedName => 60
  | malformedNameConstraint => 50
  | trailingData => 40
  | invalidExtension => 30
  | badTime => 20
  | badEncoding => 10
  | tooManySignatures | tooManySearches | tooManyComparisons | unknownIssuer => 0

/-- Of two reasons the one that tells more, the first if they tell as much. -/
def moreTelling (a b : Defect) : Defect :=
  if b.rank ≤ a.rank then a else b

end Defect

/-- What a peer's certificate is refused with. -/
inductive Complaint where
  | badEncoding
  | expired
  | notYetValid
  | unknownIssuer
  | notValidForName
  | badSignature
  /-- Any other reason, under its name. -/
  | other (name : String)
  deriving DecidableEq, Repr

/-- The complaint about a defect. -/
def Defect.complaint : Defect → Complaint
  | badEncoding | badTime | trailingData => .badEncoding
  | notYetValid => .notYetValid
  | expired | emptyValidity => .expired
  | unknownIssuer => .unknownIssuer
  | notValidForName => .notValidForName
  | badSignature | unsupportedSignature | unsupportedSignatureForKey => .badSignature
  | signatureMismatch => .other "SignatureAlgorithmMismatch"
  | purposeNotFound => .other "RequiredEkuNotFound"
  | nameConstraintViolation => .other "NameConstraintViolation"
  | badNetworkMask => .other "InvalidNetworkMaskConstraint"
  | malformedNameConstraint => .other "MalformedNameConstraint"
  | malformedName => .other "MalformedDnsIdentifier"
  | pathTooLong => .other "PathLenConstraintViolated"
  | authorityUsedAsLeaf => .other "CaUsedAsEndEntity"
  | leafUsedAsAuthority => .other "EndEntityUsedAsCa"
  | unsupportedCriticalExtension => .other "UnsupportedCriticalExtension"
  | unsupportedVersion => .other "UnsupportedCertVersion"
  | invalidExtension => .other "ExtensionValueInvalid"
  | tooManyLevels => .other "MaximumPathDepthExceeded"
  | tooManySignatures => .other "MaximumSignatureChecksExceeded"
  | tooManySearches => .other "MaximumPathBuildCallsExceeded"
  | tooManyComparisons => .other "MaximumNameConstraintComparisonsExceeded"

/-- The name of a complaint. -/
def Complaint.name : Complaint → String
  | badEncoding => "BadEncoding"
  | expired => "Expired"
  | notYetValid => "NotValidYet"
  | unknownIssuer => "UnknownIssuer"
  | notValidForName => "NotValidForName"
  | badSignature => "BadSignature"
  | other name => s!"Other(OtherError({name}))"

/-- The wording of a complaint. -/
def Complaint.message (c : Complaint) : String :=
  s!"invalid peer certificate: {c.name}"

end StandIn.Certificate
