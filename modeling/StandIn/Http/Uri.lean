/-!
# Resource identifiers

What a request asks for, and where a relay sends it.  Four forms occur: a path with or without a
query (`/v1/tasks`), an absolute one (`http://host/path`), a bare authority (`host:443`) and the
asterisk.

* `Uri` — scheme, authority, path and query, each as written.
* `Uri.path` — the path as it counts: an absolute identifier always has one.
* `Uri.pathAndQuery?`, `Uri.host?`, `Uri.port?` — parts.
* `Uri.render` — the text.
* `UriError` — why a text is no identifier, or why parts do not make one.
-/

namespace StandIn.Http

/-- Why a text is no identifier, or why parts do not make one. -/
inductive UriError where
  | tooLong
  | empty
  | invalidCharacter
  | invalidAuthority
  | invalidFormat
  | schemeTooLong
  | noLeadingSlash
  | missingAuthority
  | missingScheme
  deriving DecidableEq, Repr

/-- The wording of an error. -/
def UriError.message : UriError → String
  | tooLong => "uri too long"
  | empty => "empty string"
  | invalidCharacter => "invalid uri character"
  | invalidAuthority => "invalid authority"
  | invalidFormat => "invalid format"
  | schemeTooLong => "scheme too long"
  | noLeadingSlash => "path does not start with slash"
  | missingAuthority => "authority missing"
  | missingScheme => "scheme missing"

/-- An identifier.  `rawPath` is the path as written, which is empty in `http://host`. -/
structure Uri where
  scheme : Option String
  authority : Option String
  rawPath : String
  query : Option String
  deriving DecidableEq, Repr

/-! ## Authorities -/

namespace Authority

/-- What stands behind the last `@`: host and port. -/
def hostAndPort (authority : List Char) : List Char :=
  (authority.reverse.takeWhile (· ≠ '@')).reverse

/-- The host.  A literal address in brackets keeps them. -/
def host (authority : String) : String :=
  let cs := hostAndPort authority.toList
  match cs with
  | '[' :: _ => String.ofList (cs.takeWhile (· ≠ ']') ++ [']'])
  | _ => String.ofList (cs.takeWhile (· ≠ ':'))

/-- The number below 65536 that decimal digits stand for.  A plus sign may stand in front. -/
def portNumber? (cs : List Char) : Option Nat :=
  let digits := match cs with
    | '+' :: rest => rest
    | _ => cs
  if digits.isEmpty || !digits.all Char.isDigit then none
  else
    let n := digits.foldl (fun n c => n * 10 + (c.toNat - 48)) 0
    if n < 65536 then some n else none

/-- The port: the number behind the last colon, if a number stands there. -/
def port? (authority : String) : Option Nat :=
  let cs := authority.toList
  if cs.contains ':' then portNumber? (cs.reverse.takeWhile (· ≠ ':')).reverse else none

end Authority

/-! ## Parts and text -/

namespace Uri

/-- The path.  With a scheme or a query an empty path counts as the root. -/
def path (u : Uri) : String :=
  if u.rawPath = "" ∧ (u.scheme.isSome ∨ u.query.isSome) then "/" else u.rawPath

/-- The host. -/
def host? (u : Uri) : Option String :=
  u.authority.map Authority.host

/-- The port, if it is given and a number that ports have. -/
def port? (u : Uri) : Option Nat :=
  u.authority.bind Authority.port?

/-- A query with the question mark in front. -/
def querySuffix : Option String → String
  | some q => "?" ++ q
  | none => ""

/-- Path and query as one text.  A bare authority has neither. -/
def pathAndQuery? (u : Uri) : Option String :=
  if u.scheme.isSome ∨ u.authority.isNone then
    let written := u.rawPath ++ querySuffix u.query
    some (if written = "" then "/" else written)
  else none

/-- The text of an identifier. -/
def render (u : Uri) : String :=
  (match u.scheme with
    | some s => s ++ "://"
    | none => "") ++
  u.authority.getD "" ++ u.path ++ querySuffix u.query

end Uri

end StandIn.Http
