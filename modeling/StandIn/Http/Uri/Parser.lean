import StandIn.Http.Uri

/-!
# Reading resource identifiers

* `Uri.pathAndQuery` — reads a path with its query; a fragment is dropped.
* `Authority.split` — splits an authority off the front of a text.
* `Scheme.split` — splits a scheme off the front of a text.
* `Uri.parse` — reads an identifier of any form.
* `Uri.ofParts` — puts an identifier together from parts that were read before.

Limits count octets: an identifier has at most 65534 of them and a scheme at most 64.
-/

namespace StandIn.Http

/-- The most octets that an identifier may have. -/
def Uri.maxSize : Nat := 65534

/-! ## Path and query -/

namespace Uri

/-- The characters of a path.  Quotes and braces should be escaped but often are not. -/
def isPathChar (c : Char) : Bool :=
  let n := c.toNat
  n = 0x21 || n = 0x22 || (0x24 ≤ n && n ≤ 0x3B) || n = 0x3D || (0x40 ≤ n && n ≤ 0x5F) ||
    (0x61 ≤ n && n ≤ 0x7E) || 0x80 ≤ n

/-- The characters of a query. -/
def isQueryChar (c : Char) : Bool :=
  let n := c.toNat
  n = 0x21 || (0x24 ≤ n && n ≤ 0x3B) || n = 0x3D || (0x3F ≤ n && n ≤ 0x7E) || 0x80 ≤ n

/-- Whether a text can be a path with a query, as far as its first character tells: it is empty,
the asterisk, or starts with a slash or with the sign of a query or a fragment. -/
def startsAsPath (cs : List Char) : Bool :=
  match cs with
  | [] => true
  | ['*'] => true
  | c :: _ => c = '/' || c = '?' || c = '#'

/-- Reads a path with its query. -/
def pathAndQuery (cs : List Char) : Except UriError (String × Option String) :=
  if !startsAsPath cs then .error .noLeadingSlash
  else
    let shown := cs.takeWhile (· ≠ '#')
    let path := shown.takeWhile (· ≠ '?')
    let query := (shown.drop path.length).tail
    if !path.all isPathChar || !query.all isQueryChar then .error .invalidCharacter
    else .ok (String.ofList path,
      if path.length < shown.length then some (String.ofList query) else none)

end Uri

/-! ## Authorities -/

namespace Authority

/-- What is known about an authority while it is read from left to right. -/
structure Scan where
  /-- Colons since the last `@` or closing bracket. -/
  colons : Nat := 0
  opened : Bool := false
  closed : Bool := false
  /-- Whether a percent sign came since the last `@` or closing bracket. -/
  percent : Bool := false
  /-- Whether an `@` came last. -/
  endsInAt : Bool := false

/-- The most colons that may stand in one place: seven in a literal address, and one more. -/
def maxColons : Nat := 8

/-- The characters that may stand in an authority besides those with a meaning. -/
def isPlain (c : Char) : Bool :=
  c.isAlphanum || "!$&'()*+,-.;=_~".toList.contains c

/-- The characters that end an authority. -/
def isEnd (c : Char) : Bool :=
  c = '/' || c = '?' || c = '#'

/-- One more character. -/
def Scan.push (s : Scan) (c : Char) : Except UriError Scan :=
  if c = ':' then
    if maxColons ≤ s.colons then .error .invalidAuthority
    else .ok { s with colons := s.colons + 1, endsInAt := false }
  else if c = '[' then
    if s.percent || s.opened then .error .invalidAuthority
    else .ok { s with opened := true, endsInAt := false }
  else if c = ']' then
    if !s.opened || s.closed then .error .invalidAuthority
    else .ok { s with closed := true, colons := 0, percent := false, endsInAt := false }
  else if c = '@' then .ok { s with colons := 0, percent := false, endsInAt := true }
  else if c = '%' then .ok { s with percent := true, endsInAt := false }
  else if isPlain c then .ok { s with endsInAt := false }
  else .error .invalidCharacter

/-- Whether an authority may end here: brackets are closed, at most one colon introduces a port,
something follows an `@`, and percent signs occur only in front of one or in brackets. -/
def Scan.complete (s : Scan) : Bool :=
  s.opened == s.closed && s.colons ≤ 1 && !s.endsInAt && !s.percent

/-- Splits an authority, possibly an empty one, off the front of a non-empty text. -/
def split (cs : List Char) : Except UriError (List Char × List Char) :=
  if cs.isEmpty then .error .empty
  else
    let front := cs.takeWhile (!isEnd ·)
    (front.foldlM Scan.push {}).bind fun s =>
      if s.complete then .ok (front, cs.drop front.length) else .error .invalidAuthority

end Authority

/-! ## Schemes -/

namespace Scheme

/-- The characters of a scheme. -/
def isSchemeChar (c : Char) : Bool :=
  c.isAlphanum || c = '+' || c = '-' || c = '.' || c = '~'

/-- The most characters that a scheme may have. -/
def maxLength : Nat := 64

/-- Whether the text starts with `word`, which is in lower case, ignoring case. -/
def startsWith (word : String) (cs : List Char) : Bool :=
  (cs.take word.length).map Char.toLower = word.toList

/-- Splits a scheme with its separator off the front of a text, if there is one.  The two schemes
of the web are brought to lower case, all others are kept. -/
def split (cs : List Char) : Except UriError (Option String × List Char) :=
  if startsWith "http://" cs then .ok (some "http", cs.drop 7)
  else if startsWith "https://" cs then .ok (some "https", cs.drop 8)
  else
    let name := cs.takeWhile isSchemeChar
    match cs.drop name.length with
    | ':' :: '/' :: '/' :: rest =>
      if cs.length ≤ 3 then .ok (none, cs)
      else if maxLength < name.length then .error .schemeTooLong
      else .ok (some (String.ofList name), rest)
    | _ => .ok (none, cs)

end Scheme

/-! ## Whole identifiers -/

namespace Uri

/-- An identifier that is nothing but a path with a query. -/
def ofPath (cs : List Char) : Except UriError Uri :=
  (pathAndQuery cs).map fun (path, query) => ⟨none, none, path, query⟩

/-- An identifier that is nothing but an authority.  `excess` tells what is wrong if more
follows. -/
def ofAuthority (cs : List Char) (excess : UriError) : Except UriError Uri :=
  (Authority.split cs).bind fun (front, rest) =>
    if rest.isEmpty then .ok ⟨none, some (String.ofList front), "", none⟩ else .error excess

/-- An absolute identifier behind its scheme. -/
def ofAbsolute (scheme : String) (cs : List Char) : Except UriError Uri :=
  (Authority.split cs).bind fun (front, rest) =>
    if front.isEmpty then .error .invalidFormat
    else (pathAndQuery rest).map fun (path, query) =>
      ⟨some scheme, some (String.ofList front), path, query⟩

/-- The identifier that a text stands for. -/
def parse (s : String) : Except UriError Uri :=
  if maxSize < s.utf8ByteSize then .error .tooLong
  else
    match s.toList with
    | [] => .error .empty
    | ['*'] => .ok ⟨none, none, "*", none⟩
    | '/' :: rest => ofPath ('/' :: rest)
    | cs =>
      if s.utf8ByteSize = 1 then ofAuthority cs .invalidCharacter
      else
        (Scheme.split cs).bind fun (scheme, rest) =>
          match scheme with
          | some scheme => ofAbsolute scheme rest
          | none => ofAuthority rest .invalidFormat

/-- An identifier put together from scheme, authority and the text of path and query.  Scheme and
authority come together or not at all. -/
def ofParts (scheme authority : Option String) (pathAndQuery : String) : Except UriError Uri :=
  if maxSize < pathAndQuery.utf8ByteSize then .error .tooLong
  else
    (Uri.pathAndQuery pathAndQuery.toList).bind fun (path, query) =>
      match scheme, authority with
      | some _, none => .error .missingAuthority
      | none, some _ => .error .missingScheme
      | _, _ => .ok ⟨scheme, authority, path, query⟩

end Uri

end StandIn.Http
