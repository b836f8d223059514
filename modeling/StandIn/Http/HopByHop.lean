import StandIn.Http.Headers

/-!
# Fields for one hop

Some header fields speak about a single connection and must not be passed on.  Nine of them are
known by name; a sender may name others in the field `Connection`.

* `hopByHop` — the nine names.
* `Headers.named` — the names that `Connection` lists.  Only values of visible text are considered.
* `Headers.endToEnd` — what is left to be passed on.
-/

namespace StandIn.Http

/-- The field that names other fields of one hop. -/
def connection : FieldName := ⟨"connection", by decide⟩

/-- The fields that are always of one hop. -/
def hopByHop : List FieldName :=
  [connection, ⟨"proxy-connection", by decide⟩, ⟨"keep-alive", by decide⟩,
    ⟨"proxy-authenticate", by decide⟩, ⟨"proxy-authorization", by decide⟩, ⟨"te", by decide⟩,
    ⟨"trailer", by decide⟩, ⟨"transfer-encoding", by decide⟩, ⟨"upgrade", by decide⟩]

/-- Whether the octet is a space or a tab. -/
def isBlank (b : UInt8) : Bool :=
  b = 32 || b = 9

/-- The items of a list that commas separate, without blanks around them. -/
def listItems (bs : Octets) : List Octets :=
  (splitAt 0x2C bs).map (trimBy isBlank)

namespace Headers

/-- The fields that `Connection` names.  Items that are no names are passed over. -/
def named (h : Headers) : List FieldName :=
  (h.values connection).flatMap fun v =>
    match v.visible? with
    | some bs => (listItems bs).filterMap FieldName.ofOctets?
    | none => []

/-- The fields that may be passed on. -/
def endToEnd (h : Headers) : Headers :=
  (h.named ++ hopByHop).foldl erase h

end Headers

end StandIn.Http
