import StandIn.Http.Method
import StandIn.Text.Utf8

/-!
# Header fields

* `FieldName` — the name of a field: a token in lower case, since case does not count.
* `FieldValue` — a value: any octets but controls, of which the tab is allowed.
* `FieldValue.visible?` — the octets of a value that is plain visible text.
* `Headers` — fields in the order in which they came.  A name may occur several times.
* `Headers.values`, `Headers.erase`, `Headers.set`, `Headers.add` — access by name.
-/

namespace StandIn.Http

/-- The most characters that a field's name may have. -/
def maxFieldName : Nat := 65535

/-- Whether the text is the name of a field, written in lower case. -/
def isFieldName (s : String) : Bool :=
  isToken s && s.toList.all (!Char.isUpper ·) && s.length ≤ maxFieldName

/-- The name of a field. -/
structure FieldName where
  text : String
  valid : isFieldName text = true
  deriving DecidableEq, Repr

namespace FieldName

/-- The field that a name stands for, whatever the case of its letters. -/
def ofString? (s : String) : Option FieldName :=
  let lower := String.ofList (s.toList.map Char.toLower)
  if h : isFieldName lower = true then some ⟨lower, h⟩ else none

/-- The field that octets name. -/
def ofOctets? (bs : Octets) : Option FieldName :=
  Utf8.decode? bs >>= ofString?

end FieldName

/-- Whether the octet may occur in a value. -/
def isValueOctet (b : UInt8) : Bool :=
  b = 9 || (32 ≤ b && b ≠ 127)

/-- The value of a field. -/
structure FieldValue where
  octets : Octets
  valid : octets.all isValueOctet = true
  deriving DecidableEq, Repr

namespace FieldValue

/-- The value that consists of the octets. -/
def ofOctets? (bs : Octets) : Option FieldValue :=
  if h : bs.all isValueOctet = true then some ⟨bs, h⟩ else none

/-- Whether an octet is visible text, a space or a tab. -/
def isVisible (b : UInt8) : Bool :=
  b = 9 || (32 ≤ b && b < 127)

/-- The octets of a value that consists of visible text. -/
def visible? (v : FieldValue) : Option Octets :=
  if v.octets.all isVisible then some v.octets else none

end FieldValue

/-- Header fields in order. -/
structure Headers where
  fields : List (FieldName × FieldValue)
  deriving DecidableEq, Repr

namespace Headers

/-- No fields. -/
def empty : Headers := ⟨[]⟩

/-- The values of a name, in order. -/
def values (h : Headers) (name : FieldName) : List FieldValue :=
  h.fields.filterMap fun (n, v) => if n = name then some v else none

/-- The first value of a name. -/
def get? (h : Headers) (name : FieldName) : Option FieldValue :=
  (h.values name).head?

/-- Whether the name occurs. -/
def contains (h : Headers) (name : FieldName) : Bool :=
  h.fields.any fun (n, _) => n = name

/-- The fields but those of a name. -/
def erase (h : Headers) (name : FieldName) : Headers :=
  ⟨h.fields.filter fun (n, _) => n ≠ name⟩

/-- One more field at the end. -/
def add (h : Headers) (name : FieldName) (value : FieldValue) : Headers :=
  ⟨h.fields ++ [(name, value)]⟩

/-- The fields with a single value for a name, in place of all that it had. -/
def set (h : Headers) (name : FieldName) (value : FieldValue) : Headers :=
  (h.erase name).add name value

/-- The number of fields. -/
def size (h : Headers) : Nat := h.fields.length

end Headers

end StandIn.Http
