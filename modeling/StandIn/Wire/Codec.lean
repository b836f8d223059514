import StandIn.Wire.Writer
import StandIn.Text.Dictionary

/-!
# Codecs of messages

A message type is described once, by the list of its fields; reading, writing and measuring all
follow that list.

* `Scalar` — how a single value is laid out: `Scalar.int32`, `Scalar.uint32`, `Scalar.int64`,
  `Scalar.bool`, `Scalar.text`.
* `Field` — how a record of one field number is merged into a message, and how the field is
  written.  The kinds are `Field.scalar`, `Field.repeated`, `Field.message?`, `Field.messages` and
  `Field.dictionary`.
* `Codec` — a message type: `Codec.decode`, `Codec.merge`, `Codec.mergeDelimited`,
  `Codec.encode`, `Codec.size`.
* `Codec.Writes` — what may be written for a message, dictionaries having no order.
-/

namespace StandIn.Wire

/-- How many levels of messages and groups may be open at once. -/
def nestingLimit : Nat := 100

/-! ## Single values -/

/-- How a single value is laid out.  `default` is the value that is not written. -/
structure Scalar (α : Type) where
  wireType : WireType
  default : α
  read : Reader α
  write : α → Octets
  size : α → Nat

namespace Scalar

/-- Signed 32 bit numbers.  They are sent sign-extended to 64 bits, and of what is received the
lower 32 bits count. -/
def int32 : Scalar Int32 where
  wireType := .varint
  default := 0
  read := do return (← Reader.varint).toUInt32.toInt32
  write x := varintOctets x.toInt64.toUInt64.toNat
  size x := varintSize x.toInt64.toUInt64.toNat

/-- Unsigned 32 bit numbers; of what is received the lower 32 bits count. -/
def uint32 : Scalar UInt32 where
  wireType := .varint
  default := 0
  read := do return (← Reader.varint).toUInt32
  write x := varintOctets x.toNat
  size x := varintSize x.toNat

/-- Signed 64 bit numbers. -/
def int64 : Scalar Int64 where
  wireType := .varint
  default := 0
  read := do return (← Reader.varint).toUInt64.toInt64
  write x := varintOctets x.toUInt64.toNat
  size x := varintSize x.toUInt64.toNat

/-- Truth values: any number but 0 is true. -/
def bool : Scalar Bool where
  wireType := .varint
  default := false
  read := do return (← Reader.varint) != 0
  write x := [if x then 1 else 0]
  size _ := 1

/-- Text as UTF-8 after its length. -/
def text : Scalar String where
  wireType := .delimited
  default := ""
  read := do
    let octets ← Reader.take (← Reader.varint)
    match Utf8.decode? octets with
    | some s => return s
    | none => Reader.fail .notUtf8
  write s := delimitedOctets (Utf8.encode s)
  size s := delimitedSize s.utf8ByteSize

variable {α : Type}

/-- Reads a value that stands in a record of type `actual`. -/
def readAs (c : Scalar α) (actual : WireType) : Reader α := do
  Reader.require (actual = c.wireType) (.wireTypeMismatch actual c.wireType)
  c.read

/-- The record of a value. -/
def record (c : Scalar α) (number : Nat) (x : α) : Octets :=
  keyOctets number c.wireType ++ c.write x

/-- The size of the record of a value. -/
def recordSize (c : Scalar α) (number : Nat) (x : α) : Nat :=
  keySize number + c.size x

end Scalar

/-! ## Fields -/

/-- A field of the message type `M`.  `merge` reads the payload of one record of the field;
`depth` is how many more levels may open in it.  The entries of a dictionary have no order on the
wire: `write` is one way to write the field, and `Writes` tells which octets may be written. -/
structure Field (M : Type) where
  number : Nat
  name : String
  merge : (depth : Nat) → WireType → M → Reader M
  write : M → Octets
  size : M → Nat
  Writes : M → Octets → Prop := fun m p => p = write m

/-- A message type: its name in error texts, the message that has nothing set, and its fields by
ascending number. -/
structure Codec (M : Type) where
  name : String
  empty : M
  fields : List (Field M)

namespace Codec

variable {M : Type} (c : Codec M)

/-- Reads the payload of the record with key `k` into `m`: a declared field is merged, any other
is passed over. -/
def mergeRecord (depth : Nat) (k : Reader.Key) (m : M) : Reader M :=
  match c.fields.find? (·.number = k.number) with
  | some f => (f.merge depth k.wireType m).within c.name f.name
  | none => do
    Reader.skip depth k
    return m

/-- Reads records into `m` to the end of the input. -/
def merge (m : M) (bs : Octets) : Except DecodeError M :=
  ((Reader.records (c.mergeRecord nestingLimit) 0 m).run bs).map (·.1)

/-- The message that the octets encode. -/
def decode (bs : Octets) : Except DecodeError M :=
  c.merge c.empty bs

/-- Reads a length and as many octets of records into `m`. -/
def mergeNested : (depth : Nat) → (m : M) → Reader M
  | 0, _ => Reader.fail .nestingLimit
  | depth + 1, m => Reader.delimitedRecords (c.mergeRecord depth) m

/-- Reads a length and as many octets of records into `m`, and returns what follows them. -/
def mergeDelimited (m : M) (bs : Octets) : Except DecodeError (M × Octets) :=
  (c.mergeNested nestingLimit m).run bs

/-- The octets of a message. -/
def encode (m : M) : Octets :=
  c.fields.flatMap (·.write m)

/-- The octets that may be written for a message: field by field, each as it may be written. -/
def Writes (m : M) (bs : Octets) : Prop :=
  ∃ ps : List (Field M × Octets), ps.map (·.1) = c.fields ∧ (∀ x ∈ ps, x.1.Writes m x.2) ∧
    bs = ps.flatMap (·.2)

/-- The number of octets of a message. -/
def size (m : M) : Nat :=
  (c.fields.map (·.size m)).foldr (· + ·) 0

/-- The record of a message in field `number` of another one. -/
def record (number : Nat) (m : M) : Octets :=
  keyOctets number .delimited ++ delimitedOctets (c.encode m)

/-- The records that may be written for a message in field `number` of another one. -/
def WritesRecord (number : Nat) (m : M) (p : Octets) : Prop :=
  ∃ bs, c.Writes m bs ∧ p = keyOctets number .delimited ++ delimitedOctets bs

/-- The size of the record of a message in field `number` of another one. -/
def recordSize (number : Nat) (m : M) : Nat :=
  keySize number + delimitedSize (c.size m)

/-- Reads a message that stands in a record of type `actual`. -/
def mergeAs (depth : Nat) (actual : WireType) (m : M) : Reader M := do
  Reader.require (actual = .delimited) (.wireTypeMismatch actual .delimited)
  c.mergeNested depth m

end Codec

namespace Field

variable {M N α : Type}

/-- A field that holds one value; a later record replaces an earlier one, and the default value is
not written. -/
def scalar [DecidableEq α] (number : Nat) (name : String) (c : Scalar α)
    (get : M → α) (set : M → α → M) : Field M where
  number := number
  name := name
  merge _ w m := do return set m (← c.readAs w)
  write m := if get m = c.default then [] else c.record number (get m)
  size m := if get m = c.default then 0 else c.recordSize number (get m)

/-- A field that holds a list of values, one a record. -/
def repeated (number : Nat) (name : String) (c : Scalar α)
    (get : M → List α) (set : M → List α → M) : Field M where
  number := number
  name := name
  merge _ w m := do return set m (get m ++ [← c.readAs w])
  write m := (get m).flatMap (c.record number)
  size m := ((get m).map (c.recordSize number)).foldr (· + ·) 0

/-- A field that holds at most one message; a later record is merged into what an earlier one
gave. -/
def message? (number : Nat) (name : String) (c : Codec N)
    (get : M → Option N) (set : M → Option N → M) : Field M where
  number := number
  name := name
  merge depth w m := do return set m (some (← c.mergeAs depth w ((get m).getD c.empty)))
  write m := ((get m).map (c.record number)).getD []
  size m := ((get m).map (c.recordSize number)).getD 0
  Writes m p := match get m with
    | none => p = []
    | some x => c.WritesRecord number x p

/-- A field that holds a list of messages, one a record. -/
def messages (number : Nat) (name : String) (c : Codec N)
    (get : M → List N) (set : M → List N → M) : Field M where
  number := number
  name := name
  merge depth w m := do return set m (get m ++ [← c.mergeAs depth w c.empty])
  write m := (get m).flatMap (c.record number)
  size m := ((get m).map (c.recordSize number)).foldr (· + ·) 0
  Writes m p := ∃ ps : List (N × Octets), ps.map (·.1) = get m ∧
    (∀ x ∈ ps, c.WritesRecord number x.1 x.2) ∧ p = ps.flatMap (·.2)

/-- One entry of a dictionary as a message with the fields 1 and 2.  Errors in it are told of the
dictionary, so its fields add no path of their own. -/
def entryRecord (depth : Nat) (k : Reader.Key) (e : String × String) : Reader (String × String) :=
  if k.number = 1 then do return (← Scalar.text.readAs k.wireType, e.2)
  else if k.number = 2 then do return (e.1, ← Scalar.text.readAs k.wireType)
  else do
    Reader.skip depth k
    return e

/-- Reads a length and as many octets of one entry. -/
def readEntry : (depth : Nat) → Reader (String × String)
  | 0 => Reader.fail .nestingLimit
  | depth + 1 => Reader.delimitedRecords (entryRecord depth) ("", "")

/-- The octets of one entry, in which an empty key or value is left out. -/
def entryOctets (e : String × String) : Octets :=
  (if e.1 = "" then [] else Scalar.text.record 1 e.1) ++
    (if e.2 = "" then [] else Scalar.text.record 2 e.2)

/-- The records of some entries in field `number`. -/
def entriesOctets (number : Nat) (es : List (String × String)) : Octets :=
  es.flatMap fun e => keyOctets number .delimited ++ delimitedOctets (entryOctets e)

/-- The size of one entry. -/
def entrySize (e : String × String) : Nat :=
  (if e.1 = "" then 0 else Scalar.text.recordSize 1 e.1) +
    (if e.2 = "" then 0 else Scalar.text.recordSize 2 e.2)

/-- A field that holds a dictionary, one entry a record, in any order; a later entry replaces an
earlier one of its key.  An entry is read as one whatever the wire type of its record says. -/
def dictionary (number : Nat) (name : String)
    (get : M → Dictionary) (set : M → Dictionary → M) : Field M where
  number := number
  name := name
  merge depth _ m := do
    let e ← readEntry depth
    return set m ((get m).insert e.1 e.2)
  write m := entriesOctets number (get m).entries
  size m :=
    ((get m).entries.map fun e => keySize number + delimitedSize (entrySize e)).foldr (· + ·) 0
  Writes m p := ∃ es : List (String × String), es.Perm (get m).entries ∧
    p = entriesOctets number es

end Field

end StandIn.Wire
