import StandIn.Text.Utf8

/-!
# Reading octets

The elementary readers of the tagged record format in which tasks and telemetry travel, and the
errors they end in.

* `DecodeCause`, `DecodeError` — what went wrong, and the path of fields that leads to it.
* `Reader` — a step that takes octets off the front of the input.  That it only ever takes, so
  that what it leaves is a suffix of what it got, is part of the type; every loop below ends by
  it.
* `Reader.varint` — a number in base 128, the least digit first, of at most 64 bits.
* `Reader.key` — the field number and wire type in front of a record.
* `Reader.records` — reads records until at most `limit` octets are left.
* `Reader.skip` — takes one record of any kind, groups included.
-/

namespace StandIn.Wire

/-- How the payload of a record is laid out. -/
inductive WireType where
  | varint | fixed64 | delimited | groupStart | groupEnd | fixed32
  deriving Repr, DecidableEq

namespace WireType

/-- The number that stands for a wire type in a key. -/
def code : WireType → Nat
  | varint => 0
  | fixed64 => 1
  | delimited => 2
  | groupStart => 3
  | groupEnd => 4
  | fixed32 => 5

/-- The wire type that a number stands for. -/
def ofCode? : Nat → Option WireType
  | 0 => some varint
  | 1 => some fixed64
  | 2 => some delimited
  | 3 => some groupStart
  | 4 => some groupEnd
  | 5 => some fixed32
  | _ => none

/-- The name of a wire type in error texts. -/
def name : WireType → String
  | varint => "Varint"
  | fixed64 => "SixtyFourBit"
  | delimited => "LengthDelimited"
  | groupStart => "StartGroup"
  | groupEnd => "EndGroup"
  | fixed32 => "ThirtyTwoBit"

theorem ofCode?_code (w : WireType) : ofCode? w.code = some w := by
  cases w <;> rfl

end WireType

/-- Why an octet sequence is no encoded message. -/
inductive DecodeCause where
  | invalidVarint
  | invalidKey (key : Nat)
  | invalidWireType (code : Nat)
  | zeroFieldNumber
  | wireTypeMismatch (actual expected : WireType)
  | underflow
  | lengthExceeded
  | nestingLimit
  | strayGroupEnd
  | notUtf8
  deriving Repr, DecidableEq

/-- The wording of a cause. -/
def DecodeCause.message : DecodeCause → String
  | invalidVarint => "invalid varint"
  | invalidKey key => s!"invalid key value: {key}"
  | invalidWireType code => s!"invalid wire type value: {code}"
  | zeroFieldNumber => "invalid tag value: 0"
  | wireTypeMismatch actual expected =>
    s!"invalid wire type: {actual.name} (expected {expected.name})"
  | underflow => "buffer underflow"
  | lengthExceeded => "delimited length exceeded"
  | nestingLimit => "recursion limit reached"
  | strayGroupEnd => "unexpected end group tag"
  | notUtf8 => "invalid string value: data is not UTF-8 encoded"

/-- A cause together with the fields around it, the innermost first. -/
structure DecodeError where
  cause : DecodeCause
  path : List (String × String) := []
  deriving Repr, DecidableEq

/-- The wording of an error: the path, then the cause. -/
def DecodeError.message (e : DecodeError) : String :=
  let steps := e.path.map fun (message, field) => s!"{message}.{field}: "
  "failed to decode Protobuf message: " ++ String.join steps ++ e.cause.message

/-- A reader of an `α`: it takes octets off the front of its input or fails, and what it leaves
is always a suffix of the input. -/
structure Reader (α : Type) where
  run : Octets → Except DecodeError (α × Octets)
  suffix : ∀ {bs a rest}, run bs = .ok (a, rest) → rest <:+ bs

namespace Reader

variable {α β : Type}

/-- Takes nothing. -/
def pure (a : α) : Reader α where
  run bs := .ok (a, bs)
  suffix h := by cases h; exact List.suffix_rfl

/-- Fails whatever the input is. -/
def fail (cause : DecodeCause) : Reader α where
  run _ := .error ⟨cause, []⟩
  suffix h := nomatch h

/-- One reader after the other. -/
def bind (r : Reader α) (f : α → Reader β) : Reader β where
  run bs :=
    match r.run bs with
    | .error e => .error e
    | .ok (a, rest) => (f a).run rest
  suffix {bs b rest} h := by
    split at h
    · cases h
    · next a mid hr => exact ((f a).suffix h).trans (r.suffix hr)

instance : Monad Reader where
  pure := Reader.pure
  bind := Reader.bind

/-- Puts a field in front of the path of the reader's errors. -/
def within (message field : String) (r : Reader α) : Reader α where
  run bs :=
    match r.run bs with
    | .error e => .error { e with path := e.path ++ [(message, field)] }
    | .ok x => .ok x
  suffix {bs a rest} h := by
    split at h
    · cases h
    · next x hr => cases h; exact r.suffix hr

/-- Fails unless the condition holds. -/
def require (condition : Bool) (cause : DecodeCause) : Reader Unit :=
  if condition then Reader.pure () else fail cause

/-! ## Numbers -/

/-- Reads on in a number whose first `place` digits add up to `sum`.  The tenth digit stands for
the last of 64 bits, so it is 0 or 1 and ends the number. -/
def varintFrom (place sum : Nat) : Octets → Option (Nat × Octets)
  | [] => none
  | b :: bs =>
    if place = 9 ∧ 2 ≤ b then none
    else if b < 0x80 then some (sum + b.toNat * Nat.pow 128 place, bs)
    else varintFrom (place + 1) (sum + b.toNat % 128 * Nat.pow 128 place) bs

theorem varintFrom_suffix {place sum : Nat} {bs : Octets} {n : Nat} {rest : Octets}
    (h : varintFrom place sum bs = some (n, rest)) : rest.length < bs.length ∧ rest <:+ bs := by
  induction bs generalizing place sum with
  | nil => simp [varintFrom] at h
  | cons b bs ih =>
    unfold varintFrom at h
    split at h
    · cases h
    · split at h
      · cases h; exact ⟨by simp, List.suffix_cons ..⟩
      · have := ih h
        exact ⟨by simp; omega, this.2.trans (List.suffix_cons ..)⟩

/-- A number in base 128, the least digit first: all digits but the last carry the top bit. -/
def varint : Reader Nat where
  run bs :=
    match varintFrom 0 0 bs with
    | some r => .ok r
    | none => .error ⟨.invalidVarint, []⟩
  suffix {bs a rest} h := by
    split at h
    · next r hr => cases h; exact (varintFrom_suffix hr).2
    · cases h

/-! ## Stretches of octets -/

/-- Whether there are at least `n` octets. -/
def hasLength : (n : Nat) → Octets → Bool
  | 0, _ => true
  | _ + 1, [] => false
  | n + 1, _ :: bs => hasLength n bs

/-- The next `n` octets. -/
def take (n : Nat) : Reader Octets where
  run bs := if hasLength n bs then .ok (bs.take n, bs.drop n) else .error ⟨.underflow, []⟩
  suffix {bs a rest} h := by
    split at h
    · cases h; exact List.drop_suffix ..
    · cases h

/-- Passes over `n` octets. -/
def drop (n : Nat) : Reader Unit where
  run bs := if hasLength n bs then .ok ((), bs.drop n) else .error ⟨.underflow, []⟩
  suffix {bs a rest} h := by
    split at h
    · cases h; exact List.drop_suffix ..
    · cases h

/-- The number of octets left. -/
def remaining : Reader Nat where
  run bs := .ok (bs.length, bs)
  suffix h := by cases h; exact List.suffix_rfl

/-! ## Records -/

/-- What stands in front of a record. -/
structure Key where
  number : Nat
  wireType : WireType
  deriving Repr, DecidableEq

/-- The key that a number stands for: three bits of wire type below 29 bits of field number. -/
def Key.ofNat (n : Nat) : Except DecodeCause Key :=
  if Nat.pow 2 32 ≤ n then .error (.invalidKey n)
  else match WireType.ofCode? (n % 8) with
    | none => .error (.invalidWireType (n % 8))
    | some w => if n / 8 = 0 then .error .zeroFieldNumber else .ok ⟨n / 8, w⟩

/-- The key of the next record. -/
def key : Reader Key where
  run bs :=
    match varintFrom 0 0 bs with
    | none => .error ⟨.invalidVarint, []⟩
    | some (n, rest) =>
      match Key.ofNat n with
      | .error cause => .error ⟨cause, []⟩
      | .ok k => .ok (k, rest)
  suffix {bs a rest} h := by
    split at h
    · cases h
    · next n r hr =>
      split at h
      · cases h
      · cases h; exact (varintFrom_suffix hr).2

theorem key_length_lt {bs : Octets} {k : Key} {rest : Octets} (h : key.run bs = .ok (k, rest)) :
    rest.length < bs.length := by
  simp only [key] at h
  split at h
  · cases h
  · next n r hr =>
    split at h
    · cases h
    · cases h; exact (varintFrom_suffix hr).1

/-- Reads records into `a`, each by `act`, until at most `limit` octets are left. -/
def recordsRun (act : Key → α → Reader α) (limit : Nat) (a : α) (bs : Octets) :
    Except DecodeError (α × Octets) :=
  if hasLength (limit + 1) bs then
    match hk : key.run bs with
    | .error e => .error e
    | .ok (k, mid) =>
      match hm : (act k a).run mid with
      | .error e => .error e
      | .ok (a', rest) =>
        have : rest.length < bs.length :=
          Nat.lt_of_le_of_lt ((act k a).suffix hm).length_le (key_length_lt hk)
        recordsRun act limit a' rest
  else .ok (a, bs)
  termination_by bs.length

theorem recordsRun_suffix {act : Key → α → Reader α} {limit : Nat} {a : α} {bs : Octets} {b : α}
    {rest : Octets} (h : recordsRun act limit a bs = .ok (b, rest)) : rest <:+ bs := by
  fun_induction recordsRun act limit a bs with
  | case1 => cases h
  | case2 => cases h
  | case3 a bs _ k mid hk a' r hm _ ih =>
    exact (ih h).trans (((act k a).suffix hm).trans (key.suffix hk))
  | case4 => cases h; exact List.suffix_rfl

@[inherit_doc recordsRun]
def records (act : Key → α → Reader α) (limit : Nat) (a : α) : Reader α where
  run := recordsRun act limit a
  suffix := recordsRun_suffix

/-- Reads an announced length and as many octets of records.  The records are read from all that
is left, and only afterwards it is checked that they end where announced. -/
def delimitedRecords (act : Key → α → Reader α) (a : α) : Reader α := do
  let length ← varint
  let available ← remaining
  require (length ≤ available) .underflow
  let a' ← records act (available - length) a
  let left ← remaining
  require (left = available - length) .lengthExceeded
  return a'

/-- Reads records, each by `inner`, up to the group end that belongs to field `number`. -/
def groupRun (number : Nat) (inner : Key → Reader Unit) (bs : Octets) :
    Except DecodeError (Unit × Octets) :=
  match hk : key.run bs with
  | .error e => .error e
  | .ok (k, mid) =>
    if k.wireType = .groupEnd then
      if k.number = number then .ok ((), mid) else .error ⟨.strayGroupEnd, []⟩
    else
      match hm : (inner k).run mid with
      | .error e => .error e
      | .ok (_, rest) =>
        have : rest.length < bs.length :=
          Nat.lt_of_le_of_lt ((inner k).suffix hm).length_le (key_length_lt hk)
        groupRun number inner rest
  termination_by bs.length

theorem groupRun_suffix {number : Nat} {inner : Key → Reader Unit} {bs : Octets} {u : Unit}
    {rest : Octets} (h : groupRun number inner bs = .ok (u, rest)) : rest <:+ bs := by
  fun_induction groupRun number inner bs with
  | case1 => cases h
  | case2 bs k mid hk _ _ => cases h; exact key.suffix hk
  | case3 => cases h
  | case4 => cases h
  | case5 bs k mid hk _ _ r hm _ ih =>
    exact (ih h).trans (((inner k).suffix hm).trans (key.suffix hk))

@[inherit_doc groupRun]
def group (number : Nat) (inner : Key → Reader Unit) : Reader Unit where
  run := groupRun number inner
  suffix := groupRun_suffix

/-- Passes over the payload of the record with key `k`.  `depth` is how many more levels of
groups may open. -/
def skip : (depth : Nat) → (k : Key) → Reader Unit
  | 0, _ => fail .nestingLimit
  | depth + 1, k =>
    match k.wireType with
    | .varint => do
      let _ ← varint
      return ()
    | .fixed32 => drop 4
    | .fixed64 => drop 8
    | .delimited => do drop (← varint)
    | .groupStart => group k.number (skip depth)
    | .groupEnd => fail .strayGroupEnd

end Reader

end StandIn.Wire
