import StandIn.Pem.Base64
import StandIn.Text.Quoted

/-!
# PEM files

Certificates and keys as text: sections between a line that begins and a line that ends them, and
anything else around them.

* `Pem.Kind` — the kinds of sections that are known; others are passed over.
* `Pem.Section` — a section that was read.
* `Pem.render` — the lines of a section.
* `Pem.next` — reads on to the end of the next known section.
* `Pem.sections` — all known sections up to the first fault.
-/

namespace StandIn.Pem

/-- The kinds of sections that are known. -/
inductive Kind where
  | certificate | publicKey | rsaKey | pkcs8Key | ecKey | revocationList | request | helloConfig
  deriving DecidableEq, Repr

/-- All known kinds. -/
def Kind.all : List Kind :=
  [.certificate, .publicKey, .rsaKey, .pkcs8Key, .ecKey, .revocationList, .request, .helloConfig]

/-- The label of a kind. -/
def Kind.label : Kind → String
  | certificate => "CERTIFICATE"
  | publicKey => "PUBLIC KEY"
  | rsaKey => "RSA PRIVATE KEY"
  | pkcs8Key => "PRIVATE KEY"
  | ecKey => "EC PRIVATE KEY"
  | revocationList => "X509 CRL"
  | request => "CERTIFICATE REQUEST"
  | helloConfig => "ECHCONFIG"

/-- The kind of a label. -/
def Kind.ofLabel? (label : Octets) : Option Kind :=
  Kind.all.find? fun k => Utf8.encode k.label = label

/-- A section that was read. -/
structure Section where
  kind : Kind
  content : Octets
  deriving DecidableEq, Repr

/-- Why a file cannot be read on. -/
inductive Fault where
  /-- A line begins a section as it must not. -/
  | illegalStart (line : Octets)
  /-- The section of this label has no end. -/
  | missingEnd (label : Octets)
  /-- The content of a section is no base 64. -/
  | content (fault : Base64.Fault)
  deriving DecidableEq, Repr

/-- The wording of a fault. -/
def Fault.message : Fault → String
  | illegalStart line => s!"illegal section start: {Quoted.quote (Utf8.lossy line)}"
  | missingEnd label => s!"section end {Quoted.quote (Utf8.lossy label)} missing"
  | content fault => fault.name

/-! ## Lines -/

/-- The octets that begin a section's first line. -/
def beginMark : Octets := Utf8.encode "-----BEGIN "

/-- The octets that begin a section's last line. -/
def endMark : Octets := Utf8.encode "-----END "

/-- The octets that end either line. -/
def dashes : Octets := Utf8.encode "-----"

/-- Whether a line ends behind the octet. -/
def isLineEnd (b : UInt8) : Bool :=
  b = 10 || b = 13

/-- The first line with its end, and what follows it. -/
def splitLine : Octets → Octets × Octets
  | [] => ([], [])
  | b :: bs =>
    if isLineEnd b then ([b], bs)
    else
      let later := splitLine bs
      (b :: later.1, later.2)

theorem splitLine_append (bs : Octets) : (splitLine bs).1 ++ (splitLine bs).2 = bs := by
  induction bs with
  | nil => rfl
  | cons b bs ih =>
    simp only [splitLine]
    split
    · rfl
    · simp [ih]

theorem length_splitLine_lt {bs : Octets} (h : bs ≠ []) :
    (splitLine bs).2.length < bs.length := by
  cases bs with
  | nil => exact absurd rfl h
  | cons b bs =>
    simp only [splitLine]
    split
    · simp
    · have := congrArg List.length (splitLine_append bs)
      simp at this ⊢; omega

/-- From the end of a line backwards: the number of dashes among dashes, blanks and line ends, and
the octets in front of the first of these dashes. -/
def trailingDashes : (reversed : Octets) → (count : Nat) → (front : Octets) → Nat × Octets
  | [], count, front => (count, front)
  | b :: bs, count, front =>
    if b = 45 then trailingDashes bs (count + 1) bs
    else if isLineEnd b || b = 32 then trailingDashes bs count front
    else (count, front)

/-- The label of a line that begins a section.  It ends in five dashes, which may have blanks
between and behind them. -/
def beginLabel (line : Octets) : Except Fault Octets :=
  let (count, front) := trailingDashes line.reverse 0 line.reverse
  if count = 5 then .ok (front.reverse.drop beginMark.length) else .error (.illegalStart line)

/-! ## Sections -/

/-- Reads on to the end of the next known section.  `label` is that of the section that is open,
and `content` what it held so far; both the section and what it holds stay open when another one
begins within it.  Of the line that ends a section only the mark and the label are compared: nothing
but the label is remembered of the line that began it, as the fault of a missing end tells too. -/
def next (label : Option Octets) (content : Octets) (bs : Octets) :
    Except Fault (Option (Section × Octets)) :=
  if h : bs = [] then
    match label with
    | some l => .error (.missingEnd l)
    | none => .ok none
  else
    let line := (splitLine bs).1
    let rest := (splitLine bs).2
    have : rest.length < bs.length := length_splitLine_lt h
    if beginMark.isPrefixOf line then
      match beginLabel line with
      | .error f => .error f
      | .ok l => next (some l) content rest
    else
      match label with
      | none => next none content rest
      | some l =>
        if (endMark ++ l).isPrefixOf line then
          match Kind.ofLabel? l with
          | none => next none [] rest
          | some kind =>
            match Base64.decode content with
            | .error f => .error (.content f)
            | .ok der => .ok (some (⟨kind, der⟩, rest))
        else next label (content ++ line) rest
  termination_by bs.length

theorem length_next_lt {label : Option Octets} {content bs : Octets} {s : Section} {rest : Octets}
    (h : next label content bs = .ok (some (s, rest))) : rest.length < bs.length := by
  fun_induction next label content bs <;> simp_all <;> omega

/-- The known sections of a file up to the first fault. -/
def sections (bs : Octets) : List (Except Fault Section) :=
  match h : next none [] bs with
  | .error f => [.error f]
  | .ok none => []
  | .ok (some (s, rest)) =>
    have := length_next_lt h
    .ok s :: sections rest
  termination_by bs.length

/-! ## Writing -/

/-- The lines of a section, of which those between the first and the last have at most 64
characters. -/
def render (newline : Octets) (label : Octets) (content : Octets) : Octets :=
  beginMark ++ label ++ dashes ++ newline ++
    (pieces 64 (Base64.encode content)).flatMap (· ++ newline) ++
    endMark ++ label ++ dashes ++ newline

end StandIn.Pem
