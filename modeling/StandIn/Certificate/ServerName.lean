import StandIn.Net.Address
import StandIn.Text.Utf8

/-!
# Names of servers

* `ServerName` — what a client calls the server that it wants to reach: a host name or an address.
* `ServerName.parse?` — the name that a text stands for.
-/

namespace StandIn

/-- What a client calls a server. -/
inductive ServerName where
  | host (name : Octets)
  | address (ip : Net.Address)
  deriving DecidableEq, Repr

namespace ServerName

/-- An octet that may stand anywhere in a label but at its ends: a hyphen. -/
def isHyphen (b : UInt8) : Bool := b = 0x2D

/-- A decimal digit. -/
def isDigit (b : UInt8) : Bool := 0x30 ≤ b && b ≤ 0x39

/-- A letter, or the low line that is taken for one. -/
def isLetter (b : UInt8) : Bool :=
  (0x41 ≤ b && b ≤ 0x5A) || (0x61 ≤ b && b ≤ 0x7A) || b = 0x5F

/-- The parts between points. -/
def labels (bs : Octets) : List Octets :=
  bs.foldr (fun b parts =>
    if b = 0x2E then [] :: parts
    else match parts with
      | [] => [[b]]
      | part :: rest => (b :: part) :: rest) [[]]

/-- Whether the octets are a label: at most 63 letters, digits and hyphens, with no hyphen at
either end. -/
def isLabel (label : Octets) : Bool :=
  !label.isEmpty && label.length ≤ 63 &&
    label.all (fun b => isLetter b || isDigit b || isHyphen b) &&
    !(label.head?.any isHyphen) && !(label.getLast?.any isHyphen)

/-- Whether the octets are a host name: labels with points between them, of which the last is not
all digits.  One point may stand at the end. -/
def isHost (bs : Octets) : Bool :=
  let parts := labels bs
  let kept := if parts.getLast? = some [] then parts.dropLast else parts
  bs.length ≤ 253 && !kept.isEmpty && kept.all isLabel &&
    !(kept.getLast?.any (·.all isDigit))

/-- The name that a text stands for. -/
def parse? (s : String) : Option ServerName :=
  let octets := Utf8.encode s
  if isHost octets then some (.host octets) else (Net.Address.parse? s).map .address

end ServerName

end StandIn
