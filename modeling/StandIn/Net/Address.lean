import StandIn.Text.Digit

/-!
# Network addresses and their text

* `Net.IPv4`, `Net.IPv6`, `Net.Address` — addresses of a host.
* `Net.SocketAddress` — a host's address with a port; for IPv6 also with a scope.
* `IPv4.render`, `IPv6.render`, `SocketAddress.render` — their text.
* `readIPv4`, `readIPv6`, `SocketAddress.parse?` — reading them.

The readers take characters off the front and return what is left, so that each can be the first
part of another.  In IPv6 text the longest run of at least two zero groups, the first of several,
is written as two colons; addresses that embed an IPv4 address show it dotted.
-/

namespace StandIn.Net

open Text

/-- An address of four octets. -/
structure IPv4 where
  a : UInt8
  b : UInt8
  c : UInt8
  d : UInt8
  deriving DecidableEq, Repr

/-- An address of eight groups of 16 bits. -/
structure IPv6 where
  groups : Vector UInt16 8
  deriving DecidableEq, Repr

/-- The address of a host. -/
inductive Address where
  | v4 (ip : IPv4)
  | v6 (ip : IPv6)
  deriving DecidableEq, Repr

/-- The address of a socket. -/
inductive SocketAddress where
  | v4 (ip : IPv4) (port : UInt16)
  | v6 (ip : IPv6) (port : UInt16) (scope : UInt32)
  deriving DecidableEq, Repr

/-! ## Printing -/

/-- Four decimal numbers with points between them. -/
def IPv4.render (ip : IPv4) : String :=
  s!"{ip.a.toNat}.{ip.b.toNat}.{ip.c.toNat}.{ip.d.toNat}"

/-- A group as it is written: in base 16, without leading zeros. -/
def renderGroup (g : UInt16) : String :=
  String.ofList (Nat.toDigits 16 g.toNat)

/-- Groups with colons between them. -/
def renderGroups (gs : List UInt16) : String :=
  String.intercalate ":" (gs.map renderGroup)

/-- The number of zeros at the front. -/
def zeroRun (gs : List UInt16) : Nat :=
  (gs.takeWhile (· = 0)).length

/-- Start and length of the longest run of zeros, the first of several; `position` counts the
groups in front. -/
def longestZeroRun (position : Nat) : List UInt16 → Nat × Nat
  | [] => (position, 0)
  | g :: gs =>
    let here := zeroRun (g :: gs)
    let later := longestZeroRun (position + 1) gs
    if later.2 ≤ here then (position, here) else later

/-- The IPv4 address that an IPv6 address of the form `::ffff:a.b.c.d` stands for. -/
def IPv6.embedded? (ip : IPv6) : Option IPv4 :=
  match ip.groups.toList with
  | [0, 0, 0, 0, 0, 0xffff, g, h] =>
    some ⟨(g >>> 8).toUInt8, g.toUInt8, (h >>> 8).toUInt8, h.toUInt8⟩
  | _ => none

/-- The text of an address. -/
def IPv6.render (ip : IPv6) : String :=
  match ip.embedded? with
  | some v4 => "::ffff:" ++ v4.render
  | none =>
    let gs := ip.groups.toList
    let (start, length) := longestZeroRun 0 gs
    if 1 < length then renderGroups (gs.take start) ++ "::" ++ renderGroups (gs.drop (start + length))
    else renderGroups gs

/-- The text of an address. -/
def Address.render : Address → String
  | v4 ip => ip.render
  | v6 ip => ip.render

/-- The text of a socket address.  A scope of 0 is left out. -/
def SocketAddress.render : SocketAddress → String
  | v4 ip port => s!"{ip.render}:{port.toNat}"
  | v6 ip port scope =>
    if scope = 0 then s!"[{ip.render}]:{port.toNat}"
    else s!"[{ip.render}%{scope.toNat}]:{port.toNat}"

/-- The address of the host. -/
def SocketAddress.address : SocketAddress → Address
  | v4 ip _ => .v4 ip
  | v6 ip _ _ => .v6 ip

/-- Whether the address is one of IPv4. -/
def SocketAddress.isIPv4 : SocketAddress → Bool
  | v4 .. => true
  | v6 .. => false

/-! ## Reading -/

/-- Reads all the digits in front as a number below `bound`: at least one digit, at most
`maxDigits` where that is given, and no superfluous zero in front unless `leadingZeros`. -/
def readNumber (base bound : Nat) (maxDigits : Option Nat) (leadingZeros : Bool)
    (cs : List Char) : Option (Nat × List Char) :=
  let digits := cs.takeWhile (isDigitOf base)
  let n := numberOf base digits
  if digits.isEmpty then none
  else if maxDigits.any (· < digits.length) then none
  else if !leadingZeros && 1 < digits.length && digits.head? = some '0' then none
  else if bound ≤ n then none
  else some (n, cs.drop digits.length)

/-- Reads one given character. -/
def readChar (c : Char) : List Char → Option (List Char)
  | [] => none
  | d :: cs => if d = c then some cs else none

/-- Reads one of the four numbers of an IPv4 address. -/
def readOctet (cs : List Char) : Option (UInt8 × List Char) :=
  (readNumber 10 256 (some 3) false cs).map fun (n, rest) => (n.toUInt8, rest)

/-- Reads an IPv4 address. -/
def readIPv4 (cs : List Char) : Option (IPv4 × List Char) := do
  let (a, cs) ← readOctet cs
  let (b, cs) ← readOctet (← readChar '.' cs)
  let (c, cs) ← readOctet (← readChar '.' cs)
  let (d, cs) ← readOctet (← readChar '.' cs)
  return (⟨a, b, c, d⟩, cs)

/-- The two groups that an IPv4 address fills at the end of an IPv6 address. -/
def IPv4.asGroups (ip : IPv4) : List UInt16 :=
  [ip.a.toUInt16 * 256 + ip.b.toUInt16, ip.c.toUInt16 * 256 + ip.d.toUInt16]

/-- Passes the colon in front of every group but the first. -/
def readSeparator (first : Bool) (cs : List Char) : Option (List Char) :=
  if first then some cs else readChar ':' cs

/-- What a stretch of groups turned out to be. -/
structure GroupRun where
  groups : List UInt16
  endsInIPv4 : Bool
  rest : List Char

/-- Reads up to `room` groups with colons between them.  Where there is room for two, an IPv4
address may stand for the last two. -/
def readGroups (first : Bool) : (room : Nat) → List Char → GroupRun
  | 0, cs => ⟨[], false, cs⟩
  | room + 1, cs =>
    let embedded := if 1 ≤ room then readSeparator first cs >>= readIPv4 else none
    match embedded with
    | some (ip, rest) => ⟨ip.asGroups, true, rest⟩
    | none =>
      match readSeparator first cs >>= readNumber 16 65536 (some 4) true with
      | none => ⟨[], false, cs⟩
      | some (g, rest) =>
        let later := readGroups false room rest
        ⟨g.toUInt16 :: later.groups, later.endsInIPv4, later.rest⟩

/-- The address with the given groups, if there are eight. -/
def IPv6.ofGroups? (gs : List UInt16) : Option IPv6 :=
  if h : gs.toArray.size = 8 then some ⟨⟨gs.toArray, h⟩⟩ else none

/-- Reads an IPv6 address.  Two colons stand for at least one group of zeros. -/
def readIPv6 (cs : List Char) : Option (IPv6 × List Char) := do
  let head := readGroups true 8 cs
  if head.groups.length = 8 then
    return (← IPv6.ofGroups? head.groups, head.rest)
  if head.endsInIPv4 then none
  let cs ← readChar ':' (← readChar ':' head.rest)
  let tail := readGroups true (7 - head.groups.length) cs
  let zeros := List.replicate (8 - head.groups.length - tail.groups.length) 0
  return (← IPv6.ofGroups? (head.groups ++ zeros ++ tail.groups), tail.rest)

/-- Reads a colon and a port. -/
def readPort (cs : List Char) : Option (UInt16 × List Char) := do
  let (n, rest) ← readNumber 10 65536 none true (← readChar ':' cs)
  return (n.toUInt16, rest)

/-- Reads an IPv4 address with a port. -/
def readSocketV4 (cs : List Char) : Option (SocketAddress × List Char) := do
  let (ip, cs) ← readIPv4 cs
  let (port, cs) ← readPort cs
  return (.v4 ip port, cs)

/-- Reads a percent sign and a scope, if one is there. -/
def readScope (cs : List Char) : UInt32 × List Char :=
  match readChar '%' cs >>= readNumber 10 4294967296 none true with
  | some (n, rest) => (n.toUInt32, rest)
  | none => (0, cs)

/-- Reads an IPv6 address in brackets with a port. -/
def readSocketV6 (cs : List Char) : Option (SocketAddress × List Char) := do
  let (ip, cs) ← readIPv6 (← readChar '[' cs)
  let (scope, cs) := readScope cs
  let (port, cs) ← readPort (← readChar ']' cs)
  return (.v6 ip port scope, cs)

/-- A reader's result if it left nothing. -/
def whole? {α : Type} : Option (α × List Char) → Option α
  | some (a, []) => some a
  | _ => none

/-- The socket address that a text stands for. -/
def SocketAddress.parse? (s : String) : Option SocketAddress :=
  whole? ((readSocketV4 s.toList).or (readSocketV6 s.toList))

/-- The address that a text stands for.  An IPv4 address has at most 15 characters. -/
def Address.parse? (s : String) : Option Address :=
  ((whole? (readIPv4 s.toList)).map .v4).or ((whole? (readIPv6 s.toList)).map .v6)

end StandIn.Net
