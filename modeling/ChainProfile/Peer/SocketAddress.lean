import ChainProfile.Hex

/-!
# Socket addresses

An address of a peer is an IPv4 or IPv6 address with a port.  The text of an IPv4
address is four decimal octets without leading zeros.  An IPv6 address is eight
groups of hexadecimal digits, of which one run of zero groups may be left out and
of which the last two may be written as an IPv4 address; it stands between
brackets and may name a zone.  Printing gives the canonical form: the longest run
of two or more zero groups, the first of several, is left out.
-/

namespace ChainProfile

/-- An IPv4 address as four octets. -/
structure IPv4 where
  a : UInt8
  b : UInt8
  c : UInt8
  d : UInt8
deriving DecidableEq

/-- An IPv6 address as eight groups of sixteen bits. -/
structure IPv6 where
  groups : List UInt16
  length_groups : groups.length = 8
deriving DecidableEq

/-- An address with a port, and for IPv6 with a zone. -/
inductive SocketAddress where
  | v4 (address : IPv4) (port : UInt16)
  | v6 (address : IPv6) (zone : UInt32) (port : UInt16)
deriving DecidableEq

/-- Reads a run of digits as a number: at least one digit and, where a limit is given, no more
digits than that.  Returns the number, the count of digits and what follows. -/
def readNumber (base : Nat) (maxDigits : Option Nat) (text : List Char) :
    Option (Nat × Nat × List Char) :=
  let value (symbol : Char) : Option Nat :=
    (Hex.value? (UInt8.ofNat symbol.toNat)).filter fun digit => symbol.toNat < 128 && digit < base
  let run := text.takeWhile fun symbol => (value symbol).isSome
  let digits := run.filterMap value
  if run.isEmpty || maxDigits.any (· < run.length) then none
  else
    some (digits.foldl (fun number digit => base * number + digit) 0, run.length,
      text.drop run.length)

/-- Steps over a given character. -/
def readSymbol (wanted : Char) : List Char → Option (List Char)
  | symbol :: rest => if symbol = wanted then some rest else none
  | [] => none

namespace IPv4

/-- Reads an octet: up to three digits, without a leading zero unless it is zero itself. -/
def readOctet (text : List Char) : Option (UInt8 × List Char) := do
  let (value, count, rest) ← readNumber 10 (some 3) text
  if 255 < value ∨ (1 < count ∧ text.head? = some '0') then none
  else return (UInt8.ofNat value, rest)

/-- Reads four octets separated by points. -/
def read (text : List Char) : Option (IPv4 × List Char) := do
  let (a, afterA) ← readOctet text
  let (b, afterB) ← readOctet (← readSymbol '.' afterA)
  let (c, afterC) ← readOctet (← readSymbol '.' afterB)
  let (d, rest) ← readOctet (← readSymbol '.' afterC)
  return (⟨a, b, c, d⟩, rest)

/-- The address whose first octet is the lowest byte of a word. -/
def ofPacked (word : UInt32) : IPv4 where
  a := word.toUInt8
  b := (word >>> 8).toUInt8
  c := (word >>> 16).toUInt8
  d := (word >>> 24).toUInt8

/-- The four octets in decimal digits with points between them. -/
def toText (address : IPv4) : String :=
  s!"{address.a.toNat}.{address.b.toNat}.{address.c.toNat}.{address.d.toNat}"

/-- The two groups that an IPv4 address takes the place of. -/
def groups (address : IPv4) : List UInt16 :=
  [address.a.toUInt16 * 256 + address.b.toUInt16, address.c.toUInt16 * 256 + address.d.toUInt16]

end IPv4

namespace IPv6

/-- Steps over the colon that separates a group from the one before it. -/
def readSeparator (isFirst : Bool) (text : List Char) : Option (List Char) :=
  if isFirst then some text else readSymbol ':' text

/-- Reads up to `limit` groups separated by colons, and tells whether an IPv4 address ended them.
An IPv4 address takes the place of two groups. -/
def readGroups : Nat → Bool → List Char → List UInt16 × Bool × List Char
  | 0, _, text => ([], false, text)
  | limit + 1, isFirst, text =>
      let embedded := if limit = 0 then none else readSeparator isFirst text >>= IPv4.read
      match embedded with
      | some (address, rest) => (address.groups, true, rest)
      | none =>
          match readSeparator isFirst text >>= readNumber 16 (some 4) with
          | none => ([], false, text)
          | some (group, _, rest) =>
              let (groups, endedInIPv4, after) := readGroups limit false rest
              (UInt16.ofNat group :: groups, endedInIPv4, after)

/-- The address with the given groups, if there are eight. -/
def ofGroups? (groups : List UInt16) : Option IPv6 :=
  if width : groups.length = 8 then some ⟨groups, width⟩ else none

/-- Reads eight groups, or fewer around a double colon that stands for at least one zero group. -/
def read (text : List Char) : Option (IPv6 × List Char) :=
  let (front, endedInIPv4, rest) := readGroups 8 true text
  match ofGroups? front with
  | some address => some (address, rest)
  | none =>
      if endedInIPv4 then none
      else do
        let behind ← readSymbol ':' (← readSymbol ':' rest)
        let (back, _, after) := readGroups (7 - front.length) true behind
        let gap := List.replicate (8 - front.length - back.length) 0
        let address ← ofGroups? (front ++ gap ++ back)
        return (address, after)

/-- The place and length of the longest run of zero groups, the first of several; `index` is the
place of the first group. -/
def longestZeroRun (index : Nat) : List UInt16 → Nat × Nat
  | [] => (index, 0)
  | group :: rest =>
      let (place, length) := longestZeroRun (index + 1) rest
      let here := ((group :: rest).takeWhile (· = 0)).length
      if length ≤ here then (index, here) else (place, length)

/-- A group in hexadecimal digits without leading zeros. -/
def groupText (group : UInt16) : String := String.ofList (Nat.toDigits 16 group.toNat)

/-- Groups with colons between them. -/
def groupsText (groups : List UInt16) : String := ":".intercalate (groups.map groupText)

/-- The canonical text of an address. -/
def toText (address : IPv6) : String :=
  match address.groups with
  | [0, 0, 0, 0, 0, 0xffff, high, low] =>
      let embedded : IPv4 :=
        ⟨(high >>> 8).toUInt8, high.toUInt8, (low >>> 8).toUInt8, low.toUInt8⟩
      "::ffff:" ++ embedded.toText
  | groups =>
      let (place, length) := longestZeroRun 0 groups
      if 1 < length then
        groupsText (groups.take place) ++ "::" ++ groupsText (groups.drop (place + length))
      else groupsText groups

end IPv6

namespace SocketAddress

/-- Reads a colon and a port. -/
def readPort (text : List Char) : Option (UInt16 × List Char) := do
  let (port, _, rest) ← readNumber 10 none (← readSymbol ':' text)
  if port < 65536 then return (UInt16.ofNat port, rest) else none

/-- Reads the zone of an IPv6 address; without a percent sign the zone is zero. -/
def readZone (text : List Char) : Option (UInt32 × List Char) :=
  match readSymbol '%' text with
  | none => some (0, text)
  | some digits => do
      let (zone, _, rest) ← readNumber 10 none digits
      if zone < 4294967296 then return (UInt32.ofNat zone, rest) else none

/-- Reads an IPv4 address with its port. -/
def readV4 (text : List Char) : Option (SocketAddress × List Char) := do
  let (address, afterAddress) ← IPv4.read text
  let (port, rest) ← readPort afterAddress
  return (.v4 address port, rest)

/-- Reads an IPv6 address between brackets, with its zone and its port. -/
def readV6 (text : List Char) : Option (SocketAddress × List Char) := do
  let (address, afterAddress) ← IPv6.read (← readSymbol '[' text)
  let (zone, afterZone) ← readZone afterAddress
  let (port, rest) ← readPort (← readSymbol ']' afterZone)
  return (.v6 address zone port, rest)

/-- The address that a whole text stands for. -/
def ofText? (text : String) : Option SocketAddress :=
  match readV4 text.toList <|> readV6 text.toList with
  | some (address, []) => some address
  | _ => none

/-- The canonical text of an address with its port. -/
def toText : SocketAddress → String
  | .v4 address port => s!"{address.toText}:{port.toNat}"
  | .v6 address zone port =>
      if zone = 0 then s!"[{address.toText}]:{port.toNat}"
      else s!"[{address.toText}%{zone.toNat}]:{port.toNat}"

/-- The port of an address. -/
def port : SocketAddress → UInt16
  | .v4 _ port => port
  | .v6 _ _ port => port

end SocketAddress

end ChainProfile
