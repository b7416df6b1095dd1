import ApiMock.Text.Percent
import ApiMock.Text.Split

/-!
# Addresses of hosts

An address of version four is written as four decimal octets. One of version six is written as eight
hexadecimal groups. A run of zeros among them may be left out, and the last two may be written as an
address of version four.
-/

set_option autoImplicit false

namespace ApiMock

structure Ipv4 where
  a : UInt8
  b : UInt8
  c : UInt8
  d : UInt8
deriving DecidableEq

structure Ipv6 where
  groups : List UInt16
  length_groups : groups.length = 8
deriving DecidableEq

inductive IpAddress where
  | v4 (address : Ipv4)
  | v6 (address : Ipv6)
deriving DecidableEq

/-! ## Version four -/

namespace Ipv4

/-- Reads an octet: up to three digits, the first of which is zero only if it is the only one. -/
def octet? (digits : List Char) : Option UInt8 :=
  let value := digits.foldl (fun value c => 10 * value + (c.toNat - 0x30)) 0
  if digits.isEmpty ∨ 3 < digits.length ∨ !digits.all Char.isDigit then none
  else if digits.head? = some '0' ∧ 1 < digits.length then none
  else if value < 256 then some (UInt8.ofNat value)
  else none

def read? (text : List Char) : Option Ipv4 :=
  match (Split.atEach '.' text).map octet? with
  | [some a, some b, some c, some d] => some ⟨a, b, c, d⟩
  | _ => none

def text (address : Ipv4) : String :=
  ".".intercalate ([address.a, address.b, address.c, address.d].map fun octet =>
    toString octet.toNat)

def groups (address : Ipv4) : List UInt16 :=
  [UInt16.ofNat (256 * address.a.toNat + address.b.toNat),
   UInt16.ofNat (256 * address.c.toNat + address.d.toNat)]

def ofGroups (high low : UInt16) : Ipv4 where
  a := UInt8.ofNat (high.toNat / 256)
  b := UInt8.ofNat (high.toNat % 256)
  c := UInt8.ofNat (low.toNat / 256)
  d := UInt8.ofNat (low.toNat % 256)

def loopback : Ipv4 := ⟨127, 0, 0, 1⟩

end Ipv4

/-! ## Version six -/

namespace Ipv6

def ofGroups? (groups : List UInt16) : Option Ipv6 :=
  if h : groups.length = 8 then some ⟨groups, h⟩ else none

def group? (digits : List Char) : Option UInt16 :=
  if digits.isEmpty ∨ 4 < digits.length then none
  else
    (digits.foldlM (fun value c => (hexDigit? c).map (16 * value + ·)) 0).map UInt16.ofNat

def readGroups? : List (List Char) → Option (List UInt16)
  | [] => some []
  | part :: rest => do return (← group? part) :: (← readGroups? rest)

/-- Reads the groups of a text, the last two of which may be written as an address of version
four. -/
def readTail? (text : List Char) : Option (List UInt16) :=
  let parts := Split.atEach ':' text
  match parts.getLast?.bind Ipv4.read? with
  | some address => (readGroups? parts.dropLast).map (· ++ address.groups)
  | none => readGroups? parts

/-- Reads an address. Two colons stand for one group of zeros at least. -/
def read? (text : List Char) : Option Ipv6 :=
  match Split.atWord? [':', ':'] text with
  | none => (readTail? text).bind ofGroups?
  | some (before, behind) => do
    let front ← if before.isEmpty then some [] else readGroups? (Split.atEach ':' before)
    let back ← if behind.isEmpty then some [] else readTail? behind
    let missing := 8 - (front.length + back.length)
    if missing = 0 then none
    else ofGroups? (front ++ List.replicate missing 0 ++ back)

def joined (groups : List UInt16) : String :=
  ":".intercalate (groups.map fun group => String.ofList (Nat.toDigits 16 group.toNat))

def longestZeros (groups : List UInt16) : Nat × Nat :=
  (List.range groups.length).foldl
    (fun longest start =>
      let length := ((groups.drop start).takeWhile (· = 0)).length
      if longest.2 < length then (start, length) else longest)
    (0, 0)

/-- The address in words. Several zeros are left out, and what stands for an address of version four
is written as such. -/
def text (address : Ipv6) : String :=
  match address.groups with
  | [0, 0, 0, 0, 0, 0xFFFF, high, low] => "::ffff:" ++ (Ipv4.ofGroups high low).text
  | groups =>
    let (start, length) := longestZeros groups
    if length ≤ 1 then joined groups
    else joined (groups.take start) ++ "::" ++ joined (groups.drop (start + length))

end Ipv6

/-! ## Both versions -/

namespace IpAddress

def read? (text : String) : Option IpAddress :=
  ((Ipv4.read? text.toList).map v4).or ((Ipv6.read? text.toList).map v6)

def text : IpAddress → String
  | v4 address => address.text
  | v6 address => address.text

end IpAddress

/-- An address of a host and a port. Port zero leaves the choice of one to the system. -/
structure SocketAddress where
  host : IpAddress := .v4 .loopback
  port : UInt16 := 0
deriving DecidableEq

def SocketAddress.text (address : SocketAddress) : String :=
  match address.host with
  | .v4 host => host.text ++ ":" ++ toString address.port.toNat
  | .v6 host => "[" ++ host.text ++ "]:" ++ toString address.port.toNat

end ApiMock
