/-
Addresses as texts: `Display` of `std::net::IpAddr`, which the keys of an
address list are made with.

An IPv4 address is its octets, an IPv6 address its groups in hexadecimal.
The longest run of at least two zero groups, the first of several, is left
out, and an IPv4-mapped address ends in the IPv4 address.
-/
import ZeroDpi.IpList

namespace ZeroDpi.IpList

/-- `Display` of `Ipv4Addr`. -/
def ipv4Text (ip : Ipv4Addr) : List Char :=
  ['.'].intercalate
    ([24, 16, 8, 0].map fun k => Nat.toDigits 10 (ip.toNat / 2 ^ k % 2 ^ 8))

/-- `segments`. -/
def segments (ip : BitVec 128) : List Nat :=
  [112, 96, 80, 64, 48, 32, 16, 0].map fun k => ip.toNat / 2 ^ k % 2 ^ 16

/-- `to_ipv4_mapped`. -/
def toIpv4Mapped (ip : BitVec 128) : Option Ipv4Addr :=
  if (segments ip).take 6 = [0, 0, 0, 0, 0, 0xFFFF] then
    some (UInt32.ofNat ip.toNat)
  else none

/-- A run of groups. -/
structure Span where
  start : Nat := 0
  len : Nat := 0
  deriving DecidableEq

/-- One turn of the loop over the groups; `spans` are the longest run of
zeros and the current one. -/
def Span.turn (spans : Span × Span) (group : Nat × Nat) : Span × Span :=
  let (longest, current) := spans
  if group.1 = 0 then
    let current : Span :=
      { start := if current.len = 0 then group.2 else current.start
        len := current.len + 1 }
    (if longest.len < current.len then current else longest, current)
  else (longest, {})

/-- The run of zeros that is left out. -/
def longestZeros (groups : List Nat) : Span :=
  (groups.zipIdx.foldl Span.turn ({}, {})).1

/-- `fmt_subslice`. -/
def groupsText (groups : List Nat) : List Char :=
  [':'].intercalate (groups.map (Nat.toDigits 16))

/-- `Display` of `Ipv6Addr`. -/
def ipv6Text (ip : BitVec 128) : List Char :=
  match toIpv4Mapped ip with
  | some ipv4 => "::ffff:".toList ++ ipv4Text ipv4
  | none =>
      let groups := segments ip
      let zeros := longestZeros groups
      if 1 < zeros.len then
        groupsText (groups.take zeros.start) ++ "::".toList
          ++ groupsText (groups.drop (zeros.start + zeros.len))
      else groupsText groups

/-- `Display` of `IpAddr`. -/
def ipAddrText : IpAddr → List Char
  | .v4 ip => ipv4Text ip
  | .v6 ip => ipv6Text ip

end ZeroDpi.IpList
