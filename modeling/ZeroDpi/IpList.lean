/-
Lists of addresses (zerodpi-core/src/ip_scanner.rs,
`load_ip_list_with_options`).

# Addresses

The parsers are those of `std::net`: four decimal octets without leading
zeros, and the groups of RFC 4291 with at most one `::` and possibly an IPv4
address at the end.

# Ranges

The crate `ipnet` is given (`Ipnet`): what it parses, the hosts of a range,
and the texts that tell two entries apart.
-/
import ZeroDpi.Lib.Text
import ZeroDpi.SniScanner

namespace ZeroDpi.IpList

open Lib

-- =============================================================== addresses

/-- One octet of an IPv4 address. -/
def octet? (s : List Char) : Option Nat :=
  if s.isEmpty || 3 < s.length || (1 < s.length && s.head? = some '0') then none
  else (Text.digits? s).bind fun n => if n ≤ 255 then some n else none

/-- `Ipv4Addr::from_str`. -/
def parseIpv4 (s : List Char) : Option Ipv4Addr :=
  match Text.split '.' s with
  | [a, b, c, d] => do
      let a ← octet? a
      let b ← octet? b
      let c ← octet? c
      let d ← octet? d
      return UInt32.ofNat (((a * 256 + b) * 256 + c) * 256 + d)
  | _ => none

/-- One group of an IPv6 address. -/
def group? (s : List Char) : Option Nat :=
  if s.isEmpty || 4 < s.length then none
  else s.foldlM (fun n c => (Text.hexDigit? c).map fun d => n * 16 + d) 0

/-- Groups, of which the last may be an IPv4 address, which counts for
two. -/
def groups? : List (List Char) → Option (List Nat)
  | [] => some []
  | [last] =>
      match group? last with
      | some n => some [n]
      | none => (parseIpv4 last).map fun ip =>
          [ip.toNat / 2 ^ 16, ip.toNat % 2 ^ 16]
  | piece :: rest => do
      let n ← group? piece
      let ns ← groups? rest
      return n :: ns

/-- The text before and after the first `::`. -/
def splitGap : List Char → Option (List Char × List Char)
  | ':' :: ':' :: rest => some ([], rest)
  | [] => none
  | c :: rest => (splitGap rest).map fun (a, b) => (c :: a, b)

/-- The groups of one side of the gap. -/
def side? (s : List Char) : Option (List Nat) :=
  if s.isEmpty then some [] else groups? (Text.split ':' s)

/-- Groups of 16 bits, put together. -/
def ofGroups (groups : List Nat) : BitVec 128 :=
  BitVec.ofNat 128 (groups.foldl (fun n g => n * 2 ^ 16 + g) 0)

/-- `Ipv6Addr::from_str`. -/
def parseIpv6 (s : List Char) : Option (BitVec 128) :=
  match splitGap s with
  | none => do
      let groups ← groups? (Text.split ':' s)
      if groups.length = 8 then some (ofGroups groups) else none
  | some (before, after) => do
      -- in front of the gap no IPv4 address may stand
      if before.contains '.' then none
      else
        let front ← side? before
        let back ← side? after
        if front.length + back.length ≤ 7 then
          some (ofGroups (front
            ++ List.replicate (8 - front.length - back.length) 0 ++ back))
        else none

/-- `str::parse::<IpAddr>`. -/
def parseIpAddr (s : List Char) : Option IpAddr :=
  match parseIpv4 s with
  | some ip => some (.v4 ip)
  | none => (parseIpv6 s).map .v6

-- ================================================================== ranges

/-- What is used of the library of networks. -/
structure Ipnet where
  Net : Type
  /-- `str::parse::<IpNet>`. -/
  parse : List Char → Option Net
  /-- `net.trunc().to_string()`. -/
  truncText : Net → List Char
  /-- `net.hosts()`, capped if the range is one of IPv6. -/
  hosts : Net → Nat → List IpAddr
  /-- `ip.to_string()`. -/
  ipText : IpAddr → List Char

/-- What a line of the list is. -/
inductive Line (Net : Type) where
  | address (ip : IpAddr)
  | range (net : Net)
  | skipped

variable (ipnet : Ipnet)

/-- A line of the list. -/
def parseLine (line : List Char) : Line ipnet.Net :=
  match parseIpAddr line with
  | some ip => .address ip
  | none =>
      match ipnet.parse line with
      | some net => .range net
      | none => .skipped

/-- The key of an entry. -/
def entryKey (entry : List Char) : Option (List Char) :=
  match parseLine ipnet entry with
  | .address ip => some (ipnet.ipText ip)
  | .range net => some (ipnet.truncText net)
  | .skipped => none

end ZeroDpi.IpList
