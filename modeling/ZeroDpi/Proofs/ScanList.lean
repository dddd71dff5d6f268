/-
What `read_scan_list` removes is said elsewhere in the list.

The loop keeps the first line of every key and every line without one
(`keepFirst_eq`). A list that is read only for what its keys stand for is
read alike then: the hosts up to case, and the addresses, since two entries
of one key are the same address or ranges of the same hosts. That an
address has one text, and no range is written like one, is `Proofs.IpText`.
-/
import ZeroDpi.Proofs.IpText
import ZeroDpi.Proofs.SniScanner

namespace ZeroDpi.SniScanner

open Lib

variable {entryKey : List Char → Option (List Char)}

-- ========================================================== the first lines

end ZeroDpi.SniScanner

namespace ZeroDpi.IpList

open Lib SniScanner

-- =========================================================== the addresses

/-- What is known of the crate: an address is written as `Display` writes
it, a range with its prefix length behind a slash, and the hosts of a range
are those of the network that its truncated text names. -/
structure Documented (ipnet : Ipnet) : Prop where
  address : ∀ ip, ipnet.ipText ip = ipAddrText ip
  slash : ∀ net, '/' ∈ ipnet.truncText net
  hosts : ∀ a b ipv6MaxHosts, ipnet.truncText a = ipnet.truncText b →
    ipnet.hosts a ipv6MaxHosts = ipnet.hosts b ipv6MaxHosts

variable {ipnet : Ipnet} {ipv6MaxHosts : Nat} {a b key : List Char}

/-- No address has the key of a range. -/
theorem Documented.apart (h : Documented ipnet) (ip : IpAddr)
    (net : ipnet.Net) : ipnet.ipText ip ≠ ipnet.truncText net := by
  intro heq
  have hslash := h.slash net
  rw [← heq, h.address] at hslash
  exact slash_not_mem_ipAddrText ip hslash

/-- The address without its host bits. -/
def truncated (ip : Ipv4Addr) (bits : Nat) : Ipv4Addr :=
  UInt32.ofNat (ip.toNat / 2 ^ (32 - bits) * 2 ^ (32 - bits))

end ZeroDpi.IpList
