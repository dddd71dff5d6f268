/-
The SNI scanner (zerodpi-core/src/sni_scanner.rs), the list it reads
(scan_list.rs) and the targets made of what it finds (target_pool.rs,
`sni_candidates`).

# Tasks

`scan_sni_list` keeps `SNI_MAX_CONCURRENT` tasks going, one for each host,
and `probe_sni` as many for the addresses of a host. Both start tasks until
there are enough and wait for one otherwise; `drive` is this loop. Which
task is joined next, and what the network answered it, are given. The
semaphore that all probes share only makes them wait.

# What is outside

`compute_score` is floating-point arithmetic and a parameter, as is the
type of throughputs; `ServerName::try_from` belongs to the TLS library.
Errors are `none`; what they say goes to a log.
-/
import ZeroDpi.Config.Validate
import ZeroDpi.Lib.Text
import ZeroDpi.TargetPool

namespace ZeroDpi.SniScanner

open Lib

variable {Bps : Type}

-- ================================================================ the list

/-- Two lines are compared character by character. -/
local instance lawfulLines : LawfulBEq (List Char) := inferInstance

/-- A line that names a host. -/
def isEntry (line : List Char) : Bool :=
  !line.isEmpty && line.head? != some '#'

/-- The loop of `read_scan_list`: the lines that are kept. -/
def keepFirst (entryKey : List Char → Option (List Char)) :
    List (List Char) → List (List Char) → List (List Char)
  | _, [] => []
  | seen, line :: rest =>
      if isEntry (Text.trim line) then
        match entryKey (Text.trim line) with
        | none => line :: keepFirst entryKey seen rest
        | some key =>
            if key ∈ seen then keepFirst entryKey seen rest
            else line :: keepFirst entryKey (key :: seen) rest
      else line :: keepFirst entryKey seen rest

/-- The content of a list without the lines that repeat an entry. -/
def cleaned (entryKey : List Char → Option (List Char))
    (content : List Char) : List Char :=
  (keepFirst entryKey [] (Text.splitInclusive '\n' content)).flatten

/-- `read_scan_list`: `content` is what the file holds, if it can be read,
and `replaced` whether a shortened list could be written back. -/
def readScanList (content : Option (List Char)) (replaced : Bool)
    (deduplicate : Bool) (entryKey : List Char → Option (List Char)) :
    Option (List Char) :=
  content.bind fun content =>
    if !deduplicate then some content
    else if cleaned entryKey content ≠ content && !replaced then none
    else some (cleaned entryKey content)

/-- The hosts of a list. -/
def hostnames (content : List Char) : List (List Char) :=
  ((Text.lines content).map Text.trim).filter isEntry

/-- The key of `scan_sni_list`'s entries. -/
def hostKey (entry : List Char) : Option (List Char) :=
  some (Text.toAsciiLowercase entry)

-- ============================================================= the entries

/-- What the scan found out about a host. -/
structure SniProbeEntry (Bps : Type) where
  sni : String
  ip : Ipv4Addr
  tcpLatencyMs : Option UInt64
  tlsOk : Bool
  tlsLatencyMs : Option UInt64
  certValid : Bool
  ttfbMs : Option UInt64
  downloadBps : Option Bps
  uploadBps : Option Bps
  httpStatus : Option UInt16
  score : UInt8
  deriving DecidableEq

/-- `blank`, and the entries of `resolve_single_sni`. -/
def blank (sni : String) (ip : Ipv4Addr) : SniProbeEntry Bps where
  sni := sni
  ip := ip
  tcpLatencyMs := none
  tlsOk := false
  tlsLatencyMs := none
  certValid := false
  ttfbMs := none
  downloadBps := none
  uploadBps := none
  httpStatus := none
  score := 0

/-- What a scan is given beside the list. -/
structure Setup (Bps : Type) where
  sniMaxConcurrent : Nat
  deduplicateScanLists : Bool
  computeScore : SniProbeEntry Bps → UInt8
  /-- `ServerName::try_from` takes the name. -/
  isServerName : String → Bool

/-- What the network answered the probe of an address. -/
structure Probe (Bps : Type) where
  tcpLatencyMs : Option UInt64
  tlsLatencyMs : Option UInt64
  /-- The request was written. -/
  written : Bool
  ttfbMs : Option UInt64
  downloadBps : Option Bps
  httpStatus : Option UInt16
  uploadBps : Option Bps

/-- An entry with its score. -/
def Setup.scored (c : Setup Bps) (entry : SniProbeEntry Bps) :
    SniProbeEntry Bps :=
  { entry with score := c.computeScore entry }

/-- `probe_sni_ip`. -/
def probeSniIp (c : Setup Bps) (sni : String) (ip : Ipv4Addr)
    (probe : Probe Bps) : SniProbeEntry Bps :=
  match probe.tcpLatencyMs with
  | none => c.scored (blank sni ip)
  | some latency =>
      if !c.isServerName sni then
        c.scored { blank sni ip with tcpLatencyMs := some latency }
      else
        match probe.tlsLatencyMs with
        | none => c.scored { blank sni ip with tcpLatencyMs := some latency }
        | some tlsLatency =>
            let ttfbMs := if probe.written then probe.ttfbMs else none
            c.scored {
              sni := sni
              ip := ip
              tcpLatencyMs := some latency
              tlsOk := true
              tlsLatencyMs := some tlsLatency
              certValid := true
              ttfbMs := ttfbMs
              downloadBps := if probe.written then probe.downloadBps else none
              uploadBps := if ttfbMs.isSome then probe.uploadBps else none
              httpStatus := if probe.written then probe.httpStatus else none
              score := 0 }

-- ================================================================ the scan

/-- The tasks that run after items are started while there is room. -/
def started {α : Type} (limit : Nat) (items running : List α) : List α :=
  running ++ items.take (limit - running.length)

/-- The items left then. -/
def waiting {α : Type} (limit : Nat) (items running : List α) : List α :=
  items.drop (limit - running.length)

/-- A set of at most `limit` tasks. Items are started while there is room;
then one of the running tasks is joined, and what it returns is collected.
`none` is a set that is not done. -/
def drive {α ρ γ : Type} (limit : Nat) (result : α → ρ → Option (List γ)) :
    List (Nat × ρ) → List α → List α → List γ → Option (List γ)
  | [], items, running, out =>
      if (started limit items running).isEmpty then some out else none
  | (i, r) :: rest, items, running, out =>
      let tasks := started limit items running
      if tasks.isEmpty then some out
      else do
        let item ← tasks[i]?
        let entries ← result item r
        drive limit result rest (waiting limit items running)
          (tasks.eraseIdx i) (out ++ entries)

/-- How the task of a host ended. -/
inductive HostResult (Bps : Type) where
  /-- The task panicked. -/
  | failed
  /-- The addresses, if the name was resolved, and how their tasks
  ended. -/
  | probed (addrs : Option (List Ipv4Addr))
      (joins : List (Nat × Option (Probe Bps)))

/-- The task limit of both loops. -/
def Setup.limit (c : Setup Bps) : Nat := max c.sniMaxConcurrent 1

/-- `probe_sni`. -/
def probeSni (c : Setup Bps) (allows : Ipv4Addr → Bool) (sni : String) :
    HostResult Bps → Option (List (SniProbeEntry Bps))
  | .failed => some []
  | .probed none _ => some []
  | .probed (some addrs) joins =>
      drive c.limit
        (fun ip probe => some ((probe.map (probeSniIp c sni ip)).toList))
        joins (addrs.filter allows) [] []

/-- `tcp_latency_ms.unwrap_or(u64::MAX)`. -/
def SniProbeEntry.latencyKey (e : SniProbeEntry Bps) : UInt64 :=
  e.tcpLatencyMs.getD 0xFFFFFFFFFFFFFFFF

/-- The comparison of `sort_by`: not greater. -/
def SniProbeEntry.sortsBefore (a b : SniProbeEntry Bps) : Bool :=
  decide (b.score < a.score)
    || (decide (a.score = b.score) && decide (a.latencyKey ≤ b.latencyKey))

/-- The final sort. `sort_by` is stable. -/
def ranked (entries : List (SniProbeEntry Bps)) : List (SniProbeEntry Bps) :=
  entries.mergeSort SniProbeEntry.sortsBefore

/-- What one scan meets. -/
structure Scan (Bps : Type) where
  /-- The list file, if it can be read. -/
  content : Option (List Char)
  /-- A list without repeated entries could be written back. -/
  replaced : Bool
  /-- `ScanFilter::allows`. -/
  allows : Ipv4Addr → Bool
  /-- `DnsResolver::from_config` succeeded. -/
  resolver : Bool
  joins : List (Nat × HostResult Bps)

/-- The hosts a scan probes. -/
def Scan.hosts (c : Setup Bps) (scan : Scan Bps) : Option (List String) :=
  (readScanList scan.content scan.replaced c.deduplicateScanLists
      hostKey).bind fun content =>
    if (hostnames content).isEmpty || !scan.resolver then none
    else some ((hostnames content).map String.ofList)

/-- `scan_sni_list`. -/
def scanSniList (c : Setup Bps) (scan : Scan Bps) :
    Option (List (SniProbeEntry Bps)) := do
  let hosts ← scan.hosts c
  let results ← drive c.limit (probeSni c scan.allows) scan.joins hosts [] []
  return ranked results

-- ========================================================== the candidates

/-- `Target::from_sni`. -/
def Target.fromSni (entry : SniProbeEntry Bps) : Target :=
  { Target.ofSni entry.sni entry.ip entry.score with
    tcpLatencyMs := entry.tcpLatencyMs.map UInt64.toNat }

/-- `sni_candidates`. -/
def sniCandidates (entries : List (SniProbeEntry Bps)) (limit : Nat)
    (minScore : UInt8) : List Target :=
  uniqueTargets
    ((entries.filter fun e =>
      e.tcpLatencyMs.isSome && max minScore 1 ≤ e.score).map Target.fromSni)
    limit

end ZeroDpi.SniScanner
