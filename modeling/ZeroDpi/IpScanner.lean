/-
The IP scan pipeline (zerodpi-core/src/ip_scanner.rs, `scan_ip_list`).

# The loop

A turn of the loop fills the TLS tasks from the backlog, fills the TCP
tasks from the list, leaves if there is nothing left, and otherwise waits
for a task. Every iteration of the two inner loops is a step here, so that
a bound holds at every moment and not only between turns. Which task ends
when, and how, are labels: any running task may be the next that
`join_next` returns.

# What is outside

`compute_score` is floating-point arithmetic and a parameter, and so is
the type of throughputs. A latency is measured by a monotonic clock that
counts nanoseconds in 64 bits. `connected` is a history variable; no step
reads it.
-/
import ZeroDpi.Lib.Run
import ZeroDpi.TargetPool

namespace ZeroDpi.IpScanner

open Lib

variable {Bps : Type}

-- ============================================================= the entries

/-- What a scan has found out about an address. -/
structure IpProbeEntry (Bps : Type) where
  ip : IpAddr
  tcpLatencyMs : Option UInt64
  tlsOk : Bool
  tlsLatencyMs : Option UInt64
  certValid : Bool
  ttfbMs : Option UInt64
  downloadBps : Option Bps
  uploadBps : Option Bps
  httpStatus : Option UInt16
  score : UInt8
  deriving DecidableEq

/-- What it reports on the way. -/
inductive IpScanEvent (Bps : Type) where
  | tcpDone (tcpTested : Nat)
  | probeComplete (entry : IpProbeEntry Bps)
  deriving DecidableEq

/-- What a scan is given beside the list. -/
structure Setup (Bps : Type) where
  ipMaxP1Concurrent : Nat
  ipMaxP2Concurrent : Nat
  /-- `ScanFilter::allows`. -/
  allows : IpAddr → Bool
  computeScore : IpProbeEntry Bps → UInt8

/-- `p1_limit`. -/
def Setup.p1Limit (c : Setup Bps) : Nat := max c.ipMaxP1Concurrent 1

/-- `p2_limit`. -/
def Setup.p2Limit (c : Setup Bps) : Nat := max c.ipMaxP2Concurrent 1

/-- An entry with its score. -/
def Setup.scored (c : Setup Bps) (entry : IpProbeEntry Bps) :
    IpProbeEntry Bps :=
  { entry with score := c.computeScore entry }

/-- `tcp_only_entry`. -/
def tcpOnlyEntry (c : Setup Bps) (ip : IpAddr)
    (tcpLatencyMs : Option UInt64) : IpProbeEntry Bps :=
  c.scored {
    ip := ip
    tcpLatencyMs := tcpLatencyMs
    tlsOk := false
    tlsLatencyMs := none
    certValid := false
    ttfbMs := none
    downloadBps := none
    uploadBps := none
    httpStatus := none
    score := 0 }

/-- `start.elapsed().as_millis()`. -/
def asMillis (elapsed : UInt64) : UInt64 := elapsed / 1000000

/-- How a TLS probe goes: no second connection, no handshake, or what is
measured behind it. -/
inductive TlsOutcome (Bps : Type) where
  | unreachable
  | refused
  | measured (elapsed : UInt64) (ttfbMs : Option UInt64)
      (downloadBps : Option Bps) (httpStatus : Option UInt16)
      (uploadBps : Option Bps)
  deriving DecidableEq

/-- `probe_tls_ttfb`. -/
def probeTlsTtfb (c : Setup Bps) (ip : IpAddr) (tcpLatencyMs : UInt64) :
    TlsOutcome Bps → IpProbeEntry Bps
  | .unreachable => tcpOnlyEntry c ip (some tcpLatencyMs)
  | .refused => tcpOnlyEntry c ip (some tcpLatencyMs)
  | .measured elapsed ttfbMs downloadBps httpStatus uploadBps => c.scored {
      ip := ip
      tcpLatencyMs := some tcpLatencyMs
      tlsOk := true
      tlsLatencyMs := some (asMillis elapsed)
      certValid := true
      ttfbMs := ttfbMs
      downloadBps := downloadBps
      uploadBps := if ttfbMs.isSome then uploadBps else none
      httpStatus := httpStatus
      score := 0 }

-- ================================================================ the loop

/-- Where `scan_ip_list` is. -/
inductive Point where
  | fillTls
  | fillTcp
  | check
  | select
  | finished
  deriving DecidableEq

/-- The scan between two steps. -/
structure Scan (Bps : Type) where
  point : Point
  ips : List IpAddr
  p1 : List IpAddr
  pending : List (IpAddr × UInt64)
  p2 : List (IpAddr × UInt64)
  all : List (IpProbeEntry Bps)
  tcpTested : Nat
  events : List (IpScanEvent Bps)
  connected : List IpAddr
  deriving DecidableEq

/-- The scan before its loop, or at its end if no address is left. -/
def start (c : Setup Bps) (ips : List IpAddr) : Scan Bps where
  point := if (ips.filter c.allows).isEmpty then .finished else .fillTls
  ips := ips.filter c.allows
  p1 := []
  pending := []
  p2 := []
  all := []
  tcpTested := 0
  events := []
  connected := []

/-- The loop's own next step, or the task that `select!` returns with. -/
inductive Label (Bps : Type) where
  | advance
  | tcpJoined (i : Nat) (elapsed : Option UInt64)
  | tlsJoined (i : Nat) (outcome : TlsOutcome Bps)
  deriving DecidableEq

/-- The loop's own step. -/
def Scan.advance (c : Setup Bps) (s : Scan Bps) : Option (Scan Bps) :=
  match s.point with
  | .fillTls =>
      if s.p2.length < c.p2Limit then
        match s.pending with
        | [] => some { s with point := .fillTcp }
        | task :: rest => some { s with
            pending := rest
            p2 := s.p2 ++ [task] }
      else some { s with point := .fillTcp }
  | .fillTcp =>
      if s.p1.length < c.p1Limit ∧ s.pending.length < c.p2Limit then
        match s.ips with
        | [] => some { s with point := .check }
        | ip :: rest => some { s with
            ips := rest
            p1 := s.p1 ++ [ip] }
      else some { s with point := .check }
  | .check =>
      if s.p1.isEmpty ∧ s.p2.isEmpty ∧ s.pending.isEmpty ∧ s.ips.isEmpty then
        some { s with point := .finished }
      else some { s with point := .select }
  | .select => none
  | .finished => none

/-- The arm of a TCP task: a failed one is an entry at once, a connected
one goes to the backlog. -/
def Scan.tcpJoined (c : Setup Bps) (s : Scan Bps) (i : Nat) (ip : IpAddr)
    (elapsed : Option UInt64) : Scan Bps :=
  let s := { s with
    point := .fillTls
    p1 := s.p1.eraseIdx i
    tcpTested := s.tcpTested + 1
    events := s.events ++ [IpScanEvent.tcpDone (s.tcpTested + 1)] }
  match elapsed with
  | some elapsed => { s with
      pending := s.pending ++ [(ip, asMillis elapsed)]
      connected := s.connected ++ [ip] }
  | none => { s with all := s.all ++ [tcpOnlyEntry c ip none] }

/-- The arm of a TLS task. -/
def Scan.tlsJoined (s : Scan Bps) (i : Nat) (entry : IpProbeEntry Bps) :
    Scan Bps :=
  { s with
    point := .fillTls
    p2 := s.p2.eraseIdx i
    events := s.events ++ [IpScanEvent.probeComplete entry]
    all := s.all ++ [entry] }

/-- One step; `none` if the label names no task that runs, or none that is
waited for. -/
def Scan.step (c : Setup Bps) (s : Scan Bps) : Label Bps → Option (Scan Bps)
  | .advance => s.advance c
  | .tcpJoined i elapsed =>
      if s.point = .select then
        (s.p1[i]?).map fun ip => s.tcpJoined c i ip elapsed
      else none
  | .tlsJoined i outcome =>
      if s.point = .select then
        (s.p2[i]?).map fun task =>
          s.tlsJoined i (probeTlsTtfb c task.1 task.2 outcome)
      else none

/-- Runs of the scan. -/
abbrev Scan.Runs (c : Setup Bps) : Scan Bps → List (Label Bps) → Scan Bps →
    Prop :=
  Run fun s label t => s.step c label = some t

-- ============================================================== the result

/-- `tcp_latency_ms.unwrap_or(u64::MAX)`. -/
def IpProbeEntry.latencyKey (e : IpProbeEntry Bps) : UInt64 :=
  e.tcpLatencyMs.getD 0xFFFFFFFFFFFFFFFF

/-- The comparison of `sort_by`: not greater. -/
def IpProbeEntry.sortsBefore (a b : IpProbeEntry Bps) : Bool :=
  decide (b.score < a.score)
    || (decide (a.score = b.score) && decide (a.latencyKey ≤ b.latencyKey))

/-- What `scan_ip_list` returns. `sort_by` is stable. -/
def Scan.result (s : Scan Bps) : List (IpProbeEntry Bps) :=
  s.all.mergeSort IpProbeEntry.sortsBefore

end ZeroDpi.IpScanner
