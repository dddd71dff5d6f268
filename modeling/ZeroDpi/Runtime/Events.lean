/-
The events that the program prints (zerodpi/src/runtime_events.rs).

`serde` tags an event with its name, writes the fields in the order in which
they are declared, an option as `null` or its value, and the variants of an
enumeration by their names in snake case.
-/
import ZeroDpi.Lib.JsonText
import ZeroDpi.Runtime.Coordinator

namespace ZeroDpi.Runtime

open Lib JsonText

/-- What a scan event is about. -/
inductive ScanKind where
  | sni
  | ip
  | proxy
  deriving DecidableEq

/-- What a selected target is. -/
inductive TargetKind where
  | sni
  | ip
  deriving DecidableEq

/-- How a bypass ended, as an event says it. -/
inductive BypassStatus where
  | completed
  | failed
  deriving DecidableEq

/-- The serde name. -/
def ScanKind.name : ScanKind → String
  | sni => "sni"
  | ip => "ip"
  | proxy => "proxy"

/-- Likewise. -/
def TargetKind.name : TargetKind → String
  | sni => "sni"
  | ip => "ip"

/-- Likewise. -/
def BypassStatus.name : BypassStatus → String
  | completed => "completed"
  | failed => "failed"

/-- Likewise, of the monitor's sources. -/
def NetworkChangeSource.name : NetworkChangeSource → String
  | address => "address"
  | route => "route"
  | link => "link"
  | poll => "poll"

/-- `RuntimeEvent`, with every field the core fills. -/
inductive RuntimeEvent where
  | startup (contractVersion : UInt8) (version : String) (pid uid : UInt32)
  | helperAuthenticated (pid uid : UInt32)
      (protocolMajor protocolMinor : UInt16) (capabilities : List String)
  | configLoaded (path mode bypassMethod listenHost : String)
      (listenPort : UInt16) (autoSelect noTui needsRoot : Bool)
  | scanStarted (scan : ScanKind) (path : Option String)
      (total : Option UInt64)
  | scanProgress (scan : ScanKind) (phase : Option String)
      (completed : UInt64) (total : Option UInt64) (sni ip : Option String)
      (score : Option UInt8)
  | scanCompleted (scan : ScanKind) (results : UInt64)
  | nextScanScheduled (scan : ScanKind) (intervalSecs : UInt64)
  | rescanStarted (scan : ScanKind)
  | rescanFinished (scan : ScanKind) (found : UInt64)
      (bestScore : Option UInt8) (durationMs : UInt64) (switched : Bool)
  | selectedTarget (target : TargetKind) (sni : Option String) (ip : String)
      (score : Option UInt8)
  | listenerStarted (mode listenAddr : String)
  | connectionAccepted (peer : String) (srcPort : UInt16)
  | bypassFinished (srcPort : UInt16) (status : BypassStatus)
  | relayBytes (srcPort : UInt16) (c2sBytes s2cBytes : UInt64)
      (isFinal : Bool)
  | activeTargetChanged (target : TargetKind) (sni : Option String)
      (ip : String) (score : Option UInt8)
  | rootRequired (mode bypassMethod message : String)
      (rootlessAlternatives : List String)
  | networkUnavailable (message : String)
  | networkChanged (source : NetworkChangeSource) (interfaceIp : String)
  | networkRecoveryFailed (attempt : UInt32) (nextRetryMs : UInt64)
      (message : String)
  | networkRecovered (interfaceIp : String)
      (targetVerified targetSwitched : Bool)
  | fatalError (message : String)
  | gracefulShutdown (reason : String)
  deriving DecidableEq

-- ============================================================ serialization

/-- A string value. -/
def str (s : String) : Value := .str s.toList

/-- `Option`: `None` is `null`. -/
def orNull {α : Type} (value : α → Value) : Option α → Value
  | none => .null
  | some a => value a

/-- A list of strings. -/
def strs (l : List String) : Value := .strs (l.map String.toList)

/-- An unsigned number, as JSON has it. -/
def u8 (n : UInt8) : Value := .num n.toNat

/-- Likewise. -/
def u16 (n : UInt16) : Value := .num n.toNat

/-- Likewise. -/
def u32 (n : UInt32) : Value := .num n.toNat

/-- Likewise; serde_json writes all of its digits. -/
def u64 (n : UInt64) : Value := .num n.toNat

/-- The name of an event and its fields. -/
def RuntimeEvent.members : RuntimeEvent → List JsonMember
  | startup contractVersion version pid uid =>
      [("event", str "startup"), ("contract_version", u8 contractVersion),
        ("version", str version), ("pid", u32 pid), ("uid", u32 uid)]
  | helperAuthenticated pid uid protocolMajor protocolMinor capabilities =>
      [("event", str "helper_authenticated"), ("pid", u32 pid),
        ("uid", u32 uid), ("protocol_major", u16 protocolMajor),
        ("protocol_minor", u16 protocolMinor),
        ("capabilities", strs capabilities)]
  | configLoaded path mode bypassMethod listenHost listenPort autoSelect
      noTui needsRoot =>
      [("event", str "config_loaded"), ("path", str path),
        ("mode", str mode), ("bypass_method", str bypassMethod),
        ("listen_host", str listenHost), ("listen_port", u16 listenPort),
        ("auto_select", .bool autoSelect), ("no_tui", .bool noTui),
        ("root_required", .bool needsRoot)]
  | scanStarted scan path total =>
      [("event", str "scan_started"), ("scan", str scan.name),
        ("path", orNull str path), ("total", orNull u64 total)]
  | scanProgress scan phase completed total sni ip score =>
      [("event", str "scan_progress"), ("scan", str scan.name),
        ("phase", orNull str phase), ("completed", u64 completed),
        ("total", orNull u64 total), ("sni", orNull str sni),
        ("ip", orNull str ip), ("score", orNull u8 score)]
  | scanCompleted scan results =>
      [("event", str "scan_completed"), ("scan", str scan.name),
        ("results", u64 results)]
  | nextScanScheduled scan intervalSecs =>
      [("event", str "next_scan_scheduled"), ("scan", str scan.name),
        ("interval_secs", u64 intervalSecs)]
  | rescanStarted scan =>
      [("event", str "rescan_started"), ("scan", str scan.name)]
  | rescanFinished scan found bestScore durationMs switched =>
      [("event", str "rescan_finished"), ("scan", str scan.name),
        ("found", u64 found), ("best_score", orNull u8 bestScore),
        ("duration_ms", u64 durationMs), ("switched", .bool switched)]
  | selectedTarget target sni ip score =>
      [("event", str "selected_target"), ("target", str target.name),
        ("sni", orNull str sni), ("ip", str ip),
        ("score", orNull u8 score)]
  | listenerStarted mode listenAddr =>
      [("event", str "listener_started"), ("mode", str mode),
        ("listen_addr", str listenAddr)]
  | connectionAccepted peer srcPort =>
      [("event", str "connection_accepted"), ("peer", str peer),
        ("src_port", u16 srcPort)]
  | bypassFinished srcPort status =>
      [("event", str "bypass_finished"), ("src_port", u16 srcPort),
        ("status", str status.name)]
  | relayBytes srcPort c2sBytes s2cBytes isFinal =>
      [("event", str "relay_bytes"), ("src_port", u16 srcPort),
        ("c2s_bytes", u64 c2sBytes), ("s2c_bytes", u64 s2cBytes),
        ("final", .bool isFinal)]
  | activeTargetChanged target sni ip score =>
      [("event", str "active_target_changed"), ("target", str target.name),
        ("sni", orNull str sni), ("ip", str ip),
        ("score", orNull u8 score)]
  | rootRequired mode bypassMethod message rootlessAlternatives =>
      [("event", str "root_required"), ("mode", str mode),
        ("bypass_method", str bypassMethod), ("message", str message),
        ("rootless_alternatives", strs rootlessAlternatives)]
  | networkUnavailable message =>
      [("event", str "network_unavailable"), ("message", str message)]
  | networkChanged source interfaceIp =>
      [("event", str "network_changed"), ("source", str source.name),
        ("interface_ip", str interfaceIp)]
  | networkRecoveryFailed attempt nextRetryMs message =>
      [("event", str "network_recovery_failed"), ("attempt", u32 attempt),
        ("next_retry_ms", u64 nextRetryMs), ("message", str message)]
  | networkRecovered interfaceIp targetVerified targetSwitched =>
      [("event", str "network_recovered"), ("interface_ip", str interfaceIp),
        ("target_verified", .bool targetVerified),
        ("target_switched", .bool targetSwitched)]
  | fatalError message =>
      [("event", str "fatal_error"), ("message", str message)]
  | gracefulShutdown reason =>
      [("event", str "graceful_shutdown"), ("reason", str reason)]

/-- The line that `emit` writes, without its line end. -/
def RuntimeEvent.line (event : RuntimeEvent) : List Char :=
  object event.members

end ZeroDpi.Runtime
