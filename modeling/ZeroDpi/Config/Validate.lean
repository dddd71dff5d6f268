/-
The configuration record and `Config::validate`
(zerodpi-core/src/config.rs).

Every field that `Config::validate`, `build_method` or the proxy's
`ConnectionSettings` reads, under the source's names in lower camel
case; the field defaults are the ones serde fills in, so `{}` is the
configuration of an empty file. Fields nothing modelled reads (listen
address, list file names, scan outputs, rescan settings) are left out.

`validate` keeps the source's order of checks and its messages. It is
cut into five consecutive runs so that a proof about the method list
never sees the scanner limits.
-/
import ZeroDpi.Config.Basic

namespace ZeroDpi

open Lib

-- The default ranges, each under the name of the function serde calls.

/-- The serde defaults of the ranges. -/
def defaultSniBoundaryDelayMs : Int32Range := { min := 5, max := 10 }

/-- Likewise. -/
def defaultTlsFragLength : Option Int32Range :=
  some { min := 100, max := 200 }

/-- Likewise. -/
def defaultTlsFragIntervalMs : Int32Range := { min := 10, max := 20 }

/-- Likewise. -/
def defaultTlsPaddingSize : Int32Range := { min := 1500, max := 2500 }

/-- The configuration file. -/
structure Config where
  tcpNodelay : Bool := true
  customDnsEnabled : Bool := false
  customDnsServers : List DnsServerText := []
  scanTimeoutSecs : Nat := 5
  loadBalanceTargetCount : Nat := 10
  loadBalancePingIntervalSecs : Nat := 60
  sniSwitchMinScore : UInt8 := 1
  selectedSni : Option String := none
  bypassMethod : BypassMethodList := [.wrongSeq, .tlsFrag]
  nfqueueNum : UInt16 := 1
  linuxFirewallBackend : String := "iptables"
  wrongSeqExtraOffset : UInt32 := 0
  wrongSeqSetPsh : Bool := true
  wrongSeqBumpIpIdent : Bool := true
  wrongChecksumDelta : UInt16 := 1
  wrongChecksumSetPsh : Bool := true
  wrongChecksumBumpIpIdent : Bool := true
  wrongChecksumCompleteImmediately : Bool := true
  lowTtlValue : UInt8 := 5
  lowTtlSetPsh : Bool := true
  lowTtlBumpIpIdent : Bool := true
  lowTtlCompleteImmediately : Bool := true
  lowTtlDiscoverMax : UInt8 := 32
  lowTtlDiscoverTimeoutMs : Nat := 5000
  wrongMd5SetPsh : Bool := true
  wrongMd5BumpIpIdent : Bool := true
  wrongMd5CompleteImmediately : Bool := true
  wrongAckOffset : UInt32 := 1
  wrongAckSetPsh : Bool := true
  wrongAckBumpIpIdent : Bool := true
  wrongAckCompleteImmediately : Bool := true
  wrongTimestampOffset : UInt32 := 1
  wrongTimestampSetPsh : Bool := true
  wrongTimestampBumpIpIdent : Bool := true
  wrongTimestampCompleteImmediately : Bool := true
  tlsRecordFragSize : Nat := 1
  tlsRecordFragSetPsh : Bool := true
  tlsRecordFragBumpIpIdent : Bool := true
  tlsRecordSplitPoint : SniBoundarySplitPoint := .extensionLength
  tlsRecordSplitDelayMs : Int32Range := .exact 0
  fakeTlsExtraOffset : UInt32 := 0
  fakeTlsSetPsh : Bool := true
  fakeTlsBumpIpIdent : Bool := true
  fakeTlsCompleteImmediately : Bool := true
  fakeTlsForwardReal : Bool := true
  fakeTlsRepeats : Nat := 1
  fakeTlsChainDelayMs : Int32Range := .exact 0
  ipFragSize : Nat := 24
  ipFragOnlyFirstPacket : Bool := true
  disorderSegments : Nat := 2
  disorderDelayMs : Nat := 0
  disorderReverse : Bool := true
  disorderOnlyFirstPacket : Bool := true
  seqovlSize : Option Nat := none
  seqovlPattern : Option String := none
  seqovlSegments : Nat := 2
  seqovlReverse : Bool := false
  seqovlDelayMs : Nat := 0
  sniSplitDummyByte : UInt8 := 0
  sniSplitPosition : SniSplitPosition := .middle
  sniBoundaryFragSplitPoint : SniBoundarySplitPoint := .extensionLength
  sniBoundaryFragDelayMs : Int32Range := defaultSniBoundaryDelayMs
  tlsFragPackets : String := "1-3"
  tlsFragLength : Option Int32Range := defaultTlsFragLength
  tlsFragIntervalMs : Int32Range := defaultTlsFragIntervalMs
  tcpSegSize : Nat := 1
  tcpSegNodelay : Bool := true
  tlsPaddingSize : Int32Range := defaultTlsPaddingSize
  tlsPaddingPosition : String := "before"
  mixedCaseSniFlipAll : Bool := false
  ccsPrefixRecordVersion : String := "0x0303"
  bypassTimeoutSecs : Nat := 20
  mode : String := "sni_spoof"
  selectedIp : Option SelectedIp := none
  methodScanMethods : BypassMethodList := baseBypassMethods
  methodScanSamples : Nat := 3
  methodScanTimeoutSecs : Nat := 10
  sniMaxConcurrent : Nat := 64
  ipMaxP1Concurrent : Nat := 128
  ipMaxP2Concurrent : Nat := 32
  scanDownloadCap : Nat := 10240
  scanUploadCap : Nat := 10240
  scanUploadPath : String := "/"
  tcpLatencyCapMs : F64 := .finite 500
  tlsLatencyCapMs : F64 := .finite 1000
  ttfbCapMs : F64 := .finite 2000
  speedCapBps : F64 := .finite 2048000
  uploadSpeedCapBps : F64 := .finite 2048000
  proxyTestTimeoutSecs : Nat := 30
  proxyTestSniWeight : F64 := .finite (mkRat 1 2)
  proxyTestLatencyCapMs : F64 := .finite 500
  proxyTestTtfbCapMs : F64 := .finite 3000

namespace Config

/-- `tokio::sync::Semaphore::MAX_PERMITS` on a 64-bit host. -/
def maxPermits : Nat := 0x1FFFFFFFFFFFFFFF

/-- `MAX_SNI_LEN` (zerodpi-core/src/tls_template.rs). -/
def maxSniLen : Nat := 219

/-- `MAX_SEQOVL_SIZE`. -/
def maxSeqovlSize : Nat := 1024

/-- `MAX_FAKE_TLS_REPEATS`. -/
def maxFakeTlsRepeats : Nat := 8

/-- `MAX_FAKE_TLS_CHAIN_DELAY_MS`. -/
def maxFakeTlsChainDelayMs : Int32 := 100

/-- One `if … { bail!(…) }`. -/
def bailIf (bad : Bool) (message : String) : Except String Unit :=
  if bad then .error message else .ok ()

-- ==================================================== the five check runs

/-- `custom_dns_servers`. -/
def effectiveDnsServers (cfg : Config) :
    Except String (List (IpText × UInt16)) :=
  if !cfg.customDnsEnabled then .ok []
  else if cfg.customDnsServers.isEmpty then .error
    "CUSTOM_DNS_SERVERS must not be empty when CUSTOM_DNS_ENABLED is true"
  else cfg.customDnsServers.zipIdx.mapM fun (server, index) =>
    match parseCustomDnsServer server with
    | .ok endpoint => .ok endpoint
    | .error e => .error s!"CUSTOM_DNS_SERVERS[{index}]: {e}"

/-- The duplicate-and-membership scan of a method list, with the two
messages of the field it is made for. -/
def checkMethodNames (unknown : MethodName → String)
    (duplicate : MethodName → String) :
    List MethodName → List MethodName → Except String Unit
  | _, [] => .ok ()
  | seen, m :: rest =>
      if m ∉ baseBypassMethods then .error (unknown m)
      else if m ∈ seen then .error (duplicate m)
      else checkMethodNames unknown duplicate (m :: seen) rest

/-- The scanner, pool and timeout limits, up to `SELECTED_SNI`. -/
def validateLimits (cfg : Config) : Except String Unit := do
  bailIf (cfg.loadBalanceTargetCount == 0)
    "LOAD_BALANCE_TARGET_COUNT must be > 0"
  bailIf (cfg.loadBalancePingIntervalSecs == 0)
    "LOAD_BALANCE_PING_INTERVAL_SECS must be > 0"
  concurrency "SNI_MAX_CONCURRENT" cfg.sniMaxConcurrent
  concurrency "IP_MAX_P1_CONCURRENT" cfg.ipMaxP1Concurrent
  concurrency "IP_MAX_P2_CONCURRENT" cfg.ipMaxP2Concurrent
  positiveCap "TCP_LATENCY_CAP_MS" cfg.tcpLatencyCapMs
  positiveCap "TLS_LATENCY_CAP_MS" cfg.tlsLatencyCapMs
  positiveCap "TTFB_CAP_MS" cfg.ttfbCapMs
  positiveCap "PROXY_TEST_LATENCY_CAP_MS" cfg.proxyTestLatencyCapMs
  positiveCap "PROXY_TEST_TTFB_CAP_MS" cfg.proxyTestTtfbCapMs
  let _ ← cfg.effectiveDnsServers
  bailIf (cfg.scanTimeoutSecs == 0) "SCAN_TIMEOUT_SECS must be > 0"
  bailIf (cfg.methodScanSamples == 0) "METHOD_SCAN_SAMPLES must be >= 1"
  bailIf (cfg.methodScanTimeoutSecs == 0)
    "METHOD_SCAN_TIMEOUT_SECS must be > 0"
  bailIf cfg.methodScanMethods.isEmpty "METHOD_SCAN_METHODS must not be empty"
  checkMethodNames
    (fun m => s!"Unknown METHOD_SCAN_METHODS entry '{m.text}'. "
      ++ s!"Valid base methods: {debugNames baseBypassMethods}")
    (fun m => s!"Duplicate METHOD_SCAN_METHODS entry '{m.text}'")
    [] cfg.methodScanMethods
  bailIf (cfg.bypassTimeoutSecs == 0) "BYPASS_TIMEOUT_SECS must be > 0"
  bailIf (cfg.sniSwitchMinScore > 100) "SNI_SWITCH_MIN_SCORE must be <= 100"
  bailIf (cfg.scanDownloadCap == 0) "SCAN_DOWNLOAD_CAP must be > 0"
  bailIf (cfg.scanUploadCap == 0) "SCAN_UPLOAD_CAP must be > 0"
  bailIf (let path := cfg.scanUploadPath.toList
      path.isEmpty || path.head? != some '/' || path.contains '\r'
        || path.contains '\n')
    ("SCAN_UPLOAD_PATH must be a non-empty HTTP path starting with '/' "
      ++ "and containing no CR/LF")
  positiveCap "SPEED_CAP_BPS" cfg.speedCapBps
  positiveCap "UPLOAD_SPEED_CAP_BPS" cfg.uploadSpeedCapBps
  match cfg.selectedSni with
  | some sni =>
      bailIf (sni.utf8ByteSize > maxSniLen)
        (s!"SELECTED_SNI is too long ({sni.utf8ByteSize} bytes, "
          ++ s!"max {maxSniLen}): '{sni}'")
  | none => .ok ()
where
  concurrency (field : String) (value : Nat) : Except String Unit :=
    bailIf (value == 0 || value > maxPermits)
      s!"{field} must be between 1 and {maxPermits}"
  positiveCap (field : String) (value : F64) : Except String Unit :=
    bailIf (!value.isFinitePositive) s!"{field} must be a finite value > 0"

/-- The aliases the two method-list messages spell out. -/
def aliasNote : String :=
  "aliases: \"wrong_seq_wrong_md5\", \"wrong_seq_tls_frag\", "
    ++ "\"wrong_md5_tls_frag\", \"wrong_seq_tls_record_frag\""

/-- The partners `sni_boundary_frag` accepts. -/
def sniBoundaryPartner : MethodName → Bool
  | .sniBoundaryFrag | .tlsFrag | .tlsPadding | .mixedCaseSni | .wrongSeq
  | .wrongAck | .wrongChecksum | .wrongMd5 | .wrongTimestamp | .lowTtl
  | .fakeTls | .ipFrag | .ccsPrefix => true
  | _ => false

/-- The `BYPASS_METHOD` combination rules. -/
def validateMethodList (cfg : Config) : Except String Unit := do
  let list := cfg.bypassMethod
  bailIf list.isEmpty
    ("BYPASS_METHOD must not be empty; valid base methods: "
      ++ s!"{debugNames baseBypassMethods}, {aliasNote}")
  checkMethodNames
    (fun m => s!"Unknown BYPASS_METHOD '{m.text}'. Valid base methods: "
      ++ s!"{debugNames baseBypassMethods}, {aliasNote}")
    (fun m => s!"Duplicate BYPASS_METHOD entry '{m.text}'") [] list
  bailIf (list.contains .tlsRecordSplit && list.contains .sniBoundaryFrag)
    ("BYPASS_METHOD \"tls_record_split\" cannot be combined with "
      ++ "\"sni_boundary_frag\" (both cut the first ClientHello at the SNI "
      ++ "boundary; use TLS_RECORD_SPLIT_DELAY_MS to also split the records "
      ++ "across TCP segments)")
  bailIf (list.contains .urgSniSplit && list.length > 1
      && !list.all fun m => m == .urgSniSplit || m == .tlsFrag)
    ("BYPASS_METHOD \"urg_sni_split\" can only be combined with "
      ++ "\"tls_frag\" (its TCP urgent pointer is per-segment, so it cannot "
      ++ "be chained with a payload rewrite or an emission shaper)")
  bailIf (list.contains .sniBoundaryFrag && list.length > 1
      && !list.all sniBoundaryPartner)
    ("BYPASS_METHOD \"sni_boundary_frag\" cannot be combined with "
      ++ "\"tls_record_frag\" or \"urg_sni_split\"")
  let shapers := [.ipFrag, .disorder, .seqovl].filter list.contains
  bailIf (shapers.length > 1)
    ("BYPASS_METHOD may contain at most one of \"ip_frag\", \"disorder\", "
      ++ "\"seqovl\" (each decides how the first data packet is emitted), "
      ++ s!"got {debugNames shapers}")
  bailIf (list.contains .urgSniSplit
      && (list.contains .tlsRecordFrag || !shapers.isEmpty))
    ("BYPASS_METHOD \"urg_sni_split\" cannot be chained with "
      ++ "\"tls_record_frag\" or an emission shaper (its TCP urgent pointer "
      ++ "is per-segment)")
  let chained := list.contains .fakeTls
    && (list.contains .tlsRecordFrag || !shapers.isEmpty)
  bailIf (chained && !cfg.fakeTlsForwardReal)
    ("BYPASS_METHOD \"fake_tls\" chained with another data-stage method "
      ++ "requires FAKE_TLS_FORWARD_REAL = true so the real ClientHello can "
      ++ "be shaped after the decoy")

/-- `tls_frag_length_range`. -/
def tlsFragLengthRange (cfg : Config) : Except String Int32Range :=
  match cfg.tlsFragLength with
  | some range => .ok range
  | none =>
      if cfg.tcpSegSize < 0x80000000 then .ok (.exact (Int32.ofNat cfg.tcpSegSize))
      else .error "TCP_SEG_SIZE must be <= i32::MAX"

/-- `tls_frag_packets`. -/
def parsedTlsFragPackets (cfg : Config) : Except String TlsFragPackets :=
  match TlsFragPackets.parse cfg.tlsFragPackets with
  | .ok packets => .ok packets
  | .error e => .error s!"TLS_FRAG_PACKETS is invalid: {e}"

/-- The parameters of the interceptor methods. -/
def validateInterceptorParams (cfg : Config) : Except String Unit := do
  bailIf (cfg.fakeTlsRepeats == 0 || cfg.fakeTlsRepeats > maxFakeTlsRepeats)
    s!"FAKE_TLS_REPEATS must be between 1 and {maxFakeTlsRepeats}"
  cfg.fakeTlsChainDelayMs.validateAtLeast "FAKE_TLS_CHAIN_DELAY_MS" 0
  bailIf (cfg.fakeTlsChainDelayMs.max > maxFakeTlsChainDelayMs)
    ("FAKE_TLS_CHAIN_DELAY_MS must be <= 100 "
      ++ "(it blocks the packet-capture loop)")
  bailIf (cfg.wrongChecksumDelta == 0) "WRONG_CHECKSUM_DELTA must be >= 1"
  bailIf (cfg.wrongAckOffset == 0) "WRONG_ACK_OFFSET must be >= 1"
  bailIf (cfg.wrongTimestampOffset == 0) "WRONG_TIMESTAMP_OFFSET must be >= 1"
  bailIf (cfg.lowTtlValue == 0) "LOW_TTL_VALUE must be >= 1"
  bailIf (cfg.lowTtlValue > 64) "LOW_TTL_VALUE must be <= 64"
  bailIf (cfg.lowTtlDiscoverMax == 0) "LOW_TTL_DISCOVER_MAX must be >= 1"
  bailIf (cfg.lowTtlDiscoverMax > 64) "LOW_TTL_DISCOVER_MAX must be <= 64"
  bailIf (cfg.lowTtlDiscoverTimeoutMs < 100)
    "LOW_TTL_DISCOVER_TIMEOUT_MS must be >= 100"
  bailIf (cfg.tlsRecordFragSize == 0) "TLS_RECORD_FRAG_SIZE must be >= 1"
  bailIf (cfg.ipFragSize < 8) "IP_FRAG_SIZE must be >= 8"
  bailIf (cfg.ipFragSize % 8 != 0)
    ("IP_FRAG_SIZE must be a multiple of 8 "
      ++ "(fragment offsets use 8-byte units)")
  bailIf (cfg.disorderSegments < 2 || cfg.disorderSegments > 3)
    "DISORDER_SEGMENTS must be 2 or 3"
  bailIf (cfg.disorderDelayMs > 1000) "DISORDER_DELAY_MS must be <= 1000"
  match cfg.seqovlSize with
  | some size =>
      bailIf (size > maxSeqovlSize)
        s!"SEQOVL_SIZE must be <= {maxSeqovlSize}"
  | none => .ok ()
  bailIf (cfg.seqovlSegments < 2 || cfg.seqovlSegments > 3)
    "SEQOVL_SEGMENTS must be 2 or 3"
  bailIf (cfg.seqovlDelayMs > 1000) "SEQOVL_DELAY_MS must be <= 1000"
  match cfg.seqovlPattern with
  | none => .ok ()
  | some pattern =>
      match parseHexPattern pattern with
      | .error e => .error s!"SEQOVL_PATTERN is invalid: {e}"
      | .ok bytes => do
          bailIf (bytes.length > maxSeqovlSize)
            s!"SEQOVL_PATTERN must be at most {maxSeqovlSize} bytes"
          match cfg.seqovlSize with
          | some size =>
              bailIf (size != bytes.length)
                (s!"SEQOVL_PATTERN is {bytes.length} bytes but SEQOVL_SIZE "
                  ++ "is "
                  ++ s!"{size}; they must match")
          | none => .ok ()

/-- The parameters of the socket-side methods. -/
def validateSocketParams (cfg : Config) : Except String Unit := do
  bailIf (cfg.tcpSegSize == 0) "TCP_SEG_SIZE must be >= 1"
  bailIf (cfg.tcpSegSize > 0x7FFFFFFF) "TCP_SEG_SIZE must be <= i32::MAX"
  cfg.tlsPaddingSize.validateAtLeast "TLS_PADDING_SIZE" 1
  bailIf (cfg.tlsPaddingSize.max > 16000) "TLS_PADDING_SIZE must be <= 16000"
  match PaddingPosition.parse cfg.tlsPaddingPosition with
  | .ok _ => .ok ()
  | .error e => .error s!"TLS_PADDING_POSITION is invalid: {e}"
  match parseRecordVersion cfg.ccsPrefixRecordVersion with
  | .ok _ => .ok ()
  | .error e => .error s!"CCS_PREFIX_RECORD_VERSION is invalid: {e}"
  let _ ← cfg.parsedTlsFragPackets
  let length ← cfg.tlsFragLengthRange
  length.validateAtLeast "TLS_FRAG_LENGTH" 1
  cfg.tlsFragIntervalMs.validateAtLeast "TLS_FRAG_INTERVAL_MS" 0
  cfg.sniBoundaryFragDelayMs.validateAtLeast "SNI_BOUNDARY_FRAG_DELAY_MS" 0
  cfg.tlsRecordSplitDelayMs.validateAtLeast "TLS_RECORD_SPLIT_DELAY_MS" 0

/-- The values `MODE` may take. -/
def modes : List String :=
  ["sni_spoof", "ip_bypass", "ip_bypass_plus", "sni_scan", "ip_scan",
   "proxy_scan", "sni_method_scan", "ip_method_scan"]

/-- The methods `ip_bypass_plus` accepts: those that keep the real SNI. -/
def preservesRealSni : MethodName → Bool
  | .tlsRecordFrag | .tlsFrag | .tlsPadding | .mixedCaseSni
  | .sniBoundaryFrag | .ccsPrefix | .ipFrag | .disorder | .seqovl
  | .tlsRecordSplit => true
  | _ => false

/-- Firewall backend, mode, proxy-test settings and `SELECTED_IP`. -/
def validateMode (cfg : Config) : Except String Unit := do
  bailIf (LinuxFirewallBackend.parse cfg.linuxFirewallBackend).isNone
    (s!"Unknown LINUX_FIREWALL_BACKEND '{cfg.linuxFirewallBackend}'. "
      ++ "Valid values: \"iptables\", \"nftables\"")
  bailIf (!modes.contains cfg.mode)
    (s!"Unknown MODE '{cfg.mode}'. Valid values: "
      ++ ", ".intercalate (modes.map fun m => "\"" ++ m ++ "\""))
  bailIf (cfg.mode == "ip_bypass_plus"
      && !cfg.bypassMethod.all preservesRealSni)
    ("MODE = \"ip_bypass_plus\" supports only real-SNI-preserving "
      ++ "BYPASS_METHOD values: \"tls_record_frag\", \"tls_record_split\", "
      ++ "\"tls_frag\", \"tls_padding\", \"mixed_case_sni\", "
      ++ "\"sni_boundary_frag\", \"ccs_prefix\", \"ip_frag\", \"disorder\", "
      ++ "or \"seqovl\"")
  bailIf (!cfg.proxyTestSniWeight.inUnitInterval)
    "PROXY_TEST_SNI_WEIGHT must be in [0.0, 1.0]"
  bailIf (cfg.proxyTestTimeoutSecs == 0) "PROXY_TEST_TIMEOUT_SECS must be > 0"
  match cfg.selectedIp with
  | none => .ok ()
  | some ip =>
      match ip.parsed with
      | .malformed _ =>
          .error s!"SELECTED_IP '{ip.text}' is not a valid IP address"
      | .v4 _ => .ok ()
      | .v6 _ =>
          bailIf (cfg.mode == "ip_bypass_plus")
            ("MODE = \"ip_bypass_plus\" is IPv4-only; "
              ++ s!"SELECTED_IP '{ip.text}' is IPv6")

/-- `Config::validate`. -/
def validate (cfg : Config) : Except String Unit := do
  cfg.validateLimits
  cfg.validateMethodList
  cfg.validateInterceptorParams
  cfg.validateSocketParams
  cfg.validateMode

end Config
end ZeroDpi
