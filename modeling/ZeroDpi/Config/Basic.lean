/-
The value types of the configuration file and their parsers
(zerodpi-core/src/config.rs, with the parsers it borrows from
methods/ccs_prefix.rs, methods/seqovl.rs, methods/tls_padding.rs and
dns.rs).

# Text-valued fields

A method name is an enumeration with one extra constructor for a string
that names no method, so the "unknown method" errors stay expressible.
The two fields whose text is handed to the standard library's address
parsers are carried with the parser's answer (`SelectedIp`,
`DnsServerText`); every other text field stays text and is parsed here as
the source parses it. Floating-point limits are carried as `F64`, which
separates exactly what validation tests: finite values by their rational
value, infinities, NaN.
-/
import ZeroDpi.Interceptor
import ZeroDpi.Lib.Text

namespace ZeroDpi

open Lib

-- ======================================================== value types

/-- An inclusive range of 32-bit integers. Every constructor of the
source (`exact`, `parse`, the serde reader on top of them, the default
values) keeps the ends in order. -/
structure Int32Range where
  min : Int32
  max : Int32
  ordered : min ≤ max := by decide
  deriving DecidableEq

/-- The range holding one value. -/
def Int32Range.exact (value : Int32) : Int32Range :=
  ⟨value, value, Int32.le_refl value⟩

/-- `parse_i32`. -/
def parseI32 (value : List Char) : Except String Int32 :=
  match Text.parseInt32 value with
  | some n => .ok n
  | none => .error s!"'{String.ofList value}' is not a valid Int32 value"

/-- `Int32Range::parse`: one value or an inclusive `min-max`. -/
def Int32Range.parse (input : String) : Except String Int32Range := do
  let input := Text.trim input.toList
  if input.isEmpty then throw "range cannot be empty"
  match Text.splitOnce '-' input with
  | some (start, stop) =>
      let min ← parseI32 (Text.trim start)
      let max ← parseI32 (Text.trim stop)
      if h : max < min then
        throw s!"range '{String.ofList input}' has max lower than min"
      else return ⟨min, max, Int32.not_lt.mp h⟩
  | none => return .exact (← parseI32 input)

/-- `validate_at_least`. -/
def Int32Range.validateAtLeast (r : Int32Range) (field : String)
    (minValue : Int32) : Except String Unit :=
  if r.min < minValue then
    .error s!"{field} must be >= {minValue.toInt}"
  else .ok ()

/-- Which client writes `tls_frag` cuts up. -/
inductive TlsFragPackets where
  | tlsHello
  | writeRange (start stop : UInt32)
  deriving DecidableEq

/-- The packet-index reader inside `TlsFragPackets::parse`. -/
def parsePacketIndex (value : List Char) : Except String UInt32 :=
  match Text.parseUnsigned UInt32.size (Text.trim value) with
  | none => .error s!"'{String.ofList value}' is not a valid packet index"
  | some 0 => .error "packet indexes are 1-based and must be >= 1"
  | some n => .ok n.toUInt32

/-- `TlsFragPackets::parse`. -/
def TlsFragPackets.parse (input : String) : Except String TlsFragPackets := do
  let input := Text.trim input.toList
  if Text.toAsciiLowercase input = "tlshello".toList then return .tlsHello
  let (start, stop) ← match Text.splitOnce '-' input with
    | some (start, stop) =>
        pure (← parsePacketIndex start, ← parsePacketIndex stop)
    | none => do
        let index ← parsePacketIndex input
        pure (index, index)
  if stop < start then
    throw s!"packet range '{String.ofList input}' has end lower than start"
  return .writeRange start stop

/-- `includes_write`. -/
def TlsFragPackets.includesWrite : TlsFragPackets → UInt32 → Bool
  | .tlsHello, _ => false
  | .writeRange start stop, writeIndex =>
      start ≤ writeIndex && writeIndex ≤ stop

/-- Where `urg_sni_split` inserts its dummy byte. -/
inductive SniSplitPosition where
  | middle
  | atStart
  | atEnd
  | index (n : UInt16)
  deriving DecidableEq

/-- Where `sni_boundary_frag` and `tls_record_split` cut. -/
inductive SniBoundarySplitPoint where
  | extensionLength
  | middle
  | index (n : UInt16)
  deriving DecidableEq

/-- Where `tls_padding` inserts its extension. -/
inductive PaddingPosition where
  | before
  | after
  deriving DecidableEq

/-- `PaddingPosition::parse`. -/
def PaddingPosition.parse (input : String) : Except String PaddingPosition :=
  let text := Text.toAsciiLowercase (Text.trim input.toList)
  if text = "before".toList then .ok .before
  else if text = "after".toList then .ok .after
  else .error
    s!"'{input}' is not a valid TLS_PADDING_POSITION; valid values: \"before\", \"after\""

/-- `parse_record_version`: two hex bytes, with or without `0x`. -/
def parseRecordVersion (input : String) : Except String (UInt8 × UInt8) :=
  let cleaned := Text.trim input.toList
  let hex := ((Text.stripPrefix "0x".toList cleaned).or
    (Text.stripPrefix "0X".toList cleaned)).getD cleaned
  match hex.map Text.hexDigit? with
  | [some a, some b, some c, some d] =>
      .ok ((16 * a + b).toUInt8, (16 * c + d).toUInt8)
  | _ => .error (s!"'{input}' is not a valid CCS_PREFIX_RECORD_VERSION; "
      ++ "expected two hex bytes such as \"0x0303\"")

/-- The byte pairs of `parse_hex_pattern`. -/
def hexPairs : Bytes → Except String Bytes
  | a :: b :: rest => do
      let hi ← hexDigit a
      let lo ← hexDigit b
      return (16 * hi + lo).toUInt8 :: (← hexPairs rest)
  | _ => .ok []
where
  hexDigit (byte : UInt8) : Except String Nat :=
    match Text.hexDigit? (Char.ofNat byte.toNat) with
    | some n => .ok n
    | none => .error s!"invalid hex digit '{Char.ofNat byte.toNat}'"

/-- `parse_hex_pattern`: an even, non-zero count of hex digits with
optional `0x` and grouping separators. The digits are counted as UTF-8
bytes. -/
def parseHexPattern (input : String) : Except String Bytes :=
  let trimmed := Text.trim input.toList
  let body := ((Text.stripPrefix "0x".toList trimmed).or
    (Text.stripPrefix "0X".toList trimmed)).getD trimmed
  let digits := (body.flatMap String.utf8EncodeChar).filter fun byte =>
    !(byte == 0x3A || byte == 0x2D || byte == 0x5F || byte == 0x20)
  if digits.isEmpty then .error "pattern is empty"
  else if digits.length % 2 ≠ 0 then
    .error s!"pattern has an odd number of hex digits ({digits.length})"
  else hexPairs digits

/-- A double as far as validation tells doubles apart. -/
inductive F64 where
  | finite (value : Rat)
  | infinite (negative : Bool)
  | nan
  deriving DecidableEq

/-- A finite value above zero. -/
def F64.isFinitePositive : F64 → Bool
  | .finite value => 0 < value
  | _ => false

/-- A value in `[0.0, 1.0]`. -/
def F64.inUnitInterval : F64 → Bool
  | .finite value => 0 ≤ value && value ≤ 1
  | _ => false

/-- What parsing a text as an IP address yields. -/
inductive IpText where
  | v4 (addr : Ipv4Addr)
  | v6 (groups : List UInt16)
  | malformed (text : String)
  deriving DecidableEq

/-- An address as it is configured: the text, and what parsing it yields. -/
structure SelectedIp where
  text : String
  parsed : IpText
  deriving DecidableEq

/-- What the DNS-server reader sees in a text: a socket address, a bare
address, nothing, or neither. -/
inductive DnsServerText where
  | endpoint (ip : IpText) (port : UInt16)
  | address (ip : IpText)
  | empty
  | malformed (text : String)
  deriving DecidableEq

/-- `parse_custom_dns_server`. -/
def parseCustomDnsServer : DnsServerText → Except String (IpText × UInt16)
  | .empty => .error "DNS server must not be empty"
  | .endpoint ip port =>
      if port = 0 then .error "DNS server port must be greater than 0"
      else .ok (ip, port)
  | .address ip => .ok (ip, 53)
  | .malformed text => .error
      s!"DNS server '{text}' must be a literal IP address with an optional port"

/-- Firewall used to feed NFQUEUE. -/
inductive LinuxFirewallBackend where
  | iptables
  | nftables
  deriving DecidableEq

/-- `LinuxFirewallBackend::parse`. -/
def LinuxFirewallBackend.parse (value : String) :
    Option LinuxFirewallBackend :=
  if value = "iptables" then some .iptables
  else if value = "nftables" then some .nftables
  else none

-- ===================================================== the method list

/-- A `BYPASS_METHOD` entry: one of the base methods, or a string that
names none of them. -/
inductive MethodName where
  | wrongSeq
  | wrongAck
  | wrongChecksum
  | wrongMd5
  | wrongTimestamp
  | lowTtl
  | tlsRecordFrag
  | tlsRecordSplit
  | fakeTls
  | ipFrag
  | disorder
  | seqovl
  | tlsFrag
  | ccsPrefix
  | tlsPadding
  | mixedCaseSni
  | urgSniSplit
  | sniBoundaryFrag
  | unknown (name : String)
  deriving DecidableEq

/-- The spelling used in the configuration file. -/
def MethodName.text : MethodName → String
  | .wrongSeq => "wrong_seq"
  | .wrongAck => "wrong_ack"
  | .wrongChecksum => "wrong_checksum"
  | .wrongMd5 => "wrong_md5"
  | .wrongTimestamp => "wrong_timestamp"
  | .lowTtl => "low_ttl"
  | .tlsRecordFrag => "tls_record_frag"
  | .tlsRecordSplit => "tls_record_split"
  | .fakeTls => "fake_tls"
  | .ipFrag => "ip_frag"
  | .disorder => "disorder"
  | .seqovl => "seqovl"
  | .tlsFrag => "tls_frag"
  | .ccsPrefix => "ccs_prefix"
  | .tlsPadding => "tls_padding"
  | .mixedCaseSni => "mixed_case_sni"
  | .urgSniSplit => "urg_sni_split"
  | .sniBoundaryFrag => "sni_boundary_frag"
  | .unknown name => name

/-- `BASE_BYPASS_METHODS`. -/
def baseBypassMethods : List MethodName :=
  [.wrongSeq, .wrongAck, .wrongChecksum, .wrongMd5, .wrongTimestamp,
   .lowTtl, .tlsRecordFrag, .tlsRecordSplit, .fakeTls, .ipFrag, .disorder,
   .seqovl, .tlsFrag, .ccsPrefix, .tlsPadding, .mixedCaseSni,
   .urgSniSplit, .sniBoundaryFrag]

/-- The base method a text names, or `unknown`. -/
def MethodName.ofText (name : String) : MethodName :=
  (baseBypassMethods.find? fun m => m.text == name).getD (.unknown name)

/-- `expand_method_alias`. -/
def expandMethodAlias (name : String) : List MethodName :=
  if name = "wrong_seq_wrong_md5" then [.wrongSeq, .wrongMd5]
  else if name = "wrong_seq_tls_frag" then [.wrongSeq, .tlsFrag]
  else if name = "wrong_md5_tls_frag" then [.wrongMd5, .tlsFrag]
  else if name = "wrong_seq_tls_record_frag" then [.wrongSeq, .tlsRecordFrag]
  else [.ofText name]

/-- The methods the proxy applies on its own socket. -/
def MethodName.isSocketSide : MethodName → Bool
  | .tlsFrag | .ccsPrefix | .tlsPadding | .mixedCaseSni
  | .sniBoundaryFrag | .tlsRecordSplit => true
  | _ => false

/-- `BypassMethodList`. -/
abbrev BypassMethodList := List MethodName

/-- `is_socket_only`. -/
def BypassMethodList.isSocketOnly (l : BypassMethodList) : Bool :=
  !l.isEmpty && l.all MethodName.isSocketSide

/-- `requires_interceptor`. -/
def BypassMethodList.requiresInterceptor (l : BypassMethodList) : Bool :=
  l.any fun m => !m.isSocketSide

/-- The `{:?}` rendering of a list of method names. -/
def debugNames (l : List MethodName) : String :=
  "[" ++ ", ".intercalate (l.map fun m => "\"" ++ m.text ++ "\"") ++ "]"

end ZeroDpi
