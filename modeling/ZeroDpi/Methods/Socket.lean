/-
The socket-side methods: `tls_frag`, `ccs_prefix`, `tls_padding`,
`mixed_case_sni`, `sni_boundary_frag`, `tls_record_split`
(zerodpi-core/src/methods/, the first in tcp_segmentation.rs).

They run in the proxy task on the bytes it writes upstream. A writer is
the list of its writes: every one of them is flushed before the next, and
the pauses between them move no bytes. Each method seeds a generator of
its own when it is applied; the seeds are a `SocketEnv`.
-/
import ZeroDpi.Methods.Sni
import ZeroDpi.Config.Validate

namespace ZeroDpi

open Lib

/-- The states the generators of one connection start from. -/
structure SocketEnv where
  paddingRng : UInt64
  mixedCaseRng : UInt64
  fragmentRng : UInt64
  deriving DecidableEq

-- ============================================================= tls_frag

/-- `tls_frag`. -/
structure TcpSegmentation where
  packets : TlsFragPackets
  length : Int32Range
  intervalMs : Int32Range
  nodelay : Bool
  deriving DecidableEq

/-- It expects what the validation has checked; so do the others. -/
def TcpSegmentation.new (cfg : Config) : Except Panic TcpSegmentation :=
  match cfg.parsedTlsFragPackets, cfg.tlsFragLengthRange with
  | .error _, _ => .error (.expectFailed
      "Config::validate should reject invalid TLS_FRAG_PACKETS")
  | .ok _, .error _ => .error (.expectFailed
      "Config::validate should reject invalid TLS_FRAG_LENGTH")
  | .ok packets, .ok length => .ok {
      packets := packets
      length := length
      intervalMs := cfg.tlsFragIntervalMs
      nodelay := cfg.tcpSegNodelay }

/-- `fragments_write`. -/
def TcpSegmentation.fragmentsWrite (t : TcpSegmentation)
    (writeIndex : UInt32) : Bool :=
  t.packets.includesWrite writeIndex

/-- The chunk loop of `write_fragmented` over the bytes left: one draw for
the chunk, and one for the pause when bytes remain. A chunk takes at least
one byte, so the length of the data bounds the turns. -/
def fragmentWrites (length intervalMs : Int32Range) :
    Nat → UInt64 → Bytes → List Bytes
  | _, _, [] => []
  | 0, _, _ => []
  | fuel + 1, rng, data =>
      let (chunkLen, rng) := sampleI32 length rng
      let rest := data.drop chunkLen.toInt.toNat
      if rest.isEmpty then [data]
      else
        let (_, rng) := sampleI32 intervalMs rng
        data.take chunkLen.toInt.toNat
          :: fragmentWrites length intervalMs fuel rng rest

/-- `write_fragmented`. -/
def writeFragmented (data : Bytes) (length intervalMs : Int32Range)
    (rng : UInt64) : Except Panic (List Bytes) :=
  if length.min < 1 then
    .error (.assertFailed "length range must be >= 1")
  else if intervalMs.min < 0 then
    .error (.assertFailed "interval range must be >= 0")
  else .ok (fragmentWrites length intervalMs data.length rng data)

-- =========================================================== ccs_prefix

/-- `ccs_prefix`. -/
structure CcsPrefix where
  recordVersion : UInt8 × UInt8
  deriving DecidableEq

/-- The version of its record. -/
def CcsPrefix.new (cfg : Config) : Except Panic CcsPrefix :=
  match parseRecordVersion cfg.ccsPrefixRecordVersion with
  | .ok version => .ok ⟨version⟩
  | .error _ => .error (.expectFailed
      "Config::validate should reject invalid CCS_PREFIX_RECORD_VERSION")

/-- The dummy ChangeCipherSpec record. -/
def CcsPrefix.record (c : CcsPrefix) : Bytes :=
  [0x14, c.recordVersion.1, c.recordVersion.2, 0x00, 0x01, 0x01]

-- ========================================================== tls_padding

/-- `MAX_TLS_RECORD_BODY` of tls_padding.rs. -/
def maxTlsRecordBody : Nat := 16383

/-- Parsed offsets inside a ClientHello record. -/
structure ClientHelloLayout where
  extLenOff : Nat
  extStart : Nat
  sniOff : Option Nat
  deriving DecidableEq

/-- The extension scan of `parse_client_hello` from `q`: the offset of the
last `server_name` extension, or `none` when the list does not parse. -/
def scanForSni (body : Bytes) :
    Nat → Nat → Option Nat → Option (Option Nat)
  | 0, _, _ => none
  | fuel + 1, q, sniOff =>
      if body.length ≤ q then some sniOff
      else if body.length < q + 4 then none
      else
        let etype := be16 (body.getD q 0) (body.getD (q + 1) 0)
        let elen := be16 (body.getD (q + 2) 0) (body.getD (q + 3) 0)
        if body.length < q + 4 + elen then none
        else scanForSni body fuel (q + 4 + elen)
          (if etype = 0x0000 then some q else sniOff)

/-- `parse_client_hello`. -/
def parseClientHello (record : Bytes) : Option ClientHelloLayout := do
  let byteAt i := record.getD i 0
  if record.length < 9 ∨ byteAt 0 ≠ 0x16 then none
  let recordLen := be16 (byteAt 3) (byteAt 4)
  if record.length ≠ 5 + recordLen then none
  if byteAt 5 ≠ 0x01 then none
  let hsLen := be24 (byteAt 6) (byteAt 7) (byteAt 8)
  if 4 + hsLen ≠ recordLen then none
  let body := record.drop 9
  if body.length < 34 then none
  let p := 34
  if p ≥ body.length then none
  let sidLen := (body.getD p 0).toNat
  let p := p + 1
  if p + sidLen > body.length then none
  let p := p + sidLen
  if p + 2 > body.length then none
  let cipherLen := be16 (body.getD p 0) (body.getD (p + 1) 0)
  let p := p + 2
  if p + cipherLen > body.length then none
  let p := p + cipherLen
  if p ≥ body.length then none
  let compLen := (body.getD p 0).toNat
  let p := p + 1
  if p + compLen > body.length then none
  let p := p + compLen
  if p + 2 > body.length then none
  let extLen := be16 (body.getD p 0) (body.getD (p + 1) 0)
  let p := p + 2
  if p + extLen ≠ body.length then none
  let sniOff ← scanForSni body (body.length + 1) p none
  return {
    extLenOff := 9 + p - 2
    extStart := 9 + p
    sniOff := sniOff.map (· + 9) }

/-- The three big-endian bytes of a number, truncated to 24 bits. -/
def toBe24 (n : Nat) : Bytes :=
  [(n / 65536).toUInt8, (n / 256).toUInt8, n.toUInt8]

/-- `build_padded`. -/
def buildPadded (record : Bytes) (layout : ClientHelloLayout)
    (padLen : Nat) (position : PaddingPosition) : Bytes :=
  let byteAt i := record.getD i 0
  let oldExtLen := be16 (byteAt layout.extLenOff) (byteAt (layout.extLenOff + 1))
  let add := 4 + padLen
  let newHsLen := be24 (byteAt 6) (byteAt 7) (byteAt 8) + add
  let insertAt := match position, layout.sniOff with
    | .before, some sniOff => sniOff
    | _, _ => record.length
  record.take 3 ++ toBe16 (record.length - 5 + add)
    ++ (record.take 6).drop 5 ++ toBe24 newHsLen
    ++ (record.take layout.extLenOff).drop 9 ++ toBe16 (oldExtLen + add)
    ++ (record.take insertAt).drop layout.extStart
    ++ [0x00, 0x15] ++ toBe16 padLen ++ List.replicate padLen 0
    ++ record.drop insertAt

/-- `tls_padding`. -/
structure TlsPadding where
  size : Int32Range
  position : PaddingPosition
  deriving DecidableEq

/-- Its size and place. -/
def TlsPadding.new (cfg : Config) : Except Panic TlsPadding :=
  match PaddingPosition.parse cfg.tlsPaddingPosition with
  | .ok position => .ok { size := cfg.tlsPaddingSize, position := position }
  | .error _ => .error (.expectFailed
      "Config::validate should reject invalid TLS_PADDING_POSITION")

/-- `TlsPadding::apply`: `none` forwards the record unchanged. -/
def TlsPadding.apply (t : TlsPadding) (rng : UInt64) (record : Bytes) :
    Option Bytes := do
  let layout ← parseClientHello record
  let padLen := (sampleI32 t.size rng).1.toInt.toNat
  -- clamp the padded body to the record-layer maximum
  let padLen := min padLen (maxTlsRecordBody - (record.length - 5 + 4))
  if padLen = 0 then none
  return buildPadded record layout padLen t.position

-- ======================================================= mixed_case_sni

/-- `is_ascii_lowercase`. -/
def isAsciiLowercase (b : UInt8) : Bool := 0x61 ≤ b && b ≤ 0x7A

/-- `is_ascii_uppercase`. -/
def isAsciiUppercase (b : UInt8) : Bool := 0x41 ≤ b && b ≤ 0x5A

/-- `is_ascii_alphabetic`. -/
def isAsciiAlphabetic (b : UInt8) : Bool :=
  isAsciiLowercase b || isAsciiUppercase b

/-- `to_ascii_lowercase`. -/
def toAsciiLower (b : UInt8) : UInt8 :=
  if isAsciiUppercase b then b + 0x20 else b

/-- `to_ascii_uppercase`. -/
def toAsciiUpper (b : UInt8) : UInt8 :=
  if isAsciiLowercase b then b - 0x20 else b

/-- `swap_ascii_case`. -/
def swapAsciiCase (b : UInt8) : UInt8 :=
  if isAsciiLowercase b then toAsciiUpper b else toAsciiLower b

/-- The random-case loop over the name: the re-cased bytes and the
generator after it. -/
def randomCase : UInt64 → Bytes → Bytes × UInt64
  | rng, [] => ([], rng)
  | rng, b :: rest =>
      if isAsciiAlphabetic b then
        let (rng, z) := splitmix64 rng
        let (out, rng) := randomCase rng rest
        ((if z &&& 1 = 0 then toAsciiLower b else toAsciiUpper b) :: out, rng)
      else
        let (out, rng) := randomCase rng rest
        (b :: out, rng)

/-- The positions of the ASCII letters of a name. -/
def letterPositions (name : Bytes) : List Nat :=
  (List.range name.length).filter fun i => isAsciiAlphabetic (name.getD i 0)

/-- The name after the random-case pass, with one letter inverted when the
pass changed none; `none` when there is no letter. -/
def randomCaseName (rng : UInt64) (name : Bytes) : Option Bytes :=
  let (out, rng) := randomCase rng name
  let letters := letterPositions name
  if letters.isEmpty then none
  else if out ≠ name then some out
  else
    let pick := (splitmix64 rng).2.toNat % letters.length
    let i := letters.getD pick 0
    some (out.set i (swapAsciiCase (out.getD i 0)))

/-- `mixed_case_sni`. -/
structure MixedCaseSni where
  flipAll : Bool
  deriving DecidableEq

/-- All letters, or some at random. -/
def MixedCaseSni.new (cfg : Config) : MixedCaseSni where
  flipAll := cfg.mixedCaseSniFlipAll

/-- The record with its bytes from `start` on replaced. -/
def spliceAt (record : Bytes) (start : Nat) (bytes : Bytes) : Bytes :=
  record.take start ++ bytes ++ record.drop (start + bytes.length)

/-- `MixedCaseSni::apply`. -/
def MixedCaseSni.apply (t : MixedCaseSni) (rng : UInt64) (record : Bytes) :
    Except Panic (Option Bytes) := do
  match ← findSniRange record with
  | none => return none
  | some (nameStart, nameLen) =>
      let name := (record.drop nameStart).take nameLen
      if t.flipAll then
        return some (spliceAt record nameStart
          (name.map fun b => if isAsciiAlphabetic b then swapAsciiCase b else b))
      else return (randomCaseName rng name).map (spliceAt record nameStart)

-- ======================================== sni_boundary_frag, tls_record_split

/-- The split point both methods resolve against a located SNI. -/
def SniBoundarySplitPoint.resolve (point : SniBoundarySplitPoint)
    (b : SniBoundary) : Nat :=
  match point with
  | .extensionLength => b.extLenFieldEnd
  | .middle => b.nameStart + b.nameLen / 2
  | .index n => b.nameStart + min n.toNat b.nameLen

/-- `sni_boundary_frag`. -/
structure SniBoundaryFrag where
  splitPoint : SniBoundarySplitPoint
  delayMs : Int32Range
  deriving DecidableEq

/-- Where it cuts, and how long it waits. -/
def SniBoundaryFrag.new (cfg : Config) : SniBoundaryFrag where
  splitPoint := cfg.sniBoundaryFragSplitPoint
  delayMs := cfg.sniBoundaryFragDelayMs

/-- `SniBoundaryFrag::split_offset`. -/
def SniBoundaryFrag.splitOffset (t : SniBoundaryFrag) (record : Bytes) :
    Except Panic (Option Nat) := do
  match ← findSniBoundary record with
  | none => return none
  | some boundary =>
      let offset := t.splitPoint.resolve boundary
      return if 0 < offset ∧ offset < record.length then some offset else none

/-- `write_boundary_split`. -/
def writeBoundarySplit (data : Bytes) (split : Nat)
    (delayMs : Int32Range) : Except Panic (List Bytes) :=
  if ¬ (0 < split ∧ split < data.length) then
    .error (.assertFailed "split must produce two non-empty parts")
  else if delayMs.min < 0 then
    .error (.assertFailed "delay range must be >= 0")
  else .ok [data.take split, data.drop split]

/-- `tls_record_split`. -/
structure TlsRecordSplit where
  splitPoint : SniBoundarySplitPoint
  delayMs : Int32Range
  deriving DecidableEq

/-- Where it cuts, and how long it waits. -/
def TlsRecordSplit.new (cfg : Config) : TlsRecordSplit where
  splitPoint := cfg.tlsRecordSplitPoint
  delayMs := cfg.tlsRecordSplitDelayMs

/-- `build_record`. -/
def buildRecord (recordHeader body : Bytes) : Bytes :=
  recordHeader ++ toBe16 body.length ++ body

/-- `TlsRecordSplit::cut_offset`. -/
def TlsRecordSplit.cutOffset (t : TlsRecordSplit) (record : Bytes) :
    Except Panic (Option Nat) :=
  (findSniBoundary record).map fun boundary =>
    boundary.map t.splitPoint.resolve

/-- `TlsRecordSplit::split`. -/
def TlsRecordSplit.split (t : TlsRecordSplit) (data : Bytes) :
    Except Panic (Option (Bytes × Bytes)) := do
  match ← findSniBoundary data with
  | none => return none
  | some boundary =>
      let cut := t.splitPoint.resolve boundary
      let recordLen := be16 (data.getD 3 0) (data.getD 4 0)
      let bodyEnd := 5 + recordLen
      if bodyEnd > data.length ∨ cut ≤ 5 ∨ cut ≥ bodyEnd then return none
      else
        let header := data.take 3
        return some (buildRecord header ((data.take cut).drop 5),
          buildRecord header ((data.take bodyEnd).drop cut)
            ++ data.drop bodyEnd)

/-- `write_record_split`. -/
def writeRecordSplit (first second : Bytes) (delayMs : Int32Range) :
    Except Panic (List Bytes) :=
  if delayMs.min < 0 then .error (.assertFailed "delay range must be >= 0")
  else .ok [first, second]

end ZeroDpi
