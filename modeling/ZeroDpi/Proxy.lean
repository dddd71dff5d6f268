/-
What the proxy task writes upstream while a flow is intercepted
(zerodpi-core/src/proxy.rs): `ConnectionSettings` and the `ReadyForData`
branch of `handle_intercept_connection`.

The branch is modelled as the list of flushed writes it makes when the
client and the socket cooperate; its error exits, which finish the flow
and return, write nothing further. What the client sends is a
`ClientInput`: the bytes one `read` returned, and the record that
`read_one_tls_record` assembled.
-/
import ZeroDpi.Methods.Socket

namespace ZeroDpi

open Lib

/-- The per-connection settings the branch reads. -/
structure ConnectionSettings where
  upstreamNodelay : Bool
  segmentFirstClientHello : Bool
  tlsPadding : Option TlsPadding
  ccsPrefix : Option CcsPrefix
  mixedCaseSni : Option MixedCaseSni
  sniBoundaryFrag : Option SniBoundaryFrag
  tlsRecordSplit : Option TlsRecordSplit
  fragmentAllData : Bool
  tcpSegmentation : TcpSegmentation
  deriving DecidableEq

/-- `configured_upstream_nodelay`. -/
def configuredUpstreamNodelay (cfg : Config) : Bool :=
  cfg.tcpNodelay
    || (cfg.bypassMethod.contains .tlsFrag && cfg.tcpSegNodelay)
    || cfg.bypassMethod.contains .sniBoundaryFrag
    || cfg.bypassMethod.contains .tlsRecordSplit
    || cfg.bypassMethod.contains .ccsPrefix

/-- `cond.then(|| value)` with a constructor that may panic. -/
def whenListed {α : Type} (listed : Bool) (build : Except Panic α) :
    Except Panic (Option α) :=
  if listed then build.map some else .ok none

/-- `ConnectionSettings::from_config`. -/
def ConnectionSettings.fromConfig (cfg : Config) :
    Except Panic ConnectionSettings := do
  let list := cfg.bypassMethod
  let tcpSegmentation ← TcpSegmentation.new cfg
  return {
    upstreamNodelay := configuredUpstreamNodelay cfg
    segmentFirstClientHello := list.contains .tlsFrag
    tlsPadding := ← whenListed (list.contains .tlsPadding) (TlsPadding.new cfg)
    ccsPrefix := ← whenListed (list.contains .ccsPrefix) (CcsPrefix.new cfg)
    mixedCaseSni := if list.contains .mixedCaseSni then some (.new cfg) else none
    sniBoundaryFrag :=
      if list.contains .sniBoundaryFrag then some (.new cfg) else none
    tlsRecordSplit :=
      if list.contains .tlsRecordSplit then some (.new cfg) else none
    fragmentAllData :=
      (list.contains .ipFrag && !cfg.ipFragOnlyFirstPacket)
        || (list.contains .disorder && !cfg.disorderOnlyFirstPacket)
    tcpSegmentation := tcpSegmentation }

namespace ConnectionSettings

/-- The padding step of `apply_socket_transforms`. -/
def padRecord (t : ConnectionSettings) (env : SocketEnv) (record : Bytes) :
    Bytes :=
  match t.tlsPadding with
  | none => record
  | some padding => (padding.apply env.paddingRng record).getD record

/-- `apply_socket_transforms`: padding, then re-casing, each falling back
to its input. -/
def applySocketTransforms (t : ConnectionSettings) (env : SocketEnv)
    (record : Bytes) : Except Panic Bytes := do
  let out := t.padRecord env record
  match t.mixedCaseSni with
  | none => return out
  | some mixed => return (← mixed.apply env.mixedCaseRng out).getD out

/-- What the client has sent by the time the branch reads it. -/
structure ClientInput where
  /-- The bytes of one `read`. -/
  firstWrite : Bytes
  /-- The first TLS record. -/
  firstRecord : Bytes
  deriving DecidableEq

/-- The ClientHello writes of the branch, by configuration. -/
def helloWrites (t : ConnectionSettings) (env : SocketEnv)
    (input : ClientInput) : Except Panic (List Bytes) :=
  match t.sniBoundaryFrag, t.tlsRecordSplit with
  | some boundary, _ => do
      let hello ← t.applySocketTransforms env input.firstRecord
      match ← boundary.splitOffset hello with
      | some split => writeBoundarySplit hello split boundary.delayMs
      | none => return [hello]
  | none, some recordSplit => do
      let hello ← t.applySocketTransforms env input.firstRecord
      match ← recordSplit.split hello with
      | some (first, second) =>
          writeRecordSplit first second recordSplit.delayMs
      | none => return [hello]
  | none, none =>
      if t.segmentFirstClientHello then
        let seg := t.tcpSegmentation
        match seg.packets with
        | .tlsHello => do
            let hello ← t.applySocketTransforms env input.firstRecord
            writeFragmented hello seg.length seg.intervalMs env.fragmentRng
        | .writeRange _ _ => do
            let data ← t.applySocketTransforms env input.firstWrite
            if seg.fragmentsWrite 1 then
              writeFragmented data seg.length seg.intervalMs env.fragmentRng
            else return [data]
      else do return [← t.applySocketTransforms env input.firstRecord]

/-- The writes of the `ReadyForData` branch: the ChangeCipherSpec prefix,
when configured, before anything else. -/
def readyForDataWrites (t : ConnectionSettings) (env : SocketEnv)
    (input : ClientInput) : Except Panic (List Bytes) := do
  let hello ← t.helloWrites env input
  return match t.ccsPrefix with
    | some ccs => ccs.record :: hello
    | none => hello

end ConnectionSettings
end ZeroDpi
