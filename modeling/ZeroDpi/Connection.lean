/-
The client-to-server half of a connection task (zerodpi-core/src/proxy.rs,
with `read_one_tls_record` of methods/tcp_segmentation.rs): the socket path
`handle_tcp_seg_connection_with_ip`, the `ReadyForData` branch of
`handle_intercept_connection`, and the relay both hand over to.

A task is a program over a `Conn`: what the client has sent, in the pieces
its reads will return, and the flushed writes made upstream so far. A
program that stops early leaves the writes it made, so the state survives
an error (`EStateM`). The upstream socket accepts every write and the
client answers in time; the other direction, the lifetime limit of the
relay and the events do not touch this state.

Every call of `write_fragmented` seeds a generator of its own, and so do
the pauses of the two split writers. The seeds are a sequence, consumed in
the order the generators are created.
-/
import ZeroDpi.Proxy
import ZeroDpi.Lib.Reads

namespace ZeroDpi

open Lib

/-- Why a task stopped: a panic, or an error with its context, outermost
first. -/
inductive Stop where
  | panic (p : Panic)
  | error (context : List String)
  deriving DecidableEq

/-- The seeds of one connection: those of the first record, and those of
the fragment generators created after the first. -/
structure ConnEnv extends SocketEnv where
  laterRngs : Nat → UInt64

/-- The fragment generators in the order they are created. -/
def ConnEnv.fragmentRngs (env : ConnEnv) : Nat → UInt64
  | 0 => env.fragmentRng
  | i + 1 => env.laterRngs i

/-- Both ends of the connection, as a task that copies the stream sees them.
-/
structure Conn where
  /-- What the client has sent and nobody has read, piece by piece. -/
  arrivals : List Bytes
  /-- The writes made upstream. -/
  written : List Bytes
  /-- The seeds of the generators still to be created. -/
  fragmentRngs : Nat → UInt64

/-- A connection that has just been established. -/
def Conn.established (client : List Bytes) (env : ConnEnv) : Conn where
  arrivals := client
  written := []
  fragmentRngs := env.fragmentRngs

/-- A task over the connection, which may stop with an error or a panic. -/
abbrev ProxyM := EStateM Stop Conn

namespace ProxyM

-- ======================================================== the primitives

/-- A computation that may panic, inside a task. -/
def orPanic {α : Type} (x : Except Panic α) : ProxyM α := fun c =>
  match x with
  | .ok a => .ok a c
  | .error p => .error (.panic p) c

/-- `.context(text)`. -/
def withContext {α : Type} (text : String) (x : ProxyM α) : ProxyM α :=
  fun c =>
    match x c with
    | .ok a c' => .ok a c'
    | .error (.panic p) c' => .error (.panic p) c'
    | .error (.error chain) c' => .error (.error (text :: chain)) c'

/-- `write_all` and `flush` of one buffer after the other. -/
def writeEach (ws : List Bytes) : ProxyM Unit := fun c =>
  .ok () { c with written := c.written ++ ws }

/-- `FragmentRng::new`. -/
def freshFragmentRng : ProxyM UInt64 := fun c =>
  .ok (c.fragmentRngs 0)
    { c with fragmentRngs := fun i => c.fragmentRngs (i + 1) }

/-- `read` into a buffer of `size` bytes; empty at the end of the stream. -/
def read (size : Nat) : ProxyM Bytes := fun c =>
  .ok (readSome size c.arrivals).1
    { c with arrivals := (readSome size c.arrivals).2 }

/-- `read_exact`. -/
def readExact (n : Nat) : ProxyM Bytes := fun c =>
  match readFull n c.arrivals with
  | some (data, arrivals) => .ok data { c with arrivals := arrivals }
  | none => .error (.error ["early eof"]) { c with arrivals := [] }

-- ============================================================= the reads

/-- `MAX_TLS_RECORD_BODY` of tcp_segmentation.rs. -/
def maxReadBody : Nat := 16384

/-- The buffer of the relay and of `read_one_client_write`. -/
def relayBuffer : Nat := 65536

/-- `read_one_tls_record`. -/
def readOneTlsRecord : ProxyM Bytes := do
  let header ← withContext "reading TLS record header" (readExact 5)
  let bodyLen := be16 (header.getD 3 0) (header.getD 4 0)
  if maxReadBody < bodyLen then
    throw (.error
      [s!"TLS record body length {bodyLen} exceeds maximum {maxReadBody}"])
  else
    let body ← withContext "reading TLS record body" (readExact bodyLen)
    return header ++ body

/-- `read_one_client_write`. -/
def readOneClientWrite : ProxyM Bytes := do
  let data ← read relayBuffer
  if data.isEmpty then throw (.error ["client closed before sending data"])
  else return data

-- =========================================================== the writers

/-- `write_fragmented` on the connection. -/
def writeFragments (seg : TcpSegmentation) (data : Bytes) : ProxyM Unit := do
  let rng ← freshFragmentRng
  writeEach (← orPanic (writeFragmented data seg.length seg.intervalMs rng))

/-- `write_client_data`. -/
def writeClientData (data : Bytes) (seg : TcpSegmentation)
    (writeIndex : UInt32) : ProxyM Unit :=
  if seg.fragmentsWrite writeIndex then writeFragments seg data
  else writeEach [data]

/-- `write_ccs_prefix`, where the method is listed. -/
def writeCcsPrefix (ccs : Option CcsPrefix) : ProxyM Unit :=
  match ccs with
  | some ccs => writeEach [ccs.record]
  | none => return

/-- The `sni_boundary_frag` arm: two parts, or the record whole when there
is no boundary. -/
def writeBoundary (boundary : SniBoundaryFrag) (hello : Bytes) :
    ProxyM Unit := do
  match ← orPanic (boundary.splitOffset hello) with
  | some split =>
      let _ ← freshFragmentRng
      writeEach (← orPanic (writeBoundarySplit hello split boundary.delayMs))
  | none => writeEach [hello]

/-- The `tls_record_split` arm: two records, or the record whole. -/
def writeSplitRecords (recordSplit : TlsRecordSplit) (hello : Bytes) :
    ProxyM Unit := do
  match ← orPanic (recordSplit.split hello) with
  | some (first, second) =>
      let _ ← freshFragmentRng
      writeEach (← orPanic (writeRecordSplit first second recordSplit.delayMs))
  | none => writeEach [hello]

-- ============================================================= the relay

/-- The counters of the copy loop. -/
structure Copied where
  total : Nat
  writeIndex : UInt32
  deriving DecidableEq

/-- `saturating_add(1)`. -/
def saturatingSucc (i : UInt32) : UInt32 :=
  if i = 0xFFFFFFFF then i else i + 1

/-- The write of one turn of the relay. -/
def relayWrite (segmentation : Option TcpSegmentation) (data : Bytes)
    (writeIndex : UInt32) : ProxyM Unit :=
  match segmentation with
  | some seg => writeClientData data seg writeIndex
  | none => writeEach [data]

/-- The loop of `copy_counting_client_to_server`. A turn that does not end
it takes at least one byte off the stream. -/
def copyLoop (segmentation : Option TcpSegmentation) :
    Nat → Copied → ProxyM Copied
  | 0, done => return done
  | fuel + 1, done => do
      let data ← read relayBuffer
      if data.isEmpty then return done
      else
        let writeIndex := saturatingSucc done.writeIndex
        relayWrite segmentation data writeIndex
        copyLoop segmentation fuel
          { total := done.total + data.length, writeIndex := writeIndex }

/-- `copy_counting_client_to_server`. -/
def copyCountingClientToServer
    (clientFragmentation : Option (TcpSegmentation × UInt32)) :
    ProxyM Copied := fun c =>
  copyLoop (clientFragmentation.map (·.1)) (c.arrivals.flatten.length + 1)
    { total := 0, writeIndex := (clientFragmentation.map (·.2)).getD 0 } c

end ProxyM

-- ======================================================= the socket path

open ProxyM

/-- The padding step of the socket path. -/
def socketPadding (cfg : Config) (env : SocketEnv) (record : Bytes) :
    Except Panic Bytes :=
  if cfg.bypassMethod.contains .tlsPadding then do
    let padding ← TlsPadding.new cfg
    return (padding.apply env.paddingRng record).getD record
  else return record

/-- The re-casing step of the socket path. -/
def socketMixedCase (cfg : Config) (env : SocketEnv) (record : Bytes) :
    Except Panic Bytes :=
  if cfg.bypassMethod.contains .mixedCaseSni then do
    let recased ← (MixedCaseSni.new cfg).apply env.mixedCaseRng record
    return recased.getD record
  else return record

/-- The transforms of the socket path, each falling back to its input. -/
def socketTransforms (cfg : Config) (env : SocketEnv) (record : Bytes) :
    Except Panic Bytes :=
  socketPadding cfg env record >>= socketMixedCase cfg env

/-- The transformed first record, when a transform is listed. -/
def readTransformedPrefix (cfg : Config) (env : SocketEnv) :
    ProxyM (Option Bytes) :=
  if cfg.bypassMethod.contains .tlsPadding
      || cfg.bypassMethod.contains .mixedCaseSni then do
    let record ← withContext
      "socket transforms: reading ClientHello from client" readOneTlsRecord
    return some (← orPanic (socketTransforms cfg env record))
  else return none

/-- The first record, when a method needs it: at most one is read. -/
def readFirstRecord (needed : Bool) (transformed : Option Bytes) :
    ProxyM (Option Bytes) :=
  match needed, transformed with
  | true, none => do
      let record ← withContext
        "socket path: reading ClientHello from client" readOneTlsRecord
      return some record
  | _, transformed => return transformed

/-- Writes the first record, if one was read, and says what the relay does
with the later client writes. -/
def writeFirstRecord (cfg : Config) (method : TcpSegmentation)
    (firstRecord : Option Bytes) :
    ProxyM (Option (TcpSegmentation × UInt32)) :=
  let list := cfg.bypassMethod
  let segmentTlshello := list.contains .tlsFrag && method.packets == .tlsHello
  let later (writeIndex : UInt32) :=
    if list.contains .tlsFrag then some (method, writeIndex) else none
  if list.contains .tlsRecordSplit && firstRecord.isSome then do
    writeSplitRecords (.new cfg) (firstRecord.getD [])
    return later 1
  else match list.contains .sniBoundaryFrag, firstRecord with
    | true, some record => do
        writeBoundary (.new cfg) record
        return later 1
    | true, none => throw (.panic (.assertFailed
        "boundary method implies a first record"))
    | false, some record =>
        if segmentTlshello then do
          writeFragments method record
          return none
        else do
          writeEach [record]
          return later 0
    | false, none => return later 0

/-- What the socket path does before it relays. -/
def tcpSegPrefix (cfg : Config) (env : SocketEnv) :
    ProxyM (Option (TcpSegmentation × UInt32)) := do
  let list := cfg.bypassMethod
  let method ← orPanic (TcpSegmentation.new cfg)
  writeCcsPrefix
    (← orPanic (whenListed (list.contains .ccsPrefix) (CcsPrefix.new cfg)))
  let transformed ← readTransformedPrefix cfg env
  let needed := list.contains .sniBoundaryFrag
    || list.contains .tlsRecordSplit
    || (list.contains .tlsFrag && method.packets == .tlsHello)
  let firstRecord ← readFirstRecord needed transformed
  writeFirstRecord cfg method firstRecord

/-- `handle_tcp_seg_connection_with_ip`. -/
def handleTcpSegConnectionWithIp (cfg : Config) (env : SocketEnv) :
    ProxyM Copied := do
  copyCountingClientToServer (← tcpSegPrefix cfg env)

-- ==================================================== the intercept path

namespace ConnectionSettings

/-- The `ReadyForData` branch of `handle_intercept_connection`, up to the
`client_fragmentation_after_prefix` it hands to the relay. -/
def readyForData (t : ConnectionSettings) (env : SocketEnv) :
    ProxyM (Option (TcpSegmentation × UInt32)) := do
  let seg := t.tcpSegmentation
  let readHello : ProxyM Bytes := do
    let record ← withContext "reading ClientHello from client"
      readOneTlsRecord
    orPanic (t.applySocketTransforms env record)
  writeCcsPrefix t.ccsPrefix
  match t.sniBoundaryFrag, t.tlsRecordSplit with
  | some boundary, _ => do
      writeBoundary boundary (← readHello)
      return if t.segmentFirstClientHello then some (seg, 1) else none
  | none, some recordSplit => do
      writeSplitRecords recordSplit (← readHello)
      return if t.segmentFirstClientHello then some (seg, 1) else none
  | none, none =>
      if t.segmentFirstClientHello then
        match seg.packets with
        | .tlsHello => do
            writeFragments seg (← readHello)
            return none
        | .writeRange _ _ => do
            let data ← withContext "reading client data from client"
              readOneClientWrite
            let data ← orPanic (t.applySocketTransforms env data)
            writeClientData data seg 1
            return some (seg, 1)
      else do
        writeEach [← readHello]
        return none

end ConnectionSettings

/-- `handle_intercept_connection` from `ReadyForData` on, the bypass
completing. -/
def handleInterceptReadyForData (t : ConnectionSettings) (env : SocketEnv) :
    ProxyM Copied := do
  copyCountingClientToServer (← t.readyForData env)

end ZeroDpi
