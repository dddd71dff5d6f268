/-
The stateful packet handler (zerodpi-core/src/handler.rs).

# One critical section per call

`Handler::on_packet` holds the flow's lock while it decides, and on
several paths releases it before it calls `finish` or `signal_outcome`,
which take the lock again. The decision is `onPacketLocked`: it returns
the state at the moment the lock is released and, if one is still owed,
the call that follows (`Deferred`). `onPacket` runs the two back to back;
the interleaved reading lives with the proofs about flow entries.
-/
import ZeroDpi.Methods.Basic

namespace ZeroDpi

/-- The call a released lock is followed by. -/
inductive Deferred where
  | finish (outcome : BypassOutcome)
  | signalOutcome (outcome : BypassOutcome)
  deriving DecidableEq

/-- The effect of the owed call on the state. -/
def Deferred.run : Deferred → FlowState → FlowState
  | .finish o, s => s.finish o
  | .signalOutcome o, s => s.signalOutcome o

/-- What the critical section leaves behind. -/
structure Locked where
  state : FlowState
  pkt : PacketView
  verdict : Verdict
  deferred : Option Deferred := none
  deriving DecidableEq

namespace Handler

/-- The packet goes through with the state as it is. -/
def pass (s : FlowState) (pkt : PacketView) : Locked :=
  { state := s, pkt := pkt, verdict := .accept }

/-- `unexpected`: forward the packet and close the flow, unless an
outcome is already there. -/
def unexpected (s : FlowState) (pkt : PacketView) : Locked :=
  { state :=
      if s.outcome.isNone then
        { s with outcome := some .unexpectedClose, monitor := false }
      else s
    pkt := pkt
    verdict := .accept }

-- ============================================================= outbound

/-- The outbound bare-SYN arm. -/
def onBareSyn (s : FlowState) (pkt : PacketView) : Locked :=
  if pkt.ack ≠ 0 then unexpected s pkt
  else if s.synSeq.isSome && s.synSeq ≠ some pkt.seq then unexpected s pkt
  else pass { s with synSeq := some pkt.seq } pkt

/-- The handler's reaction to the handshake-stage action; `pkt` is the
view the method left. -/
def onHandshakeAction (s : FlowState) (action : MethodAction)
    (pkt : PacketView) : Locked :=
  match action with
  | .emitFakeAndAccept completeImmediately continueWithData =>
      let s := { s with fakeSent := true }
      { state :=
          if continueWithData then { s with waitingForData := true } else s
        pkt := pkt
        verdict := .acceptModified
        deferred :=
          if continueWithData then none
          else if completeImmediately then some (.finish .fakeDataAcked)
          else none }
  | .passThrough => pass { s with waitingForData := true } pkt
  | .completeAndAccept =>
      { pass s pkt with deferred := some (.finish .fakeDataAcked) }
  | .abortAndAccept =>
      { pass s pkt with deferred := some (.finish .unexpectedClose) }

/-- The handler's reaction to the data-stage action. -/
def onDataAction (s : FlowState) (action : MethodAction)
    (pkt : PacketView) : Locked :=
  let modified :=
    { s with firstDataModified := true, waitingForData := false }
  match action with
  | .emitFakeAndAccept completeImmediately continueWithData =>
      if continueWithData then
        { state := { modified with fragmentAllData := true }
          pkt := pkt
          verdict := .acceptModified
          deferred := some (.signalOutcome .fakeDataAcked) }
      else if completeImmediately then
        { state := modified
          pkt := pkt
          verdict := .acceptModified
          deferred := some (.finish .fakeDataAcked) }
      else
        { state := { modified with waitingForFirstDataAck := true }
          pkt := pkt
          verdict := .acceptModified }
  | .completeAndAccept =>
      { pass modified pkt with
        deferred :=
          if s.fragmentAllData then none else some (.finish .fakeDataAcked) }
  | .passThrough => pass s pkt
  | .abortAndAccept =>
      if s.fragmentAllData then
        -- the outcome is already out; just stop tracking
        pass { modified with fragmentAllData := false, monitor := false } pkt
      else
        { pass modified pkt with deferred := some (.finish .unexpectedClose) }

/-- The guard of the data stage: the first data packet of a deferred flow,
and every data packet in fragment-all mode. -/
def inDataStage (s : FlowState) (pkt : PacketView) : Bool :=
  0 < pkt.payloadLen
    && ((s.waitingForData && !s.firstDataModified) || s.fragmentAllData)

/-- The outbound arm after SYN, ACK and data stage. -/
def onOutboundRest (s : FlowState) (pkt : PacketView) : Locked :=
  if s.waitingForFirstDataAck then pass s pkt
  else if s.fragmentAllData then
    pass (if pkt.flags.fin || pkt.flags.rst then { s with monitor := false }
      else s) pkt
  else unexpected s pkt

/-- The checks an outbound bare ACK has to pass before the method sees
it: both sequence numbers known, `seq` and `ack` one past them. -/
def completesHandshake (s : FlowState) (pkt : CapturedPacket) : Bool :=
  match s.synSeq, s.synAckSeq with
  | some synSeq, some synAckSeq =>
      pkt.seq == synSeq + 1 && pkt.ack == synAckSeq + 1
  | _, _ => false

variable {μ : Type} [BypassMethod μ]

/-- The outbound bare-ACK arm. -/
def onBareAck (method : μ) (env : HookEnv) (s : FlowState)
    (pkt : PacketView) : Except Panic Locked :=
  if s.fragmentAllData then .ok (pass s pkt)
  else if s.fakeSent || s.waitingForData then .ok (unexpected s pkt)
  else if !completesHandshake s pkt.toCapturedPacket then
    .ok (unexpected s pkt)
  else do
    let (action, pkt) ←
      BypassMethod.onHandshakeCompleteAck method env s pkt
    return onHandshakeAction s action pkt

/-- The outbound half of `on_packet`. -/
def onOutbound (method : μ) (env : HookEnv) (s : FlowState)
    (pkt : PacketView) : Except Panic Locked :=
  if pkt.isBareSyn then .ok (onBareSyn s pkt)
  else if pkt.isBareAck then onBareAck method env s pkt
  else if inDataStage s pkt then do
    let (action, pkt) ← BypassMethod.onFirstDataPacket method env s pkt
    return onDataAction s action pkt
  else .ok (onOutboundRest s pkt)

-- ============================================================== inbound

/-- The inbound SYN-ACK arm. -/
def onSynAck (s : FlowState) (synSeq : UInt32) (pkt : PacketView) :
    Locked :=
  if pkt.ack ≠ synSeq + 1 then unexpected s pkt
  else if s.synAckSeq.isSome && s.synAckSeq ≠ some pkt.seq then
    unexpected s pkt
  else pass { s with synAckSeq := some pkt.seq } pkt

/-- The inbound bare ACK after a fake was sent. -/
def onPostFakeAck (s : FlowState) (synSeq : UInt32) (pkt : PacketView) :
    Except Panic Locked :=
  match s.synAckSeq with
  | none => .error (.expectFailed "checked above via syn_seq")
  | some synAckSeq =>
      if pkt.seq ≠ synAckSeq + 1 then .ok (unexpected s pkt)
      else if pkt.ack ≠ synSeq + 1 then .ok (unexpected s pkt)
      else if s.waitingForData then .ok (pass s pkt)
      else .ok { pass s pkt with deferred := some (.finish .fakeDataAcked) }

/-- The inbound bare ACK while waiting for the first data packet's
acknowledgment: it completes only when it advances past `synSeq + 1`. -/
def onFirstDataAck (s : FlowState) (synSeq : UInt32) (pkt : PacketView) :
    Except Panic Locked :=
  match s.synAckSeq with
  | none => .error (.expectFailed "checked above via syn_seq")
  | some synAckSeq =>
      if pkt.seq ≠ synAckSeq + 1 then .ok (unexpected s pkt)
      else if 0 < pkt.ack - (synSeq + 1) then
        .ok { pass { s with waitingForFirstDataAck := false } pkt with
              deferred := some (.finish .fakeDataAcked) }
      else .ok (pass s pkt)

/-- The inbound half of `on_packet`. -/
def onInbound (s : FlowState) (pkt : PacketView) : Except Panic Locked :=
  match s.synSeq with
  | none => .ok (unexpected s pkt)
  | some synSeq =>
      if s.fragmentAllData then .ok (pass s pkt)
      else if pkt.isSynAck then .ok (onSynAck s synSeq pkt)
      else if pkt.isBareAck && s.fakeSent then onPostFakeAck s synSeq pkt
      else if s.waitingForFirstDataAck && pkt.isBareAck then
        onFirstDataAck s synSeq pkt
      else .ok (unexpected s pkt)

-- ============================================================ on_packet

/-- The critical section of `on_packet` for a tracked flow. -/
def onPacketLocked (method : μ) (env : HookEnv) (s : FlowState)
    (pkt : PacketView) : Except Panic Locked :=
  if !s.monitor then .ok (pass s pkt)
  else match pkt.direction with
    | .outbound => onOutbound method env s pkt
    | .inbound => onInbound s pkt

/-- The state once the owed call has run. -/
def settled (l : Locked) : FlowState :=
  match l.deferred with
  | none => l.state
  | some d => d.run l.state

/-- What `on_packet` leaves behind once the owed call has run. -/
structure Handled where
  state : FlowState
  pkt : PacketView
  verdict : Verdict
  deriving DecidableEq

/-- `on_packet` on a tracked flow, the owed call included. -/
def onPacket (method : μ) (env : HookEnv) (s : FlowState)
    (pkt : PacketView) : Except Panic Handled := do
  let l ← onPacketLocked method env s pkt
  return { state := settled l, pkt := l.pkt, verdict := l.verdict }

/-- One captured packet as a step of its flow's state. -/
def feed (method : μ) (s : FlowState) (input : HookEnv × CapturedPacket) :
    Except Panic FlowState := do
  return (← onPacket method input.1 s input.2.view).state

/-- A run of captured packets. -/
def feedAll (method : μ) (s : FlowState)
    (inputs : List (HookEnv × CapturedPacket)) : Except Panic FlowState :=
  inputs.foldlM (feed method) s

end Handler
end ZeroDpi
