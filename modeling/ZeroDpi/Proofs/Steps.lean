/-
What one critical section of `on_packet` can do.

`LockedCase` lists the ways a packet can leave the lock, each with the
guards that led there; `locked_cases` says the list is complete. Every
invariant of the handler is proved from it, so that none of them opens
`onPacketLocked` again. `locked_ok` is the other half: the section panics
only through a method hook or through a missing sequence number.
-/
import ZeroDpi.Handler
import ZeroDpi.Lib.Run

namespace ZeroDpi.Handler

open Lib

variable {μ : Type} [BypassMethod μ]

/-- An outbound bare ACK that `on_packet` hands to the method. -/
structure HandshakeAck (s : FlowState) (pkt : CapturedPacket) : Prop where
  monitored : s.monitor = true
  outbound : pkt.direction = .outbound
  bareAck : pkt.isBareAck = true
  notAll : s.fragmentAllData = false
  noFake : s.fakeSent = false
  notWaiting : s.waitingForData = false
  matchesSyn : completesHandshake s pkt = true

/-- An outbound data packet that `on_packet` hands to the method. -/
structure DataPacket (s : FlowState) (pkt : CapturedPacket) : Prop where
  monitored : s.monitor = true
  outbound : pkt.direction = .outbound
  payload : 0 < pkt.payloadLen
  staged : (s.waitingForData = true ∧ s.firstDataModified = false)
    ∨ s.fragmentAllData = true

instance (s : FlowState) (pkt : CapturedPacket) :
    Decidable (HandshakeAck s pkt) :=
  decidable_of_iff
    (s.monitor = true ∧ pkt.direction = .outbound ∧ pkt.isBareAck = true
      ∧ s.fragmentAllData = false ∧ s.fakeSent = false
      ∧ s.waitingForData = false ∧ completesHandshake s pkt = true)
    ⟨fun ⟨a, b, c, d, e, f, g⟩ => ⟨a, b, c, d, e, f, g⟩,
     fun ⟨a, b, c, d, e, f, g⟩ => ⟨a, b, c, d, e, f, g⟩⟩

instance (s : FlowState) (pkt : CapturedPacket) :
    Decidable (DataPacket s pkt) :=
  decidable_of_iff
    (s.monitor = true ∧ pkt.direction = .outbound ∧ 0 < pkt.payloadLen
      ∧ ((s.waitingForData = true ∧ s.firstDataModified = false)
        ∨ s.fragmentAllData = true))
    ⟨fun ⟨a, b, c, d⟩ => ⟨a, b, c, d⟩, fun ⟨a, b, c, d⟩ => ⟨a, b, c, d⟩⟩

/-- The ways a packet leaves the critical section. -/
inductive LockedCase (method : μ) (env : HookEnv) (s : FlowState)
    (pkt : PacketView) : Locked → Prop where
  | passed : LockedCase method env s pkt (pass s pkt)
  | closed (hmon : s.monitor = true) :
      LockedCase method env s pkt (unexpected s pkt)
  | syn (hmon : s.monitor = true)
      (hseq : s.synSeq = none ∨ s.synSeq = some pkt.seq) :
      LockedCase method env s pkt
        (pass { s with synSeq := some pkt.seq } pkt)
  | synAck (hmon : s.monitor = true) (hsyn : s.synSeq.isSome = true)
      (hseq : s.synAckSeq = none ∨ s.synAckSeq = some pkt.seq) :
      LockedCase method env s pkt
        (pass { s with synAckSeq := some pkt.seq } pkt)
  | handshake {action : MethodAction} {v : PacketView}
      (hack : HandshakeAck s pkt.toCapturedPacket)
      (hhook : BypassMethod.onHandshakeCompleteAck method env s pkt
        = .ok (action, v)) :
      LockedCase method env s pkt (onHandshakeAction s action v)
  | data {action : MethodAction} {v : PacketView}
      (hdata : DataPacket s pkt.toCapturedPacket)
      (hhook : BypassMethod.onFirstDataPacket method env s pkt
        = .ok (action, v)) :
      LockedCase method env s pkt (onDataAction s action v)
  | fragmentAllClose (hmon : s.monitor = true)
      (hall : s.fragmentAllData = true) :
      LockedCase method env s pkt (pass { s with monitor := false } pkt)
  | postFakeAck (hmon : s.monitor = true) (hfake : s.fakeSent = true)
      (hall : s.fragmentAllData = false) (hwait : s.waitingForData = false) :
      LockedCase method env s pkt
        { pass s pkt with deferred := some (.finish .fakeDataAcked) }
  | firstDataAck (hmon : s.monitor = true)
      (hwait : s.waitingForFirstDataAck = true)
      (hfake : s.fakeSent = false) (hall : s.fragmentAllData = false) :
      LockedCase method env s pkt
        { pass { s with waitingForFirstDataAck := false } pkt with
          deferred := some (.finish .fakeDataAcked) }

-- ======================================================== arm by arm

theorem onBareSyn_case (method : μ) (env : HookEnv) {s : FlowState}
    (hmon : s.monitor = true) (pkt : PacketView) :
    LockedCase method env s pkt (onBareSyn s pkt) := by
  unfold onBareSyn
  split
  · exact .closed hmon
  · split
    · exact .closed hmon
    case isFalse hseq =>
      refine .syn hmon ?_
      cases hs : s.synSeq with
      | none => exact .inl rfl
      | some prev => simpa [hs] using hseq

theorem onSynAck_case (method : μ) (env : HookEnv) {s : FlowState}
    (hmon : s.monitor = true) {synSeq : UInt32}
    (hsyn : s.synSeq = some synSeq) (pkt : PacketView) :
    LockedCase method env s pkt (onSynAck s synSeq pkt) := by
  unfold onSynAck
  split
  · exact .closed hmon
  · split
    · exact .closed hmon
    case isFalse hseq =>
      refine .synAck hmon (by rw [hsyn]; rfl) ?_
      cases hs : s.synAckSeq with
      | none => exact .inl rfl
      | some prev => simpa [hs] using hseq

theorem onOutboundRest_case (method : μ) (env : HookEnv) {s : FlowState}
    (hmon : s.monitor = true) (pkt : PacketView) :
    LockedCase method env s pkt (onOutboundRest s pkt) := by
  unfold onOutboundRest
  split
  · exact .passed
  · split
    case isTrue hall =>
      split
      · exact .fragmentAllClose hmon hall
      · exact .passed
    · exact .closed hmon

theorem onBareAck_case {method : μ} {env : HookEnv} {s : FlowState}
    (hmon : s.monitor = true) {pkt : PacketView}
    (hout : pkt.direction = .outbound) (hack : pkt.isBareAck = true)
    {l : Locked} (h : onBareAck method env s pkt = .ok l) :
    LockedCase method env s pkt l := by
  unfold onBareAck at h
  split at h
  · cases h
    exact .passed
  case isFalse hall =>
    split at h
    · cases h
      exact .closed hmon
    case isFalse hsent =>
      split at h
      · cases h
        exact .closed hmon
      case isFalse hmatch =>
        obtain ⟨⟨action, v⟩, hhook, hl⟩ := bind_eq_ok.mp h
        cases hl
        refine .handshake ⟨hmon, hout, hack, ?_, ?_, ?_, ?_⟩ hhook
        all_goals simp_all

theorem onOutbound_case {method : μ} {env : HookEnv} {s : FlowState}
    (hmon : s.monitor = true) {pkt : PacketView}
    (hout : pkt.direction = .outbound) {l : Locked}
    (h : onOutbound method env s pkt = .ok l) :
    LockedCase method env s pkt l := by
  unfold onOutbound at h
  split at h
  · cases h
    exact onBareSyn_case method env hmon pkt
  · split at h
    case isTrue hack => exact onBareAck_case hmon hout hack h
    · split at h
      case isTrue hstage =>
        obtain ⟨⟨action, v⟩, hhook, hl⟩ := bind_eq_ok.mp h
        cases hl
        simp only [inDataStage, Bool.and_eq_true, Bool.or_eq_true,
          decide_eq_true_eq, Bool.not_eq_true'] at hstage
        exact .data ⟨hmon, hout, hstage.1, hstage.2⟩ hhook
      · cases h
        exact onOutboundRest_case method env hmon pkt

theorem onPostFakeAck_case {method : μ} {env : HookEnv} {s : FlowState}
    (hmon : s.monitor = true) (hfake : s.fakeSent = true)
    (hall : s.fragmentAllData = false) {synSeq : UInt32} {pkt : PacketView}
    {l : Locked} (h : onPostFakeAck s synSeq pkt = .ok l) :
    LockedCase method env s pkt l := by
  unfold onPostFakeAck at h
  split at h
  · cases h
  · split at h
    · cases h
      exact .closed hmon
    · split at h
      · cases h
        exact .closed hmon
      · split at h
        · cases h
          exact .passed
        case isFalse hwait =>
          cases h
          exact .postFakeAck hmon hfake hall (by simpa using hwait)

theorem onFirstDataAck_case {method : μ} {env : HookEnv} {s : FlowState}
    (hmon : s.monitor = true) (hwait : s.waitingForFirstDataAck = true)
    (hfake : s.fakeSent = false) (hall : s.fragmentAllData = false)
    {synSeq : UInt32} {pkt : PacketView} {l : Locked}
    (h : onFirstDataAck s synSeq pkt = .ok l) :
    LockedCase method env s pkt l := by
  unfold onFirstDataAck at h
  split at h
  · cases h
  · split at h
    · cases h
      exact .closed hmon
    · split at h
      · cases h
        exact .firstDataAck hmon hwait hfake hall
      · cases h
        exact .passed

theorem onInbound_case {method : μ} {env : HookEnv} {s : FlowState}
    (hmon : s.monitor = true) {pkt : PacketView} {l : Locked}
    (h : onInbound s pkt = .ok l) : LockedCase method env s pkt l := by
  unfold onInbound at h
  split at h
  · cases h
    exact .closed hmon
  case h_2 synSeq hsyn =>
    split at h
    · cases h
      exact .passed
    case isFalse hall =>
      have hall : s.fragmentAllData = false := by simpa using hall
      split at h
      · cases h
        exact onSynAck_case method env hmon hsyn pkt
      · split at h
        case isTrue hfake =>
          simp only [Bool.and_eq_true] at hfake
          exact onPostFakeAck_case hmon hfake.2 hall h
        case isFalse hnofake =>
          split at h
          case isTrue hwait =>
            simp only [Bool.and_eq_true] at hwait
            have hfake : s.fakeSent = false := by simp_all
            exact onFirstDataAck_case hmon hwait.1 hfake hall h
          · cases h
            exact .closed hmon

-- ======================================================= the inversion

/-- The list of cases is complete. -/
theorem locked_cases {method : μ} {env : HookEnv} {s : FlowState}
    {pkt : PacketView} {l : Locked}
    (h : onPacketLocked method env s pkt = .ok l) :
    LockedCase method env s pkt l := by
  unfold onPacketLocked at h
  split at h
  · cases h
    exact .passed
  case isFalse hmon =>
    have hmon : s.monitor = true := by simpa using hmon
    split at h
    case h_1 hout => exact onOutbound_case hmon hout h
    · exact onInbound_case hmon h

/-- An unmonitored flow is left alone. -/
theorem locked_of_unmonitored (method : μ) (env : HookEnv) {s : FlowState}
    (hmon : s.monitor = false) (pkt : PacketView) :
    onPacketLocked method env s pkt = .ok (pass s pkt) := by
  simp [onPacketLocked, hmon]

-- ==================================================== and back again

/-- An ACK that completes the handshake goes through the method. -/
theorem locked_of_handshakeAck {method : μ} {env : HookEnv}
    {s : FlowState} {pkt : CapturedPacket} (h : HandshakeAck s pkt)
    {action : MethodAction} {v : PacketView}
    (hhook : BypassMethod.onHandshakeCompleteAck method env s pkt.view
      = .ok (action, v)) :
    onPacketLocked method env s pkt.view
      = .ok (onHandshakeAction s action v) := by
  have hsyn := (CapturedPacket.not_syn_of_isBareAck h.bareAck).1
  simp only [onPacketLocked, h.monitored, Bool.not_true, Bool.false_eq_true,
    if_false, CapturedPacket.view_toCapturedPacket, h.outbound, onOutbound,
    hsyn, h.bareAck, if_true, onBareAck, h.notAll, h.noFake, h.notWaiting,
    Bool.or_self, h.matchesSyn, hhook]
  rfl

/-- A packet of the data stage goes through the method. -/
theorem locked_of_dataPacket {method : μ} {env : HookEnv}
    {s : FlowState} {pkt : CapturedPacket} (h : DataPacket s pkt)
    {action : MethodAction} {v : PacketView}
    (hhook : BypassMethod.onFirstDataPacket method env s pkt.view
      = .ok (action, v)) :
    onPacketLocked method env s pkt.view
      = .ok (onDataAction s action v) := by
  obtain ⟨hack, hsyn, -⟩ := CapturedPacket.not_bare_of_payload h.payload
  have hstage : inDataStage s pkt.view = true := by
    have hpos : 0 < pkt.view.payloadLen := h.payload
    simp only [inDataStage, hpos, decide_true, Bool.true_and,
      Bool.or_eq_true, Bool.and_eq_true, Bool.not_eq_true']
    exact h.staged
  simp only [onPacketLocked, h.monitored, Bool.not_true, Bool.false_eq_true,
    if_false, CapturedPacket.view_toCapturedPacket, h.outbound, onOutbound,
    hsyn, hack, hstage, if_true, hhook]
  rfl

/-- `on_packet` is its critical section and the owed call. -/
theorem onPacket_of_locked {method : μ} {env : HookEnv} {s : FlowState}
    {pkt : PacketView} {l : Locked}
    (h : onPacketLocked method env s pkt = .ok l) :
    onPacket method env s pkt
      = .ok { state := settled l, pkt := l.pkt, verdict := l.verdict } :=
  bind_eq_ok.mpr ⟨l, h, rfl⟩

-- ================================================== a sample connection

/-- A packet of the sample connection; client `10.0.0.1:40000`, server
`1.1.1.1:443`. -/
def samplePacket (direction : Direction) (seq ack : UInt32)
    (flags : TcpFlags) (payload : Bytes) : CapturedPacket :=
  let client : Ipv4Addr × UInt16 := (0x0A000001, 40000)
  let server : Ipv4Addr × UInt16 := (0x01010101, 443)
  let (src, dst) := match direction with
    | .outbound => (client, server)
    | .inbound => (server, client)
  { direction := direction
    srcIp := src.1, srcPort := src.2, dstIp := dst.1, dstPort := dst.2
    seq := seq, ack := ack, flags := flags, payload := payload
    tcpOptions := [] }

/-- What the hooks of the sample connection read: TTL 5 and a fixed
generator state. -/
def sampleEnv : HookEnv := { ttl := 5, rngState := 0 }

/-- SYN and SYN-ACK of the sample connection. -/
def sampleOpening : List (HookEnv × CapturedPacket) :=
  [(sampleEnv, samplePacket .outbound 100 0 { syn := true } []),
   (sampleEnv, samplePacket .inbound 500 101 { syn := true, ack := true } [])]

/-- The ACK that completes the sample handshake. -/
def sampleAck : CapturedPacket :=
  samplePacket .outbound 101 501 { ack := true } []

/-- The first data packet of the sample connection. -/
def sampleData (payload : Bytes) : CapturedPacket :=
  samplePacket .outbound 101 501 { ack := true, psh := true } payload

/-- A bare ACK from the server. -/
def sampleServerAck (ack : UInt32) : CapturedPacket :=
  samplePacket .inbound 501 ack { ack := true } []

/-- Handshake and first data packet. -/
def sampleRun (payload : Bytes) : List (HookEnv × CapturedPacket) :=
  sampleOpening
    ++ [(sampleEnv, sampleAck), (sampleEnv, sampleData payload)]

end ZeroDpi.Handler
