/-
Where parsing and rebuilding a packet index out of range.

The header slices are where the parser found headers, so they are inside
the buffer. The payload slice ends at the IPv4 total length, which nothing
compares with the buffer; and where a packet is rebuilt around its own
payload it also begins behind the headers, which nothing compares with
the total length. Only the captured length of the payload is saturated,
so a packet whose total length ends inside its headers parses, and is
rebuilt when a chain takes it for the ACK of the handshake and stages no
payload of its own.
-/
import ZeroDpi.Proofs.Backends
import ZeroDpi.Lib.Vectors
import ZeroDpi.Proofs.Feedback

namespace ZeroDpi

open Lib Handler

/-- What the parsers guarantee: the header is there, and it is read from
its own bytes. -/
structure Etherparse.HeadersPresent (E : Etherparse) : Prop where
  ipv4 : ∀ {b h}, E.ipv4FromSlice b = some h → h.headerLen ≤ b.length
    ∧ E.ipv4FromSlice (b.take h.headerLen) = some h
  tcp : ∀ {b h}, E.tcpFromSlice b = some h → h.headerLen ≤ b.length
    ∧ E.tcpFromSlice (b.take h.headerLen) = some h

/-- The buffer parses as TCP over IPv4, with these headers. -/
structure Reads (E : Etherparse) (buf : Bytes) (ip : Ipv4Header)
    (tcp : TcpHeader) : Prop where
  ipv4 : E.ipv4FromSlice buf = some ip
  protocol : ip.protocol = Linux.ipNumberTcp
  tcp : E.tcpFromSlice (buf.drop ip.headerLen) = some tcp

/-- The flags of a bare ACK. -/
def TcpFlags.bareAck (flags : TcpFlags) : Bool :=
  flags.ack && !flags.syn && !flags.rst && !flags.fin

/-- A view that a chain leaves staged for a packet, and the view of the
decoy beside it. -/
inductive Rebuilt (pkt : CapturedPacket) : PacketView → Prop where
  | shaped {cfg : Config} {freshSeed : MethodName → UInt64}
      {m : CompositeMethod Member} {fakeData : Bytes} {ttl : Option UInt8}
      {inputs : List (HookEnv × CapturedPacket)} {s : FlowState}
      {env : HookEnv} {r : Handled} (hcfg : cfg.validate = .ok ())
      (hm : buildMethod cfg freshSeed = some m)
      (hs : feedAll m (.new fakeData ttl) inputs = .ok s)
      (hr : onPacket m env s pkt.view = .ok r)
      (hmod : r.verdict = .acceptModified) : Rebuilt pkt r.pkt
  | decoy {view : PacketView} {decoy : DecoyPacket} (h : Rebuilt pkt view)
      (hdecoy : view.decoy = some decoy) :
      Rebuilt pkt (view.decoyView decoy)

/-- Both backends parse the buffer without a panic, and rebuild it without
one for whatever a chain stages. -/
structure NeverPanics (E : Etherparse) (direction : Direction)
    (buf : Bytes) : Prop where
  behindIp : ∀ ip, E.ipv4FromSlice buf = some ip →
    (slice? buf ip.headerLen buf.length).isSome
  headers : ∀ ip tcp, Reads E buf ip tcp →
    (slice? buf 0 ip.headerLen).isSome
      ∧ (slice? buf ip.headerLen (ip.headerLen + tcp.headerLen)).isSome
      ∧ (slice? buf (ip.headerLen + 20)
          (ip.headerLen + tcp.headerLen)).isSome
  parse : ∃ parsed, Linux.parseView E direction buf = .ok parsed
    ∧ Windows.parseView E direction buf = .ok parsed
  build : ∀ pkt layout view,
    Linux.parseView E direction buf = .ok (some (pkt, layout)) →
    Rebuilt pkt view →
    (∃ b, Linux.buildModified E buf layout view = .ok b)
      ∧ ∃ b, Windows.buildModified E buf layout view = .ok b

variable {E : Etherparse} {direction : Direction} {buf : Bytes}
  {ip : Ipv4Header} {tcp : TcpHeader}

-- ============================================================ parse_view

/-- The slices of the headers are inside the buffer. -/
theorem Reads.present (hP : E.HeadersPresent) (h : Reads E buf ip tcp) :
    ip.headerLen + tcp.headerLen ≤ buf.length := by
  have hip := (hP.ipv4 h.ipv4).1
  have htcp := (hP.tcp h.tcp).1
  rw [List.length_drop] at htcp
  omega

/-- A total length behind the buffer is a panic. -/
theorem Reads.parseView_panics (hP : E.HeadersPresent)
    (h : Reads E buf ip tcp) (hlong : buf.length < ip.totalLen.toNat)
    (direction : Direction) :
    Linux.parseView E direction buf = .error .indexOutOfBounds := by
  have hpresent := h.present hP
  simp only [Linux.parseView, h.ipv4, h.protocol, h.tcp]
  rw [if_neg (fun hne => hne rfl), slice?, if_neg (by omega)]

/-- What does not read as TCP over IPv4 is an error. -/
theorem parseView_unread (h : ∀ ip tcp, ¬ Reads E buf ip tcp)
    (direction : Direction) :
    Linux.parseView E direction buf = .ok none := by
  unfold Linux.parseView
  cases hip : E.ipv4FromSlice buf with
  | none => rfl
  | some ip =>
      by_cases hprotocol : ip.protocol = Linux.ipNumberTcp
      · cases htcp : E.tcpFromSlice (buf.drop ip.headerLen) with
        | none => simp [hprotocol, htcp]
        | some tcp => exact absurd ⟨hip, hprotocol, htcp⟩ (h ip tcp)
      · simp [hprotocol]

/-- Any other reads as a packet. -/
theorem Reads.parseView_eq (hP : E.HeadersPresent)
    (h : Reads E buf ip tcp) (hin : ip.totalLen.toNat ≤ buf.length)
    (direction : Direction) :
    ∃ pkt, Linux.parseView E direction buf = .ok (some (pkt,
        ⟨ip.headerLen, tcp.headerLen, ip.headerLen + tcp.headerLen,
          ip.totalLen.toNat⟩))
      ∧ pkt.direction = direction ∧ pkt.flags = tcp.flags
      ∧ pkt.payloadLen
        = ip.totalLen.toNat - (ip.headerLen + tcp.headerLen) := by
  have hpresent := h.present hP
  simp only [Linux.parseView, h.ipv4, h.protocol, h.tcp]
  rw [if_neg (fun hne => hne rfl), slice?, if_pos (by omega)]
  refine ⟨_, rfl, rfl, rfl, ?_⟩
  simp only [CapturedPacket.payloadLen, List.length_take, List.length_drop]
  omega

-- ======================================================== build_modified

/-- Only outbound packets are modified: ACKs of a handshake and data. -/
theorem modified_outbound {m : CompositeMethod Member} {env : HookEnv}
    {s : FlowState} {pkt : CapturedPacket} {r : Handled}
    (hr : onPacket m env s pkt.view = .ok r)
    (hmod : r.verdict = .acceptModified) :
    pkt.direction = .outbound
      ∧ (pkt.isBareAck = true ∨ 0 < pkt.payloadLen) := by
  obtain ⟨l, hl, hr⟩ := bind_eq_ok.mp hr
  cases hr
  cases locked_cases hl with
  | handshake hack _ => exact ⟨hack.outbound, .inl hack.bareAck⟩
  | data hdata _ => exact ⟨hdata.outbound, .inr hdata.payload⟩
  | _ => cases hmod

theorem Rebuilt.outbound {pkt : CapturedPacket} {view : PacketView}
    (h : Rebuilt pkt view) :
    pkt.direction = .outbound
      ∧ (pkt.isBareAck = true ∨ 0 < pkt.payloadLen) := by
  induction h with
  | shaped _ _ _ hr hmod => exact modified_outbound hr hmod
  | decoy _ _ ih => exact ih

/-- A payload slice that is in range is the last chance to panic. -/
theorem buildModified_returns {layout : Linux.PacketLayout}
    (hlo : layout.payloadOff ≤ layout.totalLen)
    (hhi : layout.totalLen ≤ buf.length) (view : PacketView) :
    (∃ b, Linux.buildModified E buf layout view = .ok b)
      ∧ ∃ b, Windows.buildModified E buf layout view = .ok b := by
  obtain ⟨payload, hpayload⟩ := slice?_of_le hlo hhi
  unfold Linux.buildModified Windows.buildModified
  rw [hpayload]
  constructor
  · split
    · cases view.newPayload with
      | none => exact ⟨_, rfl⟩
      | some fake => exact ⟨_, rfl⟩
    · exact ⟨_, rfl⟩
  · split
    · cases view.newPayload with
      | none => exact ⟨_, rfl⟩
      | some fake => exact ⟨_, rfl⟩
    · exact ⟨_, rfl⟩

/-- The flow of a handshake that this ACK completes. -/
def awaitingAck (pkt : CapturedPacket) : FlowState :=
  { FlowState.new [] none with
    synSeq := some (pkt.seq - 1), synAckSeq := some (pkt.ack - 1) }

/-- Every ACK may complete a handshake. -/
theorem awaitingAck_reached (pkt : CapturedPacket) :
    ∃ inputs, feedAll (disorderAlone true) (.new [] none) inputs
      = .ok (awaitingAck pkt) := by
  have hseq : pkt.seq = pkt.seq - 1 + 1 := by grind
  let syn := samplePacket .outbound (pkt.seq - 1) 0 { syn := true } []
  let synAck := samplePacket .inbound (pkt.ack - 1) pkt.seq
    { syn := true, ack := true } []
  let asked : FlowState :=
    { FlowState.new [] none with synSeq := some (pkt.seq - 1) }
  have hsyn : feed (disorderAlone true) (.new [] none) (sampleEnv, syn)
      = .ok asked := rfl
  have hlocked : onPacketLocked (disorderAlone true) sampleEnv asked
      synAck.view = .ok (pass (awaitingAck pkt) synAck.view) := by
    show Except.ok (onSynAck asked (pkt.seq - 1) synAck.view) = _
    rw [onSynAck, if_neg (fun hne => hne hseq)]
    rfl
  refine ⟨[(sampleEnv, syn), (sampleEnv, synAck)], ?_⟩
  refine bind_eq_ok.mpr ⟨asked, hsyn, bind_eq_ok.mpr ⟨_, ?_, rfl⟩⟩
  exact bind_eq_ok.mpr ⟨_, onPacket_of_locked hlocked, rfl⟩

/-- `["disorder"]` stages nothing on the ACK of a handshake and has it
rebuilt all the same. -/
theorem rebuilt_ack {pkt : CapturedPacket}
    (hdir : pkt.direction = .outbound) (hack : pkt.isBareAck = true) :
    ∃ view, Rebuilt pkt view ∧ view.newPayload = none := by
  have hbare := (CapturedPacket.not_syn_of_isBareAck hack).1
  obtain ⟨inputs, hs⟩ := awaitingAck_reached pkt
  have hcompletes : completesHandshake (awaitingAck pkt) pkt = true := by
    have hseq : pkt.seq = pkt.seq - 1 + 1 := by grind
    have hacknum : pkt.ack = pkt.ack - 1 + 1 := by grind
    simp [completesHandshake, awaitingAck]
  have hbareAck : onBareAck (disorderAlone true) sampleEnv
      (awaitingAck pkt) pkt.view
      = .ok (onHandshakeAction (awaitingAck pkt) .emitAndWaitForData
        { pkt.view with newFlags := none, bumpIpv4Ident := false }) := by
    have hall : (awaitingAck pkt).fragmentAllData = false := rfl
    have hfresh : ((awaitingAck pkt).fakeSent
        || (awaitingAck pkt).waitingForData) = false := rfl
    rw [onBareAck, hall, hfresh,
      show completesHandshake (awaitingAck pkt) pkt.view.toCapturedPacket
        = true from hcompletes]
    rfl
  have hlocked : onPacketLocked (disorderAlone true) sampleEnv
      (awaitingAck pkt) pkt.view
      = .ok (onHandshakeAction (awaitingAck pkt) .emitAndWaitForData
        { pkt.view with newFlags := none, bumpIpv4Ident := false }) := by
    have hmonitor : (awaitingAck pkt).monitor = true := rfl
    rw [onPacketLocked, hmonitor,
      show pkt.view.direction = .outbound from hdir, ← hbareAck]
    show onOutbound _ _ _ _ = _
    rw [onOutbound, show pkt.view.isBareSyn = false from hbare,
      show pkt.view.isBareAck = true from hack]
    rfl
  have hvalid : (disorderConfig true).validate = .ok () := rfl
  have hbuilt : buildMethod (disorderConfig true) (fun _ => 0)
      = some (disorderAlone true) := rfl
  exact ⟨_, .shaped hvalid hbuilt hs (onPacket_of_locked hlocked) rfl, rfl⟩

/-- A packet whose total length ends inside its headers cannot be rebuilt
around its own payload. -/
theorem Reads.buildModified_panics (hP : E.HeadersPresent)
    (h : Reads E buf ip tcp)
    (hshort : ip.totalLen.toNat < ip.headerLen + tcp.headerLen)
    {view : PacketView} (hown : view.newPayload = none) :
    Linux.buildModified E buf ⟨ip.headerLen, tcp.headerLen,
      ip.headerLen + tcp.headerLen, ip.totalLen.toNat⟩ view
      = .error .indexOutOfBounds := by
  simp only [Linux.buildModified, (hP.ipv4 h.ipv4).2, (hP.tcp h.tcp).2,
    hown]
  rw [slice?, if_neg (by omega)]
  rfl

-- ================================================================== both

/-- Parsing and rebuilding a buffer never panics exactly if the total
length of a TCP packet is inside the buffer and, for an ACK that a
handshake may end with, behind the headers. -/
theorem packets_never_panic_iff (hP : E.HeadersPresent)
    (direction : Direction) (buf : Bytes) :
    NeverPanics E direction buf ↔
      ∀ ip tcp, Reads E buf ip tcp →
        ip.totalLen.toNat ≤ buf.length
          ∧ (direction = .outbound → tcp.flags.bareAck = true →
            ip.headerLen + tcp.headerLen ≤ ip.totalLen.toNat) := by
  constructor
  · intro hnever ip tcp hreads
    have hin : ip.totalLen.toNat ≤ buf.length := by
      by_cases hlong : buf.length < ip.totalLen.toNat
      · obtain ⟨parsed, hparsed, -⟩ := hnever.parse
        rw [hreads.parseView_panics hP hlong] at hparsed
        cases hparsed
      · exact Nat.le_of_not_lt hlong
    refine ⟨hin, fun hout hflags => ?_⟩
    by_cases hshort : ip.totalLen.toNat < ip.headerLen + tcp.headerLen
    · obtain ⟨pkt, hparse, hdir, hpflags, hlen⟩ :=
        hreads.parseView_eq hP hin direction
      have hack : pkt.isBareAck = true := by
        rw [CapturedPacket.isBareAck, hpflags, hlen,
          Nat.sub_eq_zero_of_le (Nat.le_of_lt hshort)]
        simpa [TcpFlags.bareAck] using hflags
      obtain ⟨view, hview, hown⟩ := rebuilt_ack (hdir.trans hout) hack
      obtain ⟨⟨b, hb⟩, -⟩ := hnever.build pkt _ view hparse hview
      rw [hreads.buildModified_panics hP hshort hown] at hb
      cases hb
    · exact Nat.le_of_not_lt hshort
  · intro hlens
    refine ⟨?_, ?_, ?_, ?_⟩
    · intro ip hip
      obtain ⟨b, hb⟩ := slice?_of_le (hP.ipv4 hip).1 (Nat.le_refl _)
      simp [hb]
    · intro ip tcp hreads
      have hpresent := hreads.present hP
      have hmin : 20 ≤ tcp.headerLen := Nat.le_add_right 20 _
      obtain ⟨b, hb⟩ := slice?_of_le (l := buf)
        (Nat.zero_le ip.headerLen) (by omega)
      obtain ⟨b', hb'⟩ := slice?_of_le
        (Nat.le_add_right ip.headerLen tcp.headerLen) hpresent
      obtain ⟨b'', hb''⟩ := slice?_of_le (l := buf)
        (Nat.add_le_add_left hmin ip.headerLen) hpresent
      simp [hb, hb', hb'']
    · by_cases hread : ∃ ip tcp, Reads E buf ip tcp
      · obtain ⟨ip, tcp, hreads⟩ := hread
        obtain ⟨pkt, hparse, -⟩ :=
          hreads.parseView_eq hP (hlens ip tcp hreads).1 direction
        exact ⟨_, hparse, hparse⟩
      · have hparse := parseView_unread
          (fun ip tcp hreads => hread ⟨ip, tcp, hreads⟩) direction
        exact ⟨_, hparse, hparse⟩
    · intro pkt layout view hparse hview
      by_cases hread : ∃ ip tcp, Reads E buf ip tcp
      · obtain ⟨ip, tcp, hreads⟩ := hread
        obtain ⟨hin, hack⟩ := hlens ip tcp hreads
        obtain ⟨pkt', hparse', hdir, hflags, hlen⟩ :=
          hreads.parseView_eq hP hin direction
        rw [hparse'] at hparse
        cases hparse
        obtain ⟨hout, hshape⟩ := hview.outbound
        refine buildModified_returns ?_ hin view
        show ip.headerLen + tcp.headerLen ≤ ip.totalLen.toNat
        rcases hshape with hbare | hdata
        · refine hack (hdir ▸ hout) ?_
          rw [CapturedPacket.isBareAck, hflags, Bool.and_eq_true] at hbare
          exact hbare.1
        · omega
      · rw [parseView_unread
          (fun ip tcp hreads => hread ⟨ip, tcp, hreads⟩)] at hparse
        cases hparse

-- ============================================================= samples

theorem take_options {b : Bytes} {n : Nat} :
    ((b.take n).drop 20).take (n - 20) = (b.drop 20).take (n - 20) := by
  rw [List.drop_take, List.take_take, Nat.min_self]

/-- A header codec that reads no further than the headers. -/
theorem Wire.etherparse_headersPresent :
    Wire.etherparse.HeadersPresent where
  ipv4 := by
    intro b h hb
    obtain ⟨-, hihl, hpresent, -⟩ := ipv4FromSlice_spec hb
    have hmin : 20 ≤ h.headerLen := Nat.le_add_right 20 _
    have hget : ∀ j, j < 20 →
        (b.take h.headerLen).getD j 0 = b.getD j 0 :=
      fun j hj => getD_take (by omega)
    have hsource : be32At (b.take h.headerLen) 12 = be32At b 12 :=
      be32At_take (by omega)
    have hdestination : be32At (b.take h.headerLen) 16 = be32At b 16 :=
      be32At_take (by omega)
    refine ⟨hpresent, Eq.trans ?_ hb⟩
    show ipv4FromSlice _ = ipv4FromSlice b
    simp (disch := decide) only [ipv4FromSlice, hget, hsource, hdestination,
      List.length_take, Nat.min_eq_left hpresent, ← hihl, take_options]
    simp only [hpresent, Nat.le_refl]
  tcp := by
    intro b h hb
    obtain ⟨-, hoff, hpresent, -⟩ := tcpFromSlice_spec hb
    have hmin : 20 ≤ h.headerLen := Nat.le_add_right 20 _
    have hget : ∀ j, j < 20 →
        (b.take h.headerLen).getD j 0 = b.getD j 0 :=
      fun j hj => getD_take (by omega)
    have hsequence : be32At (b.take h.headerLen) 4 = be32At b 4 :=
      be32At_take (by omega)
    have hack : be32At (b.take h.headerLen) 8 = be32At b 8 :=
      be32At_take (by omega)
    refine ⟨hpresent, Eq.trans ?_ hb⟩
    show tcpFromSlice _ = tcpFromSlice b
    simp (disch := decide) only [tcpFromSlice, hget, hsequence, hack,
      List.length_take, Nat.min_eq_left hpresent, ← hoff, take_options]
    simp only [hpresent, Nat.le_refl]

/-- The sample ACK with another total length. -/
def sampleAckOf (totalLen : Nat) : Bytes :=
  overwrite sampleAckBytes 2 (toBe16 totalLen)

/-- With its own total length it never panics, as an ACK that completes a
handshake or any other. -/
theorem sample_never_panics :
    NeverPanics Wire.etherparse .outbound (sampleAckOf 40) := by
  refine (packets_never_panic_iff Wire.etherparse_headersPresent .outbound
    (sampleAckOf 40)).mpr ?_
  have hip : (Wire.etherparse.ipv4FromSlice (sampleAckOf 40)).map
      (fun ip => (ip.headerLen, ip.totalLen.toNat)) = some (20, 40) := rfl
  have htcp : (Wire.etherparse.tcpFromSlice
      ((sampleAckOf 40).drop 20)).map TcpHeader.headerLen = some 20 := rfl
  intro ip tcp hreads
  rw [hreads.ipv4, Option.map_some, Option.some.injEq, Prod.mk.injEq] at hip
  have hread := hreads.tcp
  rw [hip.1] at hread
  rw [hread, Option.map_some, Option.some.injEq] at htcp
  rw [hip.1, hip.2, htcp]
  exact ⟨Nat.le_refl 40, fun _ _ => Nat.le_refl 40⟩

/-- A total length behind the buffer panics when the packet is parsed, one
inside the headers when it is rebuilt. -/
theorem sample_panics :
    Linux.parseView Wire.etherparse .outbound (sampleAckOf 41)
        = .error .indexOutOfBounds
      ∧ (∃ m s r, buildMethod (disorderConfig true) (fun _ => 0) = some m
        ∧ feedAll m (.new [] none) sampleOpening = .ok s
        ∧ Linux.parseView Wire.etherparse .outbound (sampleAckOf 39)
          = .ok (some (sampleAck, ⟨20, 20, 40, 39⟩))
        ∧ onPacket m sampleEnv s sampleAck.view = .ok r
        ∧ r.verdict = .acceptModified
        ∧ Linux.buildModified Wire.etherparse (sampleAckOf 39)
          ⟨20, 20, 40, 39⟩ r.pkt = .error .indexOutOfBounds)
      ∧ ¬ NeverPanics Wire.etherparse .outbound (sampleAckOf 41)
      ∧ ¬ NeverPanics Wire.etherparse .outbound (sampleAckOf 39) := by
  refine ⟨rfl, ⟨_, _, _, rfl, rfl, rfl, rfl, rfl, rfl⟩, ?_, ?_⟩
  · intro hnever
    obtain ⟨parsed, hparsed, -⟩ := hnever.parse
    cases hparsed
  · intro hnever
    obtain ⟨view, hview, hown⟩ :=
      rebuilt_ack (show sampleAck.direction = .outbound from rfl) rfl
    obtain ⟨⟨b, hb⟩, -⟩ :=
      hnever.build sampleAck ⟨20, 20, 40, 39⟩ view rfl hview
    unfold Linux.buildModified at hb
    rw [hown] at hb
    cases hb

end ZeroDpi
