/-
The bytes that go out in place of the first data packet.

The data stage leaves one of two kinds of view. Where `fake_tls` is not
alone, every member leaves the sequence number to the captured packet
(`InPlace`): the packet is rebuilt where it was, whole or cut up. Where
`fake_tls` is alone, the packet becomes the decoy behind the receive
window (`Decoyed`), and the captured packet goes out behind it when it is
forwarded at all. Either way the emission covers the range the captured
packet had, so the later packets of the flow, which nobody renumbers,
still fit.
-/
import ZeroDpi.Proofs.Emission
import ZeroDpi.Proofs.DataStage
import ZeroDpi.Proofs.RecordFrag
import ZeroDpi.Platform.Codec

namespace ZeroDpi

open Lib Handler

-- ================================================ the view of the stage

/-- `fake_tls` is the only data-stage method of the list. -/
def BypassMethodList.fakeTlsAlone (l : BypassMethodList) : Bool :=
  l.contains .fakeTls && !l.chainedFakeTls

variable {cfg : Config} {freshSeed : MethodName → UInt64}
  {m : CompositeMethod Member}

/-- A view that leaves the packet at its own sequence number. -/
structure InPlace (cfg : Config) (pkt : CapturedPacket) (v : PacketView) :
    Prop where
  captured : v.toCapturedPacket = pkt
  seq : v.newSeq = none
  original : v.emitOriginalAfter = false
  reframed : ∀ out, v.newPayload = some out →
    .tlsRecordFrag ∈ cfg.bypassMethod
      ∧ fragmentPayload pkt.payload cfg.tlsRecordFragSize = .ok (some out)
  segmented : v.disorderSpec.isSome = true →
    .disorder ∈ cfg.bypassMethod ∨ .seqovl ∈ cfg.bypassMethod

/-- A view that has become the decoy of `fake_tls`. -/
structure Decoyed (cfg : Config) (s : FlowState) (synSeq : UInt32)
    (v : PacketView) : Prop where
  seq : v.newSeq = some (seqBehindWindow synSeq
    s.fakeData.length.toUInt32 cfg.fakeTlsExtraOffset)
  payload : v.newPayload = some s.fakeData
  original : v.emitOriginalAfter = cfg.fakeTlsForwardReal
  whole : v.ipFragPayloadSize = none
  unsegmented : v.disorderSpec = none

/-- A fresh view is in place. -/
theorem inPlace_view (cfg : Config) (pkt : CapturedPacket) :
    InPlace cfg pkt pkt.view where
  captured := rfl
  seq := rfl
  original := rfl
  reframed := nofun
  segmented := nofun

/-- A shaper's request leaves the view in place. -/
theorem InPlace.stageSegments {pkt : CapturedPacket} {v : PacketView}
    (h : InPlace cfg pkt v) (spec : DisorderSpec)
    (hlist : .disorder ∈ cfg.bypassMethod ∨ .seqovl ∈ cfg.bypassMethod) :
    InPlace cfg pkt (v.stageSegments spec) := by
  unfold PacketView.stageSegments
  split
  · exact { h with segmented := fun _ => hlist }
  · exact h

/-- Where `fake_tls` is chained or absent, every member keeps the view in
place. -/
theorem dataMember_inPlace {n : MethodName} (hn : n ∈ cfg.bypassMethod)
    (hchained : n = .fakeTls → cfg.bypassMethod.chainedFakeTls = true)
    {x : Member} (hx : dataMember cfg freshSeed n = some x)
    {env : HookEnv} {s : FlowState} {pkt : CapturedPacket}
    {v w : PacketView} {a : MethodAction} (h : InPlace cfg pkt v)
    (hhook : BypassMethod.onFirstDataPacket x env s v = .ok (a, w)) :
    InPlace cfg pkt w := by
  cases n with
  | tlsRecordFrag =>
      cases hx
      obtain ⟨out, hout, hw⟩ := bind_eq_ok.mp hhook
      cases out with
      | none =>
          cases hw
          exact h
      | some out =>
          cases hw
          refine { h with reframed := ?_ }
          intro out' hout'
          cases hout'
          rw [h.captured] at hout
          exact ⟨hn, hout⟩
  | fakeTls =>
      cases hx
      have hf : (FakeTls.new cfg cfg.bypassMethod.chainedFakeTls).chained
          = true := hchained rfl
      have hhook : FakeTls.onFirstDataPacket _ env s v = _ := hhook
      unfold FakeTls.onFirstDataPacket at hhook
      split at hhook
      · cases hhook
        exact h
      · split at hhook
        · cases hhook
        · cases hhook
          exact { h with }
  | ipFrag =>
      cases hx
      cases hhook
      show InPlace cfg pkt (if _ then _ else _)
      split
      · exact { h with }
      · exact h
  | disorder =>
      cases hx
      cases hhook
      exact h.stageSegments _ (.inl hn)
  | seqovl =>
      cases hx
      cases hhook
      exact h.stageSegments _ (.inr hn)
  | _ => cases hx

/-- Alone, `fake_tls` turns any unshaped view into its decoy. -/
theorem fakeTls_decoyed {env : HookEnv} {s : FlowState} {synSeq : UInt32}
    (hsyn : s.synSeq = some synSeq) {v w : PacketView} {a : MethodAction}
    (hwhole : v.ipFragPayloadSize = none) (hunseg : v.disorderSpec = none)
    (hhook : BypassMethod.onFirstDataPacket
      (Member.fakeTls (.new cfg false)) env s v = .ok (a, w)) :
    Decoyed cfg s synSeq w := by
  have hhook : (FakeTls.new cfg false).onFirstDataPacket env s v
      = .ok (a, w) := hhook
  simp only [FakeTls.onFirstDataPacket, hsyn] at hhook
  cases hhook
  exact {
    seq := rfl
    payload := rfl
    original := rfl
    whole := hwhole
    unsegmented := hunseg }

/-- Beside `fake_tls` alone there is no other data member. -/
theorem BuiltFrom.dataMethods_alone (hb : BuiltFrom cfg freshSeed m)
    (h : cfg.bypassMethod.fakeTlsAlone = true) :
    ∀ x ∈ m.dataMethods, x = .fakeTls (.new cfg false) := by
  simp only [BypassMethodList.fakeTlsAlone, Bool.and_eq_true,
    Bool.not_eq_true'] at h
  obtain ⟨hfake, hnot⟩ := h
  intro x hx
  rw [hb.dataMethods] at hx
  obtain ⟨n, hn, hnx⟩ := List.mem_filterMap.mp hx
  by_cases hname : n = .fakeTls
  · subst hname
    cases hnx
    rw [hnot]
  · rw [dataMember_of_unchained (List.contains_iff_mem.mp hfake) hnot
      freshSeed hn hname] at hnx
    cases hnx

/-- The view the data stage leaves of a fresh one. -/
theorem BuiltFrom.dataLoop_view (hb : BuiltFrom cfg freshSeed m)
    {env : HookEnv} {s : FlowState} {synSeq : UInt32}
    (hsyn : s.synSeq = some synSeq) {pkt : CapturedPacket}
    {acc : CompositeMethod.DataAcc} {action : MethodAction}
    {v : PacketView} (hne : m.dataMethods ≠ [])
    (h : CompositeMethod.dataLoop env s m.dataMethods acc pkt.view
      = .ok (action, v)) :
    (cfg.bypassMethod.fakeTlsAlone = true ∧ Decoyed cfg s synSeq v)
      ∨ InPlace cfg pkt v := by
  cases halone : cfg.bypassMethod.fakeTlsAlone with
  | true =>
      refine .inl ⟨rfl, ?_⟩
      have hall := hb.dataMethods_alone halone
      obtain ⟨x, rest, hms⟩ := List.exists_cons_of_ne_nil hne
      rw [hms] at hall h
      obtain ⟨a, w, hhook, hend⟩ := CompositeMethod.dataLoop_cons h
      -- the first member stages the decoy, any other one stages it again
      have hw : Decoyed cfg s synSeq w := by
        rw [hall x List.mem_cons_self] at hhook
        exact fakeTls_decoyed hsyn rfl rfl hhook
      rcases hend with rfl | ⟨acc', hrest⟩
      · exact hw
      · refine CompositeMethod.dataLoop_invariant
          (fun y hy pkt' v' a' hp hy' => ?_) hrest hw
        rw [hall y (List.mem_cons_of_mem x hy)] at hy'
        exact fakeTls_decoyed hsyn hp.whole hp.unsegmented hy'
  | false =>
      refine .inr (CompositeMethod.dataLoop_invariant
        (fun x hx pkt' v' a' hp hhook => ?_) h (inPlace_view cfg pkt))
      rw [hb.dataMethods] at hx
      obtain ⟨n, hn, hnx⟩ := List.mem_filterMap.mp hx
      refine dataMember_inPlace hn ?_ hnx hp hhook
      intro heq
      subst heq
      simpa [BypassMethodList.fakeTlsAlone, hn] using halone

/-- A packet with payload that goes out modified went through the data
stage. -/
theorem dataLoop_of_modified {env : HookEnv} {s : FlowState}
    {pkt : CapturedPacket} {r : Handled} (hpos : 0 < pkt.payloadLen)
    (hr : onPacket m env s pkt.view = .ok r)
    (hmod : r.verdict = .acceptModified) :
    DataPacket s pkt ∧ m.dataMethods ≠ [] ∧ ∃ action,
      CompositeMethod.dataLoop env s m.dataMethods {} pkt.view
        = .ok (action, r.pkt) := by
  obtain ⟨l, hl, hr⟩ := bind_eq_ok.mp hr
  cases hr
  have hmod : l.verdict = .acceptModified := hmod
  cases locked_cases hl with
  | handshake hack _ =>
      -- a bare ACK carries no payload
      have hbare := (CapturedPacket.not_bare_of_payload hpos).1
      have hack := hack.bareAck
      rw [CapturedPacket.view_toCapturedPacket, hbare] at hack
      cases hack
  | @data action v hdata hhook =>
      have hhook : m.onFirstDataPacket env s pkt.view = .ok (action, v) :=
        hhook
      unfold CompositeMethod.onFirstDataPacket at hhook
      split at hhook
      · cases hhook
        cases hmod
      case isFalse hne =>
        refine ⟨hdata, by simpa using hne, action, ?_⟩
        rw [hhook, onDataAction_pkt]
  | _ => cases hmod

-- ========================================================== the emission

/-- What a modified packet is replaced by: itself, if the rebuild fails,
or the shaped rebuild with the staged sequence number and payload. -/
theorem Linux.emit_modified {E : Etherparse} (hE : E.Lawful) {buf : Bytes}
    {pkt : CapturedPacket} {layout : PacketLayout}
    (hparsed : Parsed E buf pkt layout) (decoyIo io : RawIo) {r : Handled}
    (hmod : r.verdict = .acceptModified) :
    ∃ emission, emit E decoyIo io buf layout r = .ok emission
      ∧ (emission.inPlace = [.packet buf]
        ∨ ∃ b ihl tcpLen, IsPacket b ihl tcpLen
            ⟨r.pkt.newSeq.getD pkt.seq, r.pkt.newPayload.getD pkt.payload⟩
          ∧ emission.inPlace = emitShaped io buf r.pkt b) := by
  have hdecoys : ∃ decoys, emitDecoys E decoyIo buf layout r.pkt
      = .ok decoys := by
    unfold emitDecoys
    cases r.pkt.decoy with
    | none => exact ⟨_, rfl⟩
    | some decoy =>
        obtain ⟨built, hbuilt, -⟩ :=
          buildModified_spec hE hparsed (r.pkt.decoyView decoy)
        cases built with
        | none => exact ⟨_, bind_eq_ok.mpr ⟨_, hbuilt, rfl⟩⟩
        | some bytes => exact ⟨_, bind_eq_ok.mpr ⟨_, hbuilt, rfl⟩⟩
  obtain ⟨decoys, hdecoys⟩ := hdecoys
  obtain ⟨built, hbuilt, hspec⟩ := buildModified_spec hE hparsed r.pkt
  simp only [emit, hmod]
  cases built with
  | none =>
      exact ⟨_, bind_eq_ok.mpr ⟨_, hdecoys,
        bind_eq_ok.mpr ⟨_, hbuilt, rfl⟩⟩, .inl rfl⟩
  | some b =>
      obtain ⟨ihl, tcpLen, hb⟩ := hspec b rfl
      exact ⟨_, bind_eq_ok.mpr ⟨_, hdecoys,
        bind_eq_ok.mpr ⟨_, hbuilt, rfl⟩⟩, .inr ⟨b, ihl, tcpLen, hb, rfl⟩⟩

/-- The decoy's whole range lies at or below `syn_seq + 1`. -/
theorem behind_of_seqBehindWindow (synSeq extraOffset : UInt32)
    {payload : Bytes}
    (h : payload.length + extraOffset.toNat < 0x80000000) :
    Segment.Behind (synSeq + 1)
      ⟨seqBehindWindow synSeq payload.length.toUInt32 extraOffset,
        payload⟩ := by
  have hdist : synSeq + 1
      - seqBehindWindow synSeq payload.length.toUInt32 extraOffset
      = payload.length.toUInt32 + extraOffset := by
    simp only [seqBehindWindow]
    grind
  have hlen : payload.length.toUInt32.toNat = payload.length :=
    Nat.mod_eq_of_lt (by omega)
  have hnat : (payload.length.toUInt32 + extraOffset).toNat
      = payload.length + extraOffset.toNat := by
    rw [UInt32.toNat_add, hlen]
    exact Nat.mod_eq_of_lt (by omega)
  simp only [Segment.Behind, hdist, hnat]
  omega

/-- What survives of an emission is the range of the captured packet. -/
def Covers (synSeq : UInt32) (pkt : CapturedPacket)
    (emission : Linux.Emission) : Prop :=
  CoversExactly (synSeq + 1) pkt.seq pkt.payloadLen
    (emission.inPlace.filterMap receive)

/-- Every byte of the packet, or of its re-framing by `tls_record_frag`,
is in its place in a segment of the emission. -/
def CarriesReal (cfg : Config) (pkt : CapturedPacket)
    (emission : Linux.Emission) : Prop :=
  ∃ real, (real = pkt.payload ∨ (.tlsRecordFrag ∈ cfg.bypassMethod
      ∧ fragmentPayload pkt.payload cfg.tlsRecordFragSize
        = .ok (some real)))
    ∧ Carries pkt.seq real (emission.inPlace.filterMap receive)

section

variable {E : Etherparse} {buf : Bytes} {pkt : CapturedPacket}
  {layout : Linux.PacketLayout} {io : Linux.RawIo} {view : PacketView}
  {emission : Linux.Emission} {synSeq : UInt32}

/-- The captured packet covers its own range. -/
theorem covers_original (hE : E.Lawful)
    (hparsed : Linux.Parsed E buf pkt layout) (hpos : 0 < pkt.payloadLen)
    (hmark : (pkt.seq - (synSeq + 1)).toNat + pkt.payloadLen < 0x80000000)
    (hin : emission.inPlace = [.packet buf]) :
    Covers synSeq pkt emission ∧ CarriesReal cfg pkt emission := by
  have htiles := Tiles.single (q := ⟨pkt.seq, pkt.payload⟩)
    (List.length_pos_iff.mp hpos)
  simp only [Covers, CarriesReal, hin, List.filterMap_cons,
    hparsed.receive_eq hE, List.filterMap_nil]
  exact ⟨htiles.coversExactly hmark, pkt.payload, .inl rfl, htiles.carries⟩

/-- A packet rebuilt in place covers it, if re-framing kept the length. -/
theorem covers_inPlace {b : Bytes} {ihl tcpLen : Nat}
    (hview : InPlace cfg pkt view)
    (hpacket : IsPacket b ihl tcpLen
      ⟨view.newSeq.getD pkt.seq, view.newPayload.getD pkt.payload⟩)
    (hpos : 0 < pkt.payloadLen)
    (hmark : (pkt.seq - (synSeq + 1)).toNat + pkt.payloadLen < 0x80000000)
    (hframe : .tlsRecordFrag ∈ cfg.bypassMethod → ∀ out,
      fragmentPayload pkt.payload cfg.tlsRecordFragSize = .ok (some out) →
        out.length = pkt.payloadLen)
    (hsends : .disorder ∈ cfg.bypassMethod ∨ .seqovl ∈ cfg.bypassMethod →
      io.sends 0 = true → ∀ i, io.sends i = true)
    (hin : emission.inPlace = Linux.emitShaped io buf view b) :
    Covers synSeq pkt emission ∧ CarriesReal cfg pkt emission := by
  obtain ⟨real, hreal, hfrom⟩ : ∃ real,
      view.newPayload.getD pkt.payload = real
        ∧ (real = pkt.payload ∨ (.tlsRecordFrag ∈ cfg.bypassMethod
          ∧ fragmentPayload pkt.payload cfg.tlsRecordFragSize
            = .ok (some real))) := by
    cases hnew : view.newPayload with
    | none => exact ⟨_, rfl, .inl rfl⟩
    | some out => exact ⟨out, rfl, .inr (hview.reframed out hnew)⟩
  have hlen : real.length = pkt.payloadLen := by
    rcases hfrom with rfl | ⟨hlist, hout⟩
    · rfl
    · exact hframe hlist real hout
  rw [hview.seq, hreal] at hpacket
  have htiles : Tiles pkt.seq real
      ((Linux.emitShaped io buf view b).filterMap receive) := by
    refine Linux.emitShaped_tiles hpacket ?_ hview.original
      fun hspec => hsends (hview.segmented hspec)
    rw [← List.length_pos_iff]
    show 0 < real.length
    omega
  rw [Covers, CarriesReal, hin, ← hlen]
  rw [← hlen] at hmark
  exact ⟨htiles.coversExactly hmark, real, hfrom, htiles.carries⟩

/-- A payload without long records keeps its length. -/
theorem length_of_short {payload out : Bytes} {fragSize : Nat}
    (hshort : ∀ rs, payload = WireRecord.encodeAll rs →
      ∀ r ∈ rs, r.body.length ≤ fragSize)
    (hout : fragmentPayload payload fragSize = .ok (some out)) :
    out.length = payload.length := by
  have hpos : 0 < fragSize := by
    refine Nat.pos_of_ne_zero fun hzero => ?_
    rw [fragmentPayload, if_pos hzero] at hout
    cases hout
  obtain ⟨rs, hrs⟩ : ∃ rs, payload = WireRecord.encodeAll rs := by
    rw [fragmentPayload, if_neg (Nat.pos_iff_ne_zero.mp hpos)] at hout
    exact fragmentRecords_some (Except.ok.inj hout)
  have hkept := fragmentPayload_of_short hpos (hshort rs hrs)
  rw [← hrs, hout] at hkept
  cases hkept
  rfl

/-- The captured packet behind its decoy covers it. -/
theorem covers_decoyed {s : FlowState} {b : Bytes} {ihl tcpLen : Nat}
    (hE : E.Lawful) (hparsed : Linux.Parsed E buf pkt layout)
    (hview : Decoyed cfg s synSeq view)
    (hpacket : IsPacket b ihl tcpLen
      ⟨view.newSeq.getD pkt.seq, view.newPayload.getD pkt.payload⟩)
    (hpos : 0 < pkt.payloadLen)
    (hmark : (pkt.seq - (synSeq + 1)).toNat + pkt.payloadLen < 0x80000000)
    (hforward : cfg.fakeTlsForwardReal = true)
    (hsocket : io.socket = true) (hsends : io.sends 0 = true)
    (hoffset : s.fakeData.length + cfg.fakeTlsExtraOffset.toNat < 0x80000000)
    (hin : emission.inPlace = Linux.emitShaped io buf view b) :
    Covers synSeq pkt emission ∧ CarriesReal cfg pkt emission := by
  obtain ⟨hcovers, real, hfrom, hcarries⟩ :
      Covers synSeq pkt ⟨[], [.packet buf]⟩
        ∧ CarriesReal cfg pkt ⟨[], [.packet buf]⟩ :=
    covers_original hE hparsed hpos hmark rfl
  rw [hview.seq, hview.payload] at hpacket
  rw [Linux.emitShaped_original hview.whole hview.unsegmented
    (hview.original.trans hforward) hsocket hsends] at hin
  have hbehind :=
    behind_of_seqBehindWindow synSeq cfg.fakeTlsExtraOffset hoffset
  rw [Covers, CarriesReal, hin, List.filterMap_cons, hpacket.receive_eq]
  exact ⟨hcovers.cons_behind hbehind, real, hfrom, hcarries.cons _⟩

end

/-- For every list that builds, every run, and every outbound data packet
that goes out modified: the emission in its place covers exactly the
sequence range the packet had ahead of the handshake, with every byte of
it in its place. `fake_tls` alone has to forward the packet it replaced,
`tls_record_frag` has to find no record longer than it leaves them
(`fragmentPayload_grows` is the other case), and a segment train, once
started, has to get out whole. -/
theorem emission_covers_sequence_range (E : Etherparse) (hE : E.Lawful)
    (cfg : Config) (freshSeed : MethodName → UInt64)
    (m : CompositeMethod Member) (hm : buildMethod cfg freshSeed = some m)
    (fakeData : Bytes) (ttl : Option UInt8)
    (pre : List (HookEnv × CapturedPacket)) (s : FlowState)
    (hpre : feedAll m (.new fakeData ttl) pre = .ok s) (buf : Bytes)
    (pkt : CapturedPacket) (layout : Linux.PacketLayout)
    (hparse : Linux.parseView E .outbound buf = .ok (some (pkt, layout)))
    (hpos : 0 < pkt.payloadLen) (env : HookEnv) (r : Handled)
    (hr : onPacket m env s pkt.view = .ok r)
    (hmod : r.verdict = .acceptModified) (decoyIo io : Linux.RawIo)
    (hframe : .tlsRecordFrag ∈ cfg.bypassMethod → ∀ rs,
      pkt.payload = WireRecord.encodeAll rs →
        ∀ r ∈ rs, r.body.length ≤ cfg.tlsRecordFragSize)
    (halone : cfg.bypassMethod.fakeTlsAlone = true →
      cfg.fakeTlsForwardReal = true ∧ io.socket = true
        ∧ io.sends 0 = true
        ∧ s.fakeData.length + cfg.fakeTlsExtraOffset.toNat < 0x80000000)
    (hsends : .disorder ∈ cfg.bypassMethod ∨ .seqovl ∈ cfg.bypassMethod →
      io.sends 0 = true → ∀ i, io.sends i = true) :
    ∃ synSeq emission, s.synSeq = some synSeq
      ∧ Linux.emit E decoyIo io buf layout r = .ok emission
      ∧ ((pkt.seq - (synSeq + 1)).toNat + pkt.payloadLen < 0x80000000 →
        Covers synSeq pkt emission ∧ CarriesReal cfg pkt emission) := by
  have hb := build_spec hm
  have hinv : FlowInv s := feedAll_flowInv hpre (flowInv_new fakeData ttl)
  have hparsed := Linux.parseView_spec hparse hpos
  obtain ⟨hdata, hne, action, hloop⟩ := dataLoop_of_modified hpos hr hmod
  obtain ⟨synSeq, hsyn⟩ :=
    Option.isSome_iff_exists.mp (hinv.seqs hdata.pastHandshake).1
  obtain ⟨emission, hemit, hin⟩ :=
    Linux.emit_modified hE hparsed decoyIo io hmod
  refine ⟨synSeq, emission, hsyn, hemit, fun hmark => ?_⟩
  rcases hin with hin | ⟨b, ihl, tcpLen, hpacket, hin⟩
  · exact covers_original hE hparsed hpos hmark hin
  · rcases hb.dataLoop_view hsyn hne hloop with ⟨hal, hview⟩ | hview
    · obtain ⟨hforward, hsocket, hsent, hoffset⟩ := halone hal
      exact covers_decoyed hE hparsed hview hpacket hpos hmark hforward
        hsocket hsent hoffset hin
    · exact covers_inPlace hview hpacket hpos hmark
        (fun hlist out hout => length_of_short (hframe hlist) hout) hsends hin

/-- The first data packet of the sample connection, on the wire. -/
def sampleBytes (payload : Bytes) : Bytes :=
  let pkt := sampleData payload
  Wire.ipv4Bytes {
      dscp := 0, ecn := 0, totalLen := (40 + payload.length).toUInt16
      identification := 7, dontFragment := true, moreFragments := false
      fragmentOffset := 0, timeToLive := 64, protocol := 6
      headerChecksum := 0, source := pkt.srcIp, destination := pkt.dstIp
      options := [] }
    ++ Wire.tcpBytes {
      sourcePort := pkt.srcPort, destinationPort := pkt.dstPort
      sequenceNumber := pkt.seq, acknowledgmentNumber := pkt.ack
      flags := pkt.flags, ns := false, ece := false, cwr := false
      windowSize := 502, checksum := 0, urgentPointer := 0, options := [] }
    ++ payload

/-- A raw socket that takes everything. -/
def openIo : Linux.RawIo where
  socket := true
  sends _ := true

/-- `["fake_tls", "tls_record_frag", "disorder"]` on a one-byte record:
the segments behind the decoy cover the six bytes it had. -/
theorem sample_emission_covers :
    ∃ m s r emission, buildMethod
        { bypassMethod := [.fakeTls, .tlsRecordFrag, .disorder] }
        (fun _ => 0) = some m
      ∧ feedAll m (.new [0x16] none)
          (sampleOpening ++ [(sampleEnv, sampleAck)]) = .ok s
      ∧ onPacket m sampleEnv s (sampleData [0x16, 3, 1, 0, 1, 0x01]).view
          = .ok r
      ∧ r.verdict = .acceptModified
      ∧ Linux.emit Wire.etherparse openIo openIo
          (sampleBytes [0x16, 3, 1, 0, 1, 0x01]) ⟨20, 20, 40, 46⟩ r
          = .ok emission
      ∧ Covers 100 (sampleData [0x16, 3, 1, 0, 1, 0x01]) emission := by
  obtain ⟨synSeq, emission, hsyn, hemit, hcovers⟩ :=
    emission_covers_sequence_range Wire.etherparse Wire.etherparse_lawful
      { bypassMethod := [.fakeTls, .tlsRecordFrag, .disorder] } (fun _ => 0)
      _ rfl [0x16] none (sampleOpening ++ [(sampleEnv, sampleAck)]) _ rfl
      (sampleBytes [0x16, 3, 1, 0, 1, 0x01])
      (sampleData [0x16, 3, 1, 0, 1, 0x01]) ⟨20, 20, 40, 46⟩ rfl (by decide)
      sampleEnv _ rfl rfl openIo openIo
      (fun _ rs hrs r hr => by
        have hone : ([0x16, 3, 1, 0, 1, 0x01] : Bytes)
          = WireRecord.encodeAll [⟨0x16, (3, 1), [1], by decide⟩] := rfl
        rw [← WireRecord.encodeAll_inj (hone.symm.trans hrs)] at hr
        rw [List.mem_singleton.mp hr]
        exact Nat.le_refl 1)
      (fun halone => by cases halone) (fun _ _ _ => rfl)
  cases hsyn
  exact ⟨_, _, _, emission, rfl, rfl, rfl, rfl, hemit,
    (hcovers (by decide)).1⟩

/-- `["fake_tls"]` with `FAKE_TLS_FORWARD_REAL = false`: the one packet
that goes out is the decoy, which ends at `syn_seq + 1`, and none of the
three bytes of the captured packet is in it. -/
theorem single_packet_mode_covers_nothing :
    Config.validate
        { bypassMethod := [.fakeTls], fakeTlsForwardReal := false }
        = .ok () ∧
    Linux.parseView Wire.etherparse .outbound (sampleBytes [0x16, 3, 1])
      = .ok (some (sampleData [0x16, 3, 1], ⟨20, 20, 40, 43⟩)) ∧
    ∃ m s r emission, buildMethod
        { bypassMethod := [.fakeTls], fakeTlsForwardReal := false }
        (fun _ => 0) = some m
      ∧ feedAll m (.new [0x16] none)
          (sampleOpening ++ [(sampleEnv, sampleAck)]) = .ok s
      ∧ s.synSeq = some 100 ∧ s.firstDataModified = false
      ∧ onPacket m sampleEnv s (sampleData [0x16, 3, 1]).view = .ok r
      ∧ r.verdict = .acceptModified
      ∧ Linux.emit Wire.etherparse openIo openIo (sampleBytes [0x16, 3, 1])
          ⟨20, 20, 40, 43⟩ r = .ok emission
      ∧ emission.inPlace.filterMap receive = [⟨100, [0x16]⟩]
      ∧ ¬ Covers 100 (sampleData [0x16, 3, 1]) emission := by
  refine ⟨rfl, rfl, _, _, _, _, rfl, rfl, rfl, rfl, rfl, rfl, rfl, rfl,
    fun hcovers => ?_⟩
  -- the first byte of the captured packet is in no segment that counts
  obtain ⟨-, q, hq, hnot, -⟩ := (hcovers 101).mpr (by decide)
  obtain rfl : q = ⟨100, [0x16]⟩ := List.mem_singleton.mp hq
  exact hnot (by decide)

end ZeroDpi
