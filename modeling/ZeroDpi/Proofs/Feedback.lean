/-
Emission feedback: what the handler does with the packets the backend
injects once they come back through the OUTPUT rule.

# The modified first data packet settles the flow

Outside fragment-all mode a flow takes one packet through the data stage
and is `DataDone` from then on, whatever else happens to its entry: every
outbound packet is accepted as it is, the injected ones included. In
fragment-all mode the data stage stays open, and what comes back is
modified again. There only fragments too short for a TCP header are safe,
because `parse_view` cannot read them, and fragments so long that no
packet is cut into them.
-/
import ZeroDpi.Proofs.Capture
import ZeroDpi.Proofs.DataStage
import ZeroDpi.Proofs.DataRequests
import ZeroDpi.Proofs.SequenceSpace

namespace ZeroDpi

open Lib Handler

-- ============================================================ the property

/-- A packet injected for a modified view that the OUTPUT rule queued
again, as the handler gets it. -/
def Recaptured (E : Etherparse) (decoyIo io : Linux.RawIo)
    (filter : FilterSpec) (buf : Bytes) (layout : Linux.PacketLayout)
    (view : PacketView) (again : CapturedPacket) : Prop :=
  ∃ bs b layout', Linux.injected E decoyIo io buf layout view = .ok bs
    ∧ b ∈ bs ∧ filter.queues b = true
    ∧ Linux.parseView E .outbound b = .ok (some (again, layout'))

/-- In every run of a flow, every packet injected for a modified packet is
accepted when it comes back: at whatever point of the flow's run that is,
if the flow is still in the table, and whatever the other flows do. -/
def NoFeedback (E : Etherparse) (m : CompositeMethod Member) : Prop :=
  ∀ (fakeData : Bytes) (ttl : Option UInt8) (events : List EntryEvent)
    (e : FlowEntry), Run (EntryStep m) (.new fakeData ttl) events e →
  ∀ (direction : Direction) (buf : Bytes) (pkt : CapturedPacket)
    (layout : Linux.PacketLayout),
    Linux.parseView E direction buf = .ok (some (pkt, layout)) →
  ∀ (env : HookEnv) (l : Locked),
    onPacketLocked m env e.state pkt.view = .ok l →
    l.verdict = .acceptModified →
  ∀ (decoyIo io : Linux.RawIo) (filter : FilterSpec)
    (again : CapturedPacket),
    Recaptured E decoyIo io filter buf layout l.pkt again →
  ∀ (flows : FlowKey → Option FlowState),
    (∀ s, flows pkt.flowKey = some s → ∃ later e',
      Run (EntryStep m) ⟨l.state, l.deferred.toList ++ e.owed⟩ later e'
        ∧ e'.state = s) →
  ∀ env', Handler.answer m env' flows again = .ok .accept

/-- The fragment sizes with which a packet can be cut so that its first
fragment has a whole TCP header: a shorter fragment has none, and no packet
is longer than a longer one. -/
def Config.fragmentsReadable (cfg : Config) : Bool :=
  24 ≤ cfg.ipFragSize && cfg.ipFragSize < 65515

/-- The lists whose injected packets the handler modifies again. -/
def Config.feedsBack (cfg : Config) : Bool :=
  (cfg.bypassMethod.contains .disorder && !cfg.disorderOnlyFirstPacket)
    || (cfg.bypassMethod.contains .ipFrag && !cfg.ipFragOnlyFirstPacket
      && (cfg.fragmentsReadable || cfg.bypassMethod.contains .fakeTls))

-- ======================================================= steps of an entry

/-- A property of the state that no outcome and no end of monitoring
touches is kept by a step if the packet handler keeps it. -/
theorem EntryStep.keeps {μ : Type} [BypassMethod μ] {method : μ}
    {P : FlowState → Prop} {e e' : FlowEntry} {event : EntryEvent}
    (hstep : EntryStep method e event e')
    (hframe : ∀ outcome monitor,
      P { e.state with outcome := outcome, monitor := monitor })
    (hpacket : ∀ {env : HookEnv} {pkt : CapturedPacket} {l : Locked},
      onPacketLocked method env e.state pkt.view = .ok l → P l.state) :
    P e'.state := by
  cases hstep with
  | packet hl => exact hpacket hl
  | @resume call _ =>
      obtain ⟨o, mon, hrun⟩ := call.run_frame e.state
      show P (call.run e.state)
      rw [hrun]
      exact hframe o mon
  | finish o =>
      obtain ⟨o', mon, hrun⟩ := (Deferred.finish o).run_frame e.state
      show P ((Deferred.finish o).run e.state)
      rw [hrun]
      exact hframe o' mon

-- ============================================================== data done

/-- The flow has had its first data packet and wants no other. -/
structure DataDone (s : FlowState) : Prop where
  faked : s.fakeSent = true
  modified : s.firstDataModified = true
  notAll : s.fragmentAllData = false

namespace DataDone

variable {μ : Type} [BypassMethod μ] {method : μ} {s : FlowState}

/-- Such a flow accepts every outbound packet as it is. -/
theorem accepts (h : DataDone s) (env : HookEnv) {pkt : CapturedPacket}
    (hout : pkt.direction = .outbound) :
    ∃ l, onPacketLocked method env s pkt.view = .ok l
      ∧ l.verdict = .accept := by
  have hstage : inDataStage s pkt.view = false := by
    simp [inDataStage, h.modified, h.notAll]
  unfold onPacketLocked
  split
  · exact ⟨_, rfl, rfl⟩
  · rw [show pkt.view.direction = .outbound from hout]
    simp only [onOutbound, onBareAck, h.notAll, h.faked, hstage,
      Bool.false_eq_true, if_false, Bool.true_or, if_true]
    split
    · refine ⟨_, rfl, ?_⟩
      unfold onBareSyn
      split
      · rfl
      · split <;> rfl
    · split
      · exact ⟨_, rfl, rfl⟩
      · refine ⟨_, rfl, ?_⟩
        simp only [onOutboundRest, h.notAll, Bool.false_eq_true, if_false]
        split <;> rfl

/-- An outcome or the end of monitoring changes nothing. -/
theorem frame (h : DataDone s) (outcome : Option BypassOutcome)
    (monitor : Bool) :
    DataDone { s with outcome := outcome, monitor := monitor } :=
  ⟨h.faked, h.modified, h.notAll⟩

theorem locked {env : HookEnv} {pkt : PacketView} {l : Locked}
    (h : DataDone s) (hl : onPacketLocked method env s pkt = .ok l) :
    DataDone l.state := by
  cases locked_cases hl with
  | passed => exact h
  | closed _ =>
      obtain ⟨o, mon, hs⟩ := unexpected_frame s pkt
      rw [hs]
      exact h.frame o mon
  | syn _ _ => exact ⟨h.faked, h.modified, h.notAll⟩
  | synAck _ _ _ => exact ⟨h.faked, h.modified, h.notAll⟩
  | handshake hack _ =>
      have hfake := hack.noFake
      rw [h.faked] at hfake
      cases hfake
  | data hdata _ =>
      rcases hdata.staged with ⟨-, hfresh⟩ | hall
      · rw [h.modified] at hfresh
        cases hfresh
      · rw [h.notAll] at hall
        cases hall
  | fragmentAllClose _ hall =>
      rw [h.notAll] at hall
      cases hall
  | postFakeAck _ _ _ _ => exact h
  | firstDataAck _ _ hfake _ =>
      rw [h.faked] at hfake
      cases hfake

/-- Nor does any step of the entry. -/
theorem step {e e' : FlowEntry} {event : EntryEvent}
    (h : DataDone e.state) (hstep : EntryStep method e event e') :
    DataDone e'.state :=
  hstep.keeps h.frame fun hl => h.locked hl

theorem run {e e' : FlowEntry} {events : List EntryEvent}
    (h : DataDone e.state) (hrun : Run (EntryStep method) e events e') :
    DataDone e'.state :=
  hrun.invariant (P := fun x => DataDone x.state)
    (fun hx hstep => hx.step hstep) h

/-- A packet of such a flow is accepted, if the flow is still there. -/
theorem answer (h : DataDone s) {flows : FlowKey → Option FlowState}
    {pkt : CapturedPacket} (hout : pkt.direction = .outbound)
    (hflow : flows pkt.flowKey = some s) (env : HookEnv) :
    Handler.answer method env flows pkt = .ok .accept := by
  have haccepts : ∃ l, onPacketLocked method env s pkt.view = .ok l
      ∧ l.verdict = .accept := h.accepts env hout
  obtain ⟨l, hl, haccept⟩ := haccepts
  unfold Handler.answer
  rw [hflow]
  exact bind_eq_ok.mpr ⟨l, hl, congrArg Except.ok haccept⟩

end DataDone

-- ================================================== one data packet only

/-- The members that keep the data stage open. -/
def Member.asksForMore : Member → Bool
  | .ipFrag f => !f.onlyFirstPacket
  | .disorder f => !f.onlyFirstPacket
  | _ => false

theorem Member.asksForMore_of_more {x : Member} (hx : x.DataReady)
    {env : HookEnv} {s : FlowState} {pkt v : PacketView} {immediate : Bool}
    (h : BypassMethod.onFirstDataPacket x env s pkt
      = .ok (.emitFakeAndAccept immediate true, v)) :
    x.asksForMore = true := by
  have hshaped : ∀ {only : Bool}, MethodAction.emitShaped only
      = .emitFakeAndAccept immediate true → (!only) = true := by
    intro only hmore
    rw [emitShaped_eq] at hmore
    injection hmore
  have hcont := Member.continues_of_more hx h
  cases x with
  | ipFrag f => exact hshaped (congrArg Prod.fst (Except.ok.inj h))
  | disorder f => exact hshaped (congrArg Prod.fst (Except.ok.inj h))
  | _ => cases hcont

section OneShot

variable {m : CompositeMethod Member}

/-- The composite keeps the data stage open only for such a member. -/
theorem asksForMore_of_hook (hready : ∀ x ∈ m.dataMethods, x.DataReady)
    {env : HookEnv} {s : FlowState} {pkt v : PacketView} {immediate : Bool}
    (h : BypassMethod.onFirstDataPacket m env s pkt
      = .ok (.emitFakeAndAccept immediate true, v)) :
    ∃ x ∈ m.dataMethods, x.asksForMore = true := by
  have h : m.onFirstDataPacket env s pkt = _ := h
  unfold CompositeMethod.onFirstDataPacket at h
  split at h
  · cases h
  · rcases dataLoop_more h with hno | ⟨x, hx, w, i, w', hhook⟩
    · cases hno
    · exact ⟨x, hx, Member.asksForMore_of_more (hready x hx) hhook⟩

/-- A flow whose data stage, if it is open, is open for one packet. -/
structure OneShot (s : FlowState) : Prop where
  faked : s.waitingForData = true → s.fakeSent = true
  notAll : s.fragmentAllData = false

namespace OneShot

variable {s : FlowState}

theorem frame (h : OneShot s) (outcome : Option BypassOutcome)
    (monitor : Bool) :
    OneShot { s with outcome := outcome, monitor := monitor } :=
  ⟨h.faked, h.notAll⟩

/-- The handshake stage of a composite opens the data stage with the fake
flag up. -/
theorem handshake (h : OneShot s) {pkt : CapturedPacket}
    (hack : HandshakeAck s pkt) {env : HookEnv} {action : MethodAction}
    {v : PacketView}
    (hhook : BypassMethod.onHandshakeCompleteAck m env s pkt.view
      = .ok (action, v)) :
    OneShot (onHandshakeAction s action v).state := by
  obtain ⟨w, hspec, -⟩ := m.handshake_spec env
    (seqsKnown_of_completes hack.matchesSyn) pkt.view
  have haction : action = m.handshakeAnswer pkt :=
    congrArg Prod.fst (Except.ok.inj (hhook.symm.trans hspec))
  cases action with
  | emitFakeAndAccept immediate more =>
      cases more with
      | true => exact ⟨fun _ => rfl, h.notAll⟩
      | false => exact ⟨fun _ => rfl, h.notAll⟩
  | passThrough =>
      exact absurd haction.symm (m.handshakeAnswer_ne_passThrough pkt)
  | completeAndAccept => exact h
  | abortAndAccept => exact h

/-- Without a member that asks for more, the data stage closes behind the
packet it modified. -/
theorem data (h : OneShot s) (hready : ∀ x ∈ m.dataMethods, x.DataReady)
    (hone : ∀ x ∈ m.dataMethods, x.asksForMore = false)
    {pkt : CapturedPacket} (hdata : DataPacket s pkt) {env : HookEnv}
    {action : MethodAction} {v : PacketView}
    (hhook : BypassMethod.onFirstDataPacket m env s pkt.view
      = .ok (action, v)) :
    OneShot (onDataAction s action v).state
      ∧ ((onDataAction s action v).verdict = .acceptModified →
        DataDone (onDataAction s action v).state) := by
  have hfaked : s.fakeSent = true := by
    rcases hdata.staged with ⟨hwait, -⟩ | hall
    · exact h.faked hwait
    · rw [h.notAll] at hall
      cases hall
  cases action with
  | emitFakeAndAccept immediate more =>
      cases more with
      | true =>
          obtain ⟨x, hx, hmore⟩ := asksForMore_of_hook hready hhook
          rw [hone x hx] at hmore
          cases hmore
      | false =>
          cases immediate with
          | true =>
              exact ⟨⟨fun _ => hfaked, h.notAll⟩,
                fun _ => ⟨hfaked, rfl, h.notAll⟩⟩
          | false =>
              exact ⟨⟨fun _ => hfaked, h.notAll⟩,
                fun _ => ⟨hfaked, rfl, h.notAll⟩⟩
  | completeAndAccept =>
      refine ⟨⟨fun _ => hfaked, h.notAll⟩, fun hmod => ?_⟩
      cases hmod
  | passThrough =>
      refine ⟨h, fun hmod => ?_⟩
      cases hmod
  | abortAndAccept =>
      simp only [onDataAction, h.notAll, Bool.false_eq_true, if_false]
      refine ⟨⟨fun _ => hfaked, rfl⟩, fun hmod => ?_⟩
      cases hmod

theorem step {e e' : FlowEntry} {event : EntryEvent}
    (hready : ∀ x ∈ m.dataMethods, x.DataReady)
    (hone : ∀ x ∈ m.dataMethods, x.asksForMore = false)
    (h : OneShot e.state) (hstep : EntryStep m e event e') :
    OneShot e'.state := by
  refine hstep.keeps h.frame ?_
  intro env pkt l hl
  cases locked_cases hl with
  | passed => exact h
  | closed _ =>
      obtain ⟨o, mon, hs⟩ := unexpected_frame e.state pkt.view
      rw [hs]
      exact h.frame o mon
  | syn _ _ => exact ⟨h.faked, h.notAll⟩
  | synAck _ _ _ => exact ⟨h.faked, h.notAll⟩
  | handshake hack hhook => exact h.handshake hack hhook
  | data hdata hhook => exact (h.data hready hone hdata hhook).1
  | fragmentAllClose _ _ => exact ⟨h.faked, h.notAll⟩
  | postFakeAck _ _ _ _ => exact h
  | firstDataAck _ _ _ _ => exact ⟨h.faked, h.notAll⟩

/-- Every flow of such a list, from its registration on. -/
theorem run (hready : ∀ x ∈ m.dataMethods, x.DataReady)
    (hone : ∀ x ∈ m.dataMethods, x.asksForMore = false) {fakeData : Bytes}
    {ttl : Option UInt8} {events : List EntryEvent} {e : FlowEntry}
    (hrun : Run (EntryStep m) (.new fakeData ttl) events e) :
    OneShot e.state :=
  hrun.invariant (P := fun x => OneShot x.state)
    (fun hx hstep => hx.step hready hone hstep) ⟨nofun, rfl⟩

end OneShot

end OneShot

-- ============================================= nothing before the data stage

/-- A view that asks the backend for nothing beside the packet itself. -/
structure Unrequested (v : PacketView) : Prop where
  decoy : v.decoy = none
  whole : v.ipFragPayloadSize = none
  unsegmented : v.disorderSpec = none
  original : v.emitOriginalAfter = false

/-- No handshake hook requests anything of the backend. -/
theorem Unrequested.handshakeHook {x : Member} {env : HookEnv}
    {s : FlowState} {pkt v : PacketView} {action : MethodAction}
    (h : Unrequested pkt)
    (hhook : BypassMethod.onHandshakeCompleteAck x env s pkt
      = .ok (action, v)) : Unrequested v := by
  cases x with
  | wrongSeq f =>
      have hhook : f.onHandshakeCompleteAck s pkt = _ := hhook
      unfold WrongSeq.onHandshakeCompleteAck at hhook
      split at hhook
      · cases hhook
      · cases hhook
        exact ⟨h.decoy, h.whole, h.unsegmented, h.original⟩
  | wrongAck f =>
      have hhook : f.onHandshakeCompleteAck s pkt = _ := hhook
      unfold WrongAck.onHandshakeCompleteAck at hhook
      split at hhook
      · cases hhook
      · cases hhook
        exact ⟨h.decoy, h.whole, h.unsegmented, h.original⟩
  | wrongTimestamp f =>
      have hhook : f.onHandshakeCompleteAck s pkt = _ := hhook
      unfold WrongTimestamp.onHandshakeCompleteAck at hhook
      split at hhook
      · cases hhook
        exact h
      · cases hhook
        exact ⟨h.decoy, h.whole, h.unsegmented, h.original⟩
  | _ =>
      cases hhook
      exact ⟨h.decoy, h.whole, h.unsegmented, h.original⟩

/-- Nor does the composite's. -/
theorem Unrequested.handshakeStage {m : CompositeMethod Member}
    {env : HookEnv} {s : FlowState} {pkt v : PacketView}
    {action : MethodAction} (h : Unrequested pkt)
    (hhook : BypassMethod.onHandshakeCompleteAck m env s pkt
      = .ok (action, v)) : Unrequested v := by
  obtain ⟨acc, hfold, hhook⟩ := bind_eq_ok.mp hhook
  have hacc : Unrequested acc.pkt := by
    refine foldlM_invariant (P := fun a : HandshakeAcc => Unrequested a.pkt)
      hfold h fun a x a' _ ha hturn => ?_
    obtain ⟨⟨act, w⟩, hx, hturn⟩ := bind_eq_ok.mp hturn
    cases hturn
    exact ha.handshakeHook hx
  have hview : v = { acc.pkt with
      newFlags := acc.firstFlags
      bumpIpv4Ident := acc.firstBumpIdent } := by
    simp only at hhook
    split at hhook
    · exact (congrArg Prod.snd (Except.ok.inj hhook)).symm
    · exact (congrArg Prod.snd (Except.ok.inj hhook)).symm
  rw [hview]
  exact ⟨hacc.decoy, hacc.whole, hacc.unsegmented, hacc.original⟩

/-- Nothing is injected for such a view. -/
theorem Unrequested.injects_nothing {v : PacketView} (h : Unrequested v)
    {E : Etherparse} {decoyIo io : Linux.RawIo} {buf b : Bytes}
    {layout : Linux.PacketLayout} {bs : List Bytes}
    (hbs : Linux.injected E decoyIo io buf layout v = .ok bs) : b ∉ bs := by
  intro hb
  rcases Linux.mem_injected hbs hb with
    ⟨decoy, hdecoy, -⟩ | ⟨newBytes, -, hmem⟩
  · rw [h.decoy] at hdecoy
    cases hdecoy
  · rcases Linux.mem_injectShaped hmem with
      ⟨size, hsize, -⟩ | ⟨spec, hspec, -⟩ | ⟨horiginal, -⟩
    · rw [h.whole] at hsize
      cases hsize
    · rw [h.unsegmented] at hspec
      cases hspec
    · rw [h.original] at horiginal
      cases horiginal

-- ======================================================== short fragments

/-- A view that asks for short fragments at most. -/
structure ShortFragments (v : PacketView) : Prop where
  fits : 20 + v.tcpOptions.length + v.payloadLen ≤ 65515
  decoy : v.decoy = none
  short : ∀ size, v.ipFragPayloadSize = some size → size < 24
  unsegmented : v.disorderSpec = none
  original : v.emitOriginalAfter = false

/-- The members that request nothing else of a packet that fits into a
datagram. -/
def Member.FragmentsShort : Member → Prop
  | .tlsRecordFrag _ => True
  | .ipFrag f => f.fragSize < 24 ∨ 65515 ≤ f.fragSize
  | _ => False

theorem ShortFragments.dataHook {x : Member} (hx : x.FragmentsShort)
    {env : HookEnv} {s : FlowState} {pkt v : PacketView}
    {action : MethodAction} (h : ShortFragments pkt)
    (hhook : BypassMethod.onFirstDataPacket x env s pkt = .ok (action, v)) :
    ShortFragments v := by
  cases x with
  | tlsRecordFrag f =>
      obtain ⟨out, -, hhook⟩ := bind_eq_ok.mp hhook
      cases out with
      | none =>
          cases hhook
          exact h
      | some fragmented =>
          cases hhook
          exact ⟨h.fits, h.decoy, h.short, h.unsegmented, h.original⟩
  | ipFrag f =>
      cases hhook
      split
      case isTrue hcut =>
        refine ⟨h.fits, h.decoy, ?_, h.unsegmented, h.original⟩
        intro size hsize
        rw [← Option.some.inj hsize]
        rcases hx with hshort | hlong
        · exact hshort
        · have hfits := h.fits
          omega
      case isFalse => exact h
  | _ => cases hx

theorem ShortFragments.dataStage {m : CompositeMethod Member}
    (hm : ∀ x ∈ m.dataMethods, x.FragmentsShort) {env : HookEnv}
    {s : FlowState} {pkt v : PacketView} {action : MethodAction}
    (h : ShortFragments pkt)
    (hhook : BypassMethod.onFirstDataPacket m env s pkt = .ok (action, v)) :
    ShortFragments v := by
  have hhook : m.onFirstDataPacket env s pkt = _ := hhook
  unfold CompositeMethod.onFirstDataPacket at hhook
  split at hhook
  · cases hhook
    exact h
  · exact CompositeMethod.dataLoop_invariant
      (fun x hx _ _ _ hp hx' => hp.dataHook (hm x hx) hx') hhook h

/-- A fragment that short has no TCP header to read. -/
theorem IsPacket.short_fragment_unread {E : Etherparse} (hE : E.Lawful)
    {b : Bytes} {ihl tcpLen : Nat} {q : Segment}
    (h : IsPacket b ihl tcpLen q) {size : Nat} (hsize : size < 24)
    (hcut : 1 < (fragmentIpv4Packet b size).length) {f : Bytes}
    (hf : f ∈ fragmentIpv4Packet b size) {direction : Direction}
    {pkt : CapturedPacket} {layout : Linux.PacketLayout} :
    Linux.parseView E direction f ≠ .ok (some (pkt, layout)) := by
  intro hparse
  have hmin := h.ihlMin
  have hheaders := h.headers
  obtain ⟨-, k, last, -, -, rfl⟩ := h.fragment_eq hcut hf
  have htake : (b.take ihl).length = ihl := by
    rw [List.length_take]
    omega
  have hagree := fragmentHeader_agree
    (((b.drop ihl).drop k).take (size / 8 * 8)).length k last
    (show 20 ≤ (b.take ihl).length by omega)
  have hlen := hagree.length
  have hfirst : (fragmentHeader (b.take ihl)
      (((b.drop ihl).drop k).take (size / 8 * 8)).length k last
      ++ ((b.drop ihl).drop k).take (size / 8 * 8)).getD 0 0
        = b.getD 0 0 := by
    rw [getD_append_left (by omega), hagree.getD (by omega),
      getD_take (by omega)]
  generalize fragmentHeader (b.take ihl)
    (((b.drop ihl).drop k).take (size / 8 * 8)).length k last = header
    at hlen hfirst hparse
  unfold Linux.parseView at hparse
  split at hparse
  · cases hparse
  case h_2 ip hip =>
    have hihl : ip.headerLen = header.length := by
      rw [← hE.ipv4Ihl hip, hfirst, h.headerLen, hlen, htake]
    split at hparse
    · cases hparse
    · split at hparse
      · cases hparse
      case h_2 tcp htcp =>
        have hroom := hE.tcpPresent htcp
        rw [hihl, List.drop_left, List.length_take] at hroom
        have htcpMin : 20 ≤ tcp.headerLen := by simp [TcpHeader.headerLen]
        omega

/-- So nothing that is injected for such a view can be read again. -/
theorem ShortFragments.injected_unread {E : Etherparse} (hE : E.Lawful)
    {v : PacketView} (h : ShortFragments v) {direction : Direction}
    {buf : Bytes} {pkt : CapturedPacket} {layout : Linux.PacketLayout}
    (hparse : Linux.parseView E direction buf = .ok (some (pkt, layout)))
    (hpos : 0 < pkt.payloadLen) {decoyIo io : Linux.RawIo}
    {bs : List Bytes} {b : Bytes}
    (hbs : Linux.injected E decoyIo io buf layout v = .ok bs)
    (hmem : b ∈ bs) {direction' : Direction} {again : CapturedPacket}
    {layout' : Linux.PacketLayout} :
    Linux.parseView E direction' b ≠ .ok (some (again, layout')) := by
  rcases Linux.mem_injected hbs hmem with
    ⟨decoy, hdecoy, -⟩ | ⟨newBytes, hbuilt, hshaped⟩
  · rw [h.decoy] at hdecoy
    cases hdecoy
  · rcases Linux.mem_injectShaped hshaped with
      ⟨size, hsize, hcut, hf⟩ | ⟨spec, hspec, -⟩ | ⟨horiginal, -⟩
    · obtain ⟨built, hbuilt', hspec⟩ :=
        Linux.buildModified_spec hE (Linux.parseView_spec hparse hpos) v
      obtain ⟨ihl, tcpLen, hpacket⟩ := hspec newBytes
        (Except.ok.inj (hbuilt'.symm.trans hbuilt))
      exact hpacket.short_fragment_unread hE (h.short size hsize) hcut hf
    · rw [h.unsegmented] at hspec
      cases hspec
    · rw [h.original] at horiginal
      cases horiginal

/-- A list that does not feed back takes one packet through its data
stage, or cuts packets into short fragments at most and does nothing
else. -/
theorem BuiltFrom.oneShot_or_short {cfg : Config}
    {freshSeed : MethodName → UInt64} {m : CompositeMethod Member}
    (hb : BuiltFrom cfg freshSeed m) (hv : cfg.ValidList)
    (hno : cfg.feedsBack = false) :
    (∀ x ∈ m.dataMethods, x.asksForMore = false)
      ∨ ∀ x ∈ m.dataMethods, x.FragmentsShort := by
  simp only [Config.feedsBack, Config.fragmentsReadable,
    Bool.or_eq_false_iff, Bool.and_eq_false_iff, Bool.not_eq_false',
    decide_eq_false_iff_not, Nat.not_le, Nat.not_lt] at hno
  obtain ⟨hdisorder, hfrag⟩ := hno
  rw [hb.dataMethods]
  by_cases hall : .ipFrag ∈ cfg.bypassMethod
      ∧ cfg.ipFragOnlyFirstPacket = false
  · obtain ⟨hmem, hmore⟩ := hall
    obtain ⟨hshort, hnofake⟩ : (cfg.ipFragSize < 24
          ∨ 65515 ≤ cfg.ipFragSize)
        ∧ cfg.bypassMethod.contains .fakeTls = false := by
      rcases hfrag with (hnot | honly) | hrest
      · rw [List.contains_iff_mem.mpr hmem] at hnot
        cases hnot
      · rw [hmore] at honly
        cases honly
      · exact hrest
    right
    intro x hx
    obtain ⟨n, hn, hnx⟩ := List.mem_filterMap.mp hx
    cases n with
    | tlsRecordFrag =>
        cases hnx
        trivial
    | fakeTls =>
        rw [List.contains_iff_mem.mpr hn] at hnofake
        cases hnofake
    | ipFrag =>
        cases hnx
        exact hshort
    | disorder =>
        cases hv.shaper_unique (by decide) hmem (by decide) hn
    | seqovl =>
        cases hv.shaper_unique (by decide) hmem (by decide) hn
    | _ => cases hnx
  · left
    intro x hx
    obtain ⟨n, hn, hnx⟩ := List.mem_filterMap.mp hx
    cases n with
    | ipFrag =>
        cases hnx
        cases honly : cfg.ipFragOnlyFirstPacket with
        | true => simp [Member.asksForMore, IpFrag.new, honly]
        | false => exact absurd ⟨hn, honly⟩ hall
    | disorder =>
        cases hnx
        rcases hdisorder with hnot | honly
        · rw [List.contains_iff_mem.mpr hn] at hnot
          cases hnot
        · simp [Member.asksForMore, Disorder.new, honly]
    | tlsRecordFrag =>
        cases hnx
        rfl
    | fakeTls =>
        cases hnx
        rfl
    | seqovl =>
        cases hnx
        rfl
    | _ => cases hnx

-- ============================================================== the theorem

/-- A packet is modified at the handshake, with nothing to inject, or in
the data stage. -/
theorem modified_cases {m : CompositeMethod Member} {env : HookEnv}
    {s : FlowState} {pkt : CapturedPacket} {l : Locked}
    (hl : onPacketLocked m env s pkt.view = .ok l)
    (hmod : l.verdict = .acceptModified) :
    Unrequested l.pkt ∨ ∃ action v, DataPacket s pkt
      ∧ BypassMethod.onFirstDataPacket m env s pkt.view = .ok (action, v)
      ∧ l = onDataAction s action v := by
  cases locked_cases hl with
  | @handshake action v _ hhook =>
      left
      have hview : (onHandshakeAction s action v).pkt = v := by
        cases action <;> rfl
      rw [hview]
      exact Unrequested.handshakeStage ⟨rfl, rfl, rfl, rfl⟩ hhook
  | @data action v hdata hhook => exact .inr ⟨action, v, hdata, hhook, rfl⟩
  | _ => cases hmod

/-- For every validated list that does not keep the data stage open over
packets it injects, no packet the backend injects is ever modified when
it comes back. -/
theorem no_emission_feedback (E : Etherparse) (hE : E.Lawful)
    (hA : E.KeepsAddresses) (cfg : Config) (hv : cfg.validate = .ok ())
    (freshSeed : MethodName → UInt64) (m : CompositeMethod Member)
    (hm : buildMethod cfg freshSeed = some m)
    (hno : cfg.feedsBack = false) : NoFeedback E m := by
  intro fakeData ttl events e hrun direction buf pkt layout hparse env l hl
    hmod decoyIo io filter again hagain flows hflows env'
  have hb := build_spec hm
  have hready := hb.dataReady (Config.validParams hv).recordFragSize
  obtain ⟨bs, b, layout', hbs, hmem, hqueued, hparse'⟩ := hagain
  rcases modified_cases hl hmod with hnone | ⟨action, v, hdata, hhook, rfl⟩
  · exact absurd hmem (hnone.injects_nothing hbs)
  · obtain rfl : direction = .outbound :=
      (Linux.parseView_direction hparse).symm.trans hdata.outbound
    rw [onDataAction_pkt] at hbs
    rcases hb.oneShot_or_short (Config.validList hv) hno with hone | hshort
    · -- the flow the packet comes back to is done with its data stage
      have hdone :=
        ((OneShot.run hready hone hrun).data hready hone hdata hhook).2 hmod
      have hkey : again.flowKey = pkt.flowKey :=
        Names.unique (Linux.injected_names hE hA hparse hdata.payload hbs
          hmem hqueued) (Linux.parseView_names hE hA hparse')
      cases hs : flows again.flowKey with
      | none =>
          unfold Handler.answer
          rw [hs]
      | some s =>
          obtain ⟨later, e', hlater, rfl⟩ := hflows s (hkey ▸ hs)
          exact (hdone.run hlater).answer (Linux.parseView_direction hparse')
            hs env'
    · -- nothing but short fragments is injected, and none of them is read
      have hplain : ShortFragments pkt.view :=
        ⟨Linux.parseView_fits hparse hdata.payload, rfl, nofun, rfl, rfl⟩
      have hview : ShortFragments v := hplain.dataStage hshort hhook
      exact absurd hparse'
        (hview.injected_unread hE hparse hdata.payload hbs hmem)

/-- The filter of the sample connection. -/
def sampleFilter : FilterSpec where
  interfaceIp := (sampleData []).srcIp
  remoteIp := some (sampleData []).dstIp
  remotePort := (sampleData []).dstPort
  linuxFirewallBackend := .iptables

/-- `["disorder"]`, for the first packet or for all. -/
def disorderConfig (onlyFirstPacket : Bool) : Config where
  bypassMethod := [.disorder]
  disorderOnlyFirstPacket := onlyFirstPacket

/-- What is built from it. -/
def disorderAlone (onlyFirstPacket : Bool) : CompositeMethod Member where
  handshakeMethods := []
  dataMethods := [.disorder (.new (disorderConfig onlyFirstPacket) 0)]
  segmentsFirstClientHello := false
  padsFirstClientHello := false
  mixedCaseSniFirstHello := false
  splitsFirstClientHello := false
  ccsPrefixFirstHello := false
  recordSplitsFirstClientHello := false

/-- The sample connection, waiting for its first data packet. -/
def sampleWaiting : FlowState :=
  { FlowState.new [0x16] none with
    synSeq := some 100, synAckSeq := some 500
    fakeSent := true, waitingForData := true }

/-- The sample handshake, as steps of the flow's entry. -/
theorem sample_handshake_run (onlyFirstPacket : Bool) :
    ∃ events, Run (EntryStep (disorderAlone onlyFirstPacket))
      (.new [0x16] none) events ⟨sampleWaiting, []⟩ := by
  have step {s : FlowState} {l : Locked} (pkt : CapturedPacket)
      (h : onPacketLocked (disorderAlone onlyFirstPacket) sampleEnv s
        pkt.view = .ok l) :
      EntryStep (disorderAlone onlyFirstPacket) ⟨s, []⟩
        (.packet sampleEnv pkt l.verdict)
        ⟨l.state, l.deferred.toList ++ []⟩ := .packet h
  exact ⟨_,
    .cons (step (samplePacket .outbound 100 0 { syn := true } []) rfl) <|
    .cons (step (samplePacket .inbound 500 101
      { syn := true, ack := true } []) rfl) <|
    .cons (step sampleAck rfl) (.nil _)⟩

/-- The sample data packet with the split `disorder` asks for. -/
def sampleSplit : PacketView :=
  { (sampleData [1, 2, 3, 4]).view with
    disorderSpec := some ⟨2, true, 0, none⟩ }

/-- Its halves on the wire, the second one first. -/
def sampleHalves : List Bytes :=
  [[69, 0, 0, 42, 0, 7, 64, 0, 64, 6, 46, 197, 10, 0, 0, 1, 1, 1, 1, 1,
    156, 64, 1, 187, 0, 0, 0, 103, 0, 0, 1, 245, 80, 24, 1, 246, 254, 118,
    0, 0, 3, 4],
   [69, 0, 0, 42, 0, 7, 64, 0, 64, 6, 46, 197, 10, 0, 0, 1, 1, 1, 1, 1,
    156, 64, 1, 187, 0, 0, 0, 101, 0, 0, 1, 245, 80, 16, 1, 246, 0, 131,
    0, 0, 1, 2]]

/-- The second half as the handler gets it back. -/
def sampleAgain : CapturedPacket :=
  samplePacket .outbound 103 501 { ack := true, psh := true } [3, 4]

theorem sample_recaptured :
    Recaptured Wire.etherparse openIo openIo sampleFilter
      (sampleBytes [1, 2, 3, 4]) ⟨20, 20, 40, 44⟩ sampleSplit
      sampleAgain := by
  exact ⟨sampleHalves, _, ⟨20, 20, 40, 42⟩, rfl, List.mem_cons_self,
    rfl, rfl⟩

/-- `["disorder"]` by default: the segment that comes back is accepted. -/
theorem sample_no_emission_feedback :
    ∃ l, onPacketLocked (disorderAlone true) sampleEnv sampleWaiting
        (sampleData [1, 2, 3, 4]).view = .ok l
      ∧ l.verdict = .acceptModified
      ∧ Recaptured Wire.etherparse openIo openIo sampleFilter
          (sampleBytes [1, 2, 3, 4]) ⟨20, 20, 40, 44⟩ l.pkt sampleAgain
      ∧ Handler.answer (disorderAlone true) sampleEnv
          (fun _ => some l.state) sampleAgain = .ok .accept := by
  obtain ⟨events, hrun⟩ := sample_handshake_run true
  refine ⟨_, rfl, rfl, sample_recaptured, ?_⟩
  exact no_emission_feedback Wire.etherparse Wire.etherparse_lawful
    Wire.etherparse_keepsAddresses (disorderConfig true) rfl (fun _ => 0)
    (disorderAlone true) rfl rfl [0x16] none events _ hrun .outbound
    (sampleBytes [1, 2, 3, 4]) (sampleData [1, 2, 3, 4]) ⟨20, 20, 40, 44⟩
    rfl sampleEnv _ rfl rfl openIo openIo sampleFilter sampleAgain
    sample_recaptured (fun _ => some _)
    (fun s hs => ⟨[], _, .nil _, Option.some.inj hs⟩) sampleEnv

/-- `["disorder"]` with `DISORDER_ONLY_FIRST_PACKET = false`: the segment
that comes back is modified, and split again. -/
theorem fragment_all_feeds_back :
    (disorderConfig false).validate = .ok ()
      ∧ buildMethod (disorderConfig false) (fun _ => 0)
          = some (disorderAlone false)
      ∧ (∃ l, onPacketLocked (disorderAlone false) sampleEnv sampleWaiting
            (sampleData [1, 2, 3, 4]).view = .ok l
          ∧ l.verdict = .acceptModified
          ∧ Recaptured Wire.etherparse openIo openIo sampleFilter
              (sampleBytes [1, 2, 3, 4]) ⟨20, 20, 40, 44⟩ l.pkt sampleAgain
          ∧ ∃ l', onPacketLocked (disorderAlone false) sampleEnv l.state
              sampleAgain.view = .ok l'
            ∧ l'.verdict = .acceptModified
            ∧ l'.pkt.disorderSpec = some ⟨2, true, 0, none⟩)
      ∧ ¬ NoFeedback Wire.etherparse (disorderAlone false) := by
  refine ⟨rfl, rfl, ⟨_, rfl, rfl, sample_recaptured, _, rfl, rfl, rfl⟩, ?_⟩
  intro hno
  obtain ⟨events, hrun⟩ := sample_handshake_run false
  have hanswer := hno [0x16] none events _ hrun .outbound
    (sampleBytes [1, 2, 3, 4]) (sampleData [1, 2, 3, 4]) ⟨20, 20, 40, 44⟩
    rfl sampleEnv _ rfl rfl openIo openIo sampleFilter sampleAgain
    sample_recaptured (fun _ => some _)
    (fun s hs => ⟨[], _, .nil _, Option.some.inj hs⟩) sampleEnv
  cases hanswer

end ZeroDpi
