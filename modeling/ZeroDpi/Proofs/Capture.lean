/-
Which flow the headers of an injected packet name.

A packet names a flow with ten bytes of its headers and the byte that
says where the ports are (`Names`). `build_modified` writes them as it
read them, and neither cutting a packet into segments nor into fragments
touches them, so whatever comes back through the OUTPUT rule comes back
to the flow it was injected for.
-/
import ZeroDpi.Platform.Capture
import ZeroDpi.Proofs.Emission
import ZeroDpi.Lib.Run

namespace ZeroDpi

open Lib

/-- The headers of a packet name a flow. -/
structure Names (b : Bytes) (key : FlowKey) : Prop where
  ihlMin : 20 ≤ ipv4HeaderLen (b.getD 0 0)
  srcIp : be32At b 12 = key.srcIp
  dstIp : be32At b 16 = key.dstIp
  srcPort : portAt b 0 = key.srcPort.toNat
  dstPort : portAt b 2 = key.dstPort.toNat

/-- The positions a flow is named at, for a header of `ihl` bytes. -/
def NamesAt (ihl j : Nat) : Prop :=
  j = 0 ∨ (12 ≤ j ∧ j < 20) ∨ (ihl ≤ j ∧ j < ihl + 4)

namespace Names

variable {b b' : Bytes} {key : FlowKey}

/-- Another packet with the same bytes there names the same flow. -/
theorem of_same (h : Names b key)
    (hsame : ∀ j, NamesAt (ipv4HeaderLen (b.getD 0 0)) j →
      b'.getD j 0 = b.getD j 0) : Names b' key := by
  have hfirst : b'.getD 0 0 = b.getD 0 0 := hsame 0 (.inl rfl)
  have hword : ∀ i, 12 ≤ i → i ≤ 16 → be32At b' i = be32At b i := by
    intro i hlow hhigh
    have hat : ∀ k, k < 4 → b'.getD (i + k) 0 = b.getD (i + k) 0 :=
      fun k hk => hsame _ (.inr (.inl (by omega)))
    rw [be32At, be32At, hat 1 (by omega), hat 2 (by omega),
      hat 3 (by omega), hsame i (.inr (.inl (by omega)))]
  have hport : ∀ i, i ≤ 2 → portAt b' i = portAt b i := by
    intro i hi
    rw [portAt, portAt, hfirst, hsame _ (.inr (.inr (by omega))),
      hsame (_ + i + 1) (.inr (.inr (by omega)))]
  exact {
    ihlMin := by rw [hfirst]; exact h.ihlMin
    srcIp := by rw [hword 12 (by omega) (by omega)]; exact h.srcIp
    dstIp := by rw [hword 16 (by omega) (by omega)]; exact h.dstIp
    srcPort := by rw [hport 0 (by omega)]; exact h.srcPort
    dstPort := by rw [hport 2 (by omega)]; exact h.dstPort }

/-- A packet names one flow. -/
theorem unique {key' : FlowKey} (h : Names b key) (h' : Names b key') :
    key' = key := by
  obtain ⟨srcIp, srcPort, dstIp, dstPort⟩ := key
  obtain ⟨srcIp', srcPort', dstIp', dstPort'⟩ := key'
  have hsrc : srcIp' = srcIp := h'.srcIp.symm.trans h.srcIp
  have hdst : dstIp' = dstIp := h'.dstIp.symm.trans h.dstIp
  have hsport : srcPort' = srcPort :=
    UInt16.toNat.inj (h'.srcPort.symm.trans h.srcPort)
  have hdport : dstPort' = dstPort :=
    UInt16.toNat.inj (h'.dstPort.symm.trans h.dstPort)
  rw [hsrc, hdst, hsport, hdport]

end Names

-- ============================================================= the rule

/-- Both backends match on the destination port. -/
theorem FilterSpec.tcpDport_mem_outputRule (filter : FilterSpec) :
    .tcpDport filter.remotePort ∈ filter.outputRule := by
  unfold outputRule iptablesOutputRule nftOutputRule
  split
  · split <;> simp
  · simp

/-- A fragment behind the first one is not queued. -/
theorem FilterSpec.fragmentOffset_of_queues (filter : FilterSpec)
    {b : Bytes} (h : filter.queues b = true) : fragmentOffset b = 0 := by
  have hport := List.all_eq_true.mp h _ filter.tcpDport_mem_outputRule
  simp only [RuleMatch.holds, Bool.and_eq_true, beq_iff_eq] at hport
  exact hport.1.2

namespace Linux

variable {E : Etherparse}

-- ========================================================= read and built

/-- What `parse_view` takes the flow of an outbound packet from. -/
theorem parseView_names (hE : E.Lawful) (hA : E.KeepsAddresses)
    {b : Bytes} {pkt : CapturedPacket} {layout : PacketLayout}
    (h : parseView E .outbound b = .ok (some (pkt, layout))) :
    Names b pkt.flowKey := by
  unfold parseView at h
  split at h
  · cases h
  case h_2 ip hip =>
    split at h
    · cases h
    · split at h
      · cases h
      case h_2 tcp htcp =>
        simp only at h
        split at h
        · cases h
        · cases h
          have hihl := hE.ipv4Ihl hip
          exact {
            ihlMin := by
              rw [hihl]
              simp [Ipv4Header.headerLen]
            srcIp := (hA.source hip).symm
            dstIp := (hA.destination hip).symm
            srcPort := by
              have hport := hA.sourcePort htcp
              simp only [getD_drop] at hport
              rw [portAt, hihl]
              exact hport.symm
            dstPort := by
              have hport := hA.destinationPort htcp
              simp only [getD_drop] at hport
              rw [portAt, hihl]
              exact hport.symm }

/-- Two headers and a payload, written out, name the flow of the
headers. -/
theorem names_written (hE : E.Lawful) (hA : E.KeepsAddresses)
    {ip : Ipv4Header} {tcp : TcpHeader} (payload : Bytes)
    (hip : OptionArea ip.options) (htcp : OptionArea tcp.options) :
    Names (E.ipv4Bytes ip ++ E.tcpBytes tcp ++ payload)
      ⟨ip.source, tcp.sourcePort, ip.destination, tcp.destinationPort⟩ := by
  have hipLen := hE.ipv4Length hip
  have htcpLen := hE.tcpLength htcp
  have hipMin : 20 ≤ ip.headerLen := by simp [Ipv4Header.headerLen]
  have htcpMin : 20 ≤ tcp.headerLen := by simp [TcpHeader.headerLen]
  rw [List.append_assoc]
  have hihl : ipv4HeaderLen
      ((E.ipv4Bytes ip ++ (E.tcpBytes tcp ++ payload)).getD 0 0)
      = ip.headerLen := by
    rw [getD_append_left (by omega)]
    exact hE.ipv4WriteIhl hip
  have hport : ∀ i, i ≤ 2 →
      portAt (E.ipv4Bytes ip ++ (E.tcpBytes tcp ++ payload)) i
        = be16 ((E.tcpBytes tcp).getD i 0)
          ((E.tcpBytes tcp).getD (i + 1) 0) := by
    intro i hi
    rw [portAt, hihl, ← hipLen, Nat.add_assoc, getD_append_right,
      getD_append_right, getD_append_left (by omega),
      getD_append_left (by omega)]
  exact {
    ihlMin := by rw [hihl]; exact hipMin
    srcIp := by
      rw [be32At_append_left (by omega)]
      exact hA.writeSource hip
    dstIp := by
      rw [be32At_append_left (by omega)]
      exact hA.writeDestination hip
    srcPort := by
      rw [hport 0 (by omega)]
      exact hA.writeSourcePort htcp
    dstPort := by
      rw [hport 2 (by omega)]
      exact hA.writeDestinationPort htcp }

theorem writePacket_names (hE : E.Lawful) (hA : E.KeepsAddresses)
    {view : PacketView} {ip : Ipv4Header} {tcp : TcpHeader}
    {payload b : Bytes} (hip : OptionArea ip.options)
    (htcp : OptionArea tcp.options)
    (h : writePacket E view ip tcp payload = some b) :
    Names b
      ⟨ip.source, tcp.sourcePort, ip.destination, tcp.destinationPort⟩ := by
  unfold writePacket at h
  obtain ⟨total, -, h⟩ := Option.bind_eq_some_iff.mp h
  obtain ⟨checksum, -, h⟩ := Option.bind_eq_some_iff.mp h
  cases h
  exact names_written hE hA payload hip htcp

/-- What `build_modified` builds from a captured packet names its
flow. -/
theorem buildModified_names (hE : E.Lawful) (hA : E.KeepsAddresses)
    {buf b : Bytes} {pkt : CapturedPacket} {layout : PacketLayout}
    (hparse : parseView E .outbound buf = .ok (some (pkt, layout)))
    (hpos : 0 < pkt.payloadLen) {view : PacketView}
    (hb : buildModified E buf layout view = .ok (some b)) :
    Names b pkt.flowKey := by
  have hnames := parseView_names hE hA hparse
  obtain ⟨ip₀, tcp₀, hip₀, htcp₀, hihl, htl, -, -⟩ :=
    (parseView_spec hparse hpos).headers
  have hipMin : 20 ≤ ip₀.headerLen := by simp [Ipv4Header.headerLen]
  have htcpMin : 20 ≤ tcp₀.headerLen := by simp [TcpHeader.headerLen]
  have hplace : ipv4HeaderLen (buf.getD 0 0) = layout.ipHdrLen :=
    (hE.ipv4Ihl hip₀).trans hihl.symm
  unfold buildModified at hb
  split at hb
  case h_2 => cases hb
  case h_1 ip tcp hip htcp =>
    split at hb
    · cases hb
    · obtain ⟨tcp', hrewrite, hb⟩ :=
        Option.bind_eq_some_iff.mp (Except.ok.inj hb)
      obtain ⟨harea, -, hsport, hdport⟩ :=
        rewriteTcp_spec hE hrewrite (hE.tcpOptions htcp)
      have hipArea : OptionArea ip.options := hE.ipv4Options hip
      have hwritten := writePacket_names hE hA
        (show OptionArea (rewriteIpv4 view ip).options from hipArea) harea hb
      -- the headers were read where the packet names its flow
      have hport : ∀ i, i ≤ 2 → be16
          (((buf.drop layout.ipHdrLen).take layout.tcpHdrLen).getD i 0)
          (((buf.drop layout.ipHdrLen).take layout.tcpHdrLen).getD
            (i + 1) 0) = portAt buf i := by
        intro i hi
        rw [getD_take (by omega), getD_take (by omega), getD_drop,
          getD_drop, portAt, hplace, Nat.add_assoc]
      have hkey : (⟨ip.source, tcp'.sourcePort, ip.destination,
          tcp'.destinationPort⟩ : FlowKey) = pkt.flowKey := by
        refine Names.unique hnames {
          ihlMin := hnames.ihlMin
          srcIp := ?_
          dstIp := ?_
          srcPort := ?_
          dstPort := ?_ }
        · rw [hA.source hip, be32At_take (by omega)]
        · rw [hA.destination hip, be32At_take (by omega)]
        · rw [hsport, hA.sourcePort htcp]
          exact (hport 0 (by omega)).symm
        · rw [hdport, hA.destinationPort htcp]
          exact (hport 2 (by omega)).symm
      rw [← hkey]
      exact hwritten

end Linux

-- ============================================================= cut apart

/-- A segment names the flow of the packet it is cut from. -/
theorem Names.segment {b : Bytes} {key : FlowKey} (h : Names b key)
    {t : SplitLayout} (hihl : t.ihl = ipv4HeaderLen (b.getD 0 0))
    (hroom : t.ihl + 20 ≤ t.payloadOff) (hlen : t.payloadOff ≤ b.length)
    (lead part : Bytes) (offset : Nat) (ends : Bool) :
    Names (buildSegment b t lead part offset ends) key := by
  have hmin : 20 ≤ t.ihl := by rw [hihl]; exact h.ihlMin
  have hagree := buildSegment_agree b t lead part offset ends hmin hroom hlen
  have hseg : (b.take t.payloadOff ++ lead ++ part).length
      = t.payloadOff + lead.length + part.length := by
    simp only [List.length_append, List.length_take]
    omega
  have hhead : ∀ j, j < t.payloadOff →
      (b.take t.payloadOff ++ lead ++ part).getD j 0 = b.getD j 0 := by
    intro j hj
    rw [List.append_assoc, getD_append_left, getD_take hj]
    rw [List.length_take]
    omega
  have hwritten : AgreeOn (NamesAt t.ihl)
      (b.take t.payloadOff ++ lead ++ part)
      (buildSegment b t lead part offset ends) := by
    refine AgreeOn.trans ?_ hagree ?_
    · refine AgreeOn.overwrite ?_ _ ?_ ?_
      · refine (AgreeOn.refl _ _).overwrite _ ?_ ?_
        · rw [hseg, length_toBe16]
          omega
        · intro j hj
          rw [length_toBe16]
          unfold NamesAt at hj
          omega
      · rw [hseg, length_toBe32]
        omega
      · intro j hj
        rw [length_toBe32]
        unfold NamesAt at hj
        omega
    · intro j hj
      unfold NamesAt at hj
      omega
  refine h.of_same fun j hj => ?_
  rw [← hihl] at hj
  rw [hwritten.getD hj]
  unfold NamesAt at hj
  exact hhead j (by omega)

theorem Names.built {b : Bytes} {key : FlowKey} (h : Names b key)
    {t : SplitLayout} (hihl : t.ihl = ipv4HeaderLen (b.getD 0 0))
    (hroom : t.ihl + 20 ≤ t.payloadOff) (hlen : t.payloadOff ≤ b.length)
    {n overlapIndex : Nat} {lead : Bytes} {parts : List Bytes} {seg : Bytes}
    (hseg : seg ∈ buildSegments b t n lead overlapIndex 0 0 parts) :
    Names seg key := by
  obtain ⟨before, part, after, -, hbuilt⟩ := mem_buildSegments.mp hseg
  have hnames := h.segment hihl hroom hlen
    (if 0 + before.length = overlapIndex then lead else []) part
    (0 + before.flatten.length)
    (0 + before.flatten.length + part.length = n)
  rw [hbuilt]
  exact hnames

/-- So does every segment of a split. -/
theorem Names.split {b : Bytes} {ihl tcpLen : Nat} {q : Segment}
    {key : FlowKey} (h : Names b key) (hpacket : IsPacket b ihl tcpLen q)
    {spec : DisorderSpec} {seg : Bytes}
    (hseg : seg ∈ splitTcpPayload b spec) : Names seg key := by
  unfold splitTcpPayload at hseg
  simp only [hpacket.splitHeaders] at hseg
  split at hseg
  · rw [List.mem_singleton.mp hseg]
    exact h
  · have hbuilt : ∀ (l : List Bytes), seg ∈ (if spec.reverse = true then
        l.reverse else l) → seg ∈ l := by
      intro l hmem
      split at hmem
      · exact List.mem_reverse.mp hmem
      · exact hmem
    have htcpMin := hpacket.tcpMin
    refine h.built hpacket.headerLen.symm ?_ hpacket.headers
      (hbuilt _ hseg)
    show ihl + 20 ≤ ihl + tcpLen
    omega

/-- The fragments are the runs of the payload, each behind its header. -/
theorem mem_buildFragments {header f : Bytes} {total n : Nat} (hn : 0 < n)
    {l : Bytes} {offset : Nat}
    (h : f ∈ buildFragments header total offset (chunks n l)) :
    ∃ k last, k % n = 0 ∧ k < l.length
      ∧ fragmentHeader header ((l.drop k).take n).length (offset + k) last
        ++ (l.drop k).take n = f := by
  induction hlen : l.length using Nat.strongRecOn
    generalizing l offset with
  | ind len ih =>
      subst hlen
      by_cases hl : l = []
      · subst hl
        cases h
      · have hpos : 0 < l.length := List.length_pos_iff.mpr hl
        rw [chunks_of_ne_nil hn hl, buildFragments, List.mem_cons] at h
        rcases h with hfirst | hrest
        · exact ⟨0, _, Nat.zero_mod n, hpos, hfirst.symm⟩
        · obtain ⟨k, last, hk, hlt, rfl⟩ := ih (l.drop n).length
            (by rw [List.length_drop]; omega) hrest rfl
          rw [List.length_drop] at hlt
          have hfull : (l.take n).length = n := by
            rw [List.length_take]
            omega
          refine ⟨n + k, last, ?_, by omega, ?_⟩
          · rw [Nat.add_mod_left]
            exact hk
          · rw [hfull, List.drop_drop, Nat.add_assoc]

/-- A fragment of a cut packet: a run of its payload behind its header. -/
theorem IsPacket.fragment_eq {b : Bytes} {ihl tcpLen : Nat} {q : Segment}
    (h : IsPacket b ihl tcpLen q) {size : Nat}
    (hcut : 1 < (fragmentIpv4Packet b size).length) {f : Bytes}
    (hf : f ∈ fragmentIpv4Packet b size) :
    0 < size / 8 ∧ ∃ k last, k % 8 = 0 ∧ k < (b.drop ihl).length
      ∧ fragmentHeader (b.take ihl)
          (((b.drop ihl).drop k).take (size / 8 * 8)).length k last
        ++ ((b.drop ihl).drop k).take (size / 8 * 8) = f := by
  obtain ⟨hpos, -, heq⟩ := h.fragments_eq hcut
  rw [heq] at hf
  obtain ⟨k, last, hk, hlt, rfl⟩ := mem_buildFragments (by omega) hf
  refine ⟨hpos, k, last, ?_, hlt, by rw [Nat.zero_add]⟩
  have h8 : 8 ∣ size / 8 * 8 := Nat.dvd_mul_left 8 (size / 8)
  exact Nat.mod_eq_zero_of_dvd
    (Nat.dvd_trans h8 (Nat.dvd_of_mod_eq_zero hk))

/-- The header of a fragment, against the header of the packet. -/
theorem fragmentHeader_agree {header : Bytes} (partLen offset : Nat)
    (last : Bool) (h : 20 ≤ header.length) :
    AgreeOn (fun j => j < 2 ∨ 12 ≤ j) header
      (fragmentHeader header partLen offset last) := by
  unfold fragmentHeader withHeaderChecksum
  simp only
  refine AgreeOn.overwrite ?_ _ (by simp; omega) (by simp; omega)
  refine AgreeOn.overwrite ?_ _ (by simp; omega) (by simp; omega)
  refine AgreeOn.overwrite ?_ _ (by simp; omega) (by simp; omega)
  refine AgreeOn.overwrite ?_ _ (by simp; omega) (by simp; omega)
  exact (AgreeOn.refl _ _).overwrite _ (by simp; omega) (by simp; omega)

/-- The fragment at offset 0 names the flow of the packet. -/
theorem Names.fragment {b : Bytes} {ihl tcpLen : Nat} {q : Segment}
    {key : FlowKey} (h : Names b key) (hpacket : IsPacket b ihl tcpLen q)
    {size : Nat} (hcut : 1 < (fragmentIpv4Packet b size).length) {f : Bytes}
    (hf : f ∈ fragmentIpv4Packet b size) (hzero : fragmentOffset f = 0) :
    Names f key := by
  have hmin := hpacket.ihlMin
  have htcpMin := hpacket.tcpMin
  have hheaders := hpacket.headers
  have hlt := hpacket.length_lt
  obtain ⟨hsize, k, last, hk, hkl, rfl⟩ := hpacket.fragment_eq hcut hf
  have htake : (b.take ihl).length = ihl := by
    rw [List.length_take]
    omega
  have hread : ipv4HeaderLen ((b.take ihl).getD 0 0) = (b.take ihl).length := by
    rw [getD_take (by omega), hpacket.headerLen, htake]
  have hpart : (((b.drop ihl).drop k).take (size / 8 * 8)).length
      ≤ b.length - ihl - k := by
    rw [List.length_take, List.length_drop, List.length_drop]
    omega
  rw [List.length_drop] at hkl
  have hoffset := (fragment_read hread (by omega)
    (((b.drop ihl).drop k).take (size / 8 * 8)) last hk (by omega)).1
  obtain rfl : k = 0 := hoffset.symm.trans hzero
  have hagree := fragmentHeader_agree
    (((b.drop ihl).drop 0).take (size / 8 * 8)).length 0 last
    (show 20 ≤ (b.take ihl).length by omega)
  refine h.of_same fun j hj => ?_
  rw [hpacket.headerLen] at hj
  by_cases hhead : j < ihl
  · rw [getD_append_left (by rw [hagree.length, htake]; exact hhead),
      hagree.getD (by unfold NamesAt at hj; omega), getD_take hhead]
  · obtain ⟨i, rfl⟩ := Nat.exists_eq_add_of_le (Nat.le_of_not_lt hhead)
    unfold NamesAt at hj
    have hsplit := getD_append_right (fragmentHeader (b.take ihl)
      (((b.drop ihl).drop 0).take (size / 8 * 8)).length 0 last)
      (((b.drop ihl).drop 0).take (size / 8 * 8)) i
    rw [hagree.length, htake] at hsplit
    rw [hsplit, getD_take (by omega), List.drop_zero, getD_drop]

-- ============================================================== injected

namespace Linux

variable {E : Etherparse} {buf b : Bytes} {pkt : CapturedPacket}
  {layout : PacketLayout} {view : PacketView} {decoyIo io : RawIo}

/-- What gets out was handed in. -/
theorem RawIo.mem_of_mem_sendAll {i : Nat} {bs : List Bytes}
    (h : b ∈ io.sendAll i bs) : b ∈ bs := by
  obtain ⟨k, hk, -⟩ := io.sendAll_eq_take i bs
  rw [hk] at h
  exact List.mem_of_mem_take h

/-- What of a shaped packet goes through the raw socket: fragments of it,
segments of it, or itself. -/
theorem mem_injectShaped {newBytes : Bytes}
    (h : b ∈ injectShaped io view newBytes) :
    (∃ size, view.ipFragPayloadSize = some size
      ∧ 1 < (fragmentIpv4Packet newBytes size).length
      ∧ b ∈ fragmentIpv4Packet newBytes size)
    ∨ (∃ spec, view.disorderSpec = some spec
      ∧ b ∈ splitTcpPayload newBytes spec)
    ∨ view.emitOriginalAfter = true ∧ b = newBytes := by
  unfold injectShaped at h
  split at h
  case h_1 size hsize =>
    simp only at h
    split at h
    case isTrue hcut =>
      exact .inl ⟨size, hsize, hcut.2, RawIo.mem_of_mem_sendAll h⟩
    case isFalse => cases h
  case h_2 spec _ hspec =>
    simp only at h
    split at h
    · exact .inr (.inl ⟨spec, hspec, RawIo.mem_of_mem_sendAll h⟩)
    · cases h
  case h_3 =>
    split at h
    case isTrue horiginal =>
      exact .inr (.inr ⟨horiginal.1,
        List.mem_singleton.mp (RawIo.mem_of_mem_sendAll h)⟩)
    case isFalse => cases h

/-- What is injected: copies of a staged decoy, and the shaped packet. -/
theorem mem_injected {bs : List Bytes}
    (h : injected E decoyIo io buf layout view = .ok bs) (hb : b ∈ bs) :
    (∃ decoy, view.decoy = some decoy
      ∧ buildModified E buf layout (view.decoyView decoy) = .ok (some b))
    ∨ ∃ newBytes, buildModified E buf layout view = .ok (some newBytes)
      ∧ b ∈ injectShaped io view newBytes := by
  obtain ⟨decoys, hdecoys, h⟩ := bind_eq_ok.mp h
  have hcopies : b ∈ decoys → ∃ decoy, view.decoy = some decoy
      ∧ buildModified E buf layout (view.decoyView decoy)
        = .ok (some b) := by
    intro hmem
    unfold emitDecoys at hdecoys
    split at hdecoys
    · cases hdecoys
      cases hmem
    case h_2 decoy hdecoy =>
      obtain ⟨built, hbuilt, hdecoys⟩ := bind_eq_ok.mp hdecoys
      cases built with
      | none =>
          cases hdecoys
          cases hmem
      | some bytes =>
          rw [← Except.ok.inj hdecoys] at hmem
          split at hmem
          · have hcopy := RawIo.mem_of_mem_sendAll hmem
            rw [(List.mem_replicate.mp hcopy).2]
            exact ⟨decoy, hdecoy, hbuilt⟩
          · cases hmem
  obtain ⟨built, hbuilt, h⟩ := bind_eq_ok.mp h
  cases built with
  | none =>
      cases h
      exact .inl (hcopies hb)
  | some newBytes =>
      cases h
      rcases List.mem_append.mp hb with hmem | hmem
      · exact .inl (hcopies hmem)
      · exact .inr ⟨newBytes, hbuilt, hmem⟩

/-- Whatever the OUTPUT rule sends back to the queue names the flow of
the packet it was injected for. -/
theorem injected_names (hE : E.Lawful) (hA : E.KeepsAddresses)
    (hparse : parseView E .outbound buf = .ok (some (pkt, layout)))
    (hpos : 0 < pkt.payloadLen) {bs : List Bytes}
    (h : injected E decoyIo io buf layout view = .ok bs) (hb : b ∈ bs)
    {filter : FilterSpec} (hqueued : filter.queues b = true) :
    Names b pkt.flowKey := by
  have hzero := filter.fragmentOffset_of_queues hqueued
  rcases mem_injected h hb with ⟨decoy, -, hbuilt⟩ | ⟨newBytes, hbuilt, hmem⟩
  · exact buildModified_names hE hA hparse hpos hbuilt
  · have hnames := buildModified_names hE hA hparse hpos hbuilt
    obtain ⟨built, hbuilt', hspec⟩ :=
      buildModified_spec hE (parseView_spec hparse hpos) view
    obtain ⟨ihl, tcpLen, hpacket⟩ := hspec newBytes
      (Except.ok.inj (hbuilt'.symm.trans hbuilt))
    rcases mem_injectShaped hmem with
      ⟨size, -, hcut, hf⟩ | ⟨spec, -, hseg⟩ | ⟨-, rfl⟩
    · exact hnames.fragment hpacket hcut hf hzero
    · exact hnames.split hpacket hseg
    · exact hnames

end Linux

end ZeroDpi
