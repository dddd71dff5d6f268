/-
Packets as the receiver reads them.

`IsPacket` relates a byte string to the segment its headers describe. The
codec's laws make it true of what `build_modified` writes, and reading an
`IsPacket` back is one lemma, so nothing above this module looks at header
bytes again. The captured packet itself may have bytes behind its total
length; `parseView_received` reads it back as it is.
-/
import ZeroDpi.Platform.Receiver

namespace ZeroDpi

open Lib

/-- A byte string that reads as one whole packet with these headers and
this segment. -/
structure IsPacket (b : Bytes) (ihl tcpLen : Nat) (q : Segment) :
    Prop where
  headerLen : ipv4HeaderLen (b.getD 0 0) = ihl
  ihlMin : 20 ≤ ihl
  total : be16 (b.getD 2 0) (b.getD 3 0) = b.length
  dataOffset : tcpHeaderLen (b.getD (ihl + 12) 0) = tcpLen
  tcpMin : 20 ≤ tcpLen
  headers : ihl + tcpLen ≤ b.length
  seq : be32At b (ihl + 4) = q.seq
  payload : b.drop (ihl + tcpLen) = q.payload

-- ========================================================= reading bytes

theorem getD_drop (b : Bytes) (i j : Nat) :
    (b.drop i).getD j 0 = b.getD (i + j) 0 := by
  simp [List.getD_eq_getElem?_getD]

theorem getD_take {b : Bytes} {n j : Nat} (h : j < n) :
    (b.take n).getD j 0 = b.getD j 0 := by
  simp [List.getD_eq_getElem?_getD, h]

theorem getD_append_left {b c : Bytes} {j : Nat} (h : j < b.length) :
    (b ++ c).getD j 0 = b.getD j 0 := by
  simp [List.getD_eq_getElem?_getD, List.getElem?_append_left h]

theorem getD_append_right (b c : Bytes) (j : Nat) :
    (b ++ c).getD (b.length + j) 0 = c.getD j 0 := by
  rw [List.getD_eq_getElem?_getD,
    List.getElem?_append_right (Nat.le_add_right _ _),
    Nat.add_sub_cancel_left, List.getD_eq_getElem?_getD]

theorem be32At_drop (b : Bytes) (i j : Nat) :
    be32At (b.drop i) j = be32At b (i + j) := by
  simp only [be32At, getD_drop, Nat.add_assoc]

theorem be32At_take {b : Bytes} {n j : Nat} (h : j + 3 < n) :
    be32At (b.take n) j = be32At b j := by
  simp only [be32At]
  rw [getD_take (by omega), getD_take (by omega), getD_take (by omega),
    getD_take h]

theorem be32At_append_left {b c : Bytes} {j : Nat} (h : j + 3 < b.length) :
    be32At (b ++ c) j = be32At b j := by
  simp only [be32At]
  rw [getD_append_left (by omega), getD_append_left (by omega),
    getD_append_left (by omega), getD_append_left h]

theorem be32At_append_right (b c : Bytes) (j : Nat) :
    be32At (b ++ c) (b.length + j) = be32At c j := by
  simp only [be32At, Nat.add_assoc, getD_append_right]

namespace IsPacket

variable {b : Bytes} {ihl tcpLen : Nat} {q : Segment}

theorem length_lt (h : IsPacket b ihl tcpLen q) : b.length < 65536 := by
  rw [← h.total]
  exact be16_lt _ _

theorem length_eq (h : IsPacket b ihl tcpLen q) :
    b.length = ihl + tcpLen + q.payload.length := by
  have := h.headers
  rw [← h.payload, List.length_drop]
  omega

theorem ipPayload_eq (h : IsPacket b ihl tcpLen q) :
    ipPayload b = b.drop ihl := by
  rw [ipPayload, h.total, h.headerLen, List.take_length]

/-- What is behind the IPv4 header reads as the segment. -/
theorem readTcp_drop (h : IsPacket b ihl tcpLen q) :
    readTcp (b.drop ihl) = q := by
  simp only [readTcp, be32At_drop, getD_drop, List.drop_drop, h.seq,
    h.dataOffset, h.payload]

theorem receive_eq (h : IsPacket b ihl tcpLen q) :
    receive (.packet b) = some q := by
  rw [receive, h.ipPayload_eq, h.readTcp_drop]

end IsPacket

-- ================================================== the captured packet

namespace Linux

variable {E : Etherparse} {direction : Direction} {buf : Bytes}
  {pkt : CapturedPacket} {layout : PacketLayout}

/-- What `parse_view` established of a packet with a payload. -/
structure Parsed (E : Etherparse) (buf : Bytes) (pkt : CapturedPacket)
    (layout : PacketLayout) : Prop where
  headers : ∃ ip tcp, E.ipv4FromSlice buf = some ip
    ∧ E.tcpFromSlice (buf.drop ip.headerLen) = some tcp
    ∧ layout.ipHdrLen = ip.headerLen ∧ layout.tcpHdrLen = tcp.headerLen
    ∧ layout.totalLen = ip.totalLen.toNat
    ∧ pkt.seq = tcp.sequenceNumber
  payloadOff : layout.payloadOff = layout.ipHdrLen + layout.tcpHdrLen
  room : layout.payloadOff < layout.totalLen
  whole : layout.totalLen ≤ buf.length
  payload : (buf.drop layout.payloadOff).take
      (layout.totalLen - layout.payloadOff) = pkt.payload

/-- `parse_view` keeps the direction it is given. -/
theorem parseView_direction
    (h : parseView E direction buf = .ok (some (pkt, layout))) :
    pkt.direction = direction := by
  unfold parseView at h
  split at h
  · cases h
  · split at h
    · cases h
    · split at h
      · cases h
      · simp only at h
        split at h
        · cases h
        · cases h
          rfl

theorem parseView_spec
    (h : parseView E direction buf = .ok (some (pkt, layout)))
    (hpos : 0 < pkt.payloadLen) : Parsed E buf pkt layout := by
  unfold parseView at h
  split at h
  · cases h
  case h_2 ip hip =>
    split at h
    · cases h
    · split at h
      · cases h
      case h_2 tcp htcp =>
        simp only at h
        split at h
        · cases h
        case h_2 payload hslice =>
          cases h
          simp only [slice?] at hslice
          split at hslice
          case isFalse => cases hslice
          case isTrue hrange =>
            simp only [Nat.add_sub_cancel_left] at hslice
            cases hslice
            simp only [CapturedPacket.payloadLen, List.length_take,
              List.length_drop] at hpos
            exact {
              headers := ⟨ip, tcp, hip, htcp, rfl, rfl, rfl, rfl⟩
              payloadOff := rfl
              room := by
                show ip.headerLen + tcp.headerLen < ip.totalLen.toNat
                omega
              whole := by
                show ip.totalLen.toNat ≤ buf.length
                omega
              payload := rfl }

/-- TCP header and payload fit into a datagram. -/
theorem parseView_fits
    (h : parseView E direction buf = .ok (some (pkt, layout)))
    (hpos : 0 < pkt.payloadLen) :
    20 + pkt.tcpOptions.length + pkt.payloadLen ≤ 65515 := by
  unfold parseView at h
  split at h
  · cases h
  case h_2 ip hip =>
    split at h
    · cases h
    · split at h
      · cases h
      case h_2 tcp htcp =>
        simp only at h
        split at h
        · cases h
        case h_2 payload hslice =>
          cases h
          have hlt := ip.totalLen.toNat_lt
          simp only [slice?] at hslice
          split at hslice
          case isFalse => cases hslice
          case isTrue =>
            cases hslice
            simp only [CapturedPacket.payloadLen, List.length_take,
              List.length_drop, Ipv4Header.headerLen,
              TcpHeader.headerLen] at hpos ⊢
            omega

/-- The captured packet is received as it was captured. -/
theorem Parsed.receive_eq (hE : E.Lawful) (h : Parsed E buf pkt layout) :
    receive (.packet buf) = some ⟨pkt.seq, pkt.payload⟩ := by
  obtain ⟨ip, tcp, hip, htcp, hihl, htl, htotal, hseq⟩ := h.headers
  have hoff := h.payloadOff
  have hroom := h.room
  have hpay := h.payload
  have hmin : 20 ≤ tcp.headerLen := by simp [TcpHeader.headerLen]
  have hdata : tcpHeaderLen (buf.getD (ip.headerLen + 12) 0)
      = tcp.headerLen := by
    rw [← getD_drop]
    exact hE.tcpDataOffset htcp
  have hat : be32At buf (ip.headerLen + 4) = tcp.sequenceNumber := by
    rw [← be32At_drop]
    exact (hE.tcpSequence htcp).symm
  rw [hoff, hihl, htl, htotal] at hroom
  rw [hoff, hihl, htl, htotal] at hpay
  simp only [receive, ipPayload, ← hE.ipv4TotalLen hip, hE.ipv4Ihl hip,
    readTcp, be32At_drop, getD_drop, List.drop_drop]
  rw [be32At_take (by omega), getD_take (by omega), hdata, hat,
    List.drop_take, hpay, hseq]

-- ======================================================== build_modified

/-- Appending options leaves an option area and the other fields. -/
theorem appendTcpOptions_spec (hE : E.Lawful) {append : Bytes}
    {tcp tcp' : TcpHeader} (h : appendTcpOptions E tcp append = some tcp')
    (harea : OptionArea tcp.options) :
    OptionArea tcp'.options
      ∧ tcp'.sequenceNumber = tcp.sequenceNumber
      ∧ tcp'.sourcePort = tcp.sourcePort
      ∧ tcp'.destinationPort = tcp.destinationPort := by
  unfold appendTcpOptions at h
  split at h
  · cases h
    exact ⟨harea, rfl, rfl, rfl⟩
  · simp only at h
    split at h
    · cases h
    · obtain ⟨padded, hpad, rfl⟩ := Option.map_eq_some_iff.mp h
      exact ⟨hE.padOptions hpad, rfl, rfl, rfl⟩

/-- So do all the staged mutations, but for the staged sequence
number. -/
theorem rewriteTcp_spec (hE : E.Lawful) {view : PacketView}
    {tcp tcp' : TcpHeader} (h : rewriteTcp E view tcp = some tcp')
    (harea : OptionArea tcp.options) :
    OptionArea tcp'.options
      ∧ tcp'.sequenceNumber = view.newSeq.getD tcp.sequenceNumber
      ∧ tcp'.sourcePort = tcp.sourcePort
      ∧ tcp'.destinationPort = tcp.destinationPort := by
  unfold rewriteTcp at h
  cases hreplace : view.replaceTcpOptions with
  | none =>
      rw [hreplace] at h
      exact appendTcpOptions_spec hE h harea
  | some options =>
      rw [hreplace] at h
      obtain ⟨mid, hmid, hend⟩ := Option.bind_eq_some_iff.mp h
      obtain ⟨padded, hpad, rfl⟩ := Option.map_eq_some_iff.mp hmid
      exact appendTcpOptions_spec hE hend (hE.padOptions hpad)

/-- Two headers and a payload, written out, read back. -/
theorem isPacket_written (hE : E.Lawful) {ip : Ipv4Header}
    {tcp : TcpHeader} {payload : Bytes} (hip : OptionArea ip.options)
    (htcp : OptionArea tcp.options)
    (htotal : ip.totalLen.toNat
      = ip.headerLen + (tcp.headerLen + payload.length)) :
    IsPacket (E.ipv4Bytes ip ++ E.tcpBytes tcp ++ payload) ip.headerLen
      tcp.headerLen ⟨tcp.sequenceNumber, payload⟩ := by
  have hipLen := hE.ipv4Length hip
  have htcpLen := hE.tcpLength htcp
  have hipMin : 20 ≤ ip.headerLen := by simp [Ipv4Header.headerLen]
  have htcpMin : 20 ≤ tcp.headerLen := by simp [TcpHeader.headerLen]
  rw [List.append_assoc]
  exact {
    headerLen := by
      rw [getD_append_left (by omega)]
      exact hE.ipv4WriteIhl hip
    ihlMin := hipMin
    total := by
      rw [getD_append_left (by omega), getD_append_left (by omega),
        hE.ipv4WriteTotalLen hip, htotal, List.length_append,
        List.length_append, hipLen, htcpLen]
    dataOffset := by
      rw [← hipLen, getD_append_right, getD_append_left (by omega)]
      exact hE.tcpWriteDataOffset htcp
    tcpMin := htcpMin
    headers := by
      rw [List.length_append, List.length_append, hipLen, htcpLen]
      omega
    seq := by
      rw [← hipLen, be32At_append_right, be32At_append_left (by omega)]
      exact hE.tcpWriteSequence htcp
    payload := by
      rw [← List.append_assoc, List.drop_left' (by
        rw [List.length_append, hipLen, htcpLen])] }

theorem writePacket_spec (hE : E.Lawful) {view : PacketView}
    {ip : Ipv4Header} {tcp : TcpHeader} {payload b : Bytes}
    (hip : OptionArea ip.options) (htcp : OptionArea tcp.options)
    (h : writePacket E view ip tcp payload = some b) :
    IsPacket b ip.headerLen tcp.headerLen ⟨tcp.sequenceNumber, payload⟩ := by
  unfold writePacket at h
  obtain ⟨total, htotal, h⟩ := Option.bind_eq_some_iff.mp h
  obtain ⟨checksum, -, h⟩ := Option.bind_eq_some_iff.mp h
  cases h
  -- length and checksums aside, the headers are the ones handed in
  have hlen := hE.totalLenFor htotal
  exact isPacket_written hE hip htcp hlen

/-- `build_modified` finds the payload of a parsed packet, and what it
builds is a packet with the staged sequence number and payload. -/
theorem buildModified_spec (hE : E.Lawful) (h : Parsed E buf pkt layout)
    (view : PacketView) :
    ∃ built, buildModified E buf layout view = .ok built
      ∧ ∀ b, built = some b → ∃ ihl tcpLen, IsPacket b ihl tcpLen
        ⟨view.newSeq.getD pkt.seq, view.newPayload.getD pkt.payload⟩ := by
  obtain ⟨ip₀, tcp₀, hip₀, htcp₀, hihl, htl, htotal, hseq⟩ := h.headers
  have hroom := h.room
  have hwhole := h.whole
  have hslice : slice? buf layout.payloadOff layout.totalLen
      = some pkt.payload := by
    rw [slice?, if_pos ⟨by omega, hwhole⟩, h.payload]
  unfold buildModified
  split
  case h_2 => exact ⟨none, rfl, nofun⟩
  case h_1 ip tcp hip htcp =>
    have hpayload : view.newPayload.or (some pkt.payload)
        = some (view.newPayload.getD pkt.payload) := by
      cases view.newPayload <;> rfl
    rw [hslice, hpayload]
    refine ⟨_, rfl, fun b hb => ?_⟩
    obtain ⟨tcp', htcp', hb⟩ := Option.bind_eq_some_iff.mp hb
    obtain ⟨harea, hnew, -⟩ := rewriteTcp_spec hE htcp' (hE.tcpOptions htcp)
    have hold : tcp.sequenceNumber = pkt.seq := by
      have hmin : 20 ≤ tcp₀.headerLen := by simp [TcpHeader.headerLen]
      rw [hE.tcpSequence htcp, be32At_take (by omega), hseq,
        hE.tcpSequence htcp₀, hihl]
    have hipArea : OptionArea ip.options := hE.ipv4Options hip
    have hspec := writePacket_spec hE
      (show OptionArea (rewriteIpv4 view ip).options from hipArea) harea hb
    rw [hnew, hold] at hspec
    exact ⟨_, _, hspec⟩

end Linux

end ZeroDpi
