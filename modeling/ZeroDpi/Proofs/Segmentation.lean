/-
TCP segmentation, field by field, and what the receiver makes of it.

A segment is the headers of the packet over one run of its payload.
`IsSegment` is what it says of itself; the runs and where they stand come
from the chunk loop. The segments as they arrive are then the `runs` of
the payload, in order or back to front, and the receiver's own lemmas put
the payload together again.
-/
import ZeroDpi.Proofs.Fragmentation
import ZeroDpi.Lib.TcpReceiver

namespace ZeroDpi

open Lib

/-- The places in the headers of a packet that a split writes to: total
length, header checksum, sequence number, flags and TCP checksum. -/
def splitFields (ihl : Nat) : List Nat :=
  [2, 3, 10, 11, ihl + 4, ihl + 5, ihl + 6, ihl + 7, ihl + 13, ihl + 16,
    ihl + 17]

/-- What a segment is, against the packet `b` it is cut from: the run
`part` of the payload at `offset`, behind the prefix `lead`. -/
structure IsSegment (b : Bytes) (ihl tcpLen : Nat) (lead part : Bytes)
    (offset : Nat) (last : Bool) (seg : Bytes) : Prop where
  arrives : arrival seg
    = (runAt (be32At b (ihl + 4)) offset lead part, readFin (b.drop ihl))
  length : seg.length = ihl + tcpLen + lead.length + part.length
  size : seg.length ≤ 65535
  total : be16 (seg.getD 2 0) (seg.getD 3 0) = seg.length
  ipChecksum : Verifies (wordSum (seg.take ihl))
  tcpChecksum : Verifies (tcpSum seg ihl)
  same : ∀ j, j < ihl + tcpLen → j ∉ splitFields ihl →
    seg.getD j 0 = b.getD j 0
  flags : seg.getD (ihl + 13) 0
    = if last then b.getD (ihl + 13) 0
      else b.getD (ihl + 13) 0 &&& ~~~ 0x08

/-- A packet cut into segments, in the order they are emitted. -/
structure Segmented (b : Bytes) (ihl tcpLen : Nat) (spec : DisorderSpec)
    (parts : List Bytes) (lead : Bytes) (segs : List Bytes) : Prop where
  payload : parts.flatten = b.drop (ihl + tcpLen)
  nonempty : ∀ part ∈ parts, part ≠ []
  several : 2 ≤ parts.length
  count : segs.length = parts.length
  each : ∀ k part, parts[k]? = some part →
    ∃ seg, (if spec.reverse then segs.reverse else segs)[k]? = some seg
      ∧ IsSegment b ihl tcpLen
          (if k = (if spec.reverse then parts.length - 1 else 0) then lead
            else [])
          part (parts.take k).flatten.length (k + 1 = parts.length) seg

-- ========================================================== one segment

section Segment

variable {b lead part : Bytes} {t : SplitLayout} {offset : Nat}
  {ends : Bool}

/-- The bytes of the headers that a segment keeps. -/
theorem buildSegment_same (hmin : 20 ≤ t.ihl)
    (hroom : t.ihl + 20 ≤ t.payloadOff) (hlen : t.payloadOff ≤ b.length)
    {j : Nat} (hj : j < t.payloadOff) (hother : j ∉ splitFields t.ihl) :
    (buildSegment b t lead part offset ends).getD j 0 = b.getD j 0 := by
  simp only [splitFields, List.mem_cons, List.not_mem_nil, or_false,
    not_or] at hother
  have hagree := buildSegment_agree b t lead part offset ends hmin hroom
    hlen
  have hseg : (b.take t.payloadOff ++ lead ++ part).length
      = t.payloadOff + lead.length + part.length := by
    simp only [List.length_append, List.length_take]
    omega
  have hhead : (b.take t.payloadOff ++ lead ++ part).getD j 0
      = b.getD j 0 := by
    rw [List.append_assoc, getD_append_left, getD_take hj]
    rw [List.length_take]
    omega
  have htotal := (AgreeOn.refl (fun j => j < 2 ∨ 4 ≤ j)
    (b.take t.payloadOff ++ lead ++ part)).overwrite
    (toBe16 (t.payloadOff + lead.length + part.length)) (i := 2)
    (by simp; omega) fun _ hj => hj
  have hseq := (AgreeOn.refl (fun j => j < t.ihl + 4 ∨ t.ihl + 8 ≤ j)
    (overwrite (b.take t.payloadOff ++ lead ++ part) 2 (toBe16
      (t.payloadOff + lead.length + part.length)))).overwrite
    (toBe32 (t.origSeq + offset.toUInt32 - lead.length.toUInt32))
    (i := t.ihl + 4) (by rw [htotal.length]; simp; omega) fun _ hj => hj
  rw [hagree.getD (by omega), hseq.getD (by omega), htotal.getD (by omega),
    hhead]

/-- The segment before its flags and checksums are written. -/
theorem buildSegment_stages (b : Bytes) (t : SplitLayout)
    (lead part : Bytes) (offset : Nat) (ends : Bool) (hmin : 20 ≤ t.ihl)
    (hroom : t.ihl + 20 ≤ t.payloadOff) (hlen : t.payloadOff ≤ b.length) :
    ∃ seg : Bytes, seg.length = t.payloadOff + lead.length + part.length
      ∧ buildSegment b t lead part offset ends
        = (let flagsByte := b.getD (t.ihl + 13) 0
          let seg := overwrite seg (t.ihl + 13)
            [if ends then flagsByte else flagsByte &&& ~~~ 0x08]
          let seg := overwrite seg 10 [0, 0]
          let seg := overwrite seg 10
            (toBe16 (ipv4HeaderChecksum (seg.take t.ihl)).toNat)
          let seg := overwrite seg (t.ihl + 16) [0, 0]
          overwrite seg (t.ihl + 16)
            (toBe16 (tcpChecksum seg t.ihl t.tcpHdrLen).toNat)) := by
  have hseg : (b.take t.payloadOff ++ lead ++ part).length
      = t.payloadOff + lead.length + part.length := by
    simp only [List.length_append, List.length_take]
    omega
  refine ⟨_, ?_, rfl⟩
  rw [length_overwrite, length_overwrite, hseg]
  · simp
    omega
  · rw [length_overwrite (by simp; omega)]
    simp
    omega

/-- The flags of a segment. -/
theorem buildSegment_flags (hmin : 20 ≤ t.ihl)
    (hroom : t.ihl + 20 ≤ t.payloadOff) (hlen : t.payloadOff ≤ b.length) :
    (buildSegment b t lead part offset ends).getD (t.ihl + 13) 0
      = if ends then b.getD (t.ihl + 13) 0
        else b.getD (t.ihl + 13) 0 &&& ~~~ 0x08 := by
  obtain ⟨seg, hseg, heq⟩ := buildSegment_stages b t lead part offset ends
    hmin hroom hlen
  simp only at heq
  generalize (if ends then b.getD (t.ihl + 13) 0
    else b.getD (t.ihl + 13) 0 &&& ~~~ 0x08) = flags at heq ⊢
  have hat := getD_overwrite_self [flags] (i := t.ihl + 13)
    (show t.ihl + 13 + 1 ≤ seg.length by omega) 0 (by simp)
  have hlen3 : (overwrite seg (t.ihl + 13) [flags]).length = seg.length :=
    length_overwrite (by simp; omega)
  generalize overwrite seg (t.ihl + 13) [flags] = seg3 at hat hlen3 heq
  have hkeep : AgreeOn (fun j => j = t.ihl + 13) seg3
      (buildSegment b t lead part offset ends) := by
    rw [heq]
    refine AgreeOn.overwrite ?_ _ (by simp; omega) (by simp)
    refine AgreeOn.overwrite ?_ _ (by simp; omega) (by simp)
    refine AgreeOn.overwrite ?_ _ (by simp; omega) (by simp)
    exact (AgreeOn.refl _ seg3).overwrite _ (by simp; omega) (by simp)
  rw [hkeep.getD rfl]
  exact hat

/-- The header checksum of a segment verifies. -/
theorem buildSegment_ipChecksum (hmin : 20 ≤ t.ihl) (hmax : t.ihl < 65536)
    (hroom : t.ihl + 20 ≤ t.payloadOff) (hlen : t.payloadOff ≤ b.length) :
    Verifies (wordSum
      ((buildSegment b t lead part offset ends).take t.ihl)) := by
  obtain ⟨seg, hseg, heq⟩ := buildSegment_stages b t lead part offset ends
    hmin hroom hlen
  simp only at heq
  generalize (if ends then b.getD (t.ihl + 13) 0
    else b.getD (t.ihl + 13) 0 &&& ~~~ 0x08) = flags at heq
  have hlen3 : (overwrite seg (t.ihl + 13) [flags]).length = seg.length :=
    length_overwrite (by simp; omega)
  generalize overwrite seg (t.ihl + 13) [flags] = seg3 at hlen3 heq
  have hlen4 : (overwrite seg3 10 ([0, 0] : Bytes)).length = seg3.length :=
    length_overwrite (by simp; omega)
  have hlen5 : ∀ n, (overwrite (overwrite seg3 10 [0, 0]) 10
      (toBe16 n)).length = seg3.length := by
    intro n
    rw [length_overwrite (by simp; omega), hlen4]
  have hlen6 : ∀ n, (overwrite (overwrite (overwrite seg3 10 [0, 0]) 10
      (toBe16 n)) (t.ihl + 16) [0, 0]).length = seg3.length := by
    intro n
    rw [length_overwrite (by rw [hlen5]; simp; omega), hlen5]
  have htake : (buildSegment b t lead part offset ends).take t.ihl
      = withHeaderChecksum (seg3.take t.ihl) := by
    rw [heq, take_overwrite_of_le (by omega) (by rw [hlen6]; simp; omega),
      take_overwrite_of_le (by omega) (by rw [hlen5]; simp; omega),
      take_overwrite (by simp; omega) (by omega),
      take_overwrite (by simp; omega) (by omega)]
    rfl
  have hhead : (seg3.take t.ihl).length = t.ihl := by
    rw [List.length_take]
    omega
  rw [htake]
  exact withHeaderChecksum_verifies (by omega) (by omega)

/-- The TCP checksum of a segment verifies. -/
theorem buildSegment_tcpChecksum (hmin : 20 ≤ t.ihl)
    (hoff : t.payloadOff = t.ihl + t.tcpHdrLen)
    (hroom : t.ihl + 20 ≤ t.payloadOff) (hlen : t.payloadOff ≤ b.length)
    (hmax : t.payloadOff + lead.length + part.length < 65536) :
    Verifies (tcpSum (buildSegment b t lead part offset ends) t.ihl) := by
  obtain ⟨seg, hseg, heq⟩ := buildSegment_stages b t lead part offset ends
    hmin hroom hlen
  simp only at heq
  generalize (if ends then b.getD (t.ihl + 13) 0
    else b.getD (t.ihl + 13) 0 &&& ~~~ 0x08) = flags at heq
  generalize hseg5 : overwrite (overwrite (overwrite seg (t.ihl + 13)
    [flags]) 10 [0, 0]) 10 (toBe16 (ipv4HeaderChecksum ((overwrite
      (overwrite seg (t.ihl + 13) [flags]) 10 [0, 0]).take t.ihl)).toNat)
    = seg5 at heq
  have hlen5 : seg5.length = seg.length := by
    have hlen3 : (overwrite seg (t.ihl + 13) [flags]).length = seg.length :=
      length_overwrite (by simp; omega)
    have hlen4 : (overwrite (overwrite seg (t.ihl + 13) [flags]) 10
        ([0, 0] : Bytes)).length = seg.length := by
      rw [length_overwrite (by simp; omega), hlen3]
    rw [← hseg5, length_overwrite (by simp; omega), hlen4]
  generalize hz : overwrite seg5 (t.ihl + 16) [0, 0] = z at heq
  have hlenz : z.length = seg5.length := by
    rw [← hz]
    exact length_overwrite (by simp; omega)
  have hdropz : z.drop t.ihl = overwrite (seg5.drop t.ihl) 16 [0, 0] := by
    rw [← hz, drop_overwrite_of_le (by omega) (by simp; omega),
      Nat.add_sub_cancel_left]
  -- the pseudo-header's addresses stand before the field
  have haddr : ((buildSegment b t lead part offset ends).drop 12).take 8
      = (z.drop 12).take 8 := by
    rw [heq, drop_overwrite_of_le (by omega) (by simp; omega),
      take_overwrite_of_le (by omega)]
    rw [List.length_drop, length_toBe16]
    omega
  have hlenall : (buildSegment b t lead part offset ends).length
      = seg.length := by
    rw [heq, length_overwrite (by simp; omega), hlenz, hlen5]
  have hsum : tcpChecksum z t.ihl t.tcpHdrLen
      = onesComplement (wordSum ((z.drop 12).take 8) + 6
        + (seg.length - t.ihl)
        + wordSum (overwrite (seg5.drop t.ihl) 16 [0, 0])) := by
    have hbytes : t.tcpHdrLen + (seg.length - (t.ihl + t.tcpHdrLen))
        = seg.length - t.ihl := by omega
    simp only [tcpChecksum, hdropz, hlenz, hlen5, hbytes]
    rw [Nat.mod_eq_of_lt (by omega)]
  have hpseudo := wordSum_le ((z.drop 12).take 8)
  have hpseudoLen : ((z.drop 12).take 8).length = 8 := by
    rw [List.length_take, List.length_drop]
    omega
  rw [hpseudoLen] at hpseudo
  have hbody := wordSum_le (overwrite (seg5.drop t.ihl) 16 [0, 0])
  have hbodyLen : (overwrite (seg5.drop t.ihl) 16 ([0, 0] : Bytes)).length
      = seg.length - t.ihl := by
    rw [length_overwrite (by rw [List.length_drop]; simp; omega),
      List.length_drop, hlen5]
  rw [hbodyLen] at hbody
  have hwritten := @verifies_written (seg5.drop t.ihl) 16 rfl
    (by rw [List.length_drop]; omega)
    (wordSum ((z.drop 12).take 8) + 6 + (seg.length - t.ihl)) (by omega)
  rw [← hsum, ← hdropz] at hwritten
  rw [tcpSum, haddr, hlenall, heq,
    drop_overwrite_of_le (by omega) (by simp; omega),
    Nat.add_sub_cancel_left]
  exact hwritten

end Segment

/-- The FIN of a segment is the packet's. -/
theorem HasTcp.arrival_segment {b : Bytes} {ihl tcpLen : Nat} {q : Segment}
    (h : HasTcp b ihl tcpLen) {t : SplitLayout} (ht : t.For ihl tcpLen q)
    (lead part : Bytes) (offset : Nat) (ends : Bool)
    (hroom : ihl + tcpLen + lead.length + part.length < 65536) :
    arrival (buildSegment b t lead part offset ends)
      = (runAt q.seq offset lead part, readFin (b.drop ihl)) := by
  have hpacket := h.segment ht lead part offset ends hroom
  have hihl := ht.ihl_eq
  have hoff := ht.payloadOff_eq
  have hmin := h.ihlMin
  have htcpMin := h.tcpMin
  have hheaders := h.headers
  have hflags := @buildSegment_flags b lead part t offset ends (by omega)
    (by omega) (by omega)
  rw [hihl] at hflags
  -- clearing PSH leaves FIN alone
  have hfin : (if ends then b.getD (ihl + 13) 0
      else b.getD (ihl + 13) 0 &&& ~~~ 0x08) &&& 0x01
      = b.getD (ihl + 13) 0 &&& 0x01 := by
    cases ends with
    | true => rfl
    | false =>
        have hmask : (~~~ 0x08 : UInt8) &&& 0x01 = 0x01 := rfl
        rw [if_neg Bool.false_ne_true, UInt8.and_assoc, hmask]
  rw [arrival, hpacket.ipPayload_eq, hpacket.readTcp_drop, readFin,
    readFin, getD_drop, getD_drop, hflags, hfin]

/-- One built segment, in full. -/
theorem HasTcp.isSegment {b : Bytes} {ihl tcpLen : Nat} {q : Segment}
    (h : HasTcp b ihl tcpLen) {t : SplitLayout} (ht : t.For ihl tcpLen q)
    (htcp : t.tcpHdrLen = tcpLen) (hseq : q.seq = be32At b (ihl + 4))
    (lead part : Bytes) (offset : Nat) (ends : Bool)
    (hroom : ihl + tcpLen + lead.length + part.length < 65536) :
    IsSegment b ihl tcpLen lead part offset ends
      (buildSegment b t lead part offset ends) := by
  have hpacket := h.segment ht lead part offset ends hroom
  have harrival := h.arrival_segment ht lead part offset ends hroom
  obtain ⟨hihl, hoff, -⟩ := ht
  have hmin := h.ihlMin
  have htcpMin := h.tcpMin
  have hheaders := h.headers
  have hlen := hpacket.length_eq
  have hlt := hpacket.length_lt
  simp only [runAt, List.length_append] at hlen
  have hihlMin : 20 ≤ t.ihl := by omega
  have hbehind : t.ihl + 20 ≤ t.payloadOff := by omega
  have hfits : t.payloadOff ≤ b.length := by omega
  rw [← hihl]
  exact {
    arrives := by rw [harrival, hseq, hihl]
    length := by omega
    size := by omega
    total := hpacket.total
    ipChecksum :=
      buildSegment_ipChecksum hihlMin (by omega) hbehind hfits
    tcpChecksum :=
      buildSegment_tcpChecksum hihlMin (by omega) hbehind hfits (by omega)
    same := fun j hj hother =>
      buildSegment_same hihlMin hbehind hfits (by omega) hother
    flags := buildSegment_flags hihlMin hbehind hfits }

-- ============================================================= the loop

section Loop

variable {b lead : Bytes} {t : SplitLayout} {n overlapIndex : Nat}

/-- The segment at `k` is the run at `k`. -/
theorem getElem?_buildSegments (index offset : Nat) (parts : List Bytes)
    (k : Nat) :
    (buildSegments b t n lead overlapIndex index offset parts)[k]?
      = (parts[k]?).map fun part => buildSegment b t
          (if index + k = overlapIndex then lead else []) part
          (offset + (parts.take k).flatten.length)
          (offset + (parts.take k).flatten.length + part.length = n) := by
  induction parts generalizing index offset k with
  | nil => rfl
  | cons part rest ih =>
      cases k with
      | zero => rfl
      | succ k =>
          rw [buildSegments, List.getElem?_cons_succ, ih,
            List.getElem?_cons_succ, List.take_succ_cons,
            List.flatten_cons, List.length_append, Nat.add_assoc index,
            Nat.add_comm 1, Nat.add_assoc offset]

theorem length_buildSegments (index offset : Nat) (parts : List Bytes) :
    (buildSegments b t n lead overlapIndex index offset parts).length
      = parts.length := by
  induction parts generalizing index offset with
  | nil => rfl
  | cons part rest ih =>
      rw [buildSegments, List.length_cons, List.length_cons, ih]

/-- The segments arrive as the runs of the payload. -/
theorem HasTcp.arrival_segments {ihl tcpLen : Nat} {q : Segment}
    (h : HasTcp b ihl tcpLen) (ht : t.For ihl tcpLen q)
    (index offset : Nat) {parts : List Bytes}
    (hroom : ∀ part ∈ parts,
      ihl + tcpLen + lead.length + part.length < 65536) :
    (buildSegments b t n lead overlapIndex index offset parts).map arrival
      = (runs q.seq (fun k => if k = overlapIndex then lead else []) index
          offset parts).map (·, readFin (b.drop ihl)) := by
  induction parts generalizing index offset with
  | nil => rfl
  | cons part rest ih =>
      have hpart := hroom part List.mem_cons_self
      have hlead := length_ite_lead lead (index = overlapIndex)
      rw [buildSegments, runs, List.map_cons, List.map_cons,
        h.arrival_segment ht _ _ _ _ (by omega),
        ih (index + 1) (offset + part.length)
          (fun part' hpart' => hroom part' (List.mem_cons_of_mem _ hpart'))]

end Loop

-- ============================================================ the packet

/-- More than one segment, and none of them empty, means shorter runs. -/
theorem chunk_lt {len segments : Nat} (hmany : 2 ≤ segments)
    (hroom : segments ≤ len) :
    0 < (len + segments - 1) / segments
      ∧ (len + segments - 1) / segments < len := by
  constructor
  · exact Nat.div_pos (by omega) (by omega)
  · rw [Nat.div_lt_iff_lt_mul (by omega)]
    obtain ⟨m, rfl⟩ : ∃ m, segments = m + 2 := ⟨segments - 2, by omega⟩
    obtain ⟨k, rfl⟩ : ∃ k, len = k + (m + 2) := ⟨len - (m + 2), by omega⟩
    have hmul : (k + (m + 2)) * (m + 2)
        = k * m + 2 * k + (m * m + 4 * m + 4) := by grind
    rw [hmul]
    have := Nat.zero_le (k * m)
    have := Nat.zero_le (m * m)
    omega

/-- The loop over a packet that is split. -/
theorem splitTcpPayload_eq {b : Bytes} {ihl tcpLen : Nat}
    (h : HasTcp b ihl tcpLen) {spec : DisorderSpec}
    (hmany : 2 ≤ spec.segments) {payload : Bytes}
    (hpay : b.drop (ihl + tcpLen) = payload)
    (hroom : spec.segments ≤ payload.length) {chunk : Nat}
    (hchunk : (payload.length + spec.segments - 1) / spec.segments
      = chunk) :
    ∃ t : SplitLayout, t.For ihl tcpLen ⟨be32At b (ihl + 4), payload⟩
      ∧ t.tcpHdrLen = tcpLen
      ∧ splitTcpPayload b spec
        = (let built := buildSegments b t payload.length
            (overlapPrefix spec (ihl + tcpLen) chunk)
            (if spec.reverse then (chunks chunk payload).length - 1 else 0)
            0 0 (chunks chunk payload)
          if spec.reverse then built.reverse else built) := by
  have hpos := (chunk_lt hmany hroom).1
  rw [hchunk] at hpos
  refine ⟨⟨ihl, tcpLen, ihl + tcpLen, chunk, be32At b (ihl + 4)⟩,
    ⟨rfl, rfl, rfl⟩, rfl, ?_⟩
  unfold splitTcpPayload
  simp only [splitHeaders?_eq_some.mpr h, hpay, hchunk,
    ← length_chunks hpos]
  rw [if_neg (by omega)]
  rfl

/-- Back to front, the prefix is shorter than a run. -/
theorem overlapPrefix_lt {spec : DisorderSpec} (h : spec.reverse = true)
    (off : Nat) {chunk : Nat} (hpos : 0 < chunk) :
    (overlapPrefix spec off chunk).length < chunk := by
  unfold overlapPrefix
  simp only [h, true_and]
  split
  · exact hpos
  case isFalse hfits =>
    rw [not_or] at hfits
    omega

/-- The prefix is not longer than the packet has room for. -/
theorem ite_lead_room {lead part : Bytes} {off chunk : Nat}
    {spec : DisorderSpec} (hlead : overlapPrefix spec off chunk = lead)
    (hpart : part.length ≤ chunk) (hfits : off + part.length < 65536)
    (c : Prop) [Decidable c] :
    off + (if c then lead else []).length + part.length < 65536 := by
  have hroom := overlapPrefix_room spec hpart hfits
  rw [hlead] at hroom
  split
  · exact hroom
  · simpa using hfits

section Split

variable {b : Bytes} {ihl tcpLen : Nat} {spec : DisorderSpec}
  {payload : Bytes} {chunk : Nat}

/-- The segments of a packet that is split. -/
theorem HasTcp.segmented (h : HasTcp b ihl tcpLen)
    (hmax : b.length ≤ 65535) (hmany : 2 ≤ spec.segments)
    (hpay : b.drop (ihl + tcpLen) = payload)
    (hroom : spec.segments ≤ payload.length)
    (hchunk : (payload.length + spec.segments - 1) / spec.segments
      = chunk) :
    Segmented b ihl tcpLen spec (chunks chunk payload)
      (overlapPrefix spec (ihl + tcpLen) chunk) (splitTcpPayload b spec) := by
  obtain ⟨t, ht, htcp, heq⟩ := splitTcpPayload_eq h hmany hpay hroom hchunk
  obtain ⟨hpos, hlt⟩ := chunk_lt hmany hroom
  rw [hchunk] at hpos hlt
  have hlen := congrArg List.length hpay
  rw [List.length_drop] at hlen
  have hheaders := h.headers
  rw [heq]
  simp only
  refine ⟨?_, ?_, ?_, ?_, ?_⟩
  · rw [chunks_flatten hpos, hpay]
  · exact fun part hpart => (mem_chunks hpos hpart).1
  · rw [length_chunks hpos, Nat.le_div_iff_mul_le hpos]
    omega
  · split
    · rw [List.length_reverse, length_buildSegments]
    · rw [length_buildSegments]
  · intro k part hk
    have hsplit : chunks chunk payload
        = (chunks chunk payload).take k
          ++ part :: (chunks chunk payload).drop (k + 1) := by
      obtain ⟨hlt, hget⟩ := List.getElem?_eq_some_iff.mp hk
      rw [← hget, List.getElem_cons_drop, List.take_append_drop]
    obtain ⟨-, hle, -, -, hend, hin⟩ := chunks_place hpos hsplit
    have hinOrder : ∀ built : List Bytes, (if spec.reverse then
        (if spec.reverse then built.reverse else built).reverse
        else (if spec.reverse then built.reverse else built)) = built := by
      intro built
      cases spec.reverse with
      | true => exact List.reverse_reverse built
      | false => rfl
    have hlast : decide (0 + ((chunks chunk payload).take k).flatten.length
        + part.length = payload.length)
        = decide (k + 1 = (chunks chunk payload).length) := by
      obtain ⟨hlt, -⟩ := List.getElem?_eq_some_iff.mp hk
      rw [List.drop_eq_nil_iff] at hend
      rw [decide_eq_decide]
      omega
    rw [hinOrder, getElem?_buildSegments, hk, Option.map_some, hlast]
    refine ⟨_, rfl, ?_⟩
    rw [Nat.zero_add, Nat.zero_add]
    exact h.isSegment ht htcp rfl _ _ _ _
      (ite_lead_room rfl hle (by omega) _)

/-- How the segments of a packet arrive: as the runs `parts` of the
payload, each behind its lead and all with the FIN of the packet. -/
structure RunsArrive (seq : UInt32) (payload : Bytes) (rev fin : Bool)
    (leads : Nat → Bytes) (parts : List Bytes) (segs : List Bytes) :
    Prop where
  arrivals : segs.map arrival
    = (if rev then (runs seq leads 0 0 parts).reverse
      else runs seq leads 0 0 parts).map (·, fin)
  flat : parts.flatten = payload
  several : 2 ≤ parts.length
  nonempty : ∀ part ∈ parts, part ≠ []
  small : payload.length < 0x80000000
  leadSmall : ∀ k, (leads k).length < 0x80000000
  first : rev = true → leads 0 = []
  fit : rev = true → ∀ before part after, parts = before ++ part :: after →
    after ≠ [] → ∀ k, (leads k).length < part.length

/-- The segments of a packet that is split arrive so. -/
theorem HasTcp.runsArrive (h : HasTcp b ihl tcpLen)
    (hmax : b.length ≤ 65535) (hmany : 2 ≤ spec.segments)
    (hpay : b.drop (ihl + tcpLen) = payload)
    (hroom : spec.segments ≤ payload.length)
    (hchunk : (payload.length + spec.segments - 1) / spec.segments
      = chunk) :
    ∃ leads, RunsArrive (be32At b (ihl + 4)) payload spec.reverse
      (readFin (b.drop ihl)) leads (chunks chunk payload)
      (splitTcpPayload b spec) := by
  obtain ⟨t, ht, -, heq⟩ := splitTcpPayload_eq h hmany hpay hroom hchunk
  obtain ⟨hpos, hlt⟩ := chunk_lt hmany hroom
  rw [hchunk] at hpos hlt
  have hlen := congrArg List.length hpay
  rw [List.length_drop] at hlen
  have hheaders := h.headers
  have hlead : (overlapPrefix spec (ihl + tcpLen) chunk).length < 65536 := by
    have := overlapPrefix_room spec (Nat.zero_le chunk)
      (show ihl + tcpLen + 0 < 65536 by omega)
    omega
  have hfits : ∀ part ∈ chunks chunk payload, ihl + tcpLen
      + (overlapPrefix spec (ihl + tcpLen) chunk).length + part.length
        < 65536 := by
    intro part hpart
    have hle := (mem_chunks hpos hpart).2
    exact overlapPrefix_room spec hle (by omega)
  have hseveral : 2 ≤ (chunks chunk payload).length := by
    rw [length_chunks hpos, Nat.le_div_iff_mul_le hpos]
    omega
  refine ⟨fun k => if k = (if spec.reverse then
    (chunks chunk payload).length - 1 else 0) then
      overlapPrefix spec (ihl + tcpLen) chunk else [],
    ?_, chunks_flatten hpos payload, hseveral,
    fun part hpart => (mem_chunks hpos hpart).1, by omega,
    fun k => Nat.lt_of_le_of_lt (length_ite_lead _ _) (by omega), ?_, ?_⟩
  · have hsegs : ∀ index, (buildSegments b t payload.length
        (overlapPrefix spec (ihl + tcpLen) chunk) index 0 0
        (chunks chunk payload)).map arrival
          = (runs (be32At b (ihl + 4)) (fun k => if k = index then
              overlapPrefix spec (ihl + tcpLen) chunk else []) 0 0
            (chunks chunk payload)).map (·, readFin (b.drop ihl)) :=
      fun _ => h.arrival_segments ht 0 0 hfits
    rw [heq]
    simp only
    split
    · rw [List.map_reverse, hsegs, List.map_reverse]
    · exact hsegs 0
  · intro hrev
    rw [if_pos hrev, if_neg (by omega)]
  · intro hrev before part after hsplit hafter k
    rw [length_of_chunks hpos hsplit hafter]
    exact Nat.lt_of_le_of_lt (length_ite_lead _ _)
      (overlapPrefix_lt hrev _ hpos)

end Split

theorem RunsArrive.count {seq : UInt32} {payload : Bytes}
    {rev fin : Bool} {leads : Nat → Bytes} {parts segs : List Bytes}
    (h : RunsArrive seq payload rev fin leads parts segs) :
    segs.length = parts.length := by
  have hlen := congrArg List.length h.arrivals
  rw [List.length_map, List.length_map] at hlen
  rw [hlen]
  split
  · rw [List.length_reverse, Receiver.length_runs]
  · exact Receiver.length_runs 0 0

/-- Runs without FIN are put together. -/
theorem RunsArrive.reassembled {seq : UInt32} {payload : Bytes}
    {rev : Bool} {leads : Nat → Bytes} {parts segs : List Bytes}
    (h : RunsArrive seq payload rev false leads parts segs) :
    let r := (Receiver.idle seq []).receiveAll (segs.map arrival)
    r.delivered = payload ∧ r.closed = false := by
  have hsmall := h.small
  simp only [h.arrivals]
  rw [← h.flat] at hsmall ⊢
  cases rev with
  | false =>
      have hall := @Receiver.receiveAll_runs seq leads h.leadSmall parts
        hsmall 0 0 []
      have hzero : seq + (0 : Nat).toUInt32 = seq := UInt32.add_zero _
      rw [hzero] at hall
      rw [if_neg Bool.false_ne_true, hall]
      exact ⟨rfl, rfl⟩
  | true =>
      have hall := @Receiver.receiveAll_reverse leads parts hsmall
        (h.first rfl) h.nonempty (h.fit rfl) seq
      exact ⟨hall.1, hall.2.1⟩

/-- Some of the runs, none of them empty, are less than all of them. -/
theorem length_flatten_take_lt {parts : List Bytes} {k : Nat}
    (hne : ∀ part ∈ parts, part ≠ []) (hk : k < parts.length) :
    (parts.take k).flatten.length < parts.flatten.length := by
  have hpos := List.length_pos_iff.mpr
    (hne parts[k] (List.getElem_mem hk))
  conv => rhs; rw [← List.take_append_drop k parts]
  rw [List.flatten_append, List.length_append, List.drop_eq_getElem_cons hk,
    List.flatten_cons, List.length_append]
  omega

/-- The first run is not all of the payload. -/
theorem RunsArrive.first_lt {seq : UInt32} {payload : Bytes}
    {rev fin : Bool} {leads : Nat → Bytes} {parts segs : List Bytes}
    (h : RunsArrive seq payload rev fin leads parts segs) :
    ∃ part next rest, parts = part :: next :: rest
      ∧ part.length < payload.length := by
  have hseveral := h.several
  cases parts with
  | nil => cases hseveral
  | cons part tail =>
      cases tail with
      | nil =>
          rw [List.length_singleton] at hseveral
          omega
      | cons next rest =>
          refine ⟨part, next, rest, rfl, ?_⟩
          have hnext := List.length_pos_iff.mpr (h.nonempty next (by simp))
          have hlen := congrArg List.length h.flat
          rw [List.flatten_cons, List.flatten_cons, List.length_append,
            List.length_append] at hlen
          omega

/-- Behind a FIN the receiver takes nothing, and the run that comes first
has one. -/
theorem RunsArrive.truncated {seq : UInt32} {payload : Bytes} {rev : Bool}
    {leads : Nat → Bytes} {parts segs : List Bytes}
    (h : RunsArrive seq payload rev true leads parts segs) :
    ((Receiver.idle seq []).receiveAll
      (segs.map arrival)).delivered.length < payload.length := by
  have hsmall := h.small
  obtain ⟨part, next, rest, hparts, hfirst⟩ := h.first_lt
  refine Nat.lt_of_le_of_lt ?_ hfirst
  rw [h.arrivals, hparts]
  cases rev with
  | false =>
      exact Receiver.delivered_runs_fin h.leadSmall
        (by rwa [← hparts, h.flat])
  | true =>
      exact Receiver.delivered_reverse_fin
        (h.fit rfl [] part _ hparts (by simp)) (by rwa [← hparts, h.flat])

/-- A run that does not arrive is missing. -/
theorem RunsArrive.incomplete {seq : UInt32} {payload : Bytes}
    {rev fin : Bool} {leads : Nat → Bytes} {parts segs : List Bytes}
    (h : RunsArrive seq payload rev fin leads parts segs) {k : Nat}
    (hk : k < parts.length) :
    ((Receiver.idle seq []).receiveAll
      ((segs.take k).map arrival)).delivered.length < payload.length := by
  have hsmall := h.small
  rw [List.map_take, h.arrivals, ← List.map_take]
  cases rev with
  | false =>
      have hle := @Receiver.delivered_take_runs seq leads parts
        h.leadSmall (by rwa [h.flat]) k fin
      have hlt := length_flatten_take_lt h.nonempty hk
      rw [h.flat] at hlt
      rw [if_neg Bool.false_ne_true]
      exact Nat.lt_of_le_of_lt hle hlt
  | true =>
      obtain ⟨part, next, rest, hparts, hfirst⟩ := h.first_lt
      have hfew : k ≤ (next :: rest).length := by
        rw [hparts, List.length_cons] at hk
        omega
      have hnone := @Receiver.delivered_take_reverse seq leads part _
        (h.fit rfl [] part _ hparts (by simp))
        (by rwa [← hparts, h.flat]) k hfew fin
      rw [if_pos rfl, hparts, hnone, List.length_nil]
      omega

/-- The payload is delivered if all of them arrive, and no FIN is on
them. -/
theorem RunsArrive.delivered_iff {seq : UInt32} {payload : Bytes}
    {rev fin : Bool} {leads : Nat → Bytes} {parts segs : List Bytes}
    (h : RunsArrive seq payload rev fin leads parts segs) (k : Nat) :
    ((Receiver.idle seq []).receiveAll
        ((segs.take k).map arrival)).delivered = payload
      ↔ parts.length ≤ k ∧ fin = false := by
  have hcount := h.count
  constructor
  · intro hdelivered
    have hwhole := congrArg List.length hdelivered
    by_cases hall : parts.length ≤ k
    · refine ⟨hall, ?_⟩
      cases fin with
      | false => rfl
      | true =>
          have hlt := h.truncated
          rw [List.take_of_length_le (by omega)] at hwhole
          omega
    · have hlt := h.incomplete (Nat.lt_of_not_le hall)
      omega
  · intro hgiven
    obtain ⟨hall, rfl⟩ := hgiven
    rw [List.take_of_length_le (by omega)]
    exact h.reassembled.1

/-- A packet without FIN that is split is put together by the receiver,
prefix or not. -/
theorem splitTcpPayload_received {b : Bytes} {ihl tcpLen : Nat}
    {spec : DisorderSpec} (h : splitHeaders? b = some (ihl, tcpLen))
    (hmax : b.length ≤ 65535) (hfin : readFin (b.drop ihl) = false)
    (hmany : 2 ≤ spec.segments)
    (hroom : spec.segments ≤ (b.drop (ihl + tcpLen)).length) :
    let payload := b.drop (ihl + tcpLen)
    let chunk := (payload.length + spec.segments - 1) / spec.segments
    let segs := splitTcpPayload b spec
    let r := (Receiver.idle (be32At b (ihl + 4)) []).receiveAll
      (segs.map arrival)
    Segmented b ihl tcpLen spec (chunks chunk payload)
        (overlapPrefix spec (ihl + tcpLen) chunk) segs
      ∧ r.delivered = payload ∧ r.closed = false := by
  have hheaders := splitHeaders?_eq_some.mp h
  obtain ⟨leads, hruns⟩ := hheaders.runsArrive hmax hmany rfl hroom rfl
  rw [hfin] at hruns
  exact ⟨hheaders.segmented hmax hmany rfl hroom rfl, hruns.reassembled⟩

/-- A packet with five bytes of payload, as the backend rebuilds it. -/
def dataPacket : Bytes :=
  [0x45, 0, 0, 45, 0, 7, 0x40, 0, 64, 6, 0, 0, 10, 0, 0, 1, 1, 1, 1, 1]
    ++ [0, 80, 1, 187, 0xFF, 0xFF, 0xFF, 0xFE, 0, 0, 0, 1, 0x50, 0x18, 4, 0,
      0, 0, 0, 0]
    ++ [1, 2, 3, 4, 5]

/-- Three segments back to front, behind one byte of prefix. -/
def reverseSpec : DisorderSpec where
  segments := 3
  reverse := true
  delayMs := 0
  overlap := some ⟨1, some [9, 9], 0⟩

theorem splitTcpPayload_received_dataPacket :
    splitHeaders? dataPacket = some (20, 20)
      ∧ ((Receiver.idle 0xFFFFFFFE []).receiveAll
        ((splitTcpPayload dataPacket reverseSpec).map arrival)).delivered
          = [1, 2, 3, 4, 5] :=
  have h : splitHeaders? dataPacket = some (20, 20) := by decide
  ⟨h, (@splitTcpPayload_received _ _ _ reverseSpec h (by decide)
    (by decide) (by decide) (by decide)).2.1⟩

-- ================================================================== FIN

/-- Only what ends the payload carries FIN, and the receiver gets all of
the payload and the end of the stream behind it. -/
def EndsStream (seq : UInt32) (payload : Bytes) (segs : List Bytes) :
    Prop :=
  (∀ seg ∈ segs, (arrival seg).2 = true →
      (arrival seg).1.seq + (arrival seg).1.payload.length.toUInt32
        = seq + payload.length.toUInt32)
    ∧ let r := (Receiver.idle seq []).receiveAll (segs.map arrival)
      r.delivered = payload ∧ r.closed = true
        ∧ r.next = seq + payload.length.toUInt32

instance (seq : UInt32) (payload : Bytes) (segs : List Bytes) :
    Decidable (EndsStream seq payload segs) :=
  inferInstanceAs (Decidable (_ ∧ _))

/-- A packet in one piece ends the stream where it should. -/
theorem IsPacket.endsStream {b : Bytes} {ihl tcpLen : Nat} {q : Segment}
    (h : IsPacket b ihl tcpLen q) (hfin : readFin (b.drop ihl) = true) :
    EndsStream q.seq q.payload [b] := by
  have harrival : arrival b = (q, true) := by
    rw [arrival, h.ipPayload_eq, h.readTcp_drop, hfin]
  have hlen := h.length_eq
  have hlt := h.length_lt
  have hseq : q.seq = q.seq - ([] : Bytes).length.toUInt32 :=
    (UInt32.sub_zero q.seq).symm
  have haccept := Receiver.accept_next
    (show q.payload = [] ++ q.payload from rfl) hseq (by simp) (by omega)
    [] true
  constructor
  · intro seg hseg _
    rw [List.mem_singleton.mp hseg, harrival]
  · simp only [List.map_cons, List.map_nil, Receiver.receiveAll,
      List.foldl_cons, List.foldl_nil, harrival, haccept]
    exact ⟨rfl, trivial, trivial⟩

/-- Splitting keeps the end of the stream if there is no splitting: FIN
is in every segment. -/
theorem splitTcpPayload_endsStream_iff {b : Bytes} {ihl tcpLen : Nat}
    {q : Segment} (h : IsPacket b ihl tcpLen q)
    (hfin : readFin (b.drop ihl) = true) (spec : DisorderSpec) :
    EndsStream q.seq q.payload (splitTcpPayload b spec)
      ↔ spec.segments < 2 ∨ q.payload.length < spec.segments := by
  constructor
  · intro hends
    by_cases hwhole : spec.segments < 2 ∨ q.payload.length < spec.segments
    · exact hwhole
    exfalso
    have hlt := h.length_lt
    have hlen := h.length_eq
    have hsegs := h.hasTcp.segmented (by omega)
      (show 2 ≤ spec.segments by omega) h.payload (by omega) rfl
    have hflat := hsegs.payload
    rw [h.payload] at hflat
    generalize chunks ((q.payload.length + spec.segments - 1)
      / spec.segments) q.payload = parts at hsegs hflat
    -- the first run of the payload, and the one behind it
    obtain ⟨part, next, rest, rfl⟩ : ∃ part next rest,
        parts = part :: next :: rest := by
      match parts, hsegs.several with
      | part :: next :: rest, _ => exact ⟨part, next, rest, rfl⟩
    obtain ⟨seg, hat, hseg⟩ := hsegs.each 0 part rfl
    have hmem : seg ∈ splitTcpPayload b spec := by
      have hin := List.mem_of_getElem? hat
      split at hin
      · exact List.mem_reverse.mp hin
      · exact hin
    have hend := hends.1 seg hmem (by rw [hseg.arrives, hfin])
    have hnext := List.length_pos_iff.mpr (hsegs.nonempty next (by simp))
    have htotal := congrArg List.length hflat
    rw [List.flatten_cons, List.flatten_cons, List.length_append,
      List.length_append] at htotal
    rw [hseg.arrives, h.seq] at hend
    simp only [runAt, List.length_append] at hend
    have hsame : part.length.toUInt32 = q.payload.length.toUInt32 := by
      simp only [List.take_zero, List.flatten_nil, List.length_nil,
        Nat.toUInt32_eq, UInt32.ofNat_add] at hend ⊢
      grind
    have hnat := congrArg UInt32.toNat hsame
    rw [Receiver.toNat_ofNat_lt (by omega),
      Receiver.toNat_ofNat_lt (by omega)] at hnat
    omega
  · intro hwhole
    have heq : splitTcpPayload b spec = [b] := by
      unfold splitTcpPayload
      simp only [h.splitHeaders, h.payload]
      exact if_pos hwhole
    rw [heq]
    exact h.endsStream hfin

/-- The same packet with FIN. -/
def closingPacket : Bytes := overwrite dataPacket 33 [0x19]

theorem closingPacket_isPacket :
    IsPacket closingPacket 20 20 ⟨0xFFFFFFFE, [1, 2, 3, 4, 5]⟩ where
  headerLen := rfl
  ihlMin := Nat.le_refl 20
  total := rfl
  dataOffset := rfl
  tcpMin := Nat.le_refl 20
  headers := by decide
  seq := rfl
  payload := rfl

theorem splitTcpPayload_endsStream_closingPacket :
    ¬ EndsStream 0xFFFFFFFE [1, 2, 3, 4, 5]
      (splitTcpPayload closingPacket reverseSpec) := by
  intro hends
  have hwhole := (splitTcpPayload_endsStream_iff closingPacket_isPacket
    (by decide) reverseSpec).mp hends
  revert hwhole
  decide

/-- In order, the receiver takes the FIN of the first segment for the end
of the stream. -/
theorem splitTcpPayload_truncates :
    let spec : DisorderSpec := ⟨2, false, 0, none⟩
    let segs := splitTcpPayload closingPacket spec
    IsPacket closingPacket 20 20 ⟨0xFFFFFFFE, [1, 2, 3, 4, 5]⟩
      ∧ readFin (closingPacket.drop 20) = true
      ∧ ¬ EndsStream 0xFFFFFFFE [1, 2, 3, 4, 5] segs
      ∧ ((Receiver.idle 0xFFFFFFFE []).receiveAll
          (segs.map arrival)).delivered = [1, 2, 3] := by
  refine ⟨closingPacket_isPacket, ?_, ?_, ?_⟩
  · decide
  · decide
  · decide

end ZeroDpi
