/-
What a backend emits, as the receiver reads it.

The two ways a rebuilt packet is cut up keep its segment. IP fragments
reassemble to the packet's payload, and no proper part of them does. TCP
segments are runs of the payload at their own sequence numbers, one of
them behind the overlap prefix, so they tile it whatever their order.
-/
import ZeroDpi.Proofs.Packet

namespace ZeroDpi

open Lib

-- ========================================================= writing bytes

/-- The `k`-th written byte. -/
theorem getD_overwrite_self {l : Bytes} {i : Nat} (bs : Bytes)
    (h : i + bs.length ≤ l.length) (k : Nat) (hk : k < bs.length) :
    (overwrite l i bs).getD (i + k) 0 = bs.getD k 0 := by
  rw [List.getD_eq_getElem?_getD, getElem?_overwrite_self h hk,
    List.getD_eq_getElem?_getD]

theorem be16_overwrite {l : Bytes} {i : Nat} (n : Nat)
    (h : i + 2 ≤ l.length) :
    be16 ((overwrite l i (toBe16 n)).getD i 0)
      ((overwrite l i (toBe16 n)).getD (i + 1) 0) = n % 65536 := by
  have hat := getD_overwrite_self (toBe16 n) h
  have h0 := hat 0 (by simp)
  rw [Nat.add_zero] at h0
  rw [h0, hat 1 (by simp)]
  exact be16_toBe16 n

theorem be32At_overwrite {l : Bytes} {i : Nat} (n : UInt32)
    (h : i + 4 ≤ l.length) :
    be32At (overwrite l i (toBe32 n)) i = n := by
  have hat := getD_overwrite_self (toBe32 n) h
  have h0 := hat 0 (by simp)
  rw [Nat.add_zero] at h0
  rw [be32At, h0, hat 1 (by simp), hat 2 (by simp), hat 3 (by simp)]
  exact be32_toBe32 n

-- ============================================================= fragments

/-- The checksum field aside, a header keeps its bytes. -/
theorem withHeaderChecksum_agree (header : Bytes)
    (h : 12 ≤ header.length) :
    AgreeOn (fun j => j < 10 ∨ 12 ≤ j) header
      (withHeaderChecksum header) :=
  ((AgreeOn.refl _ header).overwrite [0, 0] h fun _ hj => hj).overwrite
    (toBe16 _) h fun _ hj => hj

/-- What the header of a fragment says, against the header of the
packet. -/
structure FragmentHeader (header f : Bytes) (partLen flags : Nat) :
    Prop where
  length : f.length = header.length
  first : f.getD 0 0 = header.getD 0 0
  total : be16 (f.getD 2 0) (f.getD 3 0)
    = (header.length + partLen) % 65536
  flags : be16 (f.getD 6 0) (f.getD 7 0) = flags % 65536

theorem fragmentHeader_spec {header : Bytes} (partLen offset : Nat)
    (last : Bool) (h : 20 ≤ header.length) :
    FragmentHeader header (fragmentHeader header partLen offset last)
      partLen
      (if last then offset / 8 else offset / 8 % 65536 ||| 0x2000) := by
  unfold fragmentHeader
  simp only
  generalize (if last = true then offset / 8
    else offset / 8 % 65536 ||| 0x2000) = flags
  -- the header after each of the first three writes
  generalize hh1 : overwrite header 2 (toBe16 (header.length + partLen))
    = h1
  generalize hh2 : overwrite h1 6 (toBe16 flags) = h2
  generalize hh3 : overwrite h2 4 [header.getD 4 0, header.getD 5 0] = h3
  have hlen1 : h1.length = header.length := by
    rw [← hh1]
    exact length_overwrite (by simp; omega)
  have hlen2 : h2.length = header.length := by
    rw [← hh2, length_overwrite (by simp; omega), hlen1]
  have hlen3 : h3.length = header.length := by
    rw [← hh3, length_overwrite (by simp; omega), hlen2]
  have hsum := withHeaderChecksum_agree h3 (by omega)
  -- bytes 0 to 3 stay after the first write, 6 and 7 after the second
  have hlow : AgreeOn (fun j => j < 4) h1 (withHeaderChecksum h3) := by
    have h12 := (AgreeOn.refl (fun j => j < 4) h1).overwrite (i := 6)
      (toBe16 flags) (by simp; omega) (by omega)
    rw [hh2] at h12
    have h13 := h12.overwrite (i := 4) [header.getD 4 0, header.getD 5 0]
      (by simp; omega) (by simp; omega)
    rw [hh3] at h13
    exact h13.trans hsum (by omega)
  have hmid : AgreeOn (fun j => j = 6 ∨ j = 7) h2
      (withHeaderChecksum h3) := by
    have h23 := (AgreeOn.refl (fun j => j = 6 ∨ j = 7) h2).overwrite
      (i := 4) [header.getD 4 0, header.getD 5 0] (by simp; omega)
      (by simp)
    rw [hh3] at h23
    exact h23.trans hsum (by omega)
  exact {
    length := hsum.length.trans hlen3
    first := by
      have hfirst := (AgreeOn.refl (fun j => j = 0) header).overwrite
        (i := 2) (toBe16 (header.length + partLen)) (by simp; omega)
        (by omega)
      rw [hh1] at hfirst
      rw [hlow.getD (by omega), hfirst.getD rfl]
    total := by
      rw [hlow.getD (by omega), hlow.getD (by omega), ← hh1]
      exact be16_overwrite _ (by omega)
    flags := by
      rw [hmid.getD (.inl rfl), hmid.getD (.inr rfl), ← hh2]
      exact be16_overwrite _ (by omega) }

/-- The flags word of a fragment splits into offset and flag. -/
theorem fragment_flags {offset : Nat} (last : Bool) (h : offset < 65536)
    (h8 : offset % 8 = 0) {flags : Nat}
    (hflags : flags = (if last then offset / 8
      else offset / 8 % 65536 ||| 0x2000) % 65536) :
    flags % 8192 * 8 = offset ∧ (flags / 8192 % 2 = 1 ↔ last = false) := by
  cases last with
  | true =>
      simp only [if_true] at hflags
      simp only [Bool.true_eq_false, iff_false]
      omega
  | false =>
      have hor : offset / 8 % 65536 ||| 0x2000
          = 2 ^ 13 + offset / 8 % 65536 := by
        have hlt : offset / 8 % 65536 < 2 ^ 13 := by omega
        rw [Nat.or_comm]
        exact (Nat.two_pow_add_eq_or_of_lt hlt 1).symm
      simp only [Bool.false_eq_true, if_false, hor] at hflags
      simp only [iff_true]
      omega

section Fragments

variable {header : Bytes}

/-- A fragment is read back: its offset, its flag and its part. -/
theorem fragment_read (hihl : ipv4HeaderLen (header.getD 0 0)
      = header.length) (hmin : 20 ≤ header.length) (part : Bytes)
    {offset : Nat} (last : Bool) (h8 : offset % 8 = 0)
    (hroom : header.length + offset + part.length < 65536) :
    let f := fragmentHeader header part.length offset last ++ part
    fragmentOffset f = offset ∧ (moreFragments f = !last)
      ∧ ipPayload f = part := by
  have hspec := fragmentHeader_spec part.length offset last hmin
  generalize fragmentHeader header part.length offset last = head at hspec
  have hlen := hspec.length
  have hat : ∀ j, j < 20 → (head ++ part).getD j 0 = head.getD j 0 :=
    fun j hj => getD_append_left (by omega)
  obtain ⟨hoff, hmore⟩ := fragment_flags last (by omega) h8 hspec.flags
  refine ⟨?_, ?_, ?_⟩
  · rw [fragmentOffset, flagsOffset, hat 6 (by omega), hat 7 (by omega)]
    exact hoff
  · rw [moreFragments, flagsOffset, hat 6 (by omega), hat 7 (by omega)]
    cases last with
    | true => simpa using hmore
    | false => simpa using hmore
  · have hall : (header.length + part.length) % 65536
        = (head ++ part).length := by
      rw [List.length_append, hlen]
      omega
    rw [ipPayload, hat 0 (by omega), hat 2 (by omega), hat 3 (by omega),
      hspec.total, hspec.first, hihl, hall, List.take_length, ← hlen,
      List.drop_left]

/-- The first `k` fragments reassemble to nothing, all of them to the
payload. -/
theorem reassembleFrom_take (hihl : ipv4HeaderLen (header.getD 0 0)
      = header.length) (hmin : 20 ≤ header.length) {n : Nat} (hn : 0 < n)
    (h8 : n % 8 = 0) {l : Bytes} (hl : l ≠ []) (acc : Bytes)
    (hacc : acc.length % 8 = 0)
    (hroom : header.length + acc.length + l.length < 65536) (k : Nat) :
    reassembleFrom acc ((buildFragments header (acc.length + l.length)
        acc.length (chunks n l)).take k)
      = if k < (chunks n l).length then none else some (acc ++ l) := by
  induction hlen : l.length using Nat.strongRecOn generalizing l acc k with
  | ind len ih =>
      subst hlen
      have hpos : 0 < l.length := List.length_pos_iff.mpr hl
      rw [chunks_of_ne_nil hn hl]
      cases k with
      | zero => simp [reassembleFrom]
      | succ k =>
          simp only [buildFragments, List.take_succ_cons, reassembleFrom]
          have htake : (l.take n).length ≤ l.length :=
            List.length_take_le' n l
          obtain ⟨hoff, hmore, hpay⟩ := fragment_read hihl hmin
            (l.take n) (acc.length + (l.take n).length
              ≥ acc.length + l.length) hacc (by omega)
          rw [if_neg (not_not_intro hoff), hmore, hpay]
          by_cases hlast : l.length ≤ n
          · -- the last part: nothing is left
            have hdrop : l.drop n = [] := List.drop_eq_nil_of_le hlast
            rw [List.take_of_length_le hlast, hdrop]
            simp [buildFragments]
          · have hlen : (l.take n).length = n := by
              rw [List.length_take]
              omega
            have hrest : (l.drop n).length = l.length - n :=
              List.length_drop
            have hne : l.drop n ≠ [] := by
              rw [← List.length_pos_iff]
              omega
            have hih := ih (l.drop n).length (by omega) hne
              (acc ++ l.take n) (by rw [List.length_append]; omega)
              (by rw [List.length_append]; omega) k rfl
            have hsum : (acc ++ l.take n).length + (l.drop n).length
                = acc.length + l.length := by
              rw [List.length_append]
              omega
            rw [hsum, List.length_append, List.append_assoc,
              List.take_append_drop] at hih
            simp only [List.length_cons, Nat.add_lt_add_iff_right]
            rw [← hih]
            have hnot : ¬ acc.length + (l.take n).length
                ≥ acc.length + l.length := by omega
            simp only [hnot, decide_false, Bool.not_false, if_true]

theorem length_buildFragments (payloadLen offset : Nat)
    (parts : List Bytes) :
    (buildFragments header payloadLen offset parts).length
      = parts.length := by
  induction parts generalizing offset with
  | nil => rfl
  | cons part rest ih =>
      simp only [buildFragments, List.length_cons, ih]

end Fragments

/-- A packet that is cut at all is cut after its header. -/
theorem IsPacket.fragments_eq {b : Bytes} {ihl tcpLen : Nat}
    {q : Segment} (h : IsPacket b ihl tcpLen q) {size : Nat}
    (hcut : 1 < (fragmentIpv4Packet b size).length) :
    0 < size / 8 ∧ size / 8 * 8 < (b.drop ihl).length
      ∧ fragmentIpv4Packet b size
        = buildFragments (b.take ihl) (b.drop ihl).length 0
          (chunks (size / 8 * 8) (b.drop ihl)) := by
  have hwhole : ¬ 1 < [b].length := by simp
  revert hcut
  unfold fragmentIpv4Packet
  split
  · intro hcut
    exact absurd hcut hwhole
  case h_2 first hfirst =>
    have hihl : ipv4HeaderLen first = ihl := by
      have hget : b.getD 0 0 = first := by
        rw [List.getD_eq_getElem?_getD, ← List.head?_eq_getElem?, hfirst]
        rfl
      rw [← hget]
      exact h.headerLen
    simp only [hihl]
    split
    · intro hcut
      exact absurd hcut hwhole
    · split
      · intro hcut
        exact absurd hcut hwhole
      case isFalse hchunk =>
        intro _
        exact ⟨by omega, by omega, rfl⟩

/-- The first `k` fragments of a packet, if it is cut at all. -/
theorem IsPacket.reassemble_take {b : Bytes} {ihl tcpLen : Nat}
    {q : Segment} (h : IsPacket b ihl tcpLen q) {size : Nat}
    (hcut : 1 < (fragmentIpv4Packet b size).length) (k : Nat) :
    reassembleFrom [] ((fragmentIpv4Packet b size).take k)
      = if k < (fragmentIpv4Packet b size).length then none
        else some (b.drop ihl) := by
  have hmin := h.ihlMin
  have hheaders := h.headers
  have hlt := h.length_lt
  obtain ⟨hpos, hlong, heq⟩ := h.fragments_eq hcut
  rw [heq]
  have htake : (b.take ihl).length = ihl := by
    rw [List.length_take]
    omega
  have hread : ipv4HeaderLen ((b.take ihl).getD 0 0)
      = (b.take ihl).length := by
    rw [getD_take (by omega), h.headerLen, htake]
  have hne : b.drop ihl ≠ [] := by
    rw [← List.length_pos_iff]
    omega
  have hroom : (b.take ihl).length + ([] : Bytes).length
      + (b.drop ihl).length < 65536 := by
    simp only [htake, List.length_drop, List.length_nil]
    omega
  have hfrag := reassembleFrom_take hread (by omega)
    (n := size / 8 * 8) (by omega) (by omega) hne [] rfl hroom k
  simpa [length_buildFragments] using hfrag

-- ============================================================== segments

/-- The headers a split works with are the packet's own. -/
structure SplitLayout.For (t : SplitLayout) (ihl tcpLen : Nat)
    (q : Segment) : Prop where
  ihl_eq : t.ihl = ihl
  payloadOff_eq : t.payloadOff = ihl + tcpLen
  origSeq_eq : t.origSeq = q.seq

/-- The flags and the two checksums, written last. -/
theorem buildSegment_agree (b : Bytes) (t : SplitLayout)
    (lead part : Bytes) (offset : Nat) (ends : Bool)
    (hmin : 20 ≤ t.ihl) (hroom : t.ihl + 20 ≤ t.payloadOff)
    (hlen : t.payloadOff ≤ b.length) :
    AgreeOn (fun j => (j < 10 ∨ 12 ≤ j) ∧ j ≠ t.ihl + 13
        ∧ (j < t.ihl + 16 ∨ t.ihl + 18 ≤ j))
      (overwrite (overwrite (b.take t.payloadOff ++ lead ++ part) 2
          (toBe16 (t.payloadOff + lead.length + part.length)))
        (t.ihl + 4)
        (toBe32 (t.origSeq + offset.toUInt32 - lead.length.toUInt32)))
      (buildSegment b t lead part offset ends) := by
  unfold buildSegment
  simp only
  have hseg : (b.take t.payloadOff ++ lead ++ part).length
      = t.payloadOff + lead.length + part.length := by
    simp only [List.length_append, List.length_take]
    omega
  generalize b.take t.payloadOff ++ lead ++ part = seg0 at hseg ⊢
  have hlen1 : (overwrite seg0 2 (toBe16
      (t.payloadOff + lead.length + part.length))).length = seg0.length :=
    length_overwrite (by simp; omega)
  generalize overwrite seg0 2 (toBe16
    (t.payloadOff + lead.length + part.length)) = seg1 at hlen1 ⊢
  have hlen2 : (overwrite seg1 (t.ihl + 4) (toBe32 (t.origSeq
      + offset.toUInt32 - lead.length.toUInt32))).length = seg1.length :=
    length_overwrite (by simp; omega)
  generalize overwrite seg1 (t.ihl + 4) (toBe32 (t.origSeq
    + offset.toUInt32 - lead.length.toUInt32)) = seg2 at hlen2 ⊢
  refine AgreeOn.overwrite ?_ _ (by simp; omega) fun _ hj => hj.2.2
  refine AgreeOn.overwrite ?_ _ (by simp; omega) fun _ hj => hj.2.2
  refine AgreeOn.overwrite ?_ _ (by simp; omega) fun _ hj => hj.1
  refine AgreeOn.overwrite ?_ _ (by simp; omega) fun _ hj => hj.1
  refine (AgreeOn.refl _ seg2).overwrite _ (by simp; omega) fun j hj => ?_
  have hflags := hj.2.1
  rw [List.length_singleton]
  omega

/-- What a segment says, against the packet it is cut from. -/
structure BuiltSegment (b : Bytes) (t : SplitLayout) (lead part : Bytes)
    (offset : Nat) (seg : Bytes) : Prop where
  length : seg.length = t.payloadOff + lead.length + part.length
  first : seg.getD 0 0 = b.getD 0 0
  total : be16 (seg.getD 2 0) (seg.getD 3 0)
    = (t.payloadOff + lead.length + part.length) % 65536
  dataOffset : seg.getD (t.ihl + 12) 0 = b.getD (t.ihl + 12) 0
  seq : be32At seg (t.ihl + 4) = (runAt t.origSeq offset lead part).seq
  body : seg.drop t.payloadOff = lead ++ part

theorem buildSegment_spec (b : Bytes) (t : SplitLayout)
    (lead part : Bytes) (offset : Nat) (ends : Bool)
    (hmin : 20 ≤ t.ihl) (hroom : t.ihl + 20 ≤ t.payloadOff)
    (hlen : t.payloadOff ≤ b.length) :
    BuiltSegment b t lead part offset
      (buildSegment b t lead part offset ends) := by
  have hagree := buildSegment_agree b t lead part offset ends hmin hroom hlen
  have hseg : (b.take t.payloadOff ++ lead ++ part).length
      = t.payloadOff + lead.length + part.length := by
    simp only [List.length_append, List.length_take]
    omega
  have hhead : ∀ j, j < t.payloadOff →
      (b.take t.payloadOff ++ lead ++ part).getD j 0 = b.getD j 0 := by
    intro j hj
    rw [List.append_assoc, getD_append_left, getD_take hj]
    rw [List.length_take]
    omega
  have hbody : (b.take t.payloadOff ++ lead ++ part).drop t.payloadOff
      = lead ++ part := by
    rw [List.append_assoc, List.drop_left']
    rw [List.length_take]
    omega
  generalize b.take t.payloadOff ++ lead ++ part = seg0
    at hagree hseg hhead hbody
  -- the total length, then the sequence number
  have hfirst := (AgreeOn.refl (fun j => j < 2 ∨ 4 ≤ j) seg0).overwrite
    (toBe16 (t.payloadOff + lead.length + part.length)) (i := 2)
    (by simp; omega) fun _ hj => hj
  have htotal := be16_overwrite (i := 2)
    (t.payloadOff + lead.length + part.length)
    (show 2 + 2 ≤ seg0.length by omega)
  generalize overwrite seg0 2 (toBe16
    (t.payloadOff + lead.length + part.length)) = seg1
    at hagree hfirst htotal
  have hlen1 := hfirst.length
  have hsecond := (AgreeOn.refl (fun j => j < t.ihl + 4 ∨ t.ihl + 8 ≤ j)
    seg1).overwrite (toBe32 (t.origSeq + offset.toUInt32
      - lead.length.toUInt32)) (i := t.ihl + 4) (by simp; omega)
    fun _ hj => hj
  have hseq := be32At_overwrite (i := t.ihl + 4)
    (t.origSeq + offset.toUInt32 - lead.length.toUInt32)
    (show t.ihl + 4 + 4 ≤ seg1.length by omega)
  generalize overwrite seg1 (t.ihl + 4) (toBe32 (t.origSeq
    + offset.toUInt32 - lead.length.toUInt32)) = seg2
    at hagree hsecond hseq
  exact {
    length := by rw [hagree.length, hsecond.length, hlen1, hseg]
    first := by
      rw [hagree.getD (by omega), hsecond.getD (by omega),
        hfirst.getD (by omega), hhead 0 (by omega)]
    total := by
      rw [hagree.getD (by omega), hagree.getD (by omega),
        hsecond.getD (by omega), hsecond.getD (by omega), htotal]
    dataOffset := by
      rw [hagree.getD (by omega), hsecond.getD (by omega),
        hfirst.getD (by omega), hhead _ (by omega)]
    seq := by
      rw [be32At, hagree.getD (by omega), hagree.getD (by omega),
        hagree.getD (by omega), hagree.getD (by omega)]
      exact hseq
    body := by
      rw [hagree.drop (by omega), hsecond.drop (by omega),
        hfirst.drop (by omega), hbody] }

/-- The buffer holds the headers that it announces. -/
structure HasTcp (b : Bytes) (ihl tcpLen : Nat) : Prop where
  headerLen : ipv4HeaderLen (b.getD 0 0) = ihl
  ihlMin : 20 ≤ ihl
  dataOffset : tcpHeaderLen (b.getD (ihl + 12) 0) = tcpLen
  tcpMin : 20 ≤ tcpLen
  headers : ihl + tcpLen ≤ b.length

/-- They are found if they are there. -/
theorem splitHeaders?_eq_some {b : Bytes} {ihl tcpLen : Nat} :
    splitHeaders? b = some (ihl, tcpLen) ↔ HasTcp b ihl tcpLen := by
  cases b with
  | nil =>
      constructor
      · intro h
        cases h
      · intro h
        have hmin := h.ihlMin
        have hheaders : ihl + tcpLen ≤ 0 := h.headers
        omega
  | cons first rest =>
      simp only [splitHeaders?, List.head?_cons]
      constructor
      · intro h
        split at h
        · cases h
        · split at h
          · cases h
          · obtain ⟨rfl, rfl⟩ := Prod.mk.inj (Option.some.inj h)
            exact ⟨rfl, by omega, rfl, by omega, by omega⟩
      · intro h
        obtain ⟨hfirst, hmin, hoff, htcpMin, hheaders⟩ := h
        have hihl : ipv4HeaderLen first = ihl := hfirst
        simp only [hihl, hoff]
        rw [if_neg (by omega), if_neg (by omega)]

theorem IsPacket.hasTcp {b : Bytes} {ihl tcpLen : Nat} {q : Segment}
    (h : IsPacket b ihl tcpLen q) : HasTcp b ihl tcpLen :=
  ⟨h.headerLen, h.ihlMin, h.dataOffset, h.tcpMin, h.headers⟩

/-- One segment is a packet: the run of the payload at its offset. -/
theorem HasTcp.segment {b : Bytes} {ihl tcpLen : Nat} {q : Segment}
    (h : HasTcp b ihl tcpLen) {t : SplitLayout}
    (ht : t.For ihl tcpLen q) (lead part : Bytes) (offset : Nat)
    (ends : Bool)
    (hroom : ihl + tcpLen + lead.length + part.length < 65536) :
    IsPacket (buildSegment b t lead part offset ends) ihl tcpLen
      (runAt q.seq offset lead part) := by
  have htcpMin := h.tcpMin
  have hspec := buildSegment_spec b t lead part offset ends
    (by rw [ht.ihl_eq]; exact h.ihlMin)
    (by rw [ht.ihl_eq, ht.payloadOff_eq]; omega)
    (by rw [ht.payloadOff_eq]; exact h.headers)
  obtain ⟨hlen, hfirst, htotal, hoff, hseq, hbody⟩ := hspec
  rw [ht.payloadOff_eq] at hlen htotal hbody
  rw [ht.ihl_eq] at hoff hseq
  rw [ht.origSeq_eq] at hseq
  exact {
    headerLen := by rw [hfirst, h.headerLen]
    ihlMin := h.ihlMin
    total := by
      rw [htotal, hlen]
      exact Nat.mod_eq_of_lt hroom
    dataOffset := by rw [hoff, h.dataOffset]
    tcpMin := htcpMin
    headers := by
      rw [hlen]
      omega
    seq := hseq
    payload := hbody }

/-- The segments are the parts, each at its place. -/
theorem mem_buildSegments {b seg : Bytes} {t : SplitLayout}
    {n overlapIndex : Nat} {lead : Bytes} {index offset : Nat}
    {parts : List Bytes} :
    seg ∈ buildSegments b t n lead overlapIndex index offset parts
      ↔ ∃ before part after, parts = before ++ part :: after
        ∧ seg = buildSegment b t
            (if index + before.length = overlapIndex then lead else []) part
            (offset + before.flatten.length)
            (offset + before.flatten.length + part.length = n) := by
  induction parts generalizing index offset with
  | nil => simp [buildSegments]
  | cons head rest ih =>
      rw [buildSegments, List.mem_cons, ih]
      constructor
      · intro h
        rcases h with hseg | ⟨before, part, after, hrest, hseg⟩
        · refine ⟨[], head, rest, rfl, ?_⟩
          rw [hseg]
          rfl
        · refine ⟨head :: before, part, after, congrArg _ hrest, ?_⟩
          simp only [hseg, List.length_cons, List.flatten_cons,
            List.length_append, Nat.add_assoc, Nat.add_comm 1]
      · intro h
        obtain ⟨before, part, after, hparts, hseg⟩ := h
        cases before with
        | nil =>
            rw [List.nil_append, List.cons.injEq] at hparts
            obtain ⟨rfl, rfl⟩ := hparts
            left
            rw [hseg]
            rfl
        | cons first before =>
            rw [List.cons_append, List.cons.injEq] at hparts
            obtain ⟨rfl, rfl⟩ := hparts
            right
            refine ⟨before, part, after, rfl, ?_⟩
            simp only [hseg, List.length_cons, List.flatten_cons,
              List.length_append, Nat.add_assoc, Nat.add_comm 1]

/-- The prefix fits the packet it goes into. -/
theorem overlapPrefix_room (spec : DisorderSpec) {off chunk n : Nat}
    (hn : n ≤ chunk) (hoff : off + n < 65536) :
    off + (overlapPrefix spec off chunk).length + n < 65536 := by
  unfold overlapPrefix
  simp only
  split
  · simpa using hoff
  case isFalse hfits =>
    rw [not_or] at hfits
    omega

/-- The headers of a packet are found. -/
theorem IsPacket.splitHeaders {b : Bytes} {ihl tcpLen : Nat} {q : Segment}
    (h : IsPacket b ihl tcpLen q) :
    splitHeaders? b = some (ihl, tcpLen) :=
  splitHeaders?_eq_some.mpr h.hasTcp

/-- A run carries the prefix or nothing. -/
theorem length_ite_lead (lead : Bytes) (c : Prop) [Decidable c] :
    (if c then lead else []).length ≤ lead.length := by
  split
  · exact Nat.le_refl _
  · exact Nat.zero_le _

/-- Segments built from parts of the payload tile it, in any order. -/
theorem IsPacket.tiles_built {b : Bytes} {ihl tcpLen : Nat} {q : Segment}
    (h : IsPacket b ihl tcpLen q) {t : SplitLayout}
    (ht : t.For ihl tcpLen q) {lead : Bytes} {parts : List Bytes}
    (hparts : parts.flatten = q.payload)
    (hroom : ∀ part ∈ parts, part ≠ []
      ∧ ihl + tcpLen + lead.length + part.length < 65536)
    {n overlapIndex : Nat} {segs : List Bytes}
    (hsegs : ∀ seg, seg ∈ segs
      ↔ seg ∈ buildSegments b t n lead overlapIndex 0 0 parts) :
    Tiles q.seq q.payload ((segs.map .packet).filterMap receive) := by
  -- each segment as the receiver reads it
  have hreceive : ∀ before part after, parts = before ++ part :: after →
      ∀ (lead' : Bytes) (offset : Nat) (ends : Bool),
        lead'.length ≤ lead.length →
        receive (.packet (buildSegment b t lead' part offset ends))
          = some (runAt q.seq offset lead' part) := by
    intro before part after hsplit lead' offset ends hlead
    have hpart := (hroom part (by simp [hsplit])).2
    exact (h.hasTcp.segment ht lead' part offset ends (by omega)).receive_eq
  have hlead := length_ite_lead lead
  have hrun : ∀ before part after, parts = before ++ part :: after →
      part <+: q.payload.drop (0 + before.flatten.length) := by
    intro before part after hsplit
    rw [← hparts, hsplit, List.flatten_append, Nat.zero_add,
      List.drop_left, List.flatten_cons]
    exact List.prefix_append _ _
  refine ⟨fun r hr => ?_, fun i hi => ?_⟩
  · obtain ⟨e, he, hread⟩ := List.mem_filterMap.mp hr
    obtain ⟨seg, hseg, rfl⟩ := List.mem_map.mp he
    obtain ⟨before, part, after, hsplit, hbuilt⟩ :=
      mem_buildSegments.mp ((hsegs seg).mp hseg)
    rw [hbuilt, hreceive before part after hsplit _ _ _ (hlead _)] at hread
    obtain ⟨hne, hlt⟩ := hroom part (by simp [hsplit])
    refine ⟨_, _, part, (Option.some.inj hread).symm, hne,
      hrun before part after hsplit, ?_⟩
    exact Nat.lt_of_le_of_lt (hlead _) (by omega)
  · rw [← hparts] at hi
    obtain ⟨before, part, after, hsplit, hlow, hhigh⟩ := exists_block hi
    have hmem := (hsegs _).mpr (mem_buildSegments.mpr
      ⟨before, part, after, hsplit, rfl⟩)
    have hread := hreceive before part after hsplit _
      (0 + before.flatten.length)
      (0 + before.flatten.length + part.length = n)
      (hlead (0 + before.length = overlapIndex))
    exact ⟨_, _, part,
      List.mem_filterMap.mpr ⟨_, List.mem_map_of_mem hmem, hread⟩,
      hrun before part after hsplit, by omega, by omega⟩

/-- Splitting a packet tiles its payload. -/
theorem IsPacket.tiles_split {b : Bytes} {ihl tcpLen : Nat} {q : Segment}
    (h : IsPacket b ihl tcpLen q) (hq : q.payload ≠ [])
    (spec : DisorderSpec) :
    Tiles q.seq q.payload
      (((splitTcpPayload b spec).map .packet).filterMap receive) := by
  have hpos : 0 < q.payload.length := List.length_pos_iff.mpr hq
  have hlen := h.length_eq
  have hlt := h.length_lt
  unfold splitTcpPayload
  simp only [h.splitHeaders, h.payload]
  split
  · simp only [List.map_cons, List.map_nil, List.filterMap_cons,
      h.receive_eq, List.filterMap_nil]
    exact Tiles.single hq
  case isFalse hcut =>
    have hchunk : 0 < (q.payload.length + spec.segments - 1)
        / spec.segments := Nat.div_pos (by omega) (by omega)
    generalize (q.payload.length + spec.segments - 1) / spec.segments
      = chunk at hchunk ⊢
    have horder : ∀ (l : List Bytes) (seg : Bytes),
        seg ∈ (if spec.reverse then l.reverse else l) ↔ seg ∈ l := by
      intro l seg
      split
      · exact List.mem_reverse
      · exact Iff.rfl
    refine h.tiles_built ⟨rfl, rfl, ?_⟩ (chunks_flatten hchunk q.payload)
      (fun part hpart => ?_) (horder _)
    · exact h.seq
    · obtain ⟨hne, hle⟩ := mem_chunks hchunk hpart
      have hfits : part.length ≤ q.payload.length := by
        rw [← chunks_flatten hchunk q.payload]
        exact (List.sublist_flatten_of_mem hpart).length_le
      exact ⟨hne, overlapPrefix_room spec hle (by omega)⟩

-- ======================================================= one verdict

namespace Linux

/-- What gets out is an initial run of the packets: all of them, if every
send succeeds. -/
theorem RawIo.sendAll_eq_take (io : RawIo) (i : Nat) (bs : List Bytes) :
    ∃ k, io.sendAll i bs = bs.take k
      ∧ (bs.length ≤ k ↔ ∀ j, j < bs.length → io.sends (i + j) = true) := by
  induction bs generalizing i with
  | nil => exact ⟨0, rfl, by simp⟩
  | cons b rest ih =>
      rw [RawIo.sendAll]
      split
      case isTrue hsent =>
        obtain ⟨k, hk, hall⟩ := ih (i + 1)
        refine ⟨k + 1, by rw [hk, List.take_succ_cons], ?_⟩
        rw [List.length_cons, Nat.add_le_add_iff_right, hall]
        constructor
        · intro h j hj
          cases j with
          | zero => exact hsent
          | succ j =>
              have hnext := h j (by omega)
              rwa [Nat.add_right_comm] at hnext
        · intro h j hj
          have hnext := h (j + 1) (by omega)
          rwa [← Nat.add_assoc, Nat.add_right_comm] at hnext
      case isFalse hfailed =>
        refine ⟨0, rfl, ?_⟩
        rw [List.length_cons]
        refine iff_of_false (by omega) fun h => ?_
        exact hfailed (h 0 (by omega))

theorem RawIo.sendAll_of_sends {io : RawIo}
    (h : ∀ i, io.sends i = true) (i : Nat) (bs : List Bytes) :
    io.sendAll i bs = bs := by
  induction bs generalizing i with
  | nil => rfl
  | cons b rest ih => rw [RawIo.sendAll, if_pos (h i), ih]

variable {io : RawIo} {buf b : Bytes} {view : PacketView}
  {ihl tcpLen : Nat} {q : Segment}

theorem filterMap_packet (h : IsPacket b ihl tcpLen q) :
    [Emitted.packet b].filterMap receive = [q] := by
  rw [List.filterMap_cons, h.receive_eq]
  rfl

/-- A unit is received as the segment that arrives. -/
theorem filterMap_receive (es : List Emitted) :
    es.filterMap receive = (es.filterMap arrive).map (·.1) := by
  rw [List.map_filterMap]
  refine congrArg (List.filterMap · es) (funext fun e => ?_)
  cases e with
  | packet b => rfl
  | fragments parts => cases h : reassembleFrom [] parts <;>
      simp [receive, arrive, h]

theorem filterMap_arrive_packet (h : IsPacket b ihl tcpLen q) :
    [Emitted.packet b].filterMap arrive = [(q, readFin (b.drop ihl))] := by
  rw [List.filterMap_cons, arrive, arrival, h.ipPayload_eq, h.readTcp_drop]
  rfl

/-- Fragments that all got out arrive as the packet; otherwise the packet
goes out behind them. -/
theorem arrive_fragments (h : IsPacket b ihl tcpLen q) {size : Nat}
    (hcut : 1 < (fragmentIpv4Packet b size).length) (io : RawIo) :
    (if io.sendAll 0 (fragmentIpv4Packet b size)
          = fragmentIpv4Packet b size
      then [Emitted.fragments (fragmentIpv4Packet b size)]
      else [.fragments (io.sendAll 0 (fragmentIpv4Packet b size)),
        .packet b]).filterMap arrive = [(q, readFin (b.drop ihl))] := by
  have hall := h.reassemble_take hcut (fragmentIpv4Packet b size).length
  rw [List.take_length, if_neg (Nat.lt_irrefl _)] at hall
  obtain ⟨k, hk, -⟩ := io.sendAll_eq_take 0 (fragmentIpv4Packet b size)
  split
  · simp only [List.filterMap_cons, arrive, hall, Option.map_some,
      h.readTcp_drop, List.filterMap_nil]
  case isFalse hsent =>
    have hlt : k < (fragmentIpv4Packet b size).length := by
      refine Nat.lt_of_not_le fun hle => hsent ?_
      rw [hk, List.take_of_length_le hle]
    have hnone := h.reassemble_take hcut k
    rw [if_pos hlt, ← hk] at hnone
    have harrive : arrive (.fragments
        (io.sendAll 0 (fragmentIpv4Packet b size))) = none := by
      rw [arrive, hnone]
      rfl
    rw [List.filterMap_cons, harrive]
    exact filterMap_arrive_packet h

/-- And so they are received. -/
theorem receive_fragments (h : IsPacket b ihl tcpLen q) {size : Nat}
    (hcut : 1 < (fragmentIpv4Packet b size).length) (io : RawIo) :
    (if io.sendAll 0 (fragmentIpv4Packet b size)
          = fragmentIpv4Packet b size
      then [Emitted.fragments (fragmentIpv4Packet b size)]
      else [.fragments (io.sendAll 0 (fragmentIpv4Packet b size)),
        .packet b]).filterMap receive = [q] := by
  rw [filterMap_receive, arrive_fragments h hcut]
  rfl

/-- A rebuilt packet that is not followed by the original tiles its own
payload, however it is shaped. -/
theorem emitShaped_tiles (h : IsPacket b ihl tcpLen q)
    (hq : q.payload ≠ []) (horig : view.emitOriginalAfter = false)
    (hsends : view.disorderSpec.isSome = true → io.sends 0 = true →
      ∀ i, io.sends i = true) :
    Tiles q.seq q.payload
      ((emitShaped io buf view b).filterMap receive) := by
  have hone : Tiles q.seq q.payload
      ([Emitted.packet b].filterMap receive) := by
    rw [filterMap_packet h]
    exact Tiles.single hq
  unfold emitShaped
  split
  case h_1 size _ _ =>
    simp only
    split
    case isTrue hcut =>
      rw [receive_fragments h hcut.2]
      exact Tiles.single hq
    · exact hone
  case h_2 spec _ hspec =>
    simp only
    split
    case isTrue hcut =>
      have hall := hsends (by rw [hspec]; rfl) hcut.2.2
      rw [io.sendAll_of_sends hall]
      exact h.tiles_split hq spec
    · exact hone
  · rw [horig, if_neg (by simp)]
    exact hone

/-- The original sent behind a packet that replaced it. -/
theorem emitShaped_original (hfrag : view.ipFragPayloadSize = none)
    (hspec : view.disorderSpec = none)
    (horig : view.emitOriginalAfter = true) (hio : io.socket = true)
    (hsends : io.sends 0 = true) :
    emitShaped io buf view b = [.packet b, .packet buf] := by
  simp [emitShaped, hfrag, hspec, horig, hio, hsends]

end Linux

end ZeroDpi
