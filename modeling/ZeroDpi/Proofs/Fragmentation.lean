/-
IPv4 fragmentation, field by field.

A cut packet is its header over the runs of its payload. `Fragment` is what
one of them says of itself given the ones before it, and the split lemma
below reads any of them off the loop: its part, its offset, and whether
anything is behind it. Reassembly is the emission layer's.
-/
import ZeroDpi.Proofs.Emission

namespace ZeroDpi

open Lib

/-- The buffer holds the IPv4 header that its first byte announces. -/
def HasIpv4Header (b : Bytes) : Prop :=
  20 ≤ ipv4HeaderLen (b.getD 0 0) ∧ ipv4HeaderLen (b.getD 0 0) ≤ b.length

instance (b : Bytes) : Decidable (HasIpv4Header b) :=
  inferInstanceAs (Decidable (_ ∧ _))

/-- What a fragment is, against the packet `b` it is cut from and the
fragments before it. -/
structure IsFragment (b : Bytes) (ihl chunk : Nat) (before : List Bytes)
    (f : Bytes) (last : Bool) : Prop where
  nonempty : ihl < f.length
  size : f.length ≤ ihl + chunk
  multiple : last = false → (f.length - ihl) % 8 = 0
  total : be16 (f.getD 2 0) (f.getD 3 0) = f.length
  offset : fragmentOffset f = (before.flatMap (·.drop ihl)).length
  more : moreFragments f = !last
  dontFragment : flagsOffset f < 0x4000
  same : ∀ j, j < ihl → j ∉ [2, 3, 6, 7, 10, 11] → f.getD j 0 = b.getD j 0
  checksum : Verifies (wordSum (f.take ihl))

/-- A packet cut into fragments. -/
structure Fragmented (b : Bytes) (ihl chunk : Nat) (frags : List Bytes) :
    Prop where
  each : ∀ before f after, frags = before ++ f :: after →
    IsFragment b ihl chunk before f after.isEmpty
  payload : frags.flatMap (·.drop ihl) = b.drop ihl
  reassembled : reassembleFrom [] frags = some (b.drop ihl)

-- =========================================================== the header

/-- The bytes of a header that a fragment keeps. -/
theorem fragmentHeader_same {header : Bytes} (partLen offset : Nat)
    (last : Bool) (h : 20 ≤ header.length) {j : Nat}
    (hj : j ∉ [2, 3, 6, 7, 10, 11]) :
    (fragmentHeader header partLen offset last).getD j 0
      = header.getD j 0 := by
  simp only [List.mem_cons, List.not_mem_nil, or_false, not_or] at hj
  unfold fragmentHeader
  simp only
  generalize (if last = true then offset / 8
    else offset / 8 % 65536 ||| 0x2000) = flags
  have h1 := (AgreeOn.refl (fun j => j ∉ [2, 3, 6, 7]) header).overwrite
    (i := 2) (toBe16 (header.length + partLen)) (by simp; omega)
    (by simp; omega)
  have h2 := h1.overwrite (i := 6) (toBe16 flags) (by simp; omega)
    (by simp; omega)
  generalize overwrite (overwrite header 2
    (toBe16 (header.length + partLen))) 6 (toBe16 flags) = h2' at h2 ⊢
  have hlen2 := h2.length
  have hident : (overwrite h2' 4 [header.getD 4 0, header.getD 5 0]).getD j 0
      = header.getD j 0 := by
    by_cases h45 : j = 4 ∨ j = 5
    · have hat := getD_overwrite_self [header.getD 4 0, header.getD 5 0]
        (show 4 + 2 ≤ h2'.length by omega)
      rcases h45 with rfl | rfl
      · exact hat 0 (by simp)
      · exact hat 1 (by simp)
    · have hkeep := (AgreeOn.refl (fun j => j ≠ 4 ∧ j ≠ 5) h2').overwrite
        (i := 4) [header.getD 4 0, header.getD 5 0] (by simp; omega)
        (by simp; omega)
      rw [hkeep.getD (by omega), h2.getD (by simp; omega)]
  have hlen3 : (overwrite h2' 4 [header.getD 4 0, header.getD 5 0]).length
      = h2'.length := length_overwrite (by simp; omega)
  rw [(withHeaderChecksum_agree _ (by omega)).getD (by omega), hident]

/-- The checksum of a header that was written into it verifies. -/
theorem withHeaderChecksum_verifies {header : Bytes}
    (hmin : 12 ≤ header.length) (hmax : header.length < 65536) :
    Verifies (wordSum (withHeaderChecksum header)) := by
  have hlen : (overwrite header 10 ([0, 0] : Bytes)).length
      = header.length := length_overwrite hmin
  have hsum := wordSum_le (overwrite header 10 [0, 0])
  have hwritten := @verifies_written header 10 rfl hmin 0 (by omega)
  simp only [Nat.zero_add] at hwritten
  exact hwritten

theorem fragmentHeader_verifies {header : Bytes} (partLen offset : Nat)
    (last : Bool) (hmin : 20 ≤ header.length)
    (hmax : header.length < 65536) :
    Verifies (wordSum (fragmentHeader header partLen offset last)) := by
  unfold fragmentHeader
  simp only
  generalize (if last = true then offset / 8
    else offset / 8 % 65536 ||| 0x2000) = flags
  generalize hh1 : overwrite header 2 (toBe16 (header.length + partLen))
    = h1
  generalize hh2 : overwrite h1 6 (toBe16 flags) = h2
  have hlen1 : h1.length = header.length := by
    rw [← hh1]
    exact length_overwrite (by simp; omega)
  have hlen2 : h2.length = header.length := by
    rw [← hh2, length_overwrite (by simp; omega), hlen1]
  have hlen3 : (overwrite h2 4 [header.getD 4 0, header.getD 5 0]).length
      = h2.length := length_overwrite (by simp; omega)
  exact withHeaderChecksum_verifies (by omega) (by omega)

-- ============================================================= the loop

/-- Any fragment of the loop: its part and what is around it. -/
theorem buildFragments_split {header : Bytes} (hmin : 20 ≤ header.length)
    {n : Nat} {before after parts : List Bytes} {f : Bytes} {offset : Nat}
    (h : buildFragments header n offset parts = before ++ f :: after) :
    ∃ heads part tails, parts = heads ++ part :: tails
      ∧ before.flatMap (·.drop header.length) = heads.flatten
      ∧ after.isEmpty = tails.isEmpty
      ∧ f = fragmentHeader header part.length (offset + heads.flatten.length)
          (offset + heads.flatten.length + part.length ≥ n) ++ part := by
  induction before generalizing parts offset with
  | nil =>
      cases parts with
      | nil => cases h
      | cons part rest =>
          rw [buildFragments, List.nil_append, List.cons.injEq] at h
          obtain ⟨rfl, rfl⟩ := h
          refine ⟨[], part, rest, rfl, rfl, ?_, rfl⟩
          cases rest with
          | nil => rfl
          | cons => rfl
  | cons g before ih =>
      cases parts with
      | nil => cases h
      | cons part rest =>
          rw [buildFragments, List.cons_append, List.cons.injEq] at h
          obtain ⟨rfl, hrest⟩ := h
          obtain ⟨heads, part', tails, rfl, hheads, htails, rfl⟩ := ih hrest
          have hlen := (fragmentHeader_spec part.length offset
            (offset + part.length ≥ n) hmin).length
          refine ⟨part :: heads, part', tails, rfl, ?_, htails, ?_⟩
          · rw [List.flatMap_cons, List.flatten_cons, hheads,
              List.drop_left' hlen]
          · simp only [List.flatten_cons, List.length_append, Nat.add_assoc]

theorem buildFragments_payload {header : Bytes} (hmin : 20 ≤ header.length)
    (n offset : Nat) (parts : List Bytes) :
    (buildFragments header n offset parts).flatMap (·.drop header.length)
      = parts.flatten := by
  induction parts generalizing offset with
  | nil => rfl
  | cons part rest ih =>
      have hlen := (fragmentHeader_spec part.length offset
        (offset + part.length ≥ n) hmin).length
      rw [buildFragments, List.flatMap_cons, ih, List.flatten_cons,
        List.drop_left' hlen]

-- ============================================================ the packet

variable {b : Bytes} {ihl chunk : Nat}

/-- The packet with the header it announces: left alone or cut. -/
theorem fragmentIpv4Packet_eq (hihl : ipv4HeaderLen (b.getD 0 0) = ihl)
    (hmin : 20 ≤ ihl) (hlen : ihl ≤ b.length) (fragSize : Nat) :
    fragmentIpv4Packet b fragSize
      = if fragSize < 8 ∨ (b.drop ihl).length ≤ fragSize / 8 * 8 then [b]
        else buildFragments (b.take ihl) (b.drop ihl).length 0
          (chunks (fragSize / 8 * 8) (b.drop ihl)) := by
  cases b with
  | nil =>
      rw [List.length_nil] at hlen
      omega
  | cons first rest =>
      have hfirst : ipv4HeaderLen first = ihl := hihl
      have hzero : fragSize / 8 * 8 = 0 ↔ fragSize < 8 := by omega
      simp only [fragmentIpv4Packet, List.head?_cons, hfirst, hzero]
      exact if_neg (by omega)

/-- The loop over a packet that is cut. -/
theorem fragmented_of_cut (hihl : ipv4HeaderLen (b.getD 0 0) = ihl)
    (hmin : 20 ≤ ihl) (hlen : ihl ≤ b.length) (hmax : b.length ≤ 65535)
    (hchunk : 0 < chunk) (h8 : chunk % 8 = 0)
    (hcut : chunk < (b.drop ihl).length) :
    Fragmented b ihl chunk (buildFragments (b.take ihl) (b.drop ihl).length 0
      (chunks chunk (b.drop ihl))) := by
  have hhead : (b.take ihl).length = ihl := by
    rw [List.length_take]
    omega
  have hread : ipv4HeaderLen ((b.take ihl).getD 0 0)
      = (b.take ihl).length := by
    rw [getD_take (by omega), hihl, hhead]
  have hpay : (b.drop ihl).length = b.length - ihl := List.length_drop
  have hheadMin : 20 ≤ (b.take ihl).length := by omega
  refine ⟨?_, ?_, ?_⟩
  · intro before f after hsplit
    obtain ⟨heads, part, tails, hparts, hbefore, hafter, hf⟩ :=
      buildFragments_split hheadMin hsplit
    obtain ⟨hne, hle, hfull, hmul, hlast, hroom⟩ :=
      chunks_place hchunk hparts
    have hmul8 : heads.flatten.length % 8 = 0 :=
      Nat.mod_eq_zero_of_dvd (Nat.dvd_trans (Nat.dvd_of_mod_eq_zero h8)
        (Nat.dvd_of_mod_eq_zero hmul))
    have hpos := List.length_pos_iff.mpr hne
    rw [hhead] at hbefore
    have hflag : decide (0 + heads.flatten.length + part.length
        ≥ (b.drop ihl).length) = after.isEmpty := by
      rw [hafter, Nat.zero_add, Bool.eq_iff_iff, decide_eq_true_eq,
        List.isEmpty_iff]
      exact hlast
    rw [hflag, Nat.zero_add] at hf
    have hspec := fragmentHeader_spec part.length heads.flatten.length
      after.isEmpty hheadMin
    obtain ⟨hoffset, hmore, -⟩ := fragment_read hread hheadMin part
      after.isEmpty hmul8 (by omega)
    rw [← hf] at hoffset hmore
    have hat : ∀ j, j < ihl → f.getD j 0
        = (fragmentHeader (b.take ihl) part.length heads.flatten.length
          after.isEmpty).getD j 0 := by
      intro j hj
      rw [hf]
      exact getD_append_left (by rw [hspec.length]; omega)
    have hflen : f.length = ihl + part.length := by
      rw [hf, List.length_append, hspec.length, hhead]
    exact {
      nonempty := by omega
      size := by omega
      multiple := by
        intro hmoreFollow
        have htails : tails ≠ [] := by
          rw [hafter] at hmoreFollow
          rintro rfl
          cases hmoreFollow
        rw [hflen, hfull htails]
        omega
      total := by
        rw [hat 2 (by omega), hat 3 (by omega), hspec.total, hflen, hhead]
        exact Nat.mod_eq_of_lt (by omega)
      offset := by rw [hbefore, hoffset]
      more := hmore
      dontFragment := by
        rw [flagsOffset, hat 6 (by omega), hat 7 (by omega), hspec.flags]
        cases after.isEmpty with
        | true =>
            simp only [if_true]
            omega
        | false =>
            have hor : heads.flatten.length / 8 % 65536 ||| 0x2000 < 2 ^ 14 :=
              Nat.or_lt_two_pow (by omega) (by decide)
            simp only [Bool.false_eq_true, if_false]
            omega
      same := by
        intro j hj hother
        rw [hat j hj, fragmentHeader_same _ _ _ hheadMin hother,
          getD_take hj]
      checksum := by
        have htake : f.take ihl = fragmentHeader (b.take ihl) part.length
            heads.flatten.length after.isEmpty := by
          rw [hf, List.take_left' (by rw [hspec.length, hhead])]
        rw [htake]
        exact fragmentHeader_verifies _ _ _ hheadMin (by omega) }
  · have hall := buildFragments_payload hheadMin (b.drop ihl).length 0
      (chunks chunk (b.drop ihl))
    rw [hhead, chunks_flatten hchunk] at hall
    exact hall
  · have hne : b.drop ihl ≠ [] := by
      rw [← List.length_pos_iff]
      omega
    have hfrag := reassembleFrom_take hread hheadMin hchunk h8 hne [] rfl
      (by rw [hhead, hpay, List.length_nil]; omega)
      (chunks chunk (b.drop ihl)).length
    rw [if_neg (Nat.lt_irrefl _), List.take_of_length_le
      (Nat.le_of_eq (length_buildFragments ..))] at hfrag
    simpa using hfrag

/-- Fragmentation leaves a packet alone, or cuts it into fragments that
reassemble to it. -/
theorem fragmentIpv4Packet_reassembles (b : Bytes) (fragSize : Nat) :
    (¬ HasIpv4Header b → fragmentIpv4Packet b fragSize = [b])
      ∧ (HasIpv4Header b → b.length ≤ 65535 →
        let ihl := ipv4HeaderLen (b.getD 0 0)
        let chunk := fragSize / 8 * 8
        (fragmentIpv4Packet b fragSize = [b]
            ↔ fragSize < 8 ∨ (b.drop ihl).length ≤ chunk)
          ∧ (¬ (fragSize < 8 ∨ (b.drop ihl).length ≤ chunk) →
            Fragmented b ihl chunk (fragmentIpv4Packet b fragSize))) := by
  constructor
  · intro hbad
    cases b with
    | nil => rfl
    | cons first rest =>
        have hout : ipv4HeaderLen first < 20
            ∨ (first :: rest).length < ipv4HeaderLen first := by
          by_cases hmin : ipv4HeaderLen first < 20
          · exact .inl hmin
          · exact .inr (Nat.lt_of_not_le
              fun hlen => hbad ⟨Nat.le_of_not_lt hmin, hlen⟩)
        exact if_pos hout
  · intro ⟨hmin, hlen⟩ hmax
    simp only
    generalize hihl : ipv4HeaderLen (b.getD 0 0) = ihl at hmin hlen
    have heq := fragmentIpv4Packet_eq hihl hmin hlen fragSize
    rw [heq]
    by_cases hwhole : fragSize < 8 ∨ (b.drop ihl).length ≤ fragSize / 8 * 8
    · rw [if_pos hwhole]
      exact ⟨iff_of_true rfl hwhole, fun h => absurd hwhole h⟩
    · rw [if_neg hwhole]
      have hcut := fragmented_of_cut hihl hmin hlen hmax
        (show 0 < fragSize / 8 * 8 by omega) (by omega) (by omega)
      refine ⟨iff_of_false ?_ hwhole, fun _ => hcut⟩
      -- the packet itself is longer than any fragment
      intro hsame
      rw [hsame] at hcut
      have hsize := (hcut.each [] b [] rfl).size
      rw [List.length_drop] at hwhole
      omega

end ZeroDpi
