/-
The urgent byte of `urg_sni_split` can be taken out again.

The receiver drops the byte in front of the urgent pointer. That is the
spliced one: the insertion point is inside the name, and the pointer, one
behind it, is exact because the name ends inside the payload.
-/
import ZeroDpi.Methods.Data
import ZeroDpi.Proofs.DataStage
import ZeroDpi.Proofs.SniBoundary

namespace ZeroDpi

open Lib ClientHello Handler

/-- The insertion point is a byte of the name, whatever the position. -/
theorem resolveInsertPosition_lt {nameLen : Nat} (h : 0 < nameLen)
    (pos : SniSplitPosition) : resolveInsertPosition nameLen pos < nameLen := by
  unfold resolveInsertPosition
  rw [if_neg (Nat.ne_of_gt h)]
  exact Nat.lt_of_le_of_lt (Nat.min_le_right _ _) (Nat.sub_one_lt_of_lt h)

theorem length_insertDummy (payload : Bytes) (at_ : Nat) (byte : UInt8) :
    (insertDummy payload at_ byte).length = payload.length + 1 := by
  simp only [insertDummy, List.length_append, List.length_take,
    List.length_drop, List.length_singleton]
  omega

/-- Removing the byte that was inserted. -/
theorem eraseIdx_insertDummy {payload : Bytes} {at_ : Nat}
    (h : at_ ≤ payload.length) (byte : UInt8) :
    (insertDummy payload at_ byte).eraseIdx at_ = payload := by
  have hlen : (payload.take at_).length = at_ := by
    rw [List.length_take]
    omega
  rw [insertDummy, List.append_assoc, List.eraseIdx_append_of_length_le
    (by omega), hlen, Nat.sub_self]
  exact List.take_append_drop at_ payload

/-- For every payload that fits a TCP segment and has a host name, every
position and every dummy byte: one byte more is staged, with URG and an
urgent pointer into the name, and the payload without the byte in front of
the pointer is the one that came. -/
theorem UrgSniSplit.splice_reversible (m : UrgSniSplit) (pkt : PacketView)
    (hfits : pkt.payload.length ≤ 65535) {start len : Nat}
    (hname : findSniRange pkt.payload = .ok (some (start, len))) :
    ∃ v staged p, m.onFirstDataPacket pkt = .ok (.emitAndComplete, v)
      ∧ v.newPayload = some staged ∧ v.newUrgentPointer = some p
      ∧ v.newFlags = some { pkt.flags with urg := true }
      ∧ staged.length = pkt.payload.length + 1
      ∧ start < p.toNat ∧ p.toNat ≤ start + len
      ∧ staged.eraseIdx (p.toNat - 1) = pkt.payload := by
  obtain ⟨l, hl, rfl, rfl⟩ := located_of_findSniRange hname
  have hinside := resolveInsertPosition_lt l.nameLen_pos m.position
  have hend : l.boundary.nameStart + l.boundary.nameLen
      ≤ pkt.payload.length := by
    rw [hl]
    exact Nat.le_trans l.boundary_le.1 l.boundary_le.2
  -- the pointer is one behind the inserted byte
  have hpointer : (min (l.boundary.nameStart
        + resolveInsertPosition l.boundary.nameLen m.position + 1)
        65535).toUInt16.toNat
      = l.boundary.nameStart
        + resolveInsertPosition l.boundary.nameLen m.position + 1 := by
    rw [Nat.min_eq_left (by omega)]
    exact Nat.mod_eq_of_lt (by omega)
  refine ⟨_, _, _, bind_eq_ok.mpr ⟨_, hname, rfl⟩, rfl, rfl, rfl,
    length_insertDummy _ _ _, ?_, ?_, ?_⟩
  · rw [hpointer]
    omega
  · rw [hpointer]
    omega
  · rw [hpointer, Nat.add_sub_cancel]
    exact eraseIdx_insertDummy (by omega) _

/-- The name `a.io` split in the middle by a zero byte. -/
theorem UrgSniSplit.splice_reversible_sample :
    ∃ v staged p,
      UrgSniSplit.onFirstDataPacket ⟨0, .middle⟩ (sampleData sampleHello).view
        = .ok (.emitAndComplete, v)
      ∧ v.newPayload = some staged ∧ v.newUrgentPointer = some p
      ∧ 61 < p.toNat ∧ staged.eraseIdx (p.toNat - 1) = sampleHello := by
  have hrange : findSniRange (sampleData sampleHello).view.payload
      = .ok (some (61, 4)) := by
    rw [findSniRange]
    exact congrArg (Except.map _) sampleHello_sni
  obtain ⟨v, staged, p, h, hstaged, hp, -, -, hlo, -, herase⟩ :=
    UrgSniSplit.splice_reversible ⟨0, .middle⟩ (sampleData sampleHello).view
      (by decide) hrange
  exact ⟨v, staged, p, h, hstaged, hp, hlo, herase⟩

end ZeroDpi
