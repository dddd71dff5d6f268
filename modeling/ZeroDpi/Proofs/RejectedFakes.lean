/-
Where the fakes stand that the server is to reject for their numbers.

A number is before another if it is one to 2^31 places behind it on the
circle. The fakes of `wrong_seq` and `fake_tls` end `extra_offset` places
before the last byte the server has, and `wrong_timestamp` writes a TSval
that is `offset` behind the captured one. `validate` bounds none of these
from above, so the statements say from where on they come round again.
-/
import ZeroDpi.Methods.Data
import ZeroDpi.Proofs.Config
import ZeroDpi.Proofs.Emission
import ZeroDpi.Proofs.Steps

namespace ZeroDpi

open Lib Handler

-- ====================================================== serial numbers

/-- `p` is before `mark`: one to 2^31 places behind it. -/
def Before (mark p : UInt32) : Prop :=
  1 ≤ (mark - p).toNat ∧ (mark - p).toNat ≤ 0x80000000

instance (mark p : UInt32) : Decidable (Before mark p) :=
  inferInstanceAs (Decidable (_ ∧ _))

/-- The last byte of a segment is before `mark`. -/
def EndsBefore (mark : UInt32) (q : Segment) : Prop :=
  Before mark (q.seq + (q.payload.length - 1).toUInt32)

/-- Every byte of it is. -/
def LiesBefore (mark : UInt32) (q : Segment) : Prop :=
  ∀ i, i < q.payload.length → Before mark (q.seq + i.toUInt32)

instance (mark : UInt32) (q : Segment) : Decidable (EndsBefore mark q) :=
  inferInstanceAs (Decidable (Before _ _))

section Window

variable {synSeq extraOffset : UInt32} {payload : Bytes}

/-- How far behind `syn_seq + 1` a byte of the fake is. -/
theorem fake_byte {i : Nat} (h : i ≤ payload.length) :
    (synSeq + 1 - (seqBehindWindow synSeq payload.length.toUInt32 extraOffset
      + i.toUInt32)).toNat
      = (payload.length - i + extraOffset.toNat) % 0x100000000 := by
  obtain ⟨k, hk⟩ : ∃ k, payload.length = i + k :=
    ⟨payload.length - i, by omega⟩
  have hdist : synSeq + 1 - (seqBehindWindow synSeq
      payload.length.toUInt32 extraOffset + i.toUInt32)
      = k.toUInt32 + extraOffset := by
    simp only [seqBehindWindow, hk, Nat.toUInt32_eq, UInt32.ofNat_add]
    grind
  have hnat : k.toUInt32.toNat = k % 0x100000000 := rfl
  rw [hdist, UInt32.toNat_add, hnat]
  omega

theorem endsBefore_iff (h : payload ≠ []) :
    EndsBefore (synSeq + 1)
        ⟨seqBehindWindow synSeq payload.length.toUInt32 extraOffset, payload⟩
      ↔ extraOffset.toNat < 0x80000000 := by
  have hpos := List.length_pos_iff.mpr h
  have hlt := extraOffset.toNat_lt
  have hlast := @fake_byte synSeq extraOffset payload (payload.length - 1)
    (by omega)
  simp only [EndsBefore, Before, hlast]
  omega

theorem liesBefore_iff (h : payload ≠ []) :
    LiesBefore (synSeq + 1)
        ⟨seqBehindWindow synSeq payload.length.toUInt32 extraOffset, payload⟩
      ↔ payload.length + extraOffset.toNat ≤ 0x80000000 := by
  have hpos := List.length_pos_iff.mpr h
  have hlt := extraOffset.toNat_lt
  constructor
  · intro hall
    by_cases hfits : payload.length + extraOffset.toNat ≤ 0x80000000
    · exact hfits
    · exfalso
      -- the byte that is 2^31 + 1 behind, or else the last one
      by_cases hfar : extraOffset.toNat < 0x80000000
      · have hbyte := hall (payload.length + extraOffset.toNat - 0x80000001)
          (show _ < payload.length by omega)
        rw [Before, fake_byte (by omega)] at hbyte
        omega
      · have hbyte := hall (payload.length - 1)
          (show _ < payload.length by omega)
        rw [Before, fake_byte (by omega)] at hbyte
        omega
  · intro hfits i hi
    have hin : i < payload.length := hi
    rw [Before, fake_byte (by omega)]
    omega

end Window

/-- The segment that a view stages in place of the packet. -/
def PacketView.stagedSegment (view : PacketView) : Option Segment := do
  let seq ← view.newSeq
  let payload ← view.newPayload
  return ⟨seq, payload⟩

/-- The segment that a view stages beside the packet. -/
def PacketView.decoySegment (view : PacketView) : Option Segment :=
  view.decoy.map fun decoy => ⟨decoy.seq, decoy.payload⟩

-- ========================================================== timestamps

/-- The option walk of a receiver that looks for the timestamp. -/
def tsvalFrom (options : Bytes) : Nat → Nat → Option UInt32
  | 0, _ => none
  | fuel + 1, cursor =>
      match options[cursor]? with
      | none => none
      | some 0 => none
      | some 1 => tsvalFrom options fuel (cursor + 1)
      | some kind => do
          let optLen := (← options[cursor + 1]?).toNat
          if optLen < 2 then none
          let stop := cursor + optLen
          if stop > options.length then none
          if kind = 8 then some (be32At options (cursor + 2))
          else tsvalFrom options fuel stop

/-- The TSval of an option area. -/
def tsval? (options : Bytes) : Option UInt32 :=
  tsvalFrom options (options.length + 1) 0

section Walk

variable {options out : Bytes} {offset : UInt32} {fuel cursor : Nat}

theorem tsvalFrom_nop (h : options[cursor]? = some 1) :
    tsvalFrom options (fuel + 1) cursor
      = tsvalFrom options fuel (cursor + 1) := by
  rw [tsvalFrom, h]
  rfl

/-- One option of the receiver's walk. -/
theorem tsvalFrom_option {kind len : UInt8}
    (hkind : options[cursor]? = some kind) (h0 : kind ≠ 0) (h1 : kind ≠ 1)
    (hlen : options[cursor + 1]? = some len) (hmin : 2 ≤ len.toNat)
    (hin : cursor + len.toNat ≤ options.length) :
    tsvalFrom options (fuel + 1) cursor
      = if kind = 8 then some (be32At options (cursor + 2))
        else tsvalFrom options fuel (cursor + len.toNat) := by
  rw [tsvalFrom, hkind]
  split
  · rename_i heq
    cases heq
  · rename_i heq
    exact absurd (Option.some.inj heq) h0
  · rename_i heq
    exact absurd (Option.some.inj heq) h1
  · rename_i heq
    obtain rfl := Option.some.inj heq
    simp only [hlen, Option.bind_eq_bind, Option.bind_some]
    rw [if_neg (by omega), if_neg (by omega)]

/-- One turn of the backdating walk. -/
theorem backdateFrom_cases
    (h : backdateFrom options offset (fuel + 1) cursor = some out) :
    (options[cursor]? = some 1
        ∧ backdateFrom options offset fuel (cursor + 1) = some out)
      ∨ ∃ kind len, options[cursor]? = some kind ∧ kind ≠ 0 ∧ kind ≠ 1
        ∧ options[cursor + 1]? = some len ∧ 2 ≤ len.toNat
        ∧ cursor + len.toNat ≤ options.length
        ∧ ((kind = 8 ∧ len.toNat = 10
            ∧ out = overwrite options (cursor + 2)
              (toBe32 (be32At options (cursor + 2) - offset)))
          ∨ (kind ≠ 8 ∧ backdateFrom options offset fuel
              (cursor + len.toNat) = some out)) := by
  rw [backdateFrom] at h
  split at h
  · cases h
  · cases h
  · exact .inl ⟨by assumption, h⟩
  case h_4 kind h0 h1 hkind =>
    obtain ⟨len, hlen, h⟩ := Option.bind_eq_some_iff.mp h
    simp only at h
    split at h
    · cases h
    · split at h
      · cases h
      · right
        refine ⟨kind, len, hkind, h0, h1, hlen, by omega, by omega, ?_⟩
        by_cases h8 : kind = 8
        · rw [if_pos h8] at h
          split at h
          · cases h
          · cases h
            exact .inl ⟨h8, by omega, rfl⟩
        · rw [if_neg h8] at h
          exact .inr ⟨h8, h⟩

/-- What the backdating walk writes: the four bytes of a TSval, read back
by a walk of the receiver's. -/
theorem backdateFrom_spec
    (h : backdateFrom options offset fuel cursor = some out) :
    ∃ pos tsval, cursor ≤ pos ∧ pos + 6 ≤ options.length
      ∧ out = overwrite options (pos + 2) (toBe32 (tsval - offset))
      ∧ tsvalFrom options fuel cursor = some tsval
      ∧ tsvalFrom out fuel cursor = some (tsval - offset) := by
  induction fuel generalizing cursor with
  | zero => cases h
  | succ fuel ih =>
      rcases backdateFrom_cases h with ⟨hnop, h⟩
        | ⟨kind, len, hkind, h0, h1, hlen, hmin, hin, hend⟩
      · obtain ⟨pos, tsval, hle, hroom, rfl, hold, hnew⟩ := ih h
        refine ⟨pos, tsval, by omega, hroom, rfl, ?_, ?_⟩
        · rw [tsvalFrom_nop hnop, hold]
        · rw [tsvalFrom_nop, hnew]
          rw [getElem?_overwrite_of_lt (by simp; omega) (by omega), hnop]
      · rcases hend with ⟨h8, h10, rfl⟩ | ⟨h8, h⟩
        · have hroom : cursor + 2 + (toBe32 (be32At options (cursor + 2)
              - offset)).length ≤ options.length := by
            rw [length_toBe32]
            omega
          have hkeep : ∀ j, j < cursor + 2 → (overwrite options (cursor + 2)
              (toBe32 (be32At options (cursor + 2) - offset)))[j]?
              = options[j]? :=
            fun j hj => getElem?_overwrite_of_lt hroom hj
          refine ⟨cursor, _, Nat.le_refl _, by omega, rfl,
            (tsvalFrom_option hkind h0 h1 hlen hmin hin).trans
              (if_pos h8), ?_⟩
          rw [tsvalFrom_option ((hkeep _ (by omega)).trans hkind) h0 h1
            ((hkeep _ (by omega)).trans hlen) hmin
            (by rw [length_overwrite hroom]; exact hin), if_pos h8,
            be32At_overwrite _ (by omega)]
        · obtain ⟨pos, tsval, hle, hroom, rfl, hold, hnew⟩ := ih h
          have hroom' : pos + 2 + (toBe32 (tsval - offset)).length
              ≤ options.length := by
            rw [length_toBe32]
            omega
          have hkeep : ∀ j, j < pos + 2 → (overwrite options (pos + 2)
              (toBe32 (tsval - offset)))[j]? = options[j]? :=
            fun j hj => getElem?_overwrite_of_lt hroom' hj
          refine ⟨pos, tsval, by omega, hroom, rfl, ?_, ?_⟩
          · rw [tsvalFrom_option hkind h0 h1 hlen hmin hin, if_neg h8, hold]
          · rw [tsvalFrom_option ((hkeep _ (by omega)).trans hkind) h0 h1
              ((hkeep _ (by omega)).trans hlen) hmin
              (by rw [length_overwrite hroom']; exact hin), if_neg h8, hnew]

end Walk

theorem backdateTcpTimestamp_spec {options out : Bytes} {offset : UInt32}
    (h : backdateTcpTimestamp options offset = some out) :
    ∃ tsval, tsval? options = some tsval
      ∧ tsval? out = some (tsval - offset) := by
  obtain ⟨pos, tsval, -, hroom, hout, hold, hnew⟩ := backdateFrom_spec h
  have hlen : out.length = options.length := by
    rw [hout]
    exact length_overwrite (by simp; omega)
  refine ⟨tsval, hold, ?_⟩
  rw [tsval?, hlen]
  exact hnew

theorem before_sub_iff {tsval offset : UInt32} (h : offset ≠ 0) :
    Before tsval (tsval - offset) ↔ offset.toNat ≤ 0x80000000 := by
  have hdist : tsval - (tsval - offset) = offset := by grind
  have hpos : offset.toNat ≠ 0 := fun hnat => h (UInt32.toNat_inj.mp hnat)
  rw [Before, hdist]
  omega

-- ============================================================= the fakes

/-- From which offsets on the fakes of a validated configuration are not
behind what the server has any more. The first two offsets count from the
last byte of a fake; for all its bytes its length counts too. -/
theorem fakes_rejected_iff {cfg : Config} (hcfg : cfg.validate = .ok ()) :
    (∀ (flow : FlowState) (pkt : PacketView) (synSeq : UInt32),
        flow.synSeq = some synSeq → flow.fakeData ≠ [] →
        ∃ action view q,
          (WrongSeq.new cfg).onHandshakeCompleteAck flow pkt
            = .ok (action, view)
          ∧ view.stagedSegment = some q ∧ q.payload = flow.fakeData
          ∧ (EndsBefore (synSeq + 1) q
            ↔ cfg.wrongSeqExtraOffset.toNat < 0x80000000)
          ∧ (LiesBefore (synSeq + 1) q ↔ flow.fakeData.length
            + cfg.wrongSeqExtraOffset.toNat ≤ 0x80000000))
      ∧ (∀ (chained : Bool) (env : HookEnv) (flow : FlowState)
          (pkt : PacketView) (synSeq : UInt32),
          (chained && flow.firstDataModified) = false →
          flow.synSeq = some synSeq → flow.fakeData ≠ [] →
          ∃ action view q,
            (FakeTls.new cfg chained).onFirstDataPacket env flow pkt
              = .ok (action, view)
            ∧ (if chained then view.decoySegment else view.stagedSegment)
              = some q
            ∧ q.payload = flow.fakeData
            ∧ (EndsBefore (synSeq + 1) q
              ↔ cfg.fakeTlsExtraOffset.toNat < 0x80000000)
            ∧ (LiesBefore (synSeq + 1) q ↔ flow.fakeData.length
              + cfg.fakeTlsExtraOffset.toNat ≤ 0x80000000))
      ∧ ∀ (flow : FlowState) (pkt : PacketView) (options : Bytes),
          backdateTcpTimestamp pkt.tcpOptions cfg.wrongTimestampOffset
            = some options →
          ∃ action view old new,
            (WrongTimestamp.new cfg).onHandshakeCompleteAck flow pkt
              = .ok (action, view)
            ∧ view.replaceTcpOptions = some options
            ∧ tsval? pkt.tcpOptions = some old ∧ tsval? options = some new
            ∧ (Before old new
              ↔ cfg.wrongTimestampOffset.toNat ≤ 0x80000000) := by
  refine ⟨?_, ?_, ?_⟩
  · intro flow pkt synSeq hsyn hfake
    have hhook : ∃ view,
        (WrongSeq.new cfg).onHandshakeCompleteAck flow pkt
          = .ok (.emitAndWaitForAck, view)
        ∧ view.stagedSegment = some ⟨seqBehindWindow synSeq
          flow.fakeData.length.toUInt32 cfg.wrongSeqExtraOffset,
          flow.fakeData⟩ := by
      rw [WrongSeq.onHandshakeCompleteAck, hsyn]
      exact ⟨_, rfl, rfl⟩
    obtain ⟨view, hview, hq⟩ := hhook
    exact ⟨_, view, _, hview, hq, rfl, endsBefore_iff hfake,
      liesBefore_iff hfake⟩
  · intro chained env flow pkt synSeq hfirst hsyn hfake
    have hhook : ∃ action view,
        (FakeTls.new cfg chained).onFirstDataPacket env flow pkt
          = .ok (action, view)
        ∧ (if chained then view.decoySegment else view.stagedSegment)
          = some ⟨seqBehindWindow synSeq flow.fakeData.length.toUInt32
            cfg.fakeTlsExtraOffset, flow.fakeData⟩ := by
      have hchained : ((FakeTls.new cfg chained).chained
          && flow.firstDataModified) = false := hfirst
      rw [FakeTls.onFirstDataPacket, hchained, hsyn]
      cases chained with
      | true => exact ⟨_, _, rfl, rfl⟩
      | false => exact ⟨_, _, rfl, rfl⟩
    obtain ⟨action, view, hview, hq⟩ := hhook
    exact ⟨action, view, _, hview, hq, rfl, endsBefore_iff hfake,
      liesBefore_iff hfake⟩
  · intro flow pkt options hback
    obtain ⟨tsval, hold, hnew⟩ := backdateTcpTimestamp_spec hback
    have hoffset := (Config.validParams hcfg).timestampOffset
    have hhook : ∃ action view,
        (WrongTimestamp.new cfg).onHandshakeCompleteAck flow pkt
          = .ok (action, view)
        ∧ view.replaceTcpOptions = some options := by
      have hnew : backdateTcpTimestamp pkt.tcpOptions
          (WrongTimestamp.new cfg).offset = some options := hback
      rw [WrongTimestamp.onHandshakeCompleteAck, hnew]
      exact ⟨_, _, rfl, rfl⟩
    obtain ⟨action, view, hview, hoptions⟩ := hhook
    exact ⟨action, view, tsval, _, hview, hoptions, hold, hnew,
      before_sub_iff hoffset⟩

/-- The sample flow before its first fake. -/
def sampleFlow : FlowState :=
  { FlowState.new [0x16, 3, 1] none with synSeq := some 100 }

/-- A timestamp option behind two paddings. -/
def sampleOptions : Bytes := [1, 1, 8, 10, 0, 0, 0, 5, 0, 0, 0, 0]

/-- By default the fake of `wrong_seq` is behind what the server has. -/
theorem fakes_rejected_sample :
    ∃ action view q,
      (WrongSeq.new { bypassMethod := [.wrongSeq] }).onHandshakeCompleteAck
        sampleFlow sampleAck.view = .ok (action, view)
      ∧ view.stagedSegment = some q ∧ EndsBefore 101 q := by
  obtain ⟨action, view, q, hview, hq, -, hends, -⟩ :=
    (fakes_rejected_iff (show Config.validate
        { bypassMethod := [.wrongSeq] } = .ok () from rfl)).1
      sampleFlow sampleAck.view 100 rfl (by decide)
  exact ⟨action, view, q, hview, hq, hends.mpr (by decide)⟩

/-- Half the circle on, the fake is in front of it, and so is the
timestamp. -/
theorem fakes_in_window :
    let cfg : Config := {
      bypassMethod := [.wrongSeq]
      wrongSeqExtraOffset := 0x80000000
      fakeTlsExtraOffset := 0xFFFFFFFF
      wrongTimestampOffset := 0x80000001 }
    cfg.validate = .ok ()
      ∧ (∃ action view q,
        (WrongSeq.new cfg).onHandshakeCompleteAck sampleFlow sampleAck.view
          = .ok (action, view)
        ∧ view.stagedSegment = some q ∧ ¬ EndsBefore 101 q)
      ∧ (∃ action view q,
        (FakeTls.new cfg true).onFirstDataPacket sampleEnv sampleFlow
          sampleAck.view = .ok (action, view)
        ∧ view.decoySegment = some q ∧ ¬ EndsBefore 101 q)
      ∧ ∃ options, backdateTcpTimestamp sampleOptions cfg.wrongTimestampOffset
          = some options
        ∧ tsval? sampleOptions = some 5
        ∧ tsval? options = some 0x80000004 ∧ ¬ Before 5 0x80000004 := by
  refine ⟨rfl, ⟨_, _, _, rfl, rfl, ?_⟩, ⟨_, _, _, rfl, rfl, ?_⟩,
    ⟨_, rfl, rfl, rfl, ?_⟩⟩
  · decide
  · decide
  · decide

end ZeroDpi
