/-
What the order of a method list decides, stage by stage.

# The data stage

Nothing. A data hook reads the captured half of the packet and the flow,
and writes the staged half without reading it, so what it does is an
`Edit` that is known before the stage begins (`Member.edit`). Two members
of a validated list edit different parts of the view, and their actions
are folded with `and` and `or`; so the turns of the loop commute, and a
fold with commuting turns is the same over every permutation.

# The handshake stage

The composite means to take PSH and the identification bump from the first
member that emits. It finds the flags by the first change from nothing to
something, which is right: every emitter stages flags. It finds the bump
by a change from false to true, and an emitter that stages no bump is no
change; so a bump of any later emitter gets through.
-/
import ZeroDpi.Proofs.HandshakeStage

namespace ZeroDpi

open Lib Handler

-- ================================================================ edits

/-- What a data hook writes into the staged half of a view. -/
inductive Edit where
  | keep
  /-- The packet's payload re-framed. -/
  | rewrite (flags : TcpFlags) (payload : Bytes) (bumpIpv4Ident : Bool)
  /-- The packet replaced by a decoy. -/
  | replace (seq : UInt32) (flags : TcpFlags) (payload : Bytes)
      (bumpIpv4Ident emitOriginalAfter : Bool)
  | decoy (packet : DecoyPacket)
  | fragment (size : Nat)
  | segment (spec : DisorderSpec)

/-- The parts of the staged half that data hooks write. -/
inductive Part where
  | packet
  | decoy
  | shape
  deriving DecidableEq

namespace Edit

/-- The view behind an edit. -/
def apply : Edit → PacketView → PacketView
  | .keep, v => v
  | .rewrite flags payload bumpIpv4Ident, v =>
      { v with
        newFlags := some flags
        newPayload := some payload
        bumpIpv4Ident := bumpIpv4Ident }
  | .replace seq flags payload bumpIpv4Ident emitOriginalAfter, v =>
      { v with
        newSeq := some seq
        newFlags := some flags
        newPayload := some payload
        bumpIpv4Ident := bumpIpv4Ident
        emitOriginalAfter := emitOriginalAfter }
  | .decoy packet, v => { v with decoy := some packet }
  | .fragment size, v => { v with ipFragPayloadSize := some size }
  | .segment spec, v => { v with disorderSpec := some spec }

/-- The edit writes this part, if anything. -/
def Within (part : Part) : Edit → Prop
  | .keep => True
  | .rewrite .. | .replace .. => part = .packet
  | .decoy _ => part = .decoy
  | .fragment _ | .segment _ => part = .shape

@[simp] theorem apply_toCapturedPacket (e : Edit) (v : PacketView) :
    (e.apply v).toCapturedPacket = v.toCapturedPacket := by
  cases e <;> rfl

/-- Edits of different parts commute. -/
theorem apply_comm {part part' : Part} (hne : part ≠ part') {e e' : Edit}
    (h : e.Within part) (h' : e'.Within part') (v : PacketView) :
    e.apply (e'.apply v) = e'.apply (e.apply v) := by
  have hclash : ∀ {p : Part}, part = p → part' = p → False := by
    intro p hp hp'
    exact hne (hp.trans hp'.symm)
  cases e <;> cases e' <;> first | rfl | exact (hclash h h').elim

end Edit

-- =========================================================== the members

namespace Member

/-- The panic of a `fake_tls` that has not seen the SYN. -/
def noSyn : Panic :=
  .expectFailed "syn_seq must be set before the first data packet"

/-- The request of the two segmenting shapers. -/
def segmentEdit (c : CapturedPacket) (spec : DisorderSpec) : Edit :=
  if c.payloadLen ≥ spec.segments then .segment spec else .keep

/-- What `fake_tls` stages. -/
def fakeTlsEdit (m : FakeTls) (env : HookEnv) (flow : FlowState)
    (c : CapturedPacket) (synSeq : UInt32) : Edit :=
  let payload := flow.fakeData
  let newSeq :=
    seqBehindWindow synSeq payload.length.toUInt32 m.extraOffset
  if m.chained then .decoy (m.decoy env newSeq payload c.flags)
  else .replace newSeq { c.flags with psh := m.setPsh } payload
    m.bumpIpIdent m.forwardReal

/-- The action and the edit of a data-stage member. -/
def edit (env : HookEnv) (flow : FlowState) (c : CapturedPacket) :
    Member → Except Panic (MethodAction × Edit)
  | .tlsRecordFrag m => do
      match ← fragmentPayload c.payload m.fragSize with
      | none => return (.completeAndAccept, .keep)
      | some fragmented => return (.emitAndComplete,
          .rewrite { c.flags with psh := m.setPsh } fragmented m.bumpIpIdent)
  | .fakeTls m =>
      if m.chained && flow.firstDataModified then
        .ok (.completeAndAccept, .keep)
      else match flow.synSeq with
        | none => .error noSyn
        | some synSeq => .ok (.emitFakeAndAccept m.completeImmediately false,
            fakeTlsEdit m env flow c synSeq)
  | .ipFrag m => .ok (.emitShaped m.onlyFirstPacket,
      if 20 + c.tcpOptions.length + c.payloadLen > m.fragSize then
        .fragment m.fragSize
      else .keep)
  | .disorder m =>
      .ok (.emitShaped m.onlyFirstPacket, segmentEdit c m.spec)
  | .seqovl m => .ok (.emitAndComplete, segmentEdit c m.spec)
  | _ => .ok (.passThrough, .keep)

theorem stageSegments_eq (v : PacketView) (spec : DisorderSpec) :
    v.stageSegments spec
      = (segmentEdit v.toCapturedPacket spec).apply v := by
  unfold PacketView.stageSegments segmentEdit
  split <;> rfl

/-- The data hook of a data-stage member is its edit. -/
theorem dataHook_eq {x : Member} (hx : x.DataReady) (env : HookEnv)
    (flow : FlowState) (v : PacketView) :
    BypassMethod.onFirstDataPacket x env flow v
      = (x.edit env flow v.toCapturedPacket).map fun r =>
          (r.1, r.2.apply v) := by
  cases x with
  | tlsRecordFrag m =>
      have hsize : m.fragSize ≠ 0 := Nat.pos_iff_ne_zero.mp hx
      show m.onFirstDataPacket v = _
      simp only [TlsRecordFrag.onFirstDataPacket, edit, fragmentPayload,
        hsize, if_false]
      cases fragmentRecords m.fragSize v.payload.length v.payload with
      | none => rfl
      | some fragmented => rfl
  | fakeTls m =>
      show m.onFirstDataPacket env flow v = _
      simp only [FakeTls.onFirstDataPacket, edit]
      split
      · rfl
      · cases flow.synSeq with
        | none => rfl
        | some synSeq =>
            simp only [fakeTlsEdit, Except.map]
            cases m.chained with
            | true => rfl
            | false => rfl
  | ipFrag m =>
      show Except.ok (m.onFirstDataPacket v) = _
      simp only [IpFrag.onFirstDataPacket, edit, Except.map]
      split <;> rfl
  | disorder m =>
      show Except.ok (m.onFirstDataPacket v) = _
      simp only [Disorder.onFirstDataPacket, edit, Except.map,
        stageSegments_eq]
  | seqovl m =>
      show Except.ok (m.onFirstDataPacket v) = _
      simp only [Seqovl.onFirstDataPacket, edit, Except.map,
        stageSegments_eq]
  | _ => cases hx

/-- The part of the view a data-stage member writes. -/
def part : Member → Part
  | .fakeTls m => if m.chained then .decoy else .packet
  | .ipFrag _ | .disorder _ | .seqovl _ => .shape
  | _ => .packet

theorem segmentEdit_within (c : CapturedPacket) (spec : DisorderSpec) :
    (segmentEdit c spec).Within .shape := by
  unfold segmentEdit
  split
  · rfl
  · trivial

/-- A member stays within its part, and never aborts. -/
theorem edit_within {x : Member} {env : HookEnv} {flow : FlowState}
    {c : CapturedPacket} {a : MethodAction} {e : Edit}
    (h : x.edit env flow c = .ok (a, e)) :
    e.Within x.part ∧ a ≠ .abortAndAccept := by
  cases x with
  | tlsRecordFrag m =>
      obtain ⟨out, -, h⟩ := bind_eq_ok.mp h
      cases out with
      | none =>
          cases h
          exact ⟨trivial, nofun⟩
      | some fragmented =>
          cases h
          exact ⟨rfl, nofun⟩
  | fakeTls m =>
      simp only [edit] at h
      split at h
      · cases h
        exact ⟨trivial, nofun⟩
      · split at h
        · cases h
        · cases h
          refine ⟨?_, nofun⟩
          by_cases hc : m.chained = true
          · simp [fakeTlsEdit, part, hc, Edit.Within]
          · simp [fakeTlsEdit, part, hc, Edit.Within]
  | ipFrag m =>
      cases h
      refine ⟨?_, MethodAction.emitShaped_ne_abort m.onlyFirstPacket⟩
      split
      · rfl
      · trivial
  | disorder m =>
      cases h
      exact ⟨segmentEdit_within c m.spec,
        MethodAction.emitShaped_ne_abort m.onlyFirstPacket⟩
  | seqovl m =>
      cases h
      exact ⟨segmentEdit_within c m.spec, nofun⟩
  | _ =>
      cases h
      exact ⟨trivial, nofun⟩

/-- Only a `fake_tls` without its SYN panics. -/
theorem edit_error {x : Member} (hx : x.DataReady) {env : HookEnv}
    {flow : FlowState} {c : CapturedPacket} {p : Panic}
    (h : x.edit env flow c = .error p) : p = noSyn := by
  cases x with
  | tlsRecordFrag m =>
      have hsize : m.fragSize ≠ 0 := Nat.pos_iff_ne_zero.mp hx
      simp only [edit, fragmentPayload, hsize, if_false] at h
      cases hout : fragmentRecords m.fragSize c.payload.length c.payload with
      | none =>
          rw [hout] at h
          cases h
      | some fragmented =>
          rw [hout] at h
          cases h
  | fakeTls m =>
      simp only [edit] at h
      split at h
      · cases h
      · split at h
        · cases h
          rfl
        · cases h
  | _ => cases h

end Member

-- ========================================================= the data stage

namespace CompositeMethod

/-- An action folded into the locals of the data-stage loop. -/
def DataAcc.fold (acc : DataAcc) : MethodAction → DataAcc
  | .emitFakeAndAccept immediate more => {
      sawEmit := true
      completeImmediately := acc.completeImmediately && immediate
      continueWithData := acc.continueWithData || more }
  | _ => acc

theorem DataAcc.fold_comm (acc : DataAcc) (a a' : MethodAction) :
    (acc.fold a).fold a' = (acc.fold a').fold a := by
  cases a <;> cases a' <;>
    simp [fold, Bool.and_right_comm, Bool.or_right_comm]

/-- A turn of the loop by a member that does not abort. -/
def dataTurn (env : HookEnv) (flow : FlowState)
    (r : Except Panic (DataAcc × PacketView)) (x : Member) :
    Except Panic (DataAcc × PacketView) := do
  let (acc, v) ← r
  let (a, e) ← x.edit env flow v.toCapturedPacket
  return (acc.fold a, e.apply v)

variable {env : HookEnv} {flow : FlowState}

theorem dataTurn_ok {x : Member} {acc : DataAcc} {v : PacketView}
    {a : MethodAction} {e : Edit}
    (h : x.edit env flow v.toCapturedPacket = .ok (a, e)) :
    dataTurn env flow (.ok (acc, v)) x = .ok (acc.fold a, e.apply v) := by
  show (x.edit env flow v.toCapturedPacket >>= _) = _
  rw [h]
  rfl

theorem dataTurn_error {x : Member} {acc : DataAcc} {v : PacketView}
    {p : Panic} (h : x.edit env flow v.toCapturedPacket = .error p) :
    dataTurn env flow (.ok (acc, v)) x = .error p := by
  show (x.edit env flow v.toCapturedPacket >>= _) = _
  rw [h]
  rfl

theorem foldl_dataTurn_error (p : Panic) (ms : List Member) :
    ms.foldl (dataTurn env flow) (.error p) = .error p := by
  induction ms with
  | nil => rfl
  | cons x rest ih => exact ih

/-- The loop over data-stage members is a fold of turns. -/
theorem dataLoop_eq_foldl {ms : List Member}
    (hready : ∀ x ∈ ms, x.DataReady) (acc : DataAcc) (v : PacketView) :
    dataLoop env flow ms acc v
      = (ms.foldl (dataTurn env flow) (.ok (acc, v))).map fun r =>
          (r.1.action, r.2) := by
  induction ms generalizing acc v with
  | nil => rfl
  | cons x rest ih =>
      have hrest : ∀ y ∈ rest, y.DataReady :=
        fun y hy => hready y (List.mem_cons_of_mem x hy)
      rw [dataLoop, Member.dataHook_eq (hready x List.mem_cons_self),
        List.foldl_cons]
      cases hedit : x.edit env flow v.toCapturedPacket with
      | error p =>
          rw [dataTurn_error hedit, foldl_dataTurn_error]
          rfl
      | ok r =>
          obtain ⟨a, e⟩ := r
          have hnot := (Member.edit_within hedit).2
          rw [dataTurn_ok hedit]
          cases a with
          | emitFakeAndAccept immediate more => exact ih hrest _ _
          | completeAndAccept => exact ih hrest _ _
          | passThrough => exact ih hrest _ _
          | abortAndAccept => exact absurd rfl hnot

/-- Members that write different parts take their turns in either
order. -/
theorem dataTurn_comm {x y : Member} (hx : x.DataReady) (hy : y.DataReady)
    (hne : x.part ≠ y.part) (r : Except Panic (DataAcc × PacketView)) :
    dataTurn env flow (dataTurn env flow r x) y
      = dataTurn env flow (dataTurn env flow r y) x := by
  cases r with
  | error p => rfl
  | ok r =>
      obtain ⟨acc, v⟩ := r
      cases hxe : x.edit env flow v.toCapturedPacket with
      | error p =>
          rw [dataTurn_error hxe]
          cases hye : y.edit env flow v.toCapturedPacket with
          | error q =>
              rw [dataTurn_error hye, Member.edit_error hx hxe,
                Member.edit_error hy hye]
              rfl
          | ok b =>
              rw [dataTurn_ok hye, dataTurn_error (by simpa using hxe)]
              rfl
      | ok a =>
          rw [dataTurn_ok hxe]
          cases hye : y.edit env flow v.toCapturedPacket with
          | error q =>
              rw [dataTurn_error hye, dataTurn_error (by simpa using hye)]
              rfl
          | ok b =>
              rw [dataTurn_ok hye, dataTurn_ok (by simpa using hye),
                dataTurn_ok (by simpa using hxe), DataAcc.fold_comm,
                Edit.apply_comm hne (Member.edit_within hxe).1
                  (Member.edit_within hye).1]

end CompositeMethod

/-- The part of the view a data-stage method writes, beside another one. -/
def MethodName.part : MethodName → Part
  | .fakeTls => .decoy
  | .ipFrag | .disorder | .seqovl => .shape
  | _ => .packet

/-- Two methods that write the same part are both shapers. -/
theorem MethodName.shapers_of_part {n k : MethodName}
    (hn : n.isDataStage = true) (hk : k.isDataStage = true) (hne : n ≠ k)
    (h : n.part = k.part) :
    n ∈ [.ipFrag, .disorder, .seqovl] ∧ k ∈ [.ipFrag, .disorder, .seqovl] := by
  cases n with
  | tlsRecordFrag => cases k <;> simp_all [isDataStage, part]
  | fakeTls => cases k <;> simp_all [isDataStage, part]
  | ipFrag => cases k <;> simp_all [isDataStage, part]
  | disorder => cases k <;> simp_all [isDataStage, part]
  | seqovl => cases k <;> simp_all [isDataStage, part]
  | _ => cases hn

section Order

variable {cfg : Config} {freshSeed : MethodName → UInt64}
  {m : CompositeMethod Member}

theorem dataMember_part {n : MethodName} {x : Member}
    (h : dataMember cfg freshSeed n = some x)
    (hchained : n = .fakeTls → cfg.bypassMethod.chainedFakeTls = true) :
    x.part = n.part := by
  cases n with
  | fakeTls =>
      cases h
      simp [Member.part, FakeTls.new, MethodName.part, hchained rfl]
  | _ => cases h <;> rfl

/-- Two data members of a validated list write different parts, unless
they are the same. -/
theorem BuiltFrom.part_ne (hb : BuiltFrom cfg freshSeed m)
    (hv : cfg.ValidList) {x y : Member} (hx : x ∈ m.dataMethods)
    (hy : y ∈ m.dataMethods) (hne : x ≠ y) : x.part ≠ y.part := by
  rw [hb.dataMethods] at hx hy
  obtain ⟨n, hn, hnx⟩ := List.mem_filterMap.mp hx
  obtain ⟨k, hk, hky⟩ := List.mem_filterMap.mp hy
  have hnk : n ≠ k := by
    intro h
    subst h
    exact hne (Option.some.inj (hnx.symm.trans hky))
  have hnstage : n.isDataStage = true := by
    rw [← dataMember_isSome cfg freshSeed, hnx]
    rfl
  have hkstage : k.isDataStage = true := by
    rw [← dataMember_isSome cfg freshSeed, hky]
    rfl
  -- beside another data member, `fake_tls` is chained
  have hnc : n = .fakeTls → cfg.bypassMethod.chainedFakeTls = true := by
    intro h
    exact BypassMethodList.chainedFakeTls_iff.mpr
      ⟨h ▸ hn, k, hk, hkstage, fun hf => hnk (h.trans hf.symm)⟩
  have hkc : k = .fakeTls → cfg.bypassMethod.chainedFakeTls = true := by
    intro h
    exact BypassMethodList.chainedFakeTls_iff.mpr
      ⟨h ▸ hk, n, hn, hnstage, fun hf => hnk (hf.trans h.symm)⟩
  rw [dataMember_part hnx hnc, dataMember_part hky hkc]
  intro hpart
  obtain ⟨hns, hks⟩ :=
    MethodName.shapers_of_part hnstage hkstage hnk hpart
  exact hnk (hv.shaper_unique hns hn hks hk)

/-- The order of the data members of a validated list decides nothing. -/
theorem BuiltFrom.dataLoop_perm (hb : BuiltFrom cfg freshSeed m)
    (hv : cfg.ValidList) (hsize : 0 < cfg.tlsRecordFragSize)
    {ms : List Member} (hperm : m.dataMethods.Perm ms) (env : HookEnv)
    (flow : FlowState) (acc : CompositeMethod.DataAcc) (v : PacketView) :
    CompositeMethod.dataLoop env flow ms acc v
      = CompositeMethod.dataLoop env flow m.dataMethods acc v := by
  have hready := hb.dataReady hsize
  have hready' : ∀ x ∈ ms, x.DataReady :=
    fun x hx => hready x (hperm.mem_iff.mpr hx)
  rw [CompositeMethod.dataLoop_eq_foldl hready,
    CompositeMethod.dataLoop_eq_foldl hready']
  congr 1
  refine (hperm.foldl_eq' ?_ _).symm
  intro x hx y hy r
  by_cases hxy : x = y
  · rw [hxy]
  · exact CompositeMethod.dataTurn_comm (hready x hx) (hready y hy)
      (hb.part_ne hv hx hy hxy) r

/-- What `chained_fake_tls` reads off a list does not depend on its
order. -/
theorem BypassMethodList.chainedFakeTls_perm {l l' : BypassMethodList}
    (h : l.Perm l') : l'.chainedFakeTls = l.chainedFakeTls := by
  rw [Bool.eq_iff_iff, chainedFakeTls_iff, chainedFakeTls_iff]
  simp only [h.mem_iff]

theorem requires_of_build (h : buildMethod cfg freshSeed = some m) :
    cfg.bypassMethod.requiresInterceptor = true := by
  simp only [buildMethod] at h
  split at h
  · cases h
  case isFalse hlist =>
    simp only [BypassMethodList.isSocketOnly, Bool.not_eq_true,
      Bool.or_eq_false_iff] at hlist
    obtain ⟨hne, hsocket⟩ := hlist
    rw [hne, Bool.not_false, Bool.true_and] at hsocket
    obtain ⟨n, hn, hside⟩ := List.all_eq_false.mp hsocket
    refine List.any_eq_true.mpr ⟨n, hn, ?_⟩
    simpa using hside

/-- A permuted list passes the checks of the list. -/
theorem Config.ValidList.perm (h : cfg.ValidList) {list : BypassMethodList}
    (hperm : cfg.bypassMethod.Perm list) :
    Config.ValidList { cfg with bypassMethod := list } := by
  have hcontains : ∀ n, list.contains n = cfg.bypassMethod.contains n :=
    fun n => hperm.symm.contains_eq
  have hmem : ∀ {n}, n ∈ list ↔ n ∈ cfg.bypassMethod := hperm.symm.mem_iff
  refine ⟨?_, ?_, hperm.nodup_iff.mp h.nodup, ?_, ?_, ?_⟩
  · intro hnil
    rw [show list = [] from hnil] at hperm
    exact h.nonempty hperm.eq_nil
  · intro n hn
    exact h.base n (hmem.mp hn)
  · intro hurg n hn
    exact h.urgAlone (hmem.mp hurg) n (hmem.mp hn)
  · show ([.ipFrag, .disorder, .seqovl].filter list.contains).length ≤ 1
    rw [funext hcontains]
    exact h.oneShaper
  · show list.contains .fakeTls = true → (list.contains .tlsRecordFrag = true
      ∨ [.ipFrag, .disorder, .seqovl].filter list.contains ≠ []) → _
    rw [hcontains, hcontains, funext hcontains]
    exact h.chainedForwards

/-- For every validated list, every permutation of it builds, and its
composite answers every data packet as the list's own does: the same
action, the same staged view. -/
theorem data_stage_order_irrelevant (cfg : Config)
    (hv : cfg.validate = .ok ()) (freshSeed : MethodName → UInt64)
    (m : CompositeMethod Member) (hm : buildMethod cfg freshSeed = some m)
    (list : BypassMethodList) (hperm : cfg.bypassMethod.Perm list) :
    ∃ m', buildMethod { cfg with bypassMethod := list } freshSeed = some m'
      ∧ ∀ (env : HookEnv) (flow : FlowState) (pkt : PacketView),
        BypassMethod.onFirstDataPacket m' env flow pkt
          = BypassMethod.onFirstDataPacket m env flow pkt := by
  have hlist := Config.validList hv
  have hb := build_spec hm
  obtain ⟨m', hm'⟩ : ∃ m',
      buildMethod { cfg with bypassMethod := list } freshSeed = some m' := by
    have hreq : list.requiresInterceptor = true := by
      unfold BypassMethodList.requiresInterceptor
      rw [hperm.symm.any_eq]
      exact requires_of_build hm
    exact build_isSome (hlist.perm hperm) hreq freshSeed
  have hb' := build_spec hm'
  have hdata : m.dataMethods.Perm m'.dataMethods := by
    rw [hb.dataMethods, hb'.dataMethods]
    have hsame : dataMember { cfg with bypassMethod := list } freshSeed
        = dataMember cfg freshSeed := by
      funext n
      cases n with
      | fakeTls =>
          show some (Member.fakeTls (FakeTls.new _ list.chainedFakeTls)) = _
          rw [BypassMethodList.chainedFakeTls_perm hperm]
          rfl
      | _ => rfl
    rw [hsame]
    exact hperm.filterMap _
  refine ⟨m', hm', ?_⟩
  intro env flow pkt
  show m'.onFirstDataPacket env flow pkt = m.onFirstDataPacket env flow pkt
  unfold CompositeMethod.onFirstDataPacket
  have hempty : m'.dataMethods.isEmpty = m.dataMethods.isEmpty := by
    rw [Bool.eq_iff_iff, List.isEmpty_iff, List.isEmpty_iff]
    exact ⟨fun h => (h ▸ hdata).eq_nil, fun h => (h ▸ hdata).nil_eq.symm⟩
  rw [hempty, hb.dataLoop_perm hlist
    (Config.validParams hv).recordFragSize hdata]

/-- `["fake_tls", "tls_record_frag", "disorder"]`, and the same list
backwards. -/
theorem sample_data_stage_backwards :
    ∃ m m', buildMethod
          { bypassMethod := [.fakeTls, .tlsRecordFrag, .disorder] }
          (fun _ => 0) = some m
      ∧ buildMethod
          { bypassMethod := [.disorder, .tlsRecordFrag, .fakeTls] }
          (fun _ => 0) = some m'
      ∧ m'.dataMethods = m.dataMethods.reverse
      ∧ ∀ env flow pkt, BypassMethod.onFirstDataPacket m' env flow pkt
          = BypassMethod.onFirstDataPacket m env flow pkt := by
  obtain ⟨m', hm', halike⟩ := data_stage_order_irrelevant
    { bypassMethod := [.fakeTls, .tlsRecordFrag, .disorder] } rfl
    (fun _ => 0) _ rfl [.disorder, .tlsRecordFrag, .fakeTls]
    (by decide)
  refine ⟨_, m', rfl, hm', ?_, halike⟩
  cases hm'
  rfl

end Order

-- ==================================================== the handshake stage

namespace Member

/-- The PSH setting of a handshake-stage member. -/
def setPsh : Member → Bool
  | .wrongSeq m => m.setPsh
  | .wrongAck m => m.setPsh
  | .wrongChecksum m => m.setPsh
  | .wrongMd5 m => m.setPsh
  | .wrongTimestamp m => m.setPsh
  | .lowTtl m => m.setPsh
  | _ => false

/-- The identification setting of a handshake-stage member. -/
def bumpIpIdent : Member → Bool
  | .wrongSeq m => m.bumpIpIdent
  | .wrongAck m => m.bumpIpIdent
  | .wrongChecksum m => m.bumpIpIdent
  | .wrongMd5 m => m.bumpIpIdent
  | .wrongTimestamp m => m.bumpIpIdent
  | .lowTtl m => m.bumpIpIdent
  | _ => false

/-- What a handshake hook does to the two header settings: an emitter
stages its own, any other member leaves the view alone. -/
theorem handshake_headers {x : Member} {env : HookEnv} {s : FlowState}
    {v w : PacketView} {a : MethodAction}
    (h : BypassMethod.onHandshakeCompleteAck x env s v = .ok (a, w)) :
    w.newFlags = (if a.isEmit then some { v.flags with psh := x.setPsh }
        else v.newFlags)
      ∧ w.bumpIpv4Ident
        = (if a.isEmit then x.bumpIpIdent else v.bumpIpv4Ident) := by
  cases x with
  | wrongSeq m =>
      have h : m.onHandshakeCompleteAck s v = _ := h
      unfold WrongSeq.onHandshakeCompleteAck at h
      split at h
      · cases h
      · cases h
        exact ⟨rfl, rfl⟩
  | wrongAck m =>
      have h : m.onHandshakeCompleteAck s v = _ := h
      unfold WrongAck.onHandshakeCompleteAck at h
      split at h
      · cases h
      · cases h
        simp [MethodAction.isEmit, PacketView.stageFake, setPsh, bumpIpIdent]
  | wrongTimestamp m =>
      have h : m.onHandshakeCompleteAck s v = _ := h
      unfold WrongTimestamp.onHandshakeCompleteAck at h
      split at h
      · cases h
        exact ⟨rfl, rfl⟩
      · cases h
        simp [MethodAction.isEmit, PacketView.stageFake, setPsh, bumpIpIdent]
  | wrongChecksum m =>
      cases h
      simp [MethodAction.isEmit, PacketView.stageFake, setPsh, bumpIpIdent]
  | wrongMd5 m =>
      cases h
      simp [MethodAction.isEmit, PacketView.stageFake, setPsh, bumpIpIdent]
  | lowTtl m =>
      cases h
      simp [MethodAction.isEmit, PacketView.stageFake, setPsh, bumpIpIdent]
  | _ =>
      cases h
      exact ⟨rfl, rfl⟩

/-- The member answers the packet with a fake. -/
def emits (c : CapturedPacket) (x : Member) : Bool :=
  (x.handshakeAction c).isEmit

end Member

/-- The locals of the loop agree with the view: flags have been found
exactly if some are staged, and a staged bump has been found. -/
structure HandshakeAcc.Found (acc : HandshakeAcc) : Prop where
  flags : acc.firstFlags.isNone = acc.pkt.newFlags.isNone
  bump : acc.pkt.bumpIpv4Ident = true → acc.firstBumpIdent = true

/-- One turn of the loop: an emitter is found by its flags if it is the
first, and by its bump if it has one. -/
theorem HandshakeAcc.turn_found {env : HookEnv} {s : FlowState}
    (hs : s.SeqsKnown) {x : Member} {acc next : HandshakeAcc}
    (hacc : acc.Found) (h : acc.turn env s x = .ok next) :
    next.Found
      ∧ next.pkt.toCapturedPacket = acc.pkt.toCapturedPacket
      ∧ next.firstFlags = acc.firstFlags.or
        (if x.emits acc.pkt.toCapturedPacket then
          some { acc.pkt.flags with psh := x.setPsh } else none)
      ∧ next.firstBumpIdent = (acc.firstBumpIdent
        || (x.emits acc.pkt.toCapturedPacket && x.bumpIpIdent)) := by
  obtain ⟨v, hhook, hv⟩ := x.handshake_spec env hs acc.pkt
  obtain ⟨⟨a, w⟩, hhook', h⟩ := bind_eq_ok.mp h
  cases hhook.symm.trans hhook'
  cases h
  obtain ⟨hflags, hbump⟩ := Member.handshake_headers hhook
  have hfound := hacc.flags
  have hbefore := hacc.bump
  have hemits : (x.handshakeAction acc.pkt.toCapturedPacket).isEmit
      = x.emits acc.pkt.toCapturedPacket := rfl
  rw [hemits] at hflags hbump
  generalize x.emits acc.pkt.toCapturedPacket = emitted at hflags hbump ⊢
  cases emitted with
  | true =>
      simp only [if_true] at hflags hbump
      have hany : (acc.firstBumpIdent
            || (!acc.pkt.bumpIpv4Ident && x.bumpIpIdent))
          = (acc.firstBumpIdent || x.bumpIpIdent) := by
        cases hb : acc.pkt.bumpIpv4Ident with
        | true => simp [hbefore hb]
        | false => simp
      refine ⟨⟨?_, ?_⟩, hv, ?_, ?_⟩
      · cases hn : acc.pkt.newFlags with
        | none => simp [hflags]
        | some flags => simpa [hflags, hn] using hfound
      · intro hset
        have hset : v.bumpIpv4Ident = true := hset
        show (acc.firstBumpIdent
          || (!acc.pkt.bumpIpv4Ident && v.bumpIpv4Ident)) = true
        rw [hbump, hany, ← hbump, hset, Bool.or_true]
      · cases hn : acc.pkt.newFlags with
        | none =>
            have hfirst : acc.firstFlags = none := by simpa [hn] using hfound
            simp [hflags, hfirst]
        | some flags =>
            obtain ⟨first, hfirst⟩ : ∃ first, acc.firstFlags = some first :=
              Option.isSome_iff_exists.mp (by simpa [hn] using hfound)
            simp [hfirst]
      · simp [hbump, hany]
  | false =>
      simp only [Bool.false_eq_true, if_false] at hflags hbump
      have hsame : (acc.pkt.newFlags.isNone && v.newFlags.isSome) = false := by
        rw [hflags]
        cases acc.pkt.newFlags <;> rfl
      refine ⟨⟨?_, ?_⟩, hv, ?_, ?_⟩
      · simp only [hsame, Bool.false_eq_true, if_false]
        rw [hflags]
        exact hfound
      · intro hset
        have hset : v.bumpIpv4Ident = true := hset
        simp [hbefore (hbump ▸ hset)]
      · simp [hsame]
      · simp [hbump]

/-- What the loop finds: the flags of the first emitter, and whether any
emitter has the bump. -/
theorem handshake_found (env : HookEnv) {s : FlowState} (hs : s.SeqsKnown)
    (ms : List Member) {acc acc' : HandshakeAcc} (hacc : acc.Found)
    (hrun : ms.foldlM (HandshakeAcc.turn env s) acc = .ok acc') :
    acc'.firstFlags = acc.firstFlags.or
        ((ms.find? (Member.emits acc.pkt.toCapturedPacket)).map fun x =>
          { acc.pkt.flags with psh := x.setPsh })
      ∧ acc'.firstBumpIdent = (acc.firstBumpIdent
        || ms.any fun x => x.emits acc.pkt.toCapturedPacket
          && x.bumpIpIdent) := by
  induction ms generalizing acc with
  | nil =>
      cases hrun
      simp
  | cons x rest ih =>
      rw [List.foldlM_cons] at hrun
      obtain ⟨next, hturn, hrest⟩ := bind_eq_ok.mp hrun
      obtain ⟨hnext, hpkt, hflags, hbump⟩ := acc.turn_found hs hacc hturn
      obtain ⟨hflags', hbump'⟩ := ih hnext hrest
      rw [hpkt, hflags] at hflags'
      rw [hpkt, hbump] at hbump'
      refine ⟨?_, ?_⟩
      · rw [hflags']
        by_cases hemit : x.emits acc.pkt.toCapturedPacket = true
        · simp [hemit]
        · simp [hemit]
      · rw [hbump', List.any_cons, Bool.or_assoc]

-- ========================================== the settings of the first one

/-- The composite's hook answers, and the staged flags and bump are those
that the first emitting member stages by itself. -/
def HeadersFromFirst (m : CompositeMethod Member) (env : HookEnv)
    (s : FlowState) (pkt : CapturedPacket) : Prop :=
  ∃ action v, BypassMethod.onHandshakeCompleteAck m env s pkt.view
      = .ok (action, v)
    ∧ ∀ before first after a own,
      m.handshakeMethods = before ++ first :: after →
      (∀ x ∈ before, ∀ b w, BypassMethod.onHandshakeCompleteAck x env s
        pkt.view = .ok (b, w) → b.isEmit = false) →
      BypassMethod.onHandshakeCompleteAck first env s pkt.view
        = .ok (a, own) → a.isEmit = true →
      v.newFlags = own.newFlags ∧ v.bumpIpv4Ident = own.bumpIpv4Ident

/-- The `*_BUMP_IP_IDENT` setting of a handshake-stage method. -/
def Config.bumpIpIdent (cfg : Config) : MethodName → Bool
  | .wrongSeq => cfg.wrongSeqBumpIpIdent
  | .wrongAck => cfg.wrongAckBumpIpIdent
  | .wrongChecksum => cfg.wrongChecksumBumpIpIdent
  | .wrongMd5 => cfg.wrongMd5BumpIpIdent
  | .wrongTimestamp => cfg.wrongTimestampBumpIpIdent
  | .lowTtl => cfg.lowTtlBumpIpIdent
  | _ => false

/-- The method answers a handshake ACK with a fake. -/
def Config.injects (cfg : Config) (pkt : CapturedPacket) :
    MethodName → Bool
  | .wrongSeq | .wrongAck | .wrongChecksum | .wrongMd5 | .lowTtl => true
  | .wrongTimestamp =>
      (backdateTcpTimestamp pkt.tcpOptions cfg.wrongTimestampOffset).isSome
  | _ => false

/-- The first listed method that injects has the bump off, and a later one
has it on. -/
def Config.LeaksBump (cfg : Config) (pkt : CapturedPacket) : Prop :=
  ∃ first later,
    cfg.bypassMethod.filter (cfg.injects pkt) = first :: later
    ∧ cfg.bumpIpIdent first = false
    ∧ ∃ n ∈ later, cfg.bumpIpIdent n = true

section Headers

variable {cfg : Config} {freshSeed : MethodName → UInt64}
  {m : CompositeMethod Member}

/-- What the settings of a method are in its member. -/
theorem handshakeMember_injects {n : MethodName} {x : Member}
    (h : handshakeMember cfg n = some x) (pkt : CapturedPacket) :
    x.emits pkt = cfg.injects pkt n
      ∧ x.bumpIpIdent = cfg.bumpIpIdent n := by
  have hemits : x.emits pkt = true ↔ cfg.injects pkt n = true := by
    refine (handshakeMember_isEmit h pkt).trans ?_
    cases n with
    | wrongTimestamp => simp [Config.injects, Option.isSome_iff_ne_none]
    | urgSniSplit => simp [Config.injects]
    | _ => cases h <;> simp [Config.injects]
  refine ⟨Bool.eq_iff_iff.mpr hemits, ?_⟩
  cases n <;> cases h <;> rfl

theorem injects_of_no_member {n : MethodName}
    (h : handshakeMember cfg n = none) (pkt : CapturedPacket) :
    cfg.injects pkt n = false := by
  cases n <;> first | rfl | cases h

/-- The bumps of the emitting members, read off the list. -/
theorem bumps_eq (l : List MethodName) (pkt : CapturedPacket) :
    ((l.filterMap (handshakeMember cfg)).filter (Member.emits pkt)).map
        Member.bumpIpIdent
      = (l.filter (cfg.injects pkt)).map cfg.bumpIpIdent := by
  induction l with
  | nil => rfl
  | cons n l ih =>
      cases hmember : handshakeMember cfg n with
      | none =>
          rw [List.filterMap_cons_none hmember, ih, List.filter_cons_of_neg]
          simp [injects_of_no_member hmember]
      | some x =>
          obtain ⟨hemits, hbump⟩ := handshakeMember_injects hmember pkt
          rw [List.filterMap_cons_some hmember]
          by_cases hinjects : cfg.injects pkt n = true
          · rw [List.filter_cons_of_pos (hemits.trans hinjects),
              List.filter_cons_of_pos hinjects, List.map_cons, List.map_cons,
              ih, hbump]
          · rw [List.filter_cons_of_neg (by rwa [hemits]),
              List.filter_cons_of_neg hinjects, ih]

/-- Off in the first place and on in a later one. -/
def LeakedBy (bumps : List Bool) : Prop :=
  ∃ later, bumps = false :: later ∧ true ∈ later

theorem Config.leaksBump_iff (pkt : CapturedPacket) :
    cfg.LeaksBump pkt ↔ LeakedBy
      ((cfg.bypassMethod.filter (cfg.injects pkt)).map cfg.bumpIpIdent) := by
  unfold Config.LeaksBump LeakedBy
  constructor
  · intro h
    obtain ⟨first, later, hlist, hoff, n, hn, hon⟩ := h
    refine ⟨later.map cfg.bumpIpIdent, ?_, ?_⟩
    · rw [hlist, List.map_cons, hoff]
    · exact List.mem_map.mpr ⟨n, hn, hon⟩
  · intro h
    obtain ⟨later, hlist, hon⟩ := h
    obtain ⟨first, rest, hfilter, hoff, rfl⟩ :=
      List.map_eq_cons_iff.mp hlist
    obtain ⟨n, hn, hbump⟩ := List.mem_map.mp hon
    exact ⟨first, rest, hfilter, hoff, n, hn, hbump⟩

/-- The staged settings, in terms of the emitting members. -/
theorem handshake_settings (m : CompositeMethod Member) (env : HookEnv)
    {s : FlowState} (hs : s.SeqsKnown) (pkt : CapturedPacket) :
    ∃ action v, BypassMethod.onHandshakeCompleteAck m env s pkt.view
        = .ok (action, v)
      ∧ v.newFlags = ((m.handshakeMethods.find? (Member.emits pkt)).map
          fun x => { pkt.flags with psh := x.setPsh })
      ∧ v.bumpIpv4Ident = (m.handshakeMethods.filter
          (Member.emits pkt)).any Member.bumpIpIdent := by
  obtain ⟨acc, hrun, -, -, -⟩ :=
    handshake_fold env hs m.handshakeMethods { pkt := pkt.view }
  have hstart : HandshakeAcc.Found { pkt := pkt.view } :=
    ⟨rfl, fun h => Bool.noConfusion h⟩
  obtain ⟨hflags, hbump⟩ :=
    handshake_found env hs m.handshakeMethods hstart hrun
  have hok : ∃ action, m.onHandshakeCompleteAck env s pkt.view
      = .ok (action, { acc.pkt with
          newFlags := acc.firstFlags
          bumpIpv4Ident := acc.firstBumpIdent }) := by
    unfold CompositeMethod.onHandshakeCompleteAck
    rw [hrun]
    by_cases hwaits : m.waitsForData = true
    · exact ⟨.emitAndWaitForData, by simp only [hwaits]; rfl⟩
    · exact ⟨CompositeMethod.lastWord acc.stagedAny acc.lastAction,
        by simp only [hwaits]; rfl⟩
  obtain ⟨action, hok⟩ := hok
  refine ⟨action, _, hok, hflags, ?_⟩
  show acc.firstBumpIdent = _
  rw [hbump, List.any_filter]
  rfl

/-- A member's hook answers the way `emits` says. -/
theorem Member.emits_of_hook {x : Member} {env : HookEnv} {s : FlowState}
    (hs : s.SeqsKnown) {pkt : CapturedPacket} {a : MethodAction}
    {own : PacketView}
    (h : BypassMethod.onHandshakeCompleteAck x env s pkt.view
      = .ok (a, own)) : x.emits pkt = a.isEmit := by
  obtain ⟨v, hhook, -⟩ := x.handshake_spec env hs pkt.view
  cases hhook.symm.trans h
  rfl

/-- The settings come from the first emitter, unless its bump is off and a
later one's is on. -/
theorem headersFromFirst_iff (m : CompositeMethod Member) (env : HookEnv)
    {s : FlowState} (hs : s.SeqsKnown) (pkt : CapturedPacket) :
    HeadersFromFirst m env s pkt ↔ ¬ LeakedBy
      ((m.handshakeMethods.filter (Member.emits pkt)).map
        Member.bumpIpIdent) := by
  obtain ⟨action, v, hhook, hflags, hbump⟩ := handshake_settings m env hs pkt
  constructor
  · intro hfirst hleak
    obtain ⟨action', v', hhook', hown⟩ := hfirst
    cases hhook.symm.trans hhook'
    obtain ⟨later, hlist, hon⟩ := hleak
    obtain ⟨first, rest, hfilter, hoff, rfl⟩ := List.map_eq_cons_iff.mp hlist
    obtain ⟨before, after, hms, hbefore, hemits, -⟩ :=
      List.filter_eq_cons_iff.mp hfilter
    obtain ⟨own, hfirsthook, -⟩ := first.handshake_spec env hs pkt.view
    have hbump' := (Member.handshake_headers hfirsthook).2
    rw [if_pos (show (first.handshakeAction pkt.view.toCapturedPacket).isEmit
      = true from hemits), hoff] at hbump'
    have hsame := (hown before first after _ own hms (by
      intro x hx b w hb
      rw [← Member.emits_of_hook hs hb]
      simpa using hbefore x hx) hfirsthook hemits).2
    have hany : (m.handshakeMethods.filter (Member.emits pkt)).any
        Member.bumpIpIdent = true := by
      rw [hfilter, List.any_cons, Bool.or_eq_true]
      right
      obtain ⟨x, hx, hxon⟩ := List.mem_map.mp hon
      exact List.any_eq_true.mpr ⟨x, hx, hxon⟩
    rw [hbump, hany, hbump'] at hsame
    cases hsame
  · intro hno
    refine ⟨action, v, hhook, ?_⟩
    intro before first after a own hms hbefore hfirsthook hemit
    have hemits : first.emits pkt = true :=
      (Member.emits_of_hook hs hfirsthook).trans hemit
    have hquiet : ∀ x ∈ before, ¬ x.emits pkt = true := by
      intro x hx hxe
      obtain ⟨w, hxhook, -⟩ := x.handshake_spec env hs pkt.view
      have hnot := hbefore x hx _ w hxhook
      rw [show (x.handshakeAction pkt.view.toCapturedPacket).isEmit
        = x.emits pkt from rfl, hxe] at hnot
      cases hnot
    obtain ⟨hownflags, hownbump⟩ := Member.handshake_headers hfirsthook
    rw [if_pos hemit] at hownflags hownbump
    have hfilter : m.handshakeMethods.filter (Member.emits pkt)
        = first :: after.filter (Member.emits pkt) := by
      rw [hms, List.filter_append, List.filter_eq_nil_iff.mpr hquiet,
        List.nil_append, List.filter_cons_of_pos hemits]
    refine ⟨?_, ?_⟩
    · rw [hflags, hownflags, ← List.head?_filter, hfilter]
      rfl
    · rw [hbump, hownbump, hfilter, List.any_cons]
      by_cases hon : first.bumpIpIdent = true
      · rw [hon, Bool.true_or]
      · have hoff : first.bumpIpIdent = false := by simpa using hon
        rw [hoff, Bool.false_or, List.any_eq_false]
        intro x hx hxon
        refine hno ⟨(after.filter (Member.emits pkt)).map Member.bumpIpIdent,
          ?_, List.mem_map.mpr ⟨x, hx, hxon⟩⟩
        rw [hfilter, List.map_cons, hoff]

/-- For every list that builds, every flow and every handshake-completing
ACK, the header settings are those of the first emitting member exactly if
no bump leaks from a later one. -/
theorem headers_from_first_iff (cfg : Config)
    (freshSeed : MethodName → UInt64)
    (m : CompositeMethod Member) (hm : buildMethod cfg freshSeed = some m)
    (env : HookEnv) (s : FlowState) (pkt : CapturedPacket)
    (hack : completesHandshake s pkt = true) :
    HeadersFromFirst m env s pkt ↔ ¬ cfg.LeaksBump pkt := by
  rw [headersFromFirst_iff m env (seqsKnown_of_completes hack),
    (build_spec hm).handshakeMethods, bumps_eq, Config.leaksBump_iff]

/-- `["wrong_seq", "wrong_md5"]` with the bump of `wrong_md5` only, or of
both. -/
def bumpConfig (wrongSeqBumps : Bool) : Config where
  bypassMethod := [.wrongSeq, .wrongMd5]
  wrongSeqBumpIpIdent := wrongSeqBumps
  wrongMd5BumpIpIdent := true

theorem sample_headers_from_first :
    ∃ m s, buildMethod (bumpConfig true) (fun _ => 0) = some m
      ∧ feedAll m (.new [0x16] none) sampleOpening = .ok s
      ∧ HeadersFromFirst m sampleEnv s sampleAck := by
  refine ⟨_, _, rfl, rfl, (headers_from_first_iff (bumpConfig true)
    (fun _ => 0) _ rfl sampleEnv _ sampleAck rfl).mpr ?_⟩
  intro hleak
  obtain ⟨first, later, hlist, hoff, -⟩ := hleak
  cases hlist
  cases hoff

/-- `wrong_seq` has the bump off and stages none by itself; behind it
`wrong_md5` has it on, and the composite stages it. -/
theorem later_bump_leaks :
    (bumpConfig false).validate = .ok () ∧
    ∃ m s, buildMethod (bumpConfig false) (fun _ => 0) = some m
      ∧ feedAll m (.new [0x16] none) sampleOpening = .ok s
      ∧ HandshakeAck s sampleAck
      ∧ (BypassMethod.onHandshakeCompleteAck
          (Member.wrongSeq (.new (bumpConfig false))) sampleEnv s
          sampleAck.view).toOption.map (fun r => r.2.bumpIpv4Ident)
        = some false
      ∧ (BypassMethod.onHandshakeCompleteAck m sampleEnv s
          sampleAck.view).toOption.map (fun r => r.2.bumpIpv4Ident)
        = some true
      ∧ ¬ HeadersFromFirst m sampleEnv s sampleAck := by
  refine ⟨rfl, _, _, rfl, rfl, by decide, rfl, rfl, ?_⟩
  intro h
  obtain ⟨action, v, hhook, hown⟩ := h
  cases hhook
  have hsame := (hown [] _ _ _ _ rfl nofun rfl rfl).2
  cases hsame

end Headers

end ZeroDpi
