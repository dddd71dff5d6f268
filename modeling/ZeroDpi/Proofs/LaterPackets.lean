/-
The data stage in fragment-all mode, which every later packet of the flow
goes through.

The composite calls every data member again. `fake_tls` looks at
`firstDataModified` and stays silent, the shapers leave their requests on
the view; `tls_record_frag` looks at nothing and re-frames any payload that
parses as whole records.

A packet with no more than a request on it is rebuilt as it was, and what
a receiver gets of it depends on how the backend cuts it up. Fragments are
the one datagram again, or the datagram follows them. Segments are the
payload only if all of them get out, and if none of them has a FIN: a
packet with FIN is cut into segments that all have it.
-/
import ZeroDpi.Proofs.DataRequests
import ZeroDpi.Proofs.DataStage
import ZeroDpi.Proofs.Rebuild
import ZeroDpi.Proofs.Segmentation
import ZeroDpi.Proofs.SequenceSpace

namespace ZeroDpi

open Lib Handler

variable {cfg : Config} {freshSeed : MethodName → UInt64}
  {m : CompositeMethod Member}

-- ============================================== what a later packet stages

/-- The members that rewrite a later data packet. -/
def Member.rewrites (x : Member) (payload : Bytes) : Bool :=
  match x with
  | .tlsRecordFrag f =>
      (fragmentRecords f.fragSize payload.length payload).isSome
  | _ => false

/-- The data members as they are in a chain with a shaper: `fake_tls`
knows that it is chained. -/
def Member.Chained : Member → Prop
  | .fakeTls f => f.chained = true
  | _ => True

/-- What a data member does with a later packet: it leaves its request on
it, and nothing else unless it rewrites the payload. -/
structure LaterAnswer (x : Member) (pkt : PacketView)
    (action : MethodAction) (v : PacketView) : Prop where
  captured : v.toCapturedPacket = pkt.toCapturedPacket
  goesOn : action ≠ .abortAndAccept
  emits : x.Continues → action.isEmit = true
  payload : v.newPayload.isSome
    = (pkt.newPayload.isSome || x.rewrites pkt.payload)
  reshaped : x.rewrites pkt.payload = false → v = { pkt with
    ipFragPayloadSize :=
      (fragmentsOf pkt.toCapturedPacket x).or pkt.ipFragPayloadSize
    disorderSpec :=
      (segmentsOf pkt.toCapturedPacket x).or pkt.disorderSpec }

/-- A view with one more segmentation request on it. -/
theorem stageSegments_later (pkt : PacketView) (spec : DisorderSpec) :
    pkt.stageSegments spec = { pkt with
      disorderSpec := (if pkt.payloadLen ≥ spec.segments then some spec
        else none).or pkt.disorderSpec } := by
  unfold PacketView.stageSegments
  split <;> rfl

/-- After the first data packet every member answers so. -/
theorem Member.later_answer {x : Member} (hx : x.DataReady)
    (hchained : x.Chained) (env : HookEnv) {s : FlowState}
    (hmod : s.firstDataModified = true) (pkt : PacketView) :
    ∃ action v, BypassMethod.onFirstDataPacket x env s pkt
        = .ok (action, v) ∧ LaterAnswer x pkt action v := by
  cases x with
  | tlsRecordFrag f =>
      have hsize : f.fragSize ≠ 0 := Nat.pos_iff_ne_zero.mp hx
      show ∃ a v, f.onFirstDataPacket pkt = _ ∧ _
      simp only [TlsRecordFrag.onFirstDataPacket, fragmentPayload, hsize,
        if_false]
      cases hrecords : fragmentRecords f.fragSize pkt.payload.length
        pkt.payload with
      | none =>
          refine ⟨_, _, rfl, rfl, by decide, False.elim, ?_, fun _ => rfl⟩
          simp [rewrites, hrecords]
      | some out =>
          refine ⟨_, _, rfl, rfl, by decide, False.elim, ?_, fun hno => ?_⟩
          · simp [rewrites, hrecords, PacketView.stageFake]
          · rw [rewrites, hrecords] at hno
            cases hno
  | fakeTls f =>
      have hchained : f.chained = true := hchained
      show ∃ a v, f.onFirstDataPacket env s pkt = _ ∧ _
      simp only [FakeTls.onFirstDataPacket, hchained, hmod, Bool.and_self,
        if_true]
      refine ⟨_, _, rfl, rfl, by decide, False.elim, ?_, fun _ => rfl⟩
      exact (Bool.or_false _).symm
  | ipFrag f =>
      refine ⟨_, _, rfl, ?_⟩
      show LaterAnswer (.ipFrag f) pkt (.emitShaped _) (if _ then _ else _)
      rw [emitShaped_eq]
      split
      · next h =>
          exact ⟨rfl, by simp, fun _ => rfl, (Bool.or_false _).symm,
            fun _ => by simp [fragmentsOf, segmentsOf, h]⟩
      · next h =>
          exact ⟨rfl, by simp, fun _ => rfl, (Bool.or_false _).symm,
            fun _ => by simp [fragmentsOf, segmentsOf, h]⟩
  | disorder f =>
      refine ⟨_, _, rfl, ?_⟩
      show LaterAnswer (.disorder f) pkt (.emitShaped _)
        (pkt.stageSegments f.spec)
      rw [emitShaped_eq, stageSegments_later]
      exact ⟨rfl, by simp, fun _ => rfl, (Bool.or_false _).symm,
        fun _ => rfl⟩
  | seqovl f =>
      refine ⟨_, _, rfl, ?_⟩
      show LaterAnswer (.seqovl f) pkt .emitAndComplete
        (pkt.stageSegments f.spec)
      rw [stageSegments_later]
      exact ⟨rfl, by decide, False.elim, (Bool.or_false _).symm,
        fun _ => rfl⟩
  | _ => cases hx

/-- What the members do with it one after the other. -/
structure LaterAnswers (ms : List Member) (acc : CompositeMethod.DataAcc)
    (pkt : PacketView) (action : MethodAction) (v : PacketView) :
    Prop where
  emits : acc.sawEmit = true ∨ (∃ x ∈ ms, x.Continues) →
    action.isEmit = true
  payload : v.newPayload.isSome = (pkt.newPayload.isSome
    || ms.any fun x => x.rewrites pkt.payload)
  reshaped : (ms.any fun x => x.rewrites pkt.payload) = false →
    v = { pkt with
      ipFragPayloadSize := lastRequest (fragmentsOf pkt.toCapturedPacket) ms
        pkt.ipFragPayloadSize
      disorderSpec := lastRequest (segmentsOf pkt.toCapturedPacket) ms
        pkt.disorderSpec }

/-- A member in front of the others. -/
theorem LaterAnswer.cons {x : Member} {ms : List Member}
    {acc acc' : CompositeMethod.DataAcc} {pkt v w : PacketView}
    {a action : MethodAction} (h : LaterAnswer x pkt a v)
    (hrest : LaterAnswers ms acc' v action w)
    (hacc : acc.sawEmit = true ∨ a.isEmit = true → acc'.sawEmit = true) :
    LaterAnswers (x :: ms) acc pkt action w where
  emits := by
    intro hgiven
    rcases hgiven with hsaw | ⟨y, hy, hc⟩
    · exact hrest.emits (.inl (hacc (.inl hsaw)))
    · rcases List.mem_cons.mp hy with rfl | hy
      · exact hrest.emits (.inl (hacc (.inr (h.emits hc))))
      · exact hrest.emits (.inr ⟨y, hy, hc⟩)
  payload := by
    have hsame : v.payload = pkt.payload :=
      congrArg CapturedPacket.payload h.captured
    rw [hrest.payload, h.payload, hsame, List.any_cons, Bool.or_assoc]
  reshaped := by
    intro hno
    rw [List.any_cons, Bool.or_eq_false_iff] at hno
    have hv := h.reshaped hno.1
    have hw := hrest.reshaped (by
      rw [hv]
      exact hno.2)
    rw [hw, hv]
    rfl

/-- The loop over such members. -/
theorem dataLoop_later (env : HookEnv) {s : FlowState}
    (hmod : s.firstDataModified = true) :
    ∀ {ms : List Member}, (∀ x ∈ ms, x.DataReady ∧ x.Chained) →
      ∀ (acc : CompositeMethod.DataAcc) (pkt : PacketView),
        ∃ action v, CompositeMethod.dataLoop env s ms acc pkt
            = .ok (action, v) ∧ LaterAnswers ms acc pkt action v := by
  intro ms
  induction ms with
  | nil =>
      intro _ acc pkt
      refine ⟨_, _, rfl, ?_, (Bool.or_false _).symm, fun _ => rfl⟩
      intro hgiven
      rcases hgiven with hsaw | ⟨x, hx, -⟩
      · rw [CompositeMethod.DataAcc.action, if_pos hsaw]
        rfl
      · cases hx
  | cons x rest ih =>
      intro hms acc pkt
      obtain ⟨hready, hchained⟩ := hms x List.mem_cons_self
      have hrest := fun y hy => hms y (List.mem_cons_of_mem x hy)
      obtain ⟨a, v, hhook, h⟩ :=
        Member.later_answer hready hchained env hmod pkt
      cases a with
      | emitFakeAndAccept immediate more =>
          obtain ⟨action, w, hrun, hw⟩ := ih hrest _ v
          exact ⟨action, w, bind_eq_ok.mpr ⟨_, hhook, hrun⟩,
            h.cons hw fun _ => rfl⟩
      | completeAndAccept =>
          obtain ⟨action, w, hrun, hw⟩ := ih hrest acc v
          exact ⟨action, w, bind_eq_ok.mpr ⟨_, hhook, hrun⟩,
            h.cons hw (Or.resolve_right · Bool.false_ne_true)⟩
      | passThrough =>
          obtain ⟨action, w, hrun, hw⟩ := ih hrest acc v
          exact ⟨action, w, bind_eq_ok.mpr ⟨_, hhook, hrun⟩,
            h.cons hw (Or.resolve_right · Bool.false_ne_true)⟩
      | abortAndAccept => exact absurd rfl h.goesOn

/-- A member that asks for fragment-all mode is a shaper of the list. -/
theorem BuiltFrom.shaper_of_continues (hb : BuiltFrom cfg freshSeed m)
    (h : ∃ x ∈ m.dataMethods, x.Continues) :
    .ipFrag ∈ cfg.bypassMethod ∨ .disorder ∈ cfg.bypassMethod := by
  obtain ⟨x, hx, hc⟩ := h
  rw [hb.dataMethods] at hx
  obtain ⟨n, hn, hnx⟩ := List.mem_filterMap.mp hx
  cases n with
  | ipFrag => exact .inl hn
  | disorder => exact .inr hn
  | tlsRecordFrag =>
      cases hnx
      cases hc
  | fakeTls =>
      cases hnx
      cases hc
  | seqovl =>
      cases hnx
      cases hc
  | _ => cases hnx

/-- Beside such a shaper, `fake_tls` is chained. -/
theorem BuiltFrom.chained (hb : BuiltFrom cfg freshSeed m)
    (h : .ipFrag ∈ cfg.bypassMethod ∨ .disorder ∈ cfg.bypassMethod) :
    ∀ x ∈ m.dataMethods, x.Chained := by
  intro x hx
  rw [hb.dataMethods] at hx
  obtain ⟨n, hn, hnx⟩ := List.mem_filterMap.mp hx
  cases n with
  | fakeTls =>
      cases hnx
      show cfg.bypassMethod.chainedFakeTls = true
      refine BypassMethodList.chainedFakeTls_iff.mpr ⟨hn, ?_⟩
      rcases h with hip | hdis
      · exact ⟨.ipFrag, hip, rfl, by decide⟩
      · exact ⟨.disorder, hdis, rfl, by decide⟩
  | tlsRecordFrag =>
      cases hnx
      trivial
  | ipFrag =>
      cases hnx
      trivial
  | disorder =>
      cases hnx
      trivial
  | seqovl =>
      cases hnx
      trivial
  | _ => cases hnx

/-- The data stage rewrites a later payload exactly when the list has
`tls_record_frag` and the payload is whole records. -/
theorem BuiltFrom.rewrites_iff (hb : BuiltFrom cfg freshSeed m)
    (hsize : 0 < cfg.tlsRecordFragSize) (payload : Bytes) :
    (m.dataMethods.any fun x => x.rewrites payload) = true
      ↔ .tlsRecordFrag ∈ cfg.bypassMethod ∧ ∃ out,
        fragmentPayload payload cfg.tlsRecordFragSize = .ok (some out) := by
  have hne : cfg.tlsRecordFragSize ≠ 0 := Nat.pos_iff_ne_zero.mp hsize
  have hfrag : (∃ out,
        fragmentPayload payload cfg.tlsRecordFragSize = .ok (some out))
      ↔ (fragmentRecords cfg.tlsRecordFragSize payload.length
          payload).isSome = true := by
    simp [fragmentPayload, hne, Option.isSome_iff_exists]
  rw [hfrag, List.any_eq_true, hb.dataMethods]
  constructor
  · intro h
    obtain ⟨x, hx, hrw⟩ := h
    obtain ⟨n, hn, hnx⟩ := List.mem_filterMap.mp hx
    cases n with
    | tlsRecordFrag =>
        cases hnx
        exact ⟨hn, hrw⟩
    | fakeTls =>
        cases hnx
        cases hrw
    | ipFrag =>
        cases hnx
        cases hrw
    | disorder =>
        cases hnx
        cases hrw
    | seqovl =>
        cases hnx
        cases hrw
    | _ => cases hnx
  · intro h
    obtain ⟨hn, hsome⟩ := h
    exact ⟨.tlsRecordFrag (.new cfg),
      List.mem_filterMap.mpr ⟨.tlsRecordFrag, hn, rfl⟩, hsome⟩

-- ===================================================== the shaper's request

/-- Where no member asks, nothing is asked for. -/
theorem BuiltFrom.lastRequest_none (hb : BuiltFrom cfg freshSeed m)
    {γ : Type} {f : Member → Option γ}
    (h : ∀ n ∈ cfg.bypassMethod, ∀ x,
      dataMember cfg freshSeed n = some x → f x = none) :
    lastRequest f m.dataMethods none = none := by
  have hnone : ∀ x ∈ m.dataMethods, f x = none := by
    intro x hx
    rw [hb.dataMethods] at hx
    obtain ⟨n, hn, hnx⟩ := List.mem_filterMap.mp hx
    exact h n hn x hnx
  generalize m.dataMethods = ms at hnone ⊢
  induction ms with
  | nil => rfl
  | cons x ms ih =>
      show lastRequest f ms ((f x).or none) = none
      rw [hnone x List.mem_cons_self]
      exact ih fun y hy => hnone y (List.mem_cons_of_mem x hy)

/-- Only `ip_frag` asks for fragments. -/
theorem fragmentsOf_none {n : MethodName} {x : Member}
    (h : dataMember cfg freshSeed n = some x) (hn : n ≠ .ipFrag)
    (c : CapturedPacket) : fragmentsOf c x = none := by
  cases n with
  | ipFrag => exact absurd rfl hn
  | tlsRecordFrag | fakeTls | disorder | seqovl =>
      cases h
      rfl
  | _ => cases h

/-- Only `disorder` and `seqovl` ask for segments. -/
theorem segmentsOf_none {n : MethodName} {x : Member}
    (h : dataMember cfg freshSeed n = some x) (hdisorder : n ≠ .disorder)
    (hseqovl : n ≠ .seqovl) (c : CapturedPacket) :
    segmentsOf c x = none := by
  cases n with
  | disorder => exact absurd rfl hdisorder
  | seqovl => exact absurd rfl hseqovl
  | tlsRecordFrag | fakeTls | ipFrag =>
      cases h
      rfl
  | _ => cases h

/-- In a list with `ip_frag`, nobody asks for segments. -/
theorem BuiltFrom.unsegmented (hb : BuiltFrom cfg freshSeed m)
    (hv : cfg.ValidList) (h : .ipFrag ∈ cfg.bypassMethod)
    (c : CapturedPacket) :
    lastRequest (segmentsOf c) m.dataMethods none = none := by
  refine hb.lastRequest_none fun n hn x hx => segmentsOf_none hx ?_ ?_ c
  · intro heq
    subst heq
    cases hv.shaper_unique (by decide) h (by decide) hn
  · intro heq
    subst heq
    cases hv.shaper_unique (by decide) h (by decide) hn

/-- In a list with `disorder`, nobody asks for fragments, and `disorder`
asks for segments of every payload that has a byte for each. -/
theorem BuiltFrom.disordered (hb : BuiltFrom cfg freshSeed m)
    (hv : cfg.ValidList) (h : .disorder ∈ cfg.bypassMethod)
    (c : CapturedPacket) :
    lastRequest (fragmentsOf c) m.dataMethods none = none
      ∧ lastRequest (segmentsOf c) m.dataMethods none
        = if c.payloadLen ≥ cfg.disorderSegments then
            some (Disorder.new cfg (freshSeed .disorder)).spec
          else none := by
  have honly : ∀ n ∈ cfg.bypassMethod,
      n ∈ [.ipFrag, .disorder, .seqovl] → n = .disorder :=
    fun n hn hshaper => hv.shaper_unique hshaper hn (by decide) h
  constructor
  · refine hb.lastRequest_none fun n hn x hx => fragmentsOf_none hx ?_ c
    intro heq
    subst heq
    cases honly _ hn (by decide)
  · refine lastRequest_of_owner
      (x := .disorder (.new cfg (freshSeed .disorder))) ?_ ?_
    · rw [hb.dataMethods]
      exact List.mem_filterMap.mpr ⟨.disorder, h, rfl⟩
    · intro y hy hne
      rw [hb.dataMethods] at hy
      obtain ⟨n, hn, hny⟩ := List.mem_filterMap.mp hy
      refine segmentsOf_none hny ?_ ?_ c
      · intro heq
        subst heq
        exact hne (Option.some.inj hny).symm
      · intro heq
        subst heq
        cases honly _ hn (by decide)

-- ================================================================= delivery

/-- All that goes out for a packet. -/
def Linux.Emission.units (emission : Linux.Emission) : List Linux.Emitted :=
  emission.decoys.map .packet ++ emission.inPlace

/-- A receiver that waits for the payload at `seq` is delivered the
payload, and no more. -/
def Delivers (seq : UInt32) (payload : Bytes) (units : List Linux.Emitted) :
    Prop :=
  ((Receiver.idle seq []).receiveAll (units.filterMap arrive)).delivered
    = payload

instance (seq : UInt32) (payload : Bytes) (units : List Linux.Emitted) :
    Decidable (Delivers seq payload units) :=
  inferInstanceAs (Decidable (_ = _))

/-- How many segments a payload of `len` bytes is cut into. -/
def segmentCount (segments len : Nat) : Nat :=
  let chunk := (len + segments - 1) / segments
  (len + chunk - 1) / chunk

section

variable {buf b : Bytes} {view : PacketView} {ihl tcpLen : Nat}
  {q : Segment} {io : Linux.RawIo}

/-- A segment that comes alone is delivered, with FIN or without. -/
theorem delivers_single {fin : Bool} {units : List Linux.Emitted}
    (hlen : q.payload.length < 0x80000000)
    (hone : units.filterMap arrive = [(q, fin)]) :
    Delivers q.seq q.payload units := by
  have hseq : q.seq = q.seq - ([] : Bytes).length.toUInt32 :=
    (UInt32.sub_zero q.seq).symm
  have haccept := Receiver.accept_next
    (show q.payload = [] ++ q.payload from rfl) hseq (by simp) hlen [] fin
  rw [Delivers, hone, Receiver.receiveAll, List.foldl_cons, haccept]
  rfl

theorem IsPacket.delivers (h : IsPacket b ihl tcpLen q) {fin : Bool}
    {units : List Linux.Emitted}
    (hone : units.filterMap arrive = [(q, fin)]) :
    Delivers q.seq q.payload units := by
  have hlt := h.length_lt
  have hlen := h.length_eq
  exact delivers_single (by omega) hone

/-- So it is with a request for fragments, and with none. -/
theorem IsPacket.delivers_shaped (h : IsPacket b ihl tcpLen q)
    (hspec : view.disorderSpec = none)
    (horig : view.emitOriginalAfter = false) :
    Delivers q.seq q.payload (Linux.emitShaped io buf view b) := by
  have hone := Linux.filterMap_arrive_packet h
  cases hfrag : view.ipFragPayloadSize with
  | none =>
      simp only [Linux.emitShaped, hfrag, hspec, horig, Bool.false_eq_true,
        false_and, if_false]
      exact h.delivers hone
  | some size =>
      simp only [Linux.emitShaped, hfrag]
      split
      case isTrue hcut => exact h.delivers (Linux.arrive_fragments h hcut.2 io)
      case isFalse => exact h.delivers hone

/-- With a request for segments, the payload is delivered unless segments
go out and one of them has a FIN or does not get out. -/
theorem IsPacket.delivers_split_iff (h : IsPacket b ihl tcpLen q)
    (hfrag : view.ipFragPayloadSize = none) {spec : DisorderSpec}
    (hspec : view.disorderSpec = some spec) (hmany : 2 ≤ spec.segments)
    (hroom : spec.segments ≤ q.payload.length) :
    Delivers q.seq q.payload (Linux.emitShaped io buf view b)
      ↔ ¬ (io.socket = true ∧ io.sends 0 = true
        ∧ (readFin (b.drop ihl) = true
          ∨ ∃ i, i < segmentCount spec.segments q.payload.length
            ∧ io.sends i = false)) := by
  have hlt := h.length_lt
  obtain ⟨leads, hruns⟩ :=
    h.hasTcp.runsArrive (by omega) hmany h.payload hroom rfl
  rw [h.seq] at hruns
  have hpos := (chunk_lt hmany hroom).1
  have hcount : (splitTcpPayload b spec).length
      = segmentCount spec.segments q.payload.length :=
    hruns.count.trans (length_chunks hpos q.payload)
  have hseveral : 1 < (splitTcpPayload b spec).length := by
    rw [hruns.count]
    exact hruns.several
  simp only [Linux.emitShaped, hfrag, hspec, hseveral, true_and]
  split
  case isTrue hopen =>
    obtain ⟨hsocket, hfirst⟩ := hopen
    obtain ⟨k, hk, hall⟩ := io.sendAll_eq_take 0 (splitTcpPayload b spec)
    have harrive : ((io.sendAll 0 (splitTcpPayload b spec)).map
        Linux.Emitted.packet).filterMap arrive
          = ((splitTcpPayload b spec).take k).map arrival := by
      have hsome : arrive ∘ Linux.Emitted.packet = some ∘ arrival := rfl
      rw [hk, List.filterMap_map, hsome, List.filterMap_eq_map]
    rw [Delivers, harrive, hruns.delivered_iff, ← hruns.count, hall, hcount]
    simp only [hsocket, hfirst, true_and, Nat.zero_add, not_or, not_exists,
      not_and, Bool.not_eq_false, Bool.not_eq_true]
    exact And.comm
  case isFalse hclosed =>
    refine iff_of_true
      (h.delivers (Linux.filterMap_arrive_packet h)) fun hopen => ?_
    exact hclosed ⟨hopen.1, hopen.2.1⟩

end

-- ========================================================== later packets

/-- `tls_record_frag` re-frames the packet's payload. -/
def Config.Reframes (cfg : Config) (pkt : CapturedPacket) : Prop :=
  .tlsRecordFrag ∈ cfg.bypassMethod
    ∧ ∃ out, fragmentPayload pkt.payload cfg.tlsRecordFragSize
      = .ok (some out)

/-- `disorder` cuts the packet into segments and its payload does not
survive that: they all have the packet's FIN, or a later one of them does
not get out. -/
structure SplitLost (cfg : Config) (io : Linux.RawIo)
    (pkt : CapturedPacket) : Prop where
  disorder : .disorder ∈ cfg.bypassMethod
  room : cfg.disorderSegments ≤ pkt.payloadLen
  socket : io.socket = true
  first : io.sends 0 = true
  lost : pkt.flags.fin = true
    ∨ ∃ i, i < segmentCount cfg.disorderSegments pkt.payloadLen
      ∧ io.sends i = false

/-- A later packet goes out with the bytes it came with: no replacement
payload, no new sequence number and no decoy is staged, and what goes out
for it delivers its payload. -/
structure BytesUntouched (E : Etherparse) (decoyIo io : Linux.RawIo)
    (buf : Bytes) (pkt : CapturedPacket) (layout : Linux.PacketLayout)
    (r : Handled) : Prop where
  payload : r.pkt.newPayload = none
  seq : r.pkt.newSeq = none
  decoy : r.pkt.decoy = none
  delivered : ∃ emission, Linux.emit E decoyIo io buf layout r = .ok emission
    ∧ Delivers pkt.seq pkt.payload emission.units

/-- A member that emits has the packet modified. -/
theorem onDataAction_verdict (s : FlowState) {action : MethodAction}
    (v : PacketView) (h : action.isEmit = true) :
    (onDataAction s action v).verdict = .acceptModified := by
  cases action with
  | emitFakeAndAccept immediate more =>
      cases more <;> cases immediate <;> rfl
  | _ => cases h

section

variable {E : Etherparse} {decoyIo io : Linux.RawIo} {buf : Bytes}
  {layout : Linux.PacketLayout} {pkt : CapturedPacket}

/-- An accepted packet delivers its payload. -/
theorem bytesUntouched_accept (hE : E.Lawful)
    (hparsed : Linux.Parsed E buf pkt layout) {r : Handled}
    (haccept : r.verdict = .accept) (hpkt : r.pkt = pkt.view) :
    BytesUntouched E decoyIo io buf pkt layout r := by
  have hlen : pkt.payload.length < 0x80000000 := by
    obtain ⟨ip, -, -, -, -, -, htotal, -⟩ := hparsed.headers
    have hlt := ip.totalLen.toNat_lt
    rw [← hparsed.payload, List.length_take]
    omega
  have hone : (Linux.Emission.units ⟨[], [.packet buf]⟩).filterMap arrive
      = [(⟨pkt.seq, pkt.payload⟩, readFin (ipPayload buf))] := by
    have hreceive := Option.some.inj (hparsed.receive_eq hE)
    show [arrival buf] = _
    rw [arrival, hreceive]
  refine ⟨by rw [hpkt]; rfl, by rw [hpkt]; rfl, by rw [hpkt]; rfl,
    ⟨[], [.packet buf]⟩, ?_, delivers_single hlen hone⟩
  simp only [Linux.emit, haccept]

/-- A packet that only has a request of a shaper on it. -/
theorem bytesUntouched_reshaped (hE : E.Lawful) (hP : E.HeadersPresent)
    (hO : E.KeepsOptions) (hA : E.Accepts) (hF : E.KeepsFin)
    (hv : cfg.validate = .ok ()) (hb : BuiltFrom cfg freshSeed m)
    (hparse : Linux.parseView E .outbound buf = .ok (some (pkt, layout)))
    (hpos : 0 < pkt.payloadLen)
    (hshaper : .ipFrag ∈ cfg.bypassMethod ∨ .disorder ∈ cfg.bypassMethod)
    {r : Handled} (hmod : r.verdict = .acceptModified)
    (hview : r.pkt = { pkt.view with
      ipFragPayloadSize := lastRequest (fragmentsOf pkt) m.dataMethods none
      disorderSpec := lastRequest (segmentsOf pkt) m.dataMethods none }) :
    BytesUntouched E decoyIo io buf pkt layout r
      ↔ ¬ SplitLost cfg io pkt := by
  have hlist := Config.validList hv
  have hpayload : r.pkt.newPayload = none := by rw [hview]; rfl
  have hseq : r.pkt.newSeq = none := by rw [hview]; rfl
  have hdecoy : r.pkt.decoy = none := by rw [hview]; rfl
  have horig : r.pkt.emitOriginalAfter = false := by rw [hview]; rfl
  obtain ⟨b, ihl, tcpLen, hbuilt, hpacket, hfin⟩ :=
    Linux.Parsed.rebuilt hE hP hO hA hF hparse hpos hpayload hseq
      (by rw [hview]; rfl) (by rw [hview]; rfl) (by rw [hview]; rfl)
  have hemit : Linux.emit E decoyIo io buf layout r = .ok
      { decoys := [], inPlace := Linux.emitShaped io buf r.pkt b } :=
    Linux.emit_undecoyed hmod hdecoy hbuilt
  have hiff : BytesUntouched E decoyIo io buf pkt layout r
      ↔ Delivers pkt.seq pkt.payload (Linux.emitShaped io buf r.pkt b) := by
    constructor
    · intro hgiven
      obtain ⟨-, -, -, emission, hemitted, hdelivered⟩ := hgiven
      cases hemit.symm.trans hemitted
      exact hdelivered
    · exact fun h => ⟨hpayload, hseq, hdecoy, _, hemit, h⟩
  rw [hiff]
  rcases hshaper with hip | hdis
  · have hnone : r.pkt.disorderSpec = none := by
      rw [hview]
      exact hb.unsegmented hlist hip pkt
    refine iff_of_true (hpacket.delivers_shaped hnone horig) fun hlost => ?_
    cases hlist.shaper_unique (by decide) hip (by decide) hlost.disorder
  · obtain ⟨hfrags, hsegs⟩ := hb.disordered hlist hdis pkt
    have hwhole : r.pkt.ipFragPayloadSize = none := by rw [hview]; exact hfrags
    by_cases hroom : pkt.payloadLen ≥ cfg.disorderSegments
    · have hspec : r.pkt.disorderSpec
          = some (Disorder.new cfg (freshSeed .disorder)).spec := by
        rw [hview]
        exact hsegs.trans (if_pos hroom)
      refine (hpacket.delivers_split_iff hwhole hspec
        (Config.validParams hv).disorderSegments hroom).trans
          (not_congr ?_)
      rw [hfin]
      constructor
      · intro hgiven
        obtain ⟨hsocket, hfirst, hlost⟩ := hgiven
        exact ⟨hdis, hroom, hsocket, hfirst, hlost⟩
      · intro hlost
        exact ⟨hlost.socket, hlost.first, hlost.lost⟩
    · have hnone : r.pkt.disorderSpec = none := by
        rw [hview]
        exact hsegs.trans (if_neg hroom)
      exact iff_of_true (hpacket.delivers_shaped hnone horig) fun hlost =>
        hroom hlost.room

end

/-- For every validated list, in every run that is in fragment-all mode,
a later outbound data packet keeps its bytes exactly when the flow is no
longer monitored, or `tls_record_frag` does not re-frame the payload and
no split by `disorder` loses it. -/
theorem later_bytes_untouched_iff (E : Etherparse) (hE : E.Lawful)
    (hP : E.HeadersPresent) (hO : E.KeepsOptions) (hA : E.Accepts)
    (hF : E.KeepsFin) (decoyIo io : Linux.RawIo) (cfg : Config)
    (hv : cfg.validate = .ok ()) (freshSeed : MethodName → UInt64)
    (m : CompositeMethod Member) (hm : buildMethod cfg freshSeed = some m)
    (fakeData : Bytes) (ttl : Option UInt8)
    (pre : List (HookEnv × CapturedPacket)) (s : FlowState)
    (hpre : feedAll m (.new fakeData ttl) pre = .ok s)
    (hall : s.fragmentAllData = true) (env : HookEnv) (buf : Bytes)
    (pkt : CapturedPacket) (layout : Linux.PacketLayout)
    (hparse : Linux.parseView E .outbound buf = .ok (some (pkt, layout)))
    (hpos : 0 < pkt.payloadLen) :
    ∃ r, onPacket m env s pkt.view = .ok r ∧
      (BytesUntouched E decoyIo io buf pkt layout r
        ↔ s.monitor = false
          ∨ ¬ cfg.Reframes pkt ∧ ¬ SplitLost cfg io pkt) := by
  have hb := build_spec hm
  have hinv : FlowInv s := feedAll_flowInv hpre (flowInv_new fakeData ttl)
  have hsize := (Config.validParams hv).recordFragSize
  have hready := hb.dataReady hsize
  have hparsed := Linux.parseView_spec hparse hpos
  cases hmon : s.monitor with
  | false =>
      refine ⟨_, onPacket_of_locked (locked_of_unmonitored m env hmon _), ?_⟩
      exact iff_of_true (bytesUntouched_accept hE hparsed rfl rfl) (.inl rfl)
  | true =>
      have hcont : ∃ x ∈ m.dataMethods, x.Continues :=
        feedAll_fragmentAll_member hready hpre
          (fun hno => absurd hno Bool.false_ne_true) hall
      have hshaper := hb.shaper_of_continues hcont
      have hchained := hb.chained hshaper
      obtain ⟨action, v, hloop, hanswers⟩ := dataLoop_later env
        (hinv.allModified hall)
        (fun x hx => ⟨hready x hx, hchained x hx⟩) {} pkt.view
      have hhook : BypassMethod.onFirstDataPacket m env s pkt.view
          = .ok (action, v) := by
        show m.onFirstDataPacket env s pkt.view = _
        rw [CompositeMethod.onFirstDataPacket, if_neg, hloop]
        obtain ⟨x, hx, -⟩ := hcont
        simpa using List.ne_nil_of_mem hx
      have hdata : DataPacket s pkt :=
        ⟨hmon, Linux.parseView_direction hparse, hpos, .inr hall⟩
      refine ⟨_, onPacket_of_locked (locked_of_dataPacket hdata hhook), ?_⟩
      have hrewrites := hb.rewrites_iff hsize pkt.payload
      simp only [Bool.true_eq_false, false_or]
      by_cases hreframes : cfg.Reframes pkt
      · -- the payload is replaced
        refine iff_of_false (fun h => ?_) fun h => h.1 hreframes
        have hnone : v.newPayload = none :=
          onDataAction_pkt s action v ▸ h.payload
        have hsome : v.newPayload.isSome
            = m.dataMethods.any fun x => x.rewrites pkt.payload :=
          hanswers.payload
        rw [hnone, hrewrites.mpr hreframes] at hsome
        cases hsome
      · have hkept : (m.dataMethods.any fun x => x.rewrites pkt.payload)
            = false := by
          rw [Bool.eq_false_iff]
          exact fun hrw => hreframes (hrewrites.mp hrw)
        rw [bytesUntouched_reshaped hE hP hO hA hF hv hb hparse hpos hshaper
          (onDataAction_verdict s v (hanswers.emits (.inr hcont)))
          ((onDataAction_pkt s action v).trans (hanswers.reshaped hkept))]
        exact (and_iff_right hreframes).symm

/-- The packet of the sample connection behind its first data packet. -/
def sampleLater (flags : TcpFlags) (payload : Bytes) : CapturedPacket :=
  samplePacket .outbound 166 501 flags payload

/-- That packet on the wire. -/
def sampleLaterBytes (flags : UInt8) (payload : Bytes) : Bytes :=
  overwrite (overwrite (sampleBytes payload) 24 (toBe32 166)) 33 [flags]

/-- An application-data record of two bytes. -/
def sampleLaterRecord : Bytes := [0x17, 3, 3, 0, 2, 0xAA, 0xBB]

/-- `disorder` for every packet: a second data packet is cut in two, and
delivered. -/
theorem sample_later_bytes_untouched :
    ∃ m s r, buildMethod
        { bypassMethod := [.disorder], disorderOnlyFirstPacket := false }
        (fun _ => 0) = some m
      ∧ feedAll m (.new [0x16] none) (sampleRun sampleHello) = .ok s
      ∧ s.fragmentAllData = true
      ∧ onPacket m sampleEnv s
          (sampleLater { ack := true, psh := true } sampleLaterRecord).view
        = .ok r
      ∧ r.pkt.disorderSpec.isSome = true
      ∧ BytesUntouched Wire.etherparse openIo openIo
          (sampleLaterBytes 0x18 sampleLaterRecord)
          (sampleLater { ack := true, psh := true } sampleLaterRecord)
          ⟨20, 20, 40, 47⟩ r := by
  obtain ⟨r, hr, hiff⟩ := later_bytes_untouched_iff Wire.etherparse
    Wire.etherparse_lawful Wire.etherparse_headersPresent
    Wire.etherparse_keepsOptions Wire.etherparse_accepts
    Wire.etherparse_keepsFin openIo openIo
    { bypassMethod := [.disorder], disorderOnlyFirstPacket := false } rfl
    (fun _ => 0) _ rfl [0x16] none (sampleRun sampleHello) _ rfl rfl
    sampleEnv (sampleLaterBytes 0x18 sampleLaterRecord)
    (sampleLater { ack := true, psh := true } sampleLaterRecord)
    ⟨20, 20, 40, 47⟩ rfl (by decide)
  refine ⟨_, _, r, rfl, rfl, rfl, hr, ?_, hiff.mpr (.inr ⟨fun h => ?_,
    fun h => ?_⟩)⟩
  · cases hr
    rfl
  · exact absurd h.1 (by decide)
  · rcases h.lost with hfin | ⟨i, -, hsend⟩
    · cases hfin
    · cases hsend

/-- A later packet loses its bytes in two ways. With `tls_record_frag` in
the chain, an application-data record is re-framed: seven bytes become
twelve. With `["disorder"]`, a packet with FIN is cut into segments that
both have it, and the receiver gets the first of them. -/
theorem later_packet_loses_bytes :
    (Config.validate { bypassMethod := [.tlsRecordFrag, .ipFrag],
                       ipFragOnlyFirstPacket := false } = .ok ()
      ∧ ∃ m s r, buildMethod { bypassMethod := [.tlsRecordFrag, .ipFrag],
                               ipFragOnlyFirstPacket := false }
          (fun _ => 0) = some m
        ∧ feedAll m (.new [0x16] none) (sampleRun sampleHello) = .ok s
        ∧ s.fragmentAllData = true
        ∧ Linux.parseView Wire.etherparse .outbound
            (sampleLaterBytes 0x18 sampleLaterRecord)
          = .ok (some (sampleLater { ack := true, psh := true }
              sampleLaterRecord, ⟨20, 20, 40, 47⟩))
        ∧ onPacket m sampleEnv s
            (sampleLater { ack := true, psh := true } sampleLaterRecord).view
          = .ok r
        ∧ r.pkt.newPayload
          = some [0x17, 3, 3, 0, 1, 0xAA, 0x17, 3, 3, 0, 1, 0xBB]
        ∧ ¬ BytesUntouched Wire.etherparse openIo openIo
            (sampleLaterBytes 0x18 sampleLaterRecord)
            (sampleLater { ack := true, psh := true } sampleLaterRecord)
            ⟨20, 20, 40, 47⟩ r)
    ∧ Config.validate { bypassMethod := [.disorder],
                        disorderOnlyFirstPacket := false } = .ok ()
      ∧ ∃ m s r emission, buildMethod { bypassMethod := [.disorder],
                                        disorderOnlyFirstPacket := false }
          (fun _ => 0) = some m
        ∧ feedAll m (.new [0x16] none) (sampleRun sampleHello) = .ok s
        ∧ s.fragmentAllData = true
        ∧ Linux.parseView Wire.etherparse .outbound
            (sampleLaterBytes 0x19 sampleLaterRecord)
          = .ok (some (sampleLater { ack := true, psh := true, fin := true }
              sampleLaterRecord, ⟨20, 20, 40, 47⟩))
        ∧ onPacket m sampleEnv s (sampleLater
            { ack := true, psh := true, fin := true } sampleLaterRecord).view
          = .ok r
        ∧ Linux.emit Wire.etherparse openIo openIo
            (sampleLaterBytes 0x19 sampleLaterRecord) ⟨20, 20, 40, 47⟩ r
          = .ok emission
        ∧ Delivers 166 [0x17, 3, 3, 0] emission.units
        ∧ ¬ BytesUntouched Wire.etherparse openIo openIo
            (sampleLaterBytes 0x19 sampleLaterRecord)
            (sampleLater { ack := true, psh := true, fin := true }
              sampleLaterRecord) ⟨20, 20, 40, 47⟩ r := by
  refine ⟨⟨rfl, _, _, _, rfl, rfl, rfl, rfl, rfl, rfl, fun h => ?_⟩,
    rfl, _, _, _, _, rfl, rfl, rfl, rfl, rfl, rfl, ?_, fun h => ?_⟩
  · cases h.payload
  · decide
  · obtain ⟨emission, hemit, hdelivered⟩ := h.delivered
    cases hemit
    exact absurd hdelivered (by decide)

end ZeroDpi
