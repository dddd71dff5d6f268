/-
The data stage of a built method: the method that never gets there, and
the members that keep it open.

`urg_sni_split` works on the first data packet, but `build_method` puts
it in the handshake vector, whose data hooks the composite never calls:
no data packet is ever modified on its behalf.

Fragment-all mode, in which every later packet goes through the data
stage again, is entered only with a shaper that asks for it.
-/
import ZeroDpi.Proofs.Composed

namespace ZeroDpi

open Lib Handler

variable {cfg : Config} {freshSeed : MethodName → UInt64}
  {m : CompositeMethod Member}

-- ======================================================== urg_sni_split

/-- A list with `urg_sni_split` has an empty data stage. -/
theorem BuiltFrom.no_data_of_urg (hb : BuiltFrom cfg freshSeed m)
    (hv : cfg.ValidList) (hurg : .urgSniSplit ∈ cfg.bypassMethod) :
    m.dataMethods = [] := by
  rw [hb.dataMethods, List.filterMap_eq_nil_iff]
  intro n hn
  rcases hv.urgAlone hurg n hn with rfl | rfl
  · rfl
  · rfl

/-- Without data members, an outbound packet with payload goes through as
it came, whatever the state of the flow. -/
theorem onPacket_payload_of_no_data (hdata : m.dataMethods = [])
    {env : HookEnv} {s : FlowState} {pkt : CapturedPacket}
    (hpos : 0 < pkt.payloadLen) {r : Handled}
    (hr : onPacket m env s pkt.view = .ok r) :
    r.verdict = .accept ∧ r.pkt = pkt.view := by
  obtain ⟨l, hl, hr⟩ := bind_eq_ok.mp hr
  cases hr
  show l.verdict = .accept ∧ l.pkt = pkt.view
  cases locked_cases hl with
  | handshake hack _ =>
      -- a bare ACK carries no payload
      have hbare := (CapturedPacket.not_bare_of_payload hpos).1
      have hack := hack.bareAck
      rw [CapturedPacket.view_toCapturedPacket, hbare] at hack
      cases hack
  | data _ hhook =>
      have hempty : BypassMethod.onFirstDataPacket m env s pkt.view
          = .ok (.completeAndAccept, pkt.view) := by
        show m.onFirstDataPacket env s pkt.view = _
        simp [CompositeMethod.onFirstDataPacket, hdata]
      rw [hempty] at hhook
      cases hhook
      exact ⟨rfl, rfl⟩
  | _ => exact ⟨rfl, rfl⟩

/-- The answer `urg_sni_split` is configured for: the packet goes out
modified, with the payload, flags and urgent pointer its data hook
computes. -/
def UrgByteStaged (cfg : Config) (pkt : CapturedPacket) (r : Handled) :
    Prop :=
  r.verdict = .acceptModified ∧
    ∃ v, (UrgSniSplit.new cfg).onFirstDataPacket pkt.view
        = .ok (.emitAndComplete, v)
      ∧ r.pkt.newPayload = v.newPayload ∧ r.pkt.newFlags = v.newFlags
      ∧ r.pkt.newUrgentPointer = v.newUrgentPointer

/-- A payload in which an SNI is found is not empty. -/
theorem payload_pos_of_sni {pkt : CapturedPacket} {b : SniBoundary}
    (h : findSniBoundary pkt.payload = .ok (some b)) :
    0 < pkt.payloadLen := by
  unfold CapturedPacket.payloadLen
  cases hp : pkt.payload with
  | nil =>
      rw [hp] at h
      cases h
  | cons a rest => exact Nat.succ_pos _

/-- On such a payload the method's own hook does stage the byte. -/
theorem urgSniSplit_stages (u : UrgSniSplit) {pkt : PacketView}
    {b : SniBoundary} (h : findSniBoundary pkt.payload = .ok (some b)) :
    ∃ v, u.onFirstDataPacket pkt = .ok (.emitAndComplete, v) := by
  refine ⟨_, bind_eq_ok.mpr ⟨some (b.nameStart, b.nameLen), ?_, rfl⟩⟩
  rw [findSniRange, h]
  rfl

/-- For every validated list with `urg_sni_split`, every run of packets and
every outbound data packet with an SNI: the handler lets the packet
through as it came, and the dummy urgent byte is never staged. -/
theorem urg_byte_never_staged (cfg : Config) (hv : cfg.validate = .ok ())
    (hurg : .urgSniSplit ∈ cfg.bypassMethod)
    (freshSeed : MethodName → UInt64) (m : CompositeMethod Member)
    (hm : buildMethod cfg freshSeed = some m)
    (fakeData : Bytes) (ttl : Option UInt8)
    (pre : List (HookEnv × CapturedPacket)) (s : FlowState)
    (hpre : feedAll m (.new fakeData ttl) pre = .ok s)
    (env : HookEnv) (pkt : CapturedPacket)
    (b : SniBoundary) (hsni : findSniBoundary pkt.payload = .ok (some b)) :
    ∃ r, onPacket m env s pkt.view = .ok r ∧ r.verdict = .accept
      ∧ r.pkt = pkt.view ∧ ¬ UrgByteStaged cfg pkt r := by
  have hb := build_spec hm
  have hinv : FlowInv s := feedAll_flowInv hpre (flowInv_new fakeData ttl)
  have hdata := hb.no_data_of_urg (Config.validList hv) hurg
  obtain ⟨r, hr⟩ : ∃ r, onPacket m env s pkt.view = .ok r :=
    onPacket_total (hooksTotal_of_build hv hb) hinv.seqs pkt.view
  obtain ⟨haccept, hsame⟩ :=
    onPacket_payload_of_no_data hdata (payload_pos_of_sni hsni) hr
  refine ⟨r, hr, haccept, hsame, fun hstaged => ?_⟩
  have hmod := hstaged.1
  rw [haccept] at hmod
  cases hmod

/-- A ClientHello for the host `a.io`. -/
def sampleHello : Bytes :=
  [0x16, 3, 1, 0, 60, 0x01, 0, 0, 56, 3, 3]
    ++ List.replicate 32 0
    ++ [0, 0, 2, 0x13, 0x01, 1, 0, 0, 13]
    ++ [0, 0, 0, 9, 0, 7, 0, 0, 4, 0x61, 0x2E, 0x69, 0x6F]

theorem sampleHello_sni :
    findSniBoundary sampleHello = .ok (some ⟨56, 61, 4⟩) := by
  decide

/-- `["urg_sni_split"]` on the sample connection with that ClientHello. -/
theorem sample_urg_byte_never_staged :
    ∃ m s r, buildMethod { bypassMethod := [.urgSniSplit] } (fun _ => 0)
        = some m
      ∧ feedAll m (.new [0x16] none)
          (sampleOpening ++ [(sampleEnv, sampleAck)]) = .ok s
      ∧ onPacket m sampleEnv s (sampleData sampleHello).view = .ok r
      ∧ r.verdict = .accept := by
  obtain ⟨r, hr, haccept, -⟩ := urg_byte_never_staged
    { bypassMethod := [.urgSniSplit] } rfl (by decide) (fun _ => 0) _ rfl
    [0x16] none (sampleOpening ++ [(sampleEnv, sampleAck)]) _ rfl sampleEnv
    (sampleData sampleHello) ⟨56, 61, 4⟩ sampleHello_sni
  exact ⟨_, _, r, rfl, rfl, hr, haccept⟩

/-- Handshake completed, the first data packet is a ClientHello whose SNI
the walker finds, the method's own hook would stage the byte, and the
handler answers with a plain accept. -/
theorem urg_sni_split_sample_unmodified :
    Config.validate { bypassMethod := [.urgSniSplit] } = .ok () ∧
    findSniBoundary sampleHello = .ok (some ⟨56, 61, 4⟩) ∧
    (∃ v, UrgSniSplit.onFirstDataPacket
        (.new { bypassMethod := [.urgSniSplit] })
        (sampleData sampleHello).view = .ok (.emitAndComplete, v)) ∧
    ∃ m s r, buildMethod { bypassMethod := [.urgSniSplit] } (fun _ => 0)
        = some m
      ∧ feedAll m (.new [0x16] none)
          (sampleOpening ++ [(sampleEnv, sampleAck)]) = .ok s
      ∧ onPacket m sampleEnv s (sampleData sampleHello).view = .ok r
      ∧ ¬ UrgByteStaged { bypassMethod := [.urgSniSplit] }
          (sampleData sampleHello) r := by
  refine ⟨rfl, sampleHello_sni, urgSniSplit_stages _ sampleHello_sni,
    _, _, _, rfl, rfl, rfl, fun h => ?_⟩
  cases h.1

-- ===================================================== fragment-all mode

/-- The members that ask for fragment-all mode. -/
def Member.Continues : Member → Prop
  | .ipFrag _ | .disorder _ => True
  | _ => False

/-- Only those answer a data packet with "more". -/
theorem Member.continues_of_more {x : Member} (hx : x.DataReady)
    {env : HookEnv} {s : FlowState} {pkt v : PacketView} {immediate : Bool}
    (h : BypassMethod.onFirstDataPacket x env s pkt
      = .ok (.emitFakeAndAccept immediate true, v)) : x.Continues := by
  cases x with
  | tlsRecordFrag f =>
      obtain ⟨out, -, h⟩ := bind_eq_ok.mp h
      cases out <;> cases h
  | fakeTls f =>
      have h : f.onFirstDataPacket env s pkt = _ := h
      unfold FakeTls.onFirstDataPacket at h
      split at h
      · cases h
      · split at h
        · cases h
        · simp only at h
          split at h <;> cases h
  | ipFrag f => trivial
  | disorder f => trivial
  | seqovl f => cases h
  | _ => cases hx

/-- The composite's loop answers "more" only if it came in with it or a
member asks for it. -/
theorem dataLoop_more {env : HookEnv} {s : FlowState} :
    ∀ {ms : List Member} {acc : CompositeMethod.DataAcc}
      {pkt v : PacketView} {immediate : Bool},
      CompositeMethod.dataLoop env s ms acc pkt
        = .ok (.emitFakeAndAccept immediate true, v) →
      acc.continueWithData = true ∨ ∃ x ∈ ms, ∃ w i w',
        BypassMethod.onFirstDataPacket x env s w
          = .ok (.emitFakeAndAccept i true, w') := by
  intro ms
  induction ms with
  | nil =>
      intro acc pkt v immediate h
      simp only [CompositeMethod.dataLoop, CompositeMethod.DataAcc.action,
        Except.ok.injEq, Prod.mk.injEq] at h
      split at h
      · injection h.1 with _ hmore
        exact .inl hmore
      · cases h.1
  | cons x rest ih =>
      intro acc pkt v immediate h
      obtain ⟨⟨action, w⟩, hhook, h⟩ := bind_eq_ok.mp h
      cases action with
      | emitFakeAndAccept i more =>
          rcases ih h with hacc | ⟨y, hy, hc⟩
          · rcases Bool.or_eq_true_iff.mp hacc with hold | rfl
            · exact .inl hold
            · exact .inr ⟨x, List.mem_cons_self, pkt, i, w, hhook⟩
          · exact .inr ⟨y, List.mem_cons_of_mem x hy, hc⟩
      | completeAndAccept =>
          rcases ih h with hacc | ⟨y, hy, hc⟩
          · exact .inl hacc
          · exact .inr ⟨y, List.mem_cons_of_mem x hy, hc⟩
      | passThrough =>
          rcases ih h with hacc | ⟨y, hy, hc⟩
          · exact .inl hacc
          · exact .inr ⟨y, List.mem_cons_of_mem x hy, hc⟩
      | abortAndAccept => cases h

/-- Fragment-all mode is only entered with a member that asks for it. -/
theorem feedAll_fragmentAll_member (hready : ∀ x ∈ m.dataMethods, x.DataReady)
    {s s' : FlowState} {inputs : List (HookEnv × CapturedPacket)}
    (hrun : feedAll m s inputs = .ok s')
    (h : s.fragmentAllData = true → ∃ x ∈ m.dataMethods, x.Continues) :
    s'.fragmentAllData = true → ∃ x ∈ m.dataMethods, x.Continues := by
  refine foldlM_invariant (P := fun t => t.fragmentAllData = true →
    ∃ x ∈ m.dataMethods, x.Continues) hrun h fun t input t' _ ht hfeed => ?_
  obtain ⟨r, hr, ht'⟩ := bind_eq_ok.mp hfeed
  cases ht'
  obtain ⟨l, hl, hr⟩ := bind_eq_ok.mp hr
  cases hr
  have hsettled : (settled l).fragmentAllData = l.state.fragmentAllData := by
    unfold settled
    split
    · rfl
    case h_2 d _ =>
      obtain ⟨o, mon, hd⟩ := d.run_frame l.state
      rw [hd]
  intro hall
  have hall : l.state.fragmentAllData = true := hsettled.symm.trans hall
  cases locked_cases hl with
  | closed _ =>
      obtain ⟨o, mon, hs⟩ := unexpected_frame t input.2.view
      rw [hs] at hall
      exact ht hall
  | @handshake action v _ _ =>
      refine ht ?_
      cases action with
      | emitFakeAndAccept immediate more => cases more <;> exact hall
      | _ => exact hall
  | @data action v _ hhook =>
      cases action with
      | emitFakeAndAccept immediate more =>
          cases more with
          | true =>
              have hhook : m.onFirstDataPacket input.1 t input.2.view
                = .ok (.emitFakeAndAccept immediate true, v) := hhook
              unfold CompositeMethod.onFirstDataPacket at hhook
              split at hhook
              · cases hhook
              · rcases dataLoop_more hhook with hno | ⟨x, hx, w, i, w', hx'⟩
                · cases hno
                · exact ⟨x, hx, Member.continues_of_more (hready x hx) hx'⟩
          | false => cases immediate <;> exact ht hall
      | abortAndAccept =>
          simp only [onDataAction] at hall
          split at hall
          · cases hall
          · exact ht hall
      | completeAndAccept => exact ht hall
      | passThrough => exact ht hall
  | _ => exact ht hall

end ZeroDpi
