/-
From a staged fake to the packet that carries it.

The members put the fake on the view one after the other, and the view
keeps it (`FakeStaged.fold`). Between that and the wire it can be lost
twice. The composite reads its answer off the last member, so that a
`wrong_timestamp` without a timestamp takes it along (`LosesFake`); and
what the members asked for may not fit into one packet (`NoRoom`), then
the backend, which cannot rebuild the ACK, lets it go as it came.
-/
import ZeroDpi.Proofs.HandshakeStage
import ZeroDpi.Proofs.Rebuild

namespace ZeroDpi

open Lib Handler

variable {cfg : Config} {freshSeed : MethodName → UInt64}
  {m : CompositeMethod Member} {s : FlowState} {pkt : CapturedPacket}
  {env : HookEnv}

-- ======================================================== the staged view

/-- The method that appends an option. -/
def Member.appendsMd5 : Member → Bool
  | .wrongMd5 _ => true
  | _ => false

/-- What these members have staged for the packet. -/
structure FakeStaged (s : FlowState) (pkt : CapturedPacket)
    (ms : List Member) (v : PacketView) : Prop where
  captured : v.toCapturedPacket = pkt
  payload : v.newPayload
    = if ms.any fun x => (x.handshakeAction pkt).isEmit then
        some s.fakeData
      else none
  append : v.appendTcpOptions
    = if ms.any Member.appendsMd5 then tcpMd5SignatureOption else []
  replace : ∀ options, v.replaceTcpOptions = some options →
    ∃ offset, backdateTcpTimestamp pkt.tcpOptions offset = some options

theorem fakeStaged_view (s : FlowState) (pkt : CapturedPacket) :
    FakeStaged s pkt [] pkt.view where
  captured := rfl
  payload := rfl
  append := rfl
  replace := nofun

theorem any_concat {α : Type} (p : α → Bool) (l : List α) (x : α) :
    (l ++ [x]).any p = (l.any p || p x) := by
  rw [List.any_append, List.any_cons, List.any_nil, Bool.or_false]

/-- A member that stages the fake, and nothing about the options. -/
theorem FakeStaged.emit {ms : List Member} {x : Member} {v w : PacketView}
    (h : FakeStaged s pkt ms v)
    (hemit : (x.handshakeAction pkt).isEmit = true)
    (hplain : x.appendsMd5 = false)
    (hcaptured : w.toCapturedPacket = v.toCapturedPacket)
    (hpayload : w.newPayload = some s.fakeData)
    (happend : w.appendTcpOptions = v.appendTcpOptions)
    (hreplace : w.replaceTcpOptions = v.replaceTcpOptions) :
    FakeStaged s pkt (ms ++ [x]) w where
  captured := hcaptured.trans h.captured
  payload := by
    rw [any_concat, hemit, Bool.or_true]
    exact hpayload
  append := by
    rw [any_concat, hplain, Bool.or_false, happend]
    exact h.append
  replace := by
    rw [hreplace]
    exact h.replace

/-- A member that stages nothing. -/
theorem FakeStaged.quiet {ms : List Member} {x : Member} {v : PacketView}
    (h : FakeStaged s pkt ms v)
    (hquiet : (x.handshakeAction pkt).isEmit = false)
    (hplain : x.appendsMd5 = false) : FakeStaged s pkt (ms ++ [x]) v where
  captured := h.captured
  payload := by
    rw [any_concat, hquiet, Bool.or_false]
    exact h.payload
  append := by
    rw [any_concat, hplain, Bool.or_false]
    exact h.append
  replace := h.replace

/-- A member that emits stages the fake, any other one nothing. -/
theorem FakeStaged.hook {ms : List Member} {x : Member} {v w : PacketView}
    {action : MethodAction} (h : FakeStaged s pkt ms v)
    (hhook : BypassMethod.onHandshakeCompleteAck x env s v
      = .ok (action, w)) : FakeStaged s pkt (ms ++ [x]) w := by
  cases x with
  | wrongSeq f =>
      have hhook : f.onHandshakeCompleteAck s v = _ := hhook
      unfold WrongSeq.onHandshakeCompleteAck at hhook
      split at hhook
      · cases hhook
      · cases hhook
        exact h.emit rfl rfl rfl rfl rfl rfl
  | wrongAck f =>
      have hhook : f.onHandshakeCompleteAck s v = _ := hhook
      unfold WrongAck.onHandshakeCompleteAck at hhook
      split at hhook
      · cases hhook
      · cases hhook
        exact h.emit (by simp [Member.handshakeAction, MethodAction.isEmit])
          rfl rfl rfl rfl rfl
  | wrongChecksum f =>
      cases hhook
      exact h.emit (by simp [Member.handshakeAction, MethodAction.isEmit])
        rfl rfl rfl rfl rfl
  | lowTtl f =>
      cases hhook
      exact h.emit (by simp [Member.handshakeAction, MethodAction.isEmit])
        rfl rfl rfl rfl rfl
  | wrongMd5 f =>
      cases hhook
      refine ⟨h.captured, ?_, ?_, h.replace⟩
      · rw [any_concat]
        simp [Member.handshakeAction, MethodAction.isEmit,
          PacketView.stageFake]
      · rw [any_concat]
        simp [Member.appendsMd5]
  | wrongTimestamp f =>
      have hhook : f.onHandshakeCompleteAck s v = _ := hhook
      have hoptions : v.tcpOptions = pkt.tcpOptions :=
        congrArg CapturedPacket.tcpOptions h.captured
      unfold WrongTimestamp.onHandshakeCompleteAck at hhook
      rw [hoptions] at hhook
      split at hhook
      case h_1 hnone =>
        cases hhook
        exact h.quiet (by simp [Member.handshakeAction, hnone,
          MethodAction.isEmit]) rfl
      case h_2 options hsome =>
        cases hhook
        refine ⟨h.captured, ?_, ?_, ?_⟩
        · rw [any_concat]
          simp [Member.handshakeAction, hsome, MethodAction.isEmit,
            PacketView.stageFake]
        · rw [any_concat]
          simpa [Member.appendsMd5, PacketView.stageFake] using h.append
        · intro options' hoptions'
          cases hoptions'
          exact ⟨_, hsome⟩
  | _ =>
      cases hhook
      exact h.quiet rfl rfl

/-- The members in turn. -/
theorem FakeStaged.fold {before ms : List Member} {acc acc' : HandshakeAcc}
    (h : FakeStaged s pkt before acc.pkt)
    (hrun : ms.foldlM (HandshakeAcc.turn env s) acc = .ok acc') :
    FakeStaged s pkt (before ++ ms) acc'.pkt := by
  induction ms generalizing before acc with
  | nil =>
      cases hrun
      rw [List.append_nil]
      exact h
  | cons x ms ih =>
      rw [List.foldlM_cons] at hrun
      obtain ⟨mid, hturn, hrun⟩ := bind_eq_ok.mp hrun
      obtain ⟨⟨action, w⟩, hhook, hturn⟩ := bind_eq_ok.mp hturn
      cases hturn
      have hall := ih (h.hook hhook) hrun
      rwa [List.append_assoc] at hall

/-- What the composite leaves staged. -/
theorem handshakeStage_staged {action : MethodAction} {v : PacketView}
    (hhook : BypassMethod.onHandshakeCompleteAck m env s pkt.view
      = .ok (action, v)) :
    FakeStaged s pkt m.handshakeMethods v ∧ Unrequested v := by
  refine ⟨?_, Unrequested.handshakeStage ⟨rfl, rfl, rfl, rfl⟩ hhook⟩
  obtain ⟨acc, hfold, hhook⟩ := bind_eq_ok.mp hhook
  have hacc : FakeStaged s pkt ([] ++ m.handshakeMethods) acc.pkt :=
    (fakeStaged_view s pkt).fold hfold
  have hview : v = { acc.pkt with
      newFlags := acc.firstFlags
      bumpIpv4Ident := acc.firstBumpIdent } := by
    simp only at hhook
    split at hhook
    · exact (congrArg Prod.snd (Except.ok.inj hhook)).symm
    · exact (congrArg Prod.snd (Except.ok.inj hhook)).symm
  rw [hview]
  exact ⟨hacc.captured, hacc.payload, hacc.append, hacc.replace⟩

-- ================================================================ the room

/-- Backdated options are as long as the captured ones. -/
theorem length_backdate {options out : Bytes} {offset : UInt32}
    (h : backdateTcpTimestamp options offset = some out) :
    out.length = options.length := by
  obtain ⟨before, tsval, tsecr, behind, -, hreads, hout⟩ :=
    @read_of_backdateFrom out offset (options.length + 1) [] options h
  rw [hout, hreads]
  simp only [List.nil_append, List.length_append]
  rfl

/-- The bytes of TCP options in the rebuilt ACK. -/
def Config.optionBytes (cfg : Config) (pkt : CapturedPacket) : Nat :=
  pkt.tcpOptions.length + if .wrongMd5 ∈ cfg.bypassMethod then 20 else 0

/-- Some method of the list stages its fake on the packet. -/
def Config.StagesFake (cfg : Config) (pkt : CapturedPacket) : Prop :=
  ∃ n ∈ cfg.bypassMethod, n.isHandshakeStage = true ∧ n ≠ .urgSniSplit
    ∧ (n = .wrongTimestamp →
      backdateTcpTimestamp pkt.tcpOptions cfg.wrongTimestampOffset ≠ none)

/-- The packet with the fake would be too large: its options for their
area, or all of it for an IPv4 packet. -/
def NoRoom (cfg : Config) (s : FlowState) (pkt : CapturedPacket)
    (layout : Linux.PacketLayout) : Prop :=
  40 < cfg.optionBytes pkt
    ∨ 65535 < layout.ipHdrLen + 20 + cfg.optionBytes pkt + s.fakeData.length

theorem BuiltFrom.stagesFake_iff (hb : BuiltFrom cfg freshSeed m) :
    cfg.StagesFake pkt
      ↔ ∃ x ∈ m.handshakeMethods, (x.handshakeAction pkt).isEmit = true := by
  constructor
  · intro hgiven
    obtain ⟨n, hn, hstage, hemits⟩ := hgiven
    rw [← handshakeMember_isSome cfg] at hstage
    obtain ⟨x, hx⟩ := Option.isSome_iff_exists.mp hstage
    refine ⟨x, ?_, (handshakeMember_isEmit hx pkt).mpr hemits⟩
    rw [hb.handshakeMethods]
    exact List.mem_filterMap.mpr ⟨n, hn, hx⟩
  · intro hgiven
    obtain ⟨x, hx, hemit⟩ := hgiven
    obtain ⟨n, hn, hnx⟩ := hb.mem_handshake hx
    refine ⟨n, hn, ?_, (handshakeMember_isEmit hnx pkt).mp hemit⟩
    rw [← handshakeMember_isSome cfg, hnx]
    rfl

theorem BuiltFrom.appendsMd5_iff (hb : BuiltFrom cfg freshSeed m) :
    m.handshakeMethods.any Member.appendsMd5 = true
      ↔ .wrongMd5 ∈ cfg.bypassMethod := by
  rw [List.any_eq_true]
  constructor
  · intro hgiven
    obtain ⟨x, hx, hmd5⟩ := hgiven
    obtain ⟨n, hn, hnx⟩ := hb.mem_handshake hx
    cases n with
    | wrongMd5 => exact hn
    | wrongSeq =>
        cases hnx
        cases hmd5
    | wrongAck =>
        cases hnx
        cases hmd5
    | wrongChecksum =>
        cases hnx
        cases hmd5
    | wrongTimestamp =>
        cases hnx
        cases hmd5
    | lowTtl =>
        cases hnx
        cases hmd5
    | urgSniSplit =>
        cases hnx
        cases hmd5
    | _ => cases hnx
  · intro hn
    refine ⟨.wrongMd5 (.new cfg), ?_, rfl⟩
    rw [hb.handshakeMethods]
    exact List.mem_filterMap.mpr ⟨_, hn, rfl⟩

/-- The option of `wrong_md5` takes five words. -/
theorem appendedLen_md5 {n : Nat} (hwords : n % 4 = 0) :
    Linux.appendedLen n tcpMd5SignatureOption
      = if 40 < n + 20 then none else some (n + 20) := by
  have hlen : (n + tcpMd5SignatureOption.length + 3) / 4 * 4 = n + 20 := by
    show (n + 18 + 3) / 4 * 4 = n + 20
    omega
  unfold Linux.appendedLen
  rw [hlen]
  rfl

/-- What the members staged fits into the ACK or not. -/
theorem BuiltFrom.room_iff (hb : BuiltFrom cfg freshSeed m)
    {layout : Linux.PacketLayout} {v : PacketView}
    (harea : OptionArea pkt.tcpOptions)
    (hstaged : FakeStaged s pkt m.handshakeMethods v) :
    (∃ n, Linux.appendedLen pkt.tcpOptions.length v.appendTcpOptions = some n
        ∧ layout.ipHdrLen + (20 + n + s.fakeData.length) < 65536)
      ↔ ¬ NoRoom cfg s pkt layout := by
  have hwords := harea.words
  have hroom := harea.room
  unfold NoRoom Config.optionBytes
  rw [hstaged.append]
  by_cases hmd5 : .wrongMd5 ∈ cfg.bypassMethod
  · rw [if_pos hmd5, if_pos (hb.appendsMd5_iff.mpr hmd5),
      appendedLen_md5 hwords]
    split <;> simp <;> omega
  · rw [if_neg hmd5, if_neg (fun h => hmd5 (hb.appendsMd5_iff.mp h))]
    simp [Linux.appendedLen]
    omega

-- ============================================================ the emission

/-- The packet in the ACK's place is the ACK rebuilt around the fake. -/
def EmitsFake (E : Etherparse) (fakeData buf : Bytes)
    (layout : Linux.PacketLayout) (view : PacketView)
    (emission : Linux.Emission) : Prop :=
  ∃ bytes ihl tcpLen seq,
    Linux.buildModified E buf layout view = .ok (some bytes)
      ∧ IsPacket bytes ihl tcpLen ⟨seq, fakeData⟩
      ∧ emission.inPlace = [.packet bytes]

/-- A fake that a member staged on the handshake ACK goes out: the
composite answers with an emission, the handler with `acceptModified`, and
the backend emits the fake. -/
def StagedFakeSurvives (E : Etherparse) (decoyIo io : Linux.RawIo)
    (m : CompositeMethod Member) (env : HookEnv) (s : FlowState)
    (buf : Bytes) (pkt : CapturedPacket) (layout : Linux.PacketLayout) :
    Prop :=
  ∀ actions,
    handshakeActions env s m.handshakeMethods pkt.view = .ok actions →
    (∃ a ∈ actions, a.isEmit = true) →
    (∃ action v, BypassMethod.onHandshakeCompleteAck m env s pkt.view
        = .ok (action, v) ∧ action.isEmit = true)
    ∧ ∃ r emission, onPacket m env s pkt.view = .ok r
      ∧ r.verdict = .acceptModified
      ∧ Linux.emit E decoyIo io buf layout r = .ok emission
      ∧ EmitsFake E s.fakeData buf layout r.pkt emission

section

variable {E : Etherparse} {decoyIo io : Linux.RawIo} {buf : Bytes}
  {layout : Linux.PacketLayout} {direction : Direction}

/-- Where nothing else is requested, the rebuilt packet is all there is. -/
theorem Linux.emit_rebuilt {r : Handled} {bytes : Bytes}
    (hmod : r.verdict = .acceptModified) (hnone : Unrequested r.pkt)
    (hbuilt : Linux.buildModified E buf layout r.pkt = .ok (some bytes)) :
    Linux.emit E decoyIo io buf layout r
      = .ok { decoys := [], inPlace := [.packet bytes] } := by
  rw [Linux.emit_undecoyed hmod hnone.decoy hbuilt]
  simp [Linux.emitShaped, hnone.whole, hnone.unsegmented, hnone.original]

/-- With a fake staged, the ACK can be rebuilt exactly where there is
room. -/
theorem FakeStaged.built_iff (hE : E.Lawful) (hP : E.HeadersPresent)
    (hO : E.KeepsOptions) (hA : E.Accepts)
    (hb : BuiltFrom cfg freshSeed m) {v : PacketView}
    (hparse : Linux.parseView E direction buf = .ok (some (pkt, layout)))
    (hstaged : FakeStaged s pkt m.handshakeMethods v)
    (hpayload : v.newPayload = some s.fakeData) :
    (∃ bytes, Linux.buildModified E buf layout v = .ok (some bytes))
      ↔ ¬ NoRoom cfg s pkt layout := by
  obtain ⟨_, tcp, -, htcp, -, -, -, hoptions⟩ := parseView_fields hparse
  have harea : OptionArea pkt.tcpOptions := hoptions ▸ hE.tcpOptions htcp
  have hpay : v.newPayload.or
      (slice? buf layout.payloadOff layout.totalLen) = some s.fakeData := by
    rw [hpayload]
    rfl
  have hreplace : ∀ options, v.replaceTcpOptions = some options →
      options.length = pkt.tcpOptions.length := by
    intro options hset
    obtain ⟨offset, hback⟩ := hstaged.replace options hset
    exact length_backdate hback
  rw [Linux.buildModified_iff hE hP hO hA hparse hpay hreplace,
    hb.room_iff harea hstaged]

end

/-- For every validated list and every handshake-completing ACK: a staged
fake survives the composition and is emitted exactly when the list and
packet are not of the losing kind, and there is room for it. -/
theorem staged_fake_survives_iff (E : Etherparse) (hE : E.Lawful)
    (hP : E.HeadersPresent) (hO : E.KeepsOptions) (hA : E.Accepts)
    (decoyIo io : Linux.RawIo) (cfg : Config) (hv : cfg.validate = .ok ())
    (freshSeed : MethodName → UInt64) (m : CompositeMethod Member)
    (hm : buildMethod cfg freshSeed = some m) (env : HookEnv)
    (s : FlowState) (buf : Bytes) (pkt : CapturedPacket)
    (layout : Linux.PacketLayout)
    (hparse : Linux.parseView E .outbound buf = .ok (some (pkt, layout)))
    (hack : HandshakeAck s pkt) :
    StagedFakeSurvives E decoyIo io m env s buf pkt layout
      ↔ ¬ LosesFake cfg pkt
        ∧ ¬ (cfg.StagesFake pkt ∧ NoRoom cfg s pkt layout) := by
  have hlist := Config.validList hv
  have hb := build_spec hm
  have hknown := seqsKnown_of_completes hack.matchesSyn
  have hactions := handshakeActions_eq env hknown m.handshakeMethods pkt.view
  obtain ⟨r, v, hhook, hr, -, hview, hverdict⟩ := handshake_verdict m env hack
  obtain ⟨hstaged, hnone⟩ := handshakeStage_staged hhook
  rw [← hview] at hstaged hnone
  -- an emission by a member puts the fake on the view
  have hpayload : (∃ x ∈ m.handshakeMethods,
      (x.handshakeAction pkt).isEmit = true) →
      r.pkt.newPayload = some s.fakeData := by
    intro hgiven
    obtain ⟨x, hx, hemit⟩ := hgiven
    rw [hstaged.payload, if_pos (List.any_eq_true.mpr ⟨x, hx, hemit⟩)]
  constructor
  · intro h
    have hemitted := fun x (hx : x ∈ m.handshakeMethods)
        (hemit : (x.handshakeAction pkt).isEmit = true) =>
      h _ hactions ⟨_, List.mem_map.mpr ⟨x, hx, rfl⟩, hemit⟩
    constructor
    · intro hl
      obtain ⟨⟨x, hx, hemits⟩, hnot⟩ := hl.answer hlist hb
      obtain ⟨⟨action, w, hhook', hemit⟩, -⟩ := hemitted x hx hemits
      cases hhook.symm.trans hhook'
      rw [hemit] at hnot
      cases hnot
    · intro hgiven
      obtain ⟨hstages, hfull⟩ := hgiven
      obtain ⟨x, hx, hemits⟩ := hb.stagesFake_iff.mp hstages
      obtain ⟨-, r', emission, hr', -, -, bytes, _, _, _, hbuilt, -⟩ :=
        hemitted x hx hemits
      cases hr.symm.trans hr'
      exact (hstaged.built_iff hE hP hO hA hb hparse
        (hpayload ⟨x, hx, hemits⟩)).mp ⟨bytes, hbuilt⟩ hfull
  · rintro ⟨hl, hroom⟩ actions hact ⟨a, ha, hemit⟩
    rw [hactions] at hact
    cases hact
    obtain ⟨x, hx, rfl⟩ := List.mem_map.mp ha
    have hemits : ∃ x ∈ m.handshakeMethods,
        (x.handshakeAction pkt).isEmit = true := ⟨x, hx, hemit⟩
    have hanswer := answer_isEmit_of_not_loses hlist hb hl hemits
    have hmod := hverdict.mpr hanswer
    obtain ⟨bytes, hbuilt⟩ := (hstaged.built_iff hE hP hO hA hb hparse
      (hpayload hemits)).mpr fun hfull =>
        hroom ⟨hb.stagesFake_iff.mpr hemits, hfull⟩
    obtain ⟨ihl, tcpLen, hpacket⟩ := Linux.buildModified_isPacket hE hP hparse
      (by rw [hpayload hemits]; rfl) hbuilt
    exact ⟨⟨_, v, hhook, hanswer⟩, r, _, hr, hmod,
      Linux.emit_rebuilt hmod hnone hbuilt, bytes, ihl, tcpLen, _, hbuilt,
      hpacket, rfl⟩

/-- The sample handshake through `["wrong_seq", "wrong_md5"]`: both fakes
are staged, and what they come to is emitted. -/
theorem sample_staged_fake_survives :
    ∃ m s, buildMethod { bypassMethod := [.wrongSeq, .wrongMd5] }
          (fun _ => 0) = some m
      ∧ feedAll m (.new [0x16] none) sampleOpening = .ok s
      ∧ handshakeActions sampleEnv s m.handshakeMethods sampleAck.view
          = .ok [.emitAndWaitForAck, .emitAndComplete]
      ∧ StagedFakeSurvives Wire.etherparse openIo openIo m sampleEnv s
          sampleAckBytes sampleAck ⟨20, 20, 40, 40⟩ := by
  refine ⟨_, _, rfl, rfl, rfl, (staged_fake_survives_iff Wire.etherparse
    Wire.etherparse_lawful Wire.etherparse_headersPresent
    Wire.etherparse_keepsOptions Wire.etherparse_accepts openIo openIo
    { bypassMethod := [.wrongSeq, .wrongMd5] } rfl (fun _ => 0) _ rfl
    sampleEnv _ sampleAckBytes sampleAck ⟨20, 20, 40, 40⟩ rfl
    (by decide)).mpr ⟨fun hl => ?_, fun hfull => ?_⟩⟩
  · exact absurd hl.timestampLast (by decide)
  · have hroom := hfull.2
    unfold NoRoom at hroom
    exact absurd hroom (by decide)

/-- Six words of options. -/
def longOptions : Bytes := List.replicate 24 1

/-- A fake is lost in two ways. `["wrong_seq", "wrong_timestamp"]` on an ACK
without a timestamp option: `wrong_seq` has staged its fake, the composite
completes, and the ACK goes out as it came. `["wrong_seq", "wrong_md5"]` on
an ACK with 24 bytes of options: both stage their fakes, the composite emits,
the options do not fit, and the ACK goes out as it came. -/
theorem staged_fake_is_lost :
    (Config.validate { bypassMethod := [.wrongSeq, .wrongTimestamp] } = .ok ()
      ∧ ∃ m s r,
        buildMethod { bypassMethod := [.wrongSeq, .wrongTimestamp] }
          (fun _ => 0) = some m
        ∧ feedAll m (.new [0x16] none) sampleOpening = .ok s
        ∧ Linux.parseView Wire.etherparse .outbound sampleAckBytes
            = .ok (some (sampleAck, ⟨20, 20, 40, 40⟩))
        ∧ HandshakeAck s sampleAck
        ∧ handshakeActions sampleEnv s m.handshakeMethods sampleAck.view
            = .ok [.emitAndWaitForAck, .abortAndAccept]
        ∧ onPacket m sampleEnv s sampleAck.view = .ok r
        ∧ r.verdict = .accept
        ∧ Linux.emit Wire.etherparse openIo openIo sampleAckBytes
            ⟨20, 20, 40, 40⟩ r = .ok ⟨[], [.packet sampleAckBytes]⟩
        ∧ ¬ StagedFakeSurvives Wire.etherparse openIo openIo m sampleEnv s
            sampleAckBytes sampleAck ⟨20, 20, 40, 40⟩)
    ∧ Config.validate { bypassMethod := [.wrongSeq, .wrongMd5] } = .ok ()
      ∧ ∃ m s r,
        buildMethod { bypassMethod := [.wrongSeq, .wrongMd5] }
          (fun _ => 0) = some m
        ∧ feedAll m (.new [0x16] none) sampleOpening = .ok s
        ∧ Linux.parseView Wire.etherparse .outbound
            (sampleAckWithBytes longOptions)
            = .ok (some (sampleAckWith longOptions, ⟨20, 44, 64, 64⟩))
        ∧ HandshakeAck s (sampleAckWith longOptions)
        ∧ handshakeActions sampleEnv s m.handshakeMethods
            (sampleAckWith longOptions).view
            = .ok [.emitAndWaitForAck, .emitAndComplete]
        ∧ onPacket m sampleEnv s (sampleAckWith longOptions).view = .ok r
        ∧ r.verdict = .acceptModified
        ∧ Linux.emit Wire.etherparse openIo openIo
            (sampleAckWithBytes longOptions) ⟨20, 44, 64, 64⟩ r
            = .ok ⟨[], [.packet (sampleAckWithBytes longOptions)]⟩
        ∧ ¬ StagedFakeSurvives Wire.etherparse openIo openIo m sampleEnv s
            (sampleAckWithBytes longOptions) (sampleAckWith longOptions)
            ⟨20, 44, 64, 64⟩ := by
  refine ⟨⟨rfl, _, _, _, rfl, rfl, rfl, by decide, rfl, rfl, rfl, rfl, ?_⟩,
    rfl, _, _, _, rfl, rfl, rfl, by decide, rfl, rfl, rfl, rfl, ?_⟩
  · intro h
    obtain ⟨-, r, -, hr, hmod, -⟩ :=
      h _ rfl ⟨.emitAndWaitForAck, by decide, rfl⟩
    cases hr
    cases hmod
  · intro h
    obtain ⟨-, r, -, hr, -, -, bytes, -, -, -, hbuilt, -⟩ :=
      h _ rfl ⟨.emitAndWaitForAck, by decide, rfl⟩
    cases hr
    cases hbuilt

end ZeroDpi
