/-
The handshake stage of a built method: how the composite answers for a
staged fake, and when the flow goes on to wait for data.

Both questions are decided by the list alone, up to one thing the packet
decides: whether `wrong_timestamp` finds a timestamp to backdate. The
composite reads its answer off the last member, so a `wrong_timestamp`
that aborts in last place takes the fakes staged before it along; and the
disjunction that makes the flow wait for data has no entry for
`mixed_case_sni`.
-/
import ZeroDpi.Proofs.Composed

namespace ZeroDpi

open Lib Handler

variable {cfg : Config} {freshSeed : MethodName → UInt64}
  {m : CompositeMethod Member} {s : FlowState} {pkt : CapturedPacket}

-- ===================================================== actions by name

/-- Of the handshake members, `urg_sni_split` never emits,
`wrong_timestamp` emits when it finds a timestamp, the others always. -/
theorem handshakeMember_isEmit {n : MethodName} {x : Member}
    (h : handshakeMember cfg n = some x) (c : CapturedPacket) :
    (x.handshakeAction c).isEmit = true
      ↔ n ≠ .urgSniSplit ∧ (n = .wrongTimestamp →
        backdateTcpTimestamp c.tcpOptions cfg.wrongTimestampOffset
          ≠ none) := by
  cases n with
  | wrongTimestamp =>
      cases h
      simp only [Member.handshakeAction, WrongTimestamp.new]
      by_cases hts :
          backdateTcpTimestamp c.tcpOptions cfg.wrongTimestampOffset = none
      · simp [hts, MethodAction.isEmit]
      · simp [hts, MethodAction.isEmit]
  | urgSniSplit =>
      cases h
      simp [Member.handshakeAction, MethodAction.isEmit]
  | wrongSeq =>
      cases h
      simp [Member.handshakeAction, MethodAction.isEmit,
        MethodAction.emitAndWaitForAck]
  | wrongAck =>
      cases h
      simp [Member.handshakeAction, MethodAction.isEmit]
  | wrongChecksum =>
      cases h
      simp [Member.handshakeAction, MethodAction.isEmit]
  | wrongMd5 =>
      cases h
      simp [Member.handshakeAction, MethodAction.isEmit]
  | lowTtl =>
      cases h
      simp [Member.handshakeAction, MethodAction.isEmit]
  | _ => cases h

/-- The composite has a last handshake member exactly when the list has a
last handshake-stage entry, and it is the member of that entry. -/
theorem BuiltFrom.getLast?_handshake (h : BuiltFrom cfg freshSeed m)
    {n : MethodName}
    (hn : (cfg.bypassMethod.filter MethodName.isHandshakeStage).getLast?
      = some n) :
    ∃ x, handshakeMember cfg n = some x
      ∧ m.handshakeMethods.getLast? = some x := by
  obtain ⟨front, hfront⟩ := List.getLast?_eq_some_iff.mp hn
  have hstage : n.isHandshakeStage = true := by
    have hmem : n ∈ cfg.bypassMethod.filter MethodName.isHandshakeStage := by
      rw [hfront]
      exact List.mem_append_right front (List.mem_singleton_self n)
    exact (List.mem_filter.mp hmem).2
  rw [← handshakeMember_isSome cfg] at hstage
  obtain ⟨x, hx⟩ := Option.isSome_iff_exists.mp hstage
  refine ⟨x, hx, ?_⟩
  have hsame : cfg.bypassMethod.filterMap (handshakeMember cfg)
      = (cfg.bypassMethod.filter MethodName.isHandshakeStage).filterMap
          (handshakeMember cfg) := by
    rw [List.filterMap_filter]
    refine congrArg (List.filterMap · cfg.bypassMethod) (funext fun a => ?_)
    rw [← handshakeMember_isSome cfg a]
    cases handshakeMember cfg a with
    | none => rfl
    | some y => rfl
  rw [h.handshakeMethods, hsame, hfront, List.filterMap_append]
  simp [hx]

/-- A member of the handshake stage comes from a list entry. -/
theorem BuiltFrom.mem_handshake (h : BuiltFrom cfg freshSeed m)
    {x : Member} (hx : x ∈ m.handshakeMethods) :
    ∃ n ∈ cfg.bypassMethod, handshakeMember cfg n = some x := by
  rw [h.handshakeMethods] at hx
  exact List.mem_filterMap.mp hx

-- ======================================================= the staged fake

/-- The lists and packets on which a staged fake is lost: nothing holds
the flow for the data stage, `wrong_timestamp` is the last of several
handshake-stage methods, and the packet has no timestamp it could
backdate. -/
structure LosesFake (cfg : Config) (pkt : CapturedPacket) : Prop where
  noData : ∀ n ∈ cfg.bypassMethod, n.holdsForData = false
  timestampLast :
    (cfg.bypassMethod.filter MethodName.isHandshakeStage).getLast?
      = some .wrongTimestamp
  another : ∃ n ∈ cfg.bypassMethod,
    n.isHandshakeStage = true ∧ n ≠ .wrongTimestamp
  noTimestamp :
    backdateTcpTimestamp pkt.tcpOptions cfg.wrongTimestampOffset = none

/-- The verdict on a handshake ACK follows the composite's answer. -/
theorem handshake_verdict (m : CompositeMethod Member) (env : HookEnv)
    (hack : HandshakeAck s pkt) :
    ∃ r v, BypassMethod.onHandshakeCompleteAck m env s pkt.view
        = .ok (m.handshakeAnswer pkt, v)
      ∧ onPacket m env s pkt.view = .ok r
      ∧ r.state = settled (onHandshakeAction s (m.handshakeAnswer pkt) v)
      ∧ r.pkt = v
      ∧ (r.verdict = .acceptModified
          ↔ (m.handshakeAnswer pkt).isEmit = true) := by
  have hknown := seqsKnown_of_completes hack.matchesSyn
  obtain ⟨v, hhook, -⟩ := m.handshake_spec env hknown pkt.view
  have hview : (onHandshakeAction s (m.handshakeAnswer pkt) v).pkt = v := by
    cases m.handshakeAnswer pkt <;> rfl
  refine ⟨_, v, hhook, onPacket_of_locked (locked_of_handshakeAck hack hhook),
    rfl, hview, ?_⟩
  show (onHandshakeAction s (m.handshakeAnswer pkt) v).verdict = _ ↔ _
  cases m.handshakeAnswer pkt with
  | emitFakeAndAccept immediate more =>
      simp [onHandshakeAction, MethodAction.isEmit]
  | completeAndAccept =>
      simp [onHandshakeAction, MethodAction.isEmit, Handler.pass]
  | passThrough => simp [onHandshakeAction, MethodAction.isEmit, Handler.pass]
  | abortAndAccept => simp [onHandshakeAction, MethodAction.isEmit, Handler.pass]

/-- Where a fake is lost, some member emitted and the composite did
not. -/
theorem LosesFake.answer (hl : LosesFake cfg pkt) (hv : cfg.ValidList)
    (hb : BuiltFrom cfg freshSeed m) :
    (∃ x ∈ m.handshakeMethods, (x.handshakeAction pkt).isEmit = true)
      ∧ (m.handshakeAnswer pkt).isEmit = false := by
  have hemits :
      ∃ x ∈ m.handshakeMethods, (x.handshakeAction pkt).isEmit = true := by
    obtain ⟨n, hn, hstage, hne⟩ := hl.another
    rw [← handshakeMember_isSome cfg] at hstage
    obtain ⟨x, hx⟩ := Option.isSome_iff_exists.mp hstage
    refine ⟨x, ?_, ?_⟩
    · rw [hb.handshakeMethods]
      exact List.mem_filterMap.mpr ⟨n, hn, hx⟩
    · refine (handshakeMember_isEmit hx pkt).mpr ⟨?_, ?_⟩
      · -- `urg_sni_split` does not share a list with `wrong_timestamp`
        intro heq
        subst heq
        have hmem : .wrongTimestamp ∈ cfg.bypassMethod :=
          (List.mem_filter.mp
            (List.mem_of_getLast? hl.timestampLast)).1
        rcases hv.urgAlone hn _ hmem with h | h <;> cases h
      · intro h
        exact absurd h hne
  refine ⟨hemits, ?_⟩
  have hwait : m.waitsForData = false := by
    rw [← Bool.not_eq_true, hb.waitsForData_iff]
    intro hgiven
    obtain ⟨n, hn, hh⟩ := hgiven
    rw [hl.noData n hn] at hh
    cases hh
  obtain ⟨x, hx, hlast⟩ := hb.getLast?_handshake hl.timestampLast
  cases hx
  have hany : (m.handshakeMethods.any fun x =>
      (x.handshakeAction pkt).isEmit) = true := by
    obtain ⟨y, hy, he⟩ := hemits
    exact List.any_eq_true.mpr ⟨y, hy, he⟩
  have habort : (Member.wrongTimestamp (.new cfg)).handshakeAction pkt
      = .abortAndAccept := by
    simp [Member.handshakeAction, WrongTimestamp.new, hl.noTimestamp]
  have hanswer : m.handshakeAnswer pkt = .completeAndAccept := by
    simp only [CompositeMethod.handshakeAnswer, hwait, hlast, hany,
      Option.map_some, habort, Bool.false_eq_true, if_false]
    rfl
  rw [hanswer]
  rfl

/-- Everywhere else an emission by a member is one by the composite. -/
theorem answer_isEmit_of_not_loses (hv : cfg.ValidList)
    (hb : BuiltFrom cfg freshSeed m) (hl : ¬ LosesFake cfg pkt)
    (hemits :
      ∃ x ∈ m.handshakeMethods, (x.handshakeAction pkt).isEmit = true) :
    (m.handshakeAnswer pkt).isEmit = true := by
  obtain ⟨x, hx, hemit⟩ := hemits
  obtain ⟨n, hn, hnx⟩ := hb.mem_handshake hx
  obtain ⟨hnurg, -⟩ := (handshakeMember_isEmit hnx pkt).mp hemit
  by_cases hwait : m.waitsForData = true
  · simp only [CompositeMethod.handshakeAnswer, hwait, if_true]
    rfl
  -- no data stage: the last member decides
  have hnodata : ∀ k ∈ cfg.bypassMethod, k.holdsForData = false := by
    intro k hk
    rw [← Bool.not_eq_true]
    exact fun hh => hwait (hb.waitsForData_iff.mpr ⟨k, hk, hh⟩)
  have hstage : n.isHandshakeStage = true := by
    rw [← handshakeMember_isSome cfg, hnx]
    rfl
  have hne : cfg.bypassMethod.filter MethodName.isHandshakeStage ≠ [] :=
    List.ne_nil_of_mem (List.mem_filter.mpr ⟨hn, hstage⟩)
  obtain ⟨last, hlast⟩ :
      ∃ k, (cfg.bypassMethod.filter MethodName.isHandshakeStage).getLast?
        = some k := ⟨_, List.getLast?_eq_some_getLast hne⟩
  obtain ⟨y, hy, hylast⟩ := hb.getLast?_handshake hlast
  have hmemlast : last ∈ cfg.bypassMethod :=
    (List.mem_filter.mp (List.mem_of_getLast? hlast)).1
  have hylemit : (y.handshakeAction pkt).isEmit = true := by
    refine (handshakeMember_isEmit hy pkt).mpr ⟨?_, ?_⟩
    · -- beside `urg_sni_split` only `tls_frag` is allowed
      intro heq
      subst heq
      rcases hv.urgAlone hmemlast n hn with h | h
      · exact hnurg h
      · rw [h] at hstage
        cases hstage
    · intro heq hnone
      subst heq
      refine hl ⟨hnodata, hlast, ⟨n, hn, hstage, ?_⟩, hnone⟩
      intro heq
      subst heq
      exact ((handshakeMember_isEmit hnx pkt).mp hemit).2 rfl hnone
  simp only [CompositeMethod.handshakeAnswer, hwait, hylast,
    Option.map_some]
  cases hact : y.handshakeAction pkt with
  | emitFakeAndAccept immediate more => cases immediate <;> rfl
  | completeAndAccept => rw [hact] at hylemit; cases hylemit
  | passThrough => rw [hact] at hylemit; cases hylemit
  | abortAndAccept => rw [hact] at hylemit; cases hylemit

-- =================================================== waiting for data

/-- A socket-side transform the list names gets its turn: the handshake
ACK leaves the flow waiting for data, which is what the proxy reads as
`ReadyForData`. -/
def SocketSideGetsTurn (cfg : Config) (m : CompositeMethod Member)
    (env : HookEnv) (s : FlowState) (pkt : CapturedPacket) : Prop :=
  (∃ n ∈ cfg.bypassMethod, n.isSocketSide = true) →
    ∃ r, onPacket m env s pkt.view = .ok r
      ∧ r.state.waitingForData = true
      ∧ r.state.progress = some .readyForData

/-- The handshake ACK leaves the flow waiting exactly when the composite
holds for data, and then the flow is still open. -/
theorem handshake_waits_iff (hack : HandshakeAck s pkt) (h : FlowInv s)
    (env : HookEnv) :
    ∃ r, onPacket m env s pkt.view = .ok r
      ∧ (r.state.waitingForData = true ↔ m.waitsForData = true)
      ∧ (m.waitsForData = true → r.state.progress = some .readyForData) := by
  have hopen := h.open_of_monitored hack.monitored hack.notAll
  obtain ⟨r, v, -, hr, hstate, -⟩ := handshake_verdict m env hack
  refine ⟨r, hr, ?_, ?_⟩
  · rw [hstate]
    by_cases hwait : m.waitsForData = true
    · simp [CompositeMethod.handshakeAnswer, hwait, settled,
        onHandshakeAction, MethodAction.emitAndWaitForData]
    · -- without a data stage the answer leaves the flag alone
      have hflag : (settled (onHandshakeAction s
          (m.handshakeAnswer pkt) v)).waitingForData = s.waitingForData := by
        rw [CompositeMethod.handshakeAnswer, if_neg hwait]
        rcases CompositeMethod.lastWord_cases _ _ with
          ⟨immediate, hl⟩ | hl | hl
        · rw [hl]
          cases immediate with
          | true =>
              simp [settled, onHandshakeAction, Deferred.run,
                FlowState.finish, hopen]
          | false => rfl
        · rw [hl]
          simp [settled, onHandshakeAction, Handler.pass, Deferred.run,
            FlowState.finish, hopen]
        · rw [hl]
          simp [settled, onHandshakeAction, Handler.pass, Deferred.run,
            FlowState.finish, hopen]
      rw [hflag, hack.notWaiting]
      simp [hwait]
  · intro hwait
    rw [hstate]
    simp [CompositeMethod.handshakeAnswer, hwait, settled,
      onHandshakeAction, MethodAction.emitAndWaitForData,
      FlowState.progress, hopen]

/-- For every validated list, in every run that reaches a
handshake-completing ACK: the configured socket-side transforms get their
turn exactly when the list has a data-stage method, or a socket-side
method other than `mixed_case_sni`, or no socket-side method at all. -/
theorem socket_side_gets_turn_iff (cfg : Config)
    (freshSeed : MethodName → UInt64) (m : CompositeMethod Member)
    (hm : buildMethod cfg freshSeed = some m)
    (fakeData : Bytes) (ttl : Option UInt8)
    (pre : List (HookEnv × CapturedPacket)) (s : FlowState)
    (hpre : feedAll m (.new fakeData ttl) pre = .ok s)
    (env : HookEnv) (pkt : CapturedPacket) (hack : HandshakeAck s pkt) :
    SocketSideGetsTurn cfg m env s pkt
      ↔ (∃ n ∈ cfg.bypassMethod, n.holdsForData = true)
        ∨ ∀ n ∈ cfg.bypassMethod, n.isSocketSide = false := by
  have h : FlowInv s := feedAll_flowInv hpre (flowInv_new fakeData ttl)
  have hwaits := (build_spec hm).waitsForData_iff
  obtain ⟨r, hr, hflag, hready⟩ :
      ∃ r, onPacket m env s pkt.view = .ok r
        ∧ (r.state.waitingForData = true ↔ m.waitsForData = true)
        ∧ (m.waitsForData = true → r.state.progress = some .readyForData) :=
    handshake_waits_iff hack h env
  constructor
  · intro hturn
    by_cases hside : ∃ n ∈ cfg.bypassMethod, n.isSocketSide = true
    · obtain ⟨r', hr', hwait, -⟩ := hturn hside
      rw [hr] at hr'
      cases hr'
      exact .inl (hwaits.mp (hflag.mp hwait))
    · refine .inr fun n hn => ?_
      rw [← Bool.not_eq_true]
      exact fun hs => hside ⟨n, hn, hs⟩
  · intro hcond hlisted
    obtain ⟨n, hn, hside⟩ := hlisted
    rcases hcond with hholds | hnone
    · have hw := hwaits.mpr hholds
      exact ⟨r, hr, hflag.mpr hw, hready hw⟩
    · rw [hnone n hn] at hside
      cases hside

/-- `["wrong_seq", "tls_frag"]`: the segmentation gets its turn. -/
theorem sample_socket_side_gets_turn :
    ∃ m s, buildMethod {} (fun _ => 0) = some m
      ∧ feedAll m (.new [0x16] none) sampleOpening = .ok s
      ∧ SocketSideGetsTurn {} m sampleEnv s sampleAck := by
  refine ⟨_, _, rfl, rfl, (socket_side_gets_turn_iff {} (fun _ => 0) _ rfl
    [0x16] none sampleOpening _ rfl sampleEnv sampleAck
    (by decide)).mpr (.inl ⟨.tlsFrag, by decide, rfl⟩)⟩

/-- `["wrong_checksum", "mixed_case_sni"]`: the handshake ACK completes the
bypass, and the proxy sees `Complete` without ever seeing
`ReadyForData`. -/
theorem mixed_case_sni_skipped :
    Config.validate { bypassMethod := [.wrongChecksum, .mixedCaseSni] }
      = .ok () ∧
    ∃ m s r, buildMethod { bypassMethod := [.wrongChecksum, .mixedCaseSni] }
          (fun _ => 0) = some m
      ∧ feedAll m (.new [0x16] none) sampleOpening = .ok s
      ∧ HandshakeAck s sampleAck
      ∧ onPacket m sampleEnv s sampleAck.view = .ok r
      ∧ r.state.progress = some (.complete .fakeDataAcked)
      ∧ ¬ SocketSideGetsTurn
          { bypassMethod := [.wrongChecksum, .mixedCaseSni] } m sampleEnv s
          sampleAck := by
  refine ⟨rfl, _, _, _, rfl, rfl, by decide, rfl, rfl, ?_⟩
  intro h
  obtain ⟨r, hr, hwait, -⟩ := h ⟨.mixedCaseSni, by decide, rfl⟩
  cases hr
  cases hwait

end ZeroDpi
