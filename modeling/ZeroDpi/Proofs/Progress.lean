/-
Flow progress between the helper and the client.

The reports written for one flow have one of four shapes (`Shape`): an
outcome is written once, and readiness at most once, before it. The
helper's entry backs the last of them, those still on the way are a
suffix, and the client's entry has an outcome only once nothing is on the
way. Flow ids have to be fresh for any of this, which is a matter of the
client's two counters (`Bounded`).
-/
import ZeroDpi.Helper.Progress
import ZeroDpi.Proofs.Client
import ZeroDpi.Proofs.Outcome
import ZeroDpi.Proofs.Session

namespace ZeroDpi.Helper

open Lib Handler

-- ====================================================== shapes of reports

/-- The report of an outcome. -/
def Progress.ofOutcome : BypassOutcome → Progress
  | .fakeDataAcked => .fakeDataAcked
  | .unexpectedClose => .unexpectedClose

/-- Outcomes are told apart. -/
theorem Progress.ofOutcome_inj {o o' : BypassOutcome}
    (h : ofOutcome o = ofOutcome o') : o = o' := by
  cases o <;> cases o' <;> first | rfl | cases h

/-- From the progress before them, too. -/
theorem Progress.ofOutcome_ne_readyForData (o : BypassOutcome) :
    ofOutcome o ≠ .readyForData := by
  cases o <;> decide

/-- What a report says about the entry it was read off. -/
theorem RegisteredFlow.news_cases {flow : RegisteredFlow} {p : Progress}
    (h : flow.news = some p) :
    flow.lastProgress ≠ some p
      ∧ ((p = .readyForData ∧ flow.entry.outcome = none)
        ∨ ∃ o, p = .ofOutcome o ∧ flow.entry.outcome = some o) := by
  obtain ⟨hof, hne⟩ := Option.filter_eq_some_iff.mp h
  refine ⟨fun heq => ?_, ?_⟩
  · simp [heq] at hne
  · unfold Progress.ofFlow FlowState.progress at hof
    cases ho : flow.entry.outcome with
    | none =>
        rw [ho] at hof
        by_cases hw : flow.entry.waitingForData = true
        · simp only [hw, if_true, Option.some.injEq] at hof
          exact .inl ⟨hof.symm, rfl⟩
        · simp [hw] at hof
    | some o =>
        rw [ho] at hof
        refine .inr ⟨o, ?_, rfl⟩
        cases o <;> cases hof <;> rfl

/-- The reports of a flow: readiness at most once, then an outcome at
most once. -/
def Shape (l : List Progress) : Prop :=
  l = [] ∨ l = [.readyForData]
    ∨ ∃ o, l = [.ofOutcome o] ∨ l = [.readyForData, .ofOutcome o]

namespace Shape

variable {l : List Progress}

/-- An outcome comes last. -/
theorem getLast?_of_mem (h : Shape l) {o : BypassOutcome}
    (ho : .ofOutcome o ∈ l) : l.getLast? = some (.ofOutcome o) := by
  have hready := Progress.ofOutcome_ne_readyForData o
  rcases h with rfl | rfl | ⟨o', rfl | rfl⟩
  · cases ho
  · exact absurd (List.mem_singleton.mp ho) hready
  · rw [List.mem_singleton.mp ho]
    rfl
  · simp only [List.mem_cons, hready, List.not_mem_nil, false_or,
      or_false] at ho
    rw [ho]
    rfl

/-- A flow whose outcome is out has no news. -/
theorem no_news (h : Shape l) {flow : RegisteredFlow} {o : BypassOutcome}
    (hlast : flow.lastProgress = l.getLast?)
    (hbacked : ∀ o, .ofOutcome o ∈ l → flow.entry.outcome = some o)
    (ho : .ofOutcome o ∈ l) : flow.news = none := by
  cases hnews : flow.news with
  | none => rfl
  | some p =>
      obtain ⟨hne, hp⟩ := flow.news_cases hnews
      rw [hlast, h.getLast?_of_mem ho] at hne
      have hout := hbacked o ho
      rcases hp with ⟨-, hnone⟩ | ⟨o', rfl, hsome⟩
      · rw [hout] at hnone
        cases hnone
      · rw [hout] at hsome
        cases hsome
        exact absurd rfl hne

/-- News of the flow keep the shape. -/
theorem append (h : Shape l) {flow : RegisteredFlow} {p : Progress}
    (hlast : flow.lastProgress = l.getLast?)
    (hbacked : ∀ o, .ofOutcome o ∈ l → flow.entry.outcome = some o)
    (hnews : flow.news = some p) : Shape (l ++ [p]) := by
  obtain ⟨hne, hp⟩ := flow.news_cases hnews
  have hover : ∀ o, .ofOutcome o ∉ l := by
    intro o ho
    rw [h.no_news hlast hbacked ho] at hnews
    cases hnews
  rcases h with rfl | rfl | ⟨o, rfl | rfl⟩
  · rcases hp with ⟨rfl, -⟩ | ⟨o, rfl, -⟩
    · exact .inr (.inl rfl)
    · exact .inr (.inr ⟨o, .inl rfl⟩)
  · rcases hp with ⟨rfl, -⟩ | ⟨o, rfl, -⟩
    · exact absurd hlast hne
    · exact .inr (.inr ⟨o, .inr rfl⟩)
  · exact absurd List.mem_cons_self (hover o)
  · exact absurd (List.mem_cons_of_mem _ List.mem_cons_self) (hover o)

/-- Nothing follows an outcome. -/
theorem nil_of_suffix (h : Shape l) {o : BypassOutcome}
    {rest : List Progress} (hs : .ofOutcome o :: rest <:+ l) :
    rest = [] := by
  obtain ⟨front, hl⟩ := hs
  have hready := Progress.ofOutcome_ne_readyForData o
  rcases h with rfl | rfl | ⟨o', rfl | rfl⟩
  · simp at hl
  · rcases front with _ | ⟨p, front⟩
    · simp at hl
      exact absurd hl.1 hready
    · simp at hl
  · rcases front with _ | ⟨p, front⟩
    · simp at hl
      exact hl.2
    · simp at hl
  · rcases front with _ | ⟨p, _ | ⟨p', front⟩⟩
    · simp at hl
      exact absurd hl.1 hready
    · simp at hl
      exact hl.2.2
    · simp at hl

/-- So there is one. -/
theorem outcome_unique (h : Shape l) {o o' : BypassOutcome}
    (ho : .ofOutcome o ∈ l) (ho' : .ofOutcome o' ∈ l) : o = o' := by
  have hready := Progress.ofOutcome_ne_readyForData o
  have hready' := Progress.ofOutcome_ne_readyForData o'
  rcases h with rfl | rfl | ⟨u, rfl | rfl⟩
  · cases ho
  · exact absurd (List.mem_singleton.mp ho) hready
  · rw [← List.mem_singleton.mp ho'] at ho
    exact Progress.ofOutcome_inj (List.mem_singleton.mp ho)
  · simp only [List.mem_cons, hready, hready', false_or,
      List.not_mem_nil, or_false] at ho ho'
    exact Progress.ofOutcome_inj (ho.trans ho'.symm)

/-- The shape in the words of prefixes. -/
theorem prefix_of (h : Shape l) {o : BypassOutcome}
    (ho : ∀ o', .ofOutcome o' ∈ l → o' = o) :
    l <+: [.readyForData, .ofOutcome o] ∨ l <+: [.ofOutcome o] := by
  rcases h with rfl | rfl | ⟨o', rfl | rfl⟩
  · exact .inr (List.nil_prefix)
  · exact .inl ⟨[.ofOutcome o], rfl⟩
  · rw [ho o' (by simp)]
    exact .inr (List.prefix_refl _)
  · rw [ho o' (by simp)]
    exact .inl (List.prefix_refl _)

end Shape

-- ======================================================= frames by flow

/-- The report a frame carries about a flow. -/
def Frame.reports (frame : Frame) (flowId : UInt64) : Option Progress :=
  match frame.message with
  | .flowProgress id progress => if id = flowId then some progress else none
  | _ => none

/-- Whether a message is a progress report. -/
def Message.isProgress : Message → Bool
  | .flowProgress .. => true
  | _ => false

/-- Other frames report nothing. -/
theorem Frame.reports_of_not_isProgress {frame : Frame}
    (h : frame.message.isProgress = false) (flowId : UInt64) :
    frame.reports flowId = none := by
  unfold Frame.reports
  split
  case h_1 heq =>
    rw [heq] at h
    cases h
  · rfl

/-- Nor do several of them. -/
theorem filterMap_reports_nil {frames : List Frame}
    (h : ∀ f ∈ frames, f.message.isProgress = false) (flowId : UInt64) :
    frames.filterMap (·.reports flowId) = [] :=
  List.filterMap_eq_nil_iff.mpr fun f hf =>
    f.reports_of_not_isProgress (h f hf) flowId

-- ============================================= the helper's other answers

/-- A fatal error sends no progress. -/
theorem fatal_sent {env : ServeEnv} {requestId : UInt32}
    {code : ErrorCode} {message : String} {f : Frame}
    (hf : f ∈ (fatal env requestId code message).sent) :
    f.message.isProgress = false := by
  rw [answer_one_sent hf]
  rfl

/-- Nor does a reply. -/
theorem Message.IsReply.not_isProgress {m : Message} (h : m.IsReply) :
    m.isProgress = false := by
  cases m with
  | flowProgress flowId progress => exact h.elim
  | _ => rfl

/-- No request is answered with a progress report. -/
theorem serveFrame_sent {peer : Peer} {env : ServeEnv} {s : Session}
    {frame f : Frame} (hf : f ∈ (serveFrame peer env s frame).sent) :
    f.message.isProgress = false := by
  cases hacc : s.state.accepts frame.message with
  | false =>
      unfold serveFrame at hf
      rw [hacc] at hf
      exact fatal_sent hf
  | true => exact (serveFrame_isReply hacc hf).not_isProgress

/-- A frame leaves the registrations it does not ask for as they were, or
drops them. -/
theorem FrameCase.registered {peer : Peer} {s s' : Session} {frame : Frame}
    (h : FrameCase peer s frame.message s') {id : UInt64}
    {flow : RegisteredFlow} (hflow : s'.registered.get? id = some flow) :
    s.registered.get? id = some flow
      ∨ (frame.registers = some id ∧ flow.lastProgress = none) := by
  obtain ⟨requestId, message⟩ := frame
  cases h with
  | @register flowId key fakeData lowTtlOverride active _ _ hid _ _ =>
      by_cases heq : id = flowId
      · subst heq
        refine .inr ⟨rfl, ?_⟩
        have hself := hflow.symm.trans Table.get?_insert_self
        cases hself
        rfl
      · exact .inl ((Table.get?_insert_ne heq).symm.trans hflow)
  | @remove flowId _ =>
      refine .inl ?_
      unfold Session.withoutFlow at hflow
      split at hflow
      · exact hflow
      · simp only at hflow
        by_cases heq : id = flowId
        · rw [heq, Table.get?_remove_self] at hflow
          cases hflow
        · rw [Table.get?_remove_ne heq] at hflow
          exact hflow
  | close => cases hflow
  | hello => exact .inl hflow
  | configure => exact .inl hflow
  | opened => exact .inl hflow
  | setLowTtl => exact .inl hflow
  | ping => exact .inl hflow

-- ================================================= the parties' moves

/-- What a move of a party can do to the entries, the queues and the
registrations. -/
inductive PartyCase (peer : Peer) (sys : System) : System → Prop where
  | client {sys' : System} {frames : List Frame}
      (hclient : sys.client.ClientCase sys'.client frames)
      (hrequests : sys'.requests = sys.requests ++ frames)
      (hreplies : sys'.replies = sys.replies)
      (hhelper : sys'.helper = sys.helper) : PartyCase peer sys sys'
  | receive {frame : Frame} {rest : List Frame}
      (hreplies : sys.replies = frame :: rest) :
      PartyCase peer sys { sys with
        client := sys.client.handleFrame frame
        replies := rest }
  | serve {env : ServeEnv} {session : Session} {frame : Frame}
      {rest : List Frame} (hhelper : sys.helper = some session)
      (hrequests : sys.requests = frame :: rest) :
      PartyCase peer sys
        (sys.served rest (serveFrame peer env session frame))
  | idle {turn : Served}
      (hsession : turn.session = none ∨ turn.session = sys.helper)
      (hsent : ∀ f ∈ turn.sent, f.message.isProgress = false) :
      PartyCase peer sys (sys.served sys.requests turn)

namespace PartyCase

variable {peer : Peer} {sys sys' : System}

/-- A call of the client that keeps the entries. -/
theorem keeps {frames : List Frame}
    (h : sys.client.Keeps sys'.client frames)
    (hrequests : sys'.requests = sys.requests ++ frames)
    (hreplies : sys'.replies = sys.replies)
    (hhelper : sys'.helper = sys.helper) : PartyCase peer sys sys' :=
  .client (.kept h) hrequests hreplies hhelper

/-- A call of the client that writes nothing. -/
theorem sheds (h : sys.client.Sheds sys'.client)
    (hrequests : sys'.requests = sys.requests)
    (hreplies : sys'.replies = sys.replies)
    (hhelper : sys'.helper = sys.helper) : PartyCase peer sys sys' := by
  have hnone : ∀ f ∈ ([] : List Frame), f.registers = none := by
    intro f hf
    cases hf
  refine keeps (h.keeps hnone) ?_ hreplies hhelper
  rw [hrequests, List.append_nil]

/-- A lifecycle request of the coordinator, from the client its last
wait left. -/
theorem lifecycleRequest {client : RemoteHelperClient}
    (hclient : sys.client.Sheds client) (io : Bool) {message : Message}
    (kind : Lifecycle) (next : UInt32 → Stage)
    (hm : ∀ requestId, Frame.registers ⟨requestId, message⟩ = none) :
    PartyCase peer sys
      (System.lifecycleRequest { sys with client := client } io message kind
        next) := by
  have hkeeps := (client.keeps_beginRequest io hm).after hclient
  unfold System.lifecycleRequest
  simp only
  split
  · exact keeps hkeeps rfl rfl rfl
  · exact keeps hkeeps rfl rfl rfl

/-- A helper that goes on is one of the cases. -/
theorem resume {cfg : Config} {io : Bool}
    (h : sys.resume cfg io = some sys') : PartyCase peer sys sys' := by
  unfold System.resume at h
  split at h
  · cases h
  · obtain ⟨⟨answer, client⟩, htake, h⟩ := Option.bind_eq_some_iff.mp h
    have hsheds := RemoteHelperClient.sheds_takeAnswer htake
    simp only at h
    split at h
    · cases h
      exact lifecycleRequest (hsheds.trans client.sheds_reset) io _ _
        fun _ => rfl
    · cases h
      exact sheds hsheds rfl rfl rfl
  · obtain ⟨⟨answer, client⟩, htake, h⟩ := Option.bind_eq_some_iff.mp h
    have hsheds := RemoteHelperClient.sheds_takeAnswer htake
    simp only at h
    split at h
    · cases h
      exact lifecycleRequest hsheds io _ _ fun _ => rfl
    · cases h
      exact sheds hsheds rfl rfl rfl
  · obtain ⟨⟨answer, client⟩, htake, h⟩ := Option.bind_eq_some_iff.mp h
    cases h
    exact sheds (RemoteHelperClient.sheds_takeAnswer htake) rfl rfl rfl

/-- The list of cases is complete. -/
theorem of_step {cfg : Config} {act : Act} (hb : sys.client.Bounded)
    (hact : act.isWatched = false)
    (h : sys.step cfg peer act = some sys') : PartyCase peer sys sys' := by
  cases act with
  | rebuild interfaceIp io =>
      simp only [System.step] at h
      split at h
      · cases h
        exact lifecycleRequest ⟨fun _ _ h => h, rfl, rfl, rfl⟩ io _ _
          fun _ => rfl
      · cases h
  | resume io => exact resume h
  | expire =>
      obtain ⟨requestId, -, h⟩ := Option.bind_eq_some_iff.mp h
      cases h
      exact sheds (sys.client.sheds_timeOut requestId) rfl rfl rfl
  | register key fakeData lowTtlOverride io =>
      have hcase := RemoteHelperClient.ClientCase.beginRegister hb io key
        fakeData lowTtlOverride
      simp only [System.step, Option.some.injEq] at h
      subst h
      split
      · exact .client hcase rfl rfl rfl
      · exact .client hcase rfl rfl rfl
  | registered call io =>
      simp only [System.step] at h
      split at h
      · cases h
      · obtain ⟨⟨answer, client⟩, htake, h⟩ := Option.bind_eq_some_iff.mp h
        cases h
        exact keeps ((client.keeps_endRegister io call.key call.flowId
          answer).after (RemoteHelperClient.sheds_takeAnswer htake))
          rfl rfl rfl
  | registerExpire call io =>
      simp only [System.step] at h
      split at h
      · cases h
        exact keeps ((RemoteHelperClient.keeps_removeFlow _ io
          call.key).after (sys.client.sheds_timeOut call.requestId))
          rfl rfl rfl
      · cases h
  | remove key io =>
      cases h
      exact keeps (sys.client.keeps_removeFlow io key) rfl rfl rfl
  | heartbeat io =>
      simp only [System.step] at h
      split at h
      · cases h
      · split at h
        · cases h
          have hping : ∀ f ∈ [(⟨0, .ping⟩ : Frame)],
              f.registers = none := by
            intro f hf
            rw [List.mem_singleton.mp hf]
            rfl
          exact keeps ⟨fun _ _ h => h, rfl, .refl _, hping⟩ rfl rfl rfl
        · cases h
          exact .client (.disconnected _) (List.append_nil _).symm rfl rfl
  | receive =>
      simp only [System.step] at h
      split at h
      · cases h
      case h_2 frame rest hreplies =>
        cases h
        exact .receive hreplies
  | lose reason =>
      cases h
      exact .client (.disconnected _) (List.append_nil _).symm rfl rfl
  | serve env =>
      simp only [System.step] at h
      split at h
      case h_1 session frame rest hhelper hrequests =>
        cases h
        exact .serve hhelper hrequests
      · cases h
  | poll env failure =>
      cases failure with
      | none => cases hact
      | some message =>
          obtain ⟨session, hhelper, h⟩ := Option.map_eq_some_iff.mp h
          cases h
          unfold Helper.poll
          split
          · refine .idle (.inr hhelper.symm) fun f hf => ?_
            cases hf
          · refine .idle (.inl ?_) fun f hf => fatal_sent hf
            unfold fatal answer
            split <;> rfl
          case h_3 heq => cases heq
  | packet flowId env pkt => cases hact
  | quit env timedOut =>
      obtain ⟨session, hhelper, h⟩ := Option.map_eq_some_iff.mp h
      cases h
      cases timedOut with
      | true =>
          refine .idle (.inl ?_) fun f hf => fatal_sent hf
          simp only [if_true, fatal, answer]
          split <;> rfl
      | false =>
          refine .idle (.inl rfl) fun f hf => ?_
          cases hf

end PartyCase

-- ========================================================= the invariant

/-- The flows that frames on the way ask to register. -/
def registersOf (requests : List Frame) : List UInt64 :=
  requests.filterMap Frame.registers

namespace Watched

/-- The reports written for a flow, in order. -/
def sentOf (w : Watched) (flowId : UInt64) : List Progress :=
  w.sent.filterMap fun e => if e.1 = flowId then some e.2 else none

/-- The reports for a flow that are still on the way. -/
def queued (w : Watched) (flowId : UInt64) : List Progress :=
  w.sys.replies.filterMap (·.reports flowId)

/-- The helper's registration of a flow. -/
def helperFlow (w : Watched) (flowId : UInt64) : Option RegisteredFlow :=
  w.sys.helper.bind fun session => session.registered.get? flowId

/-- The client's entry of a flow. -/
def mirror (w : Watched) (flowId : UInt64) : Option FlowState :=
  w.sys.client.flows.get? flowId

/-- Where a flow id can have left a trace. -/
def Known (w : Watched) (flowId : UInt64) : Prop :=
  w.sentOf flowId ≠ [] ∨ w.helperFlow flowId ≠ none
    ∨ flowId ∈ registersOf w.sys.requests ∨ w.mirror flowId ≠ none

/-- What holds of one flow id between any two moves. -/
structure FlowInv (w : Watched) (flowId : UInt64) : Prop where
  shape : Shape (w.sentOf flowId)
  /-- The registration backs what was sent. -/
  entry : ∀ flow, w.helperFlow flowId = some flow →
    flow.lastProgress = (w.sentOf flowId).getLast?
      ∧ ∀ o, .ofOutcome o ∈ w.sentOf flowId → flow.entry.outcome = some o
  queued : w.queued flowId <:+ w.sentOf flowId
  /-- An outcome at the client was reported, and nothing follows it. -/
  mirror : ∀ m, w.mirror flowId = some m → flowId ∉ w.cutOff →
    ∀ o, m.outcome = some o →
      .ofOutcome o ∈ w.sentOf flowId ∧ w.queued flowId = []
  /-- A registration on the way is the first trace at the helper. -/
  asked : flowId ∈ registersOf w.sys.requests →
    w.sentOf flowId = [] ∧ w.helperFlow flowId = none
  known : w.Known flowId → w.sys.client.Open →
    flowId.toNat < w.sys.client.nextFlowId.toNat

/-- What holds at every moment. -/
structure Inv (w : Watched) : Prop where
  bounded : w.sys.client.Bounded
  distinct : (registersOf w.sys.requests).Nodup
  flows : ∀ flowId, w.FlowInv flowId

variable {w w' : Watched}

-- ============================================================ the helper

/-- What was sent of a flow. -/
theorem sentOf_append (flowId id : UInt64) (p : Progress)
    (h : w'.sent = w.sent ++ [(flowId, p)]) :
    w'.sentOf id = w.sentOf id ++ if flowId = id then [p] else [] := by
  unfold sentOf
  rw [h, List.filterMap_append]
  by_cases hid : flowId = id
  · simp [hid]
  · simp [hid]

/-- One flow of the helper changes. -/
theorem helperFlow_modify (flowId id : UInt64)
    (f : RegisteredFlow → RegisteredFlow) :
    (w.modify flowId f).helperFlow id
      = if id = flowId then (w.helperFlow id).map f
        else w.helperFlow id := by
  unfold helperFlow modify
  cases w.sys.helper with
  | none => simp
  | some session =>
      simp only [Option.map_some, Option.bind_some]
      exact Table.get?_modify f

/-- The flow that a packet belongs to. -/
theorem flow?_helperFlow {flowId : UInt64}
    {method : CompositeMethod Member} {flow : RegisteredFlow}
    (h : w.flow? flowId = some (method, flow)) :
    w.helperFlow flowId = some flow := by
  unfold flow? at h
  unfold helperFlow
  obtain ⟨session, hs, h⟩ := Option.bind_eq_some_iff.mp h
  obtain ⟨active, -, h⟩ := Option.bind_eq_some_iff.mp h
  obtain ⟨flow', hf, h⟩ := Option.bind_eq_some_iff.mp h
  cases h
  rw [hs]
  exact hf

/-- The owed calls are not part of it. -/
theorem Inv.withOwed (h : w.Inv) (owed : List (UInt64 × Deferred)) :
    Inv { w with owed := owed } where
  bounded := h.bounded
  distinct := h.distinct
  flows id :=
    let hid := h.flows id
    ⟨hid.shape, hid.entry, hid.queued, hid.mirror, hid.asked, hid.known⟩

/-- A critical section of the packet thread: the entry of one flow
changes, and an outcome it had stays. -/
theorem Inv.modifyEntry (h : w.Inv) (flowId : UInt64)
    (f : RegisteredFlow → RegisteredFlow)
    (hlast : ∀ flow, (f flow).lastProgress = flow.lastProgress)
    (hout : ∀ flow, w.helperFlow flowId = some flow →
      ∀ o, flow.entry.outcome = some o →
        (f flow).entry.outcome = some o) :
    (w.modify flowId f).Inv where
  bounded := h.bounded
  distinct := h.distinct
  flows id := by
    have hid := h.flows id
    have hnone : (w.modify flowId f).helperFlow id = none
        ↔ w.helperFlow id = none := by
      rw [helperFlow_modify]
      by_cases heq : id = flowId
      · rw [if_pos heq, Option.map_eq_none_iff]
      · rw [if_neg heq]
    refine ⟨hid.shape, fun flow hflow => ?_, hid.queued, hid.mirror,
      fun hasked => ?_, fun hknown => hid.known ?_⟩
    · rw [helperFlow_modify] at hflow
      by_cases heq : id = flowId
      · rw [if_pos heq] at hflow
        obtain ⟨old, hold, rfl⟩ := Option.map_eq_some_iff.mp hflow
        obtain ⟨hl, hbacked⟩ := hid.entry old hold
        subst heq
        exact ⟨(hlast old).trans hl,
          fun o ho => hout old hold o (hbacked o ho)⟩
      · rw [if_neg heq] at hflow
        exact hid.entry flow hflow
    · exact ⟨(hid.asked hasked).1, hnone.mpr (hid.asked hasked).2⟩
    · rcases hknown with hsent | hreg | hreq | hmir
      · exact .inl hsent
      · exact .inr (.inl fun hn => hreg (hnone.mpr hn))
      · exact .inr (.inr (.inl hreq))
      · exact .inr (.inr (.inr hmir))

/-- The helper is gone. -/
theorem Inv.helperGone (h : w.Inv) :
    Inv { w with sys := { w.sys with helper := none } } where
  bounded := h.bounded
  distinct := h.distinct
  flows id := by
    have hid := h.flows id
    refine ⟨hid.shape, fun flow hflow => ?_, hid.queued, hid.mirror,
      fun hasked => ⟨(hid.asked hasked).1, rfl⟩, fun hknown => hid.known ?_⟩
    · cases hflow
    · rcases hknown with hsent | hreg | hreq | hmir
      · exact .inl hsent
      · exact absurd rfl hreg
      · exact .inr (.inr (.inl hreq))
      · exact .inr (.inr (.inr hmir))

/-- A report goes out: the registration remembers it, and it joins the
frames on the way. -/
def reported (w : Watched) (flowId : UInt64) (p : Progress) : Watched :=
  { w.modify flowId fun flow => { flow with lastProgress := some p } with
    sys := { (w.modify flowId fun flow =>
        { flow with lastProgress := some p }).sys with
      replies := w.sys.replies ++ [⟨0, .flowProgress flowId p⟩] }
    sent := w.sent ++ [(flowId, p)] }

theorem helperFlow_reported (flowId id : UInt64) (p : Progress) :
    (w.reported flowId p).helperFlow id
      = if id = flowId then
          (w.helperFlow id).map fun flow =>
            { flow with lastProgress := some p }
        else w.helperFlow id :=
  helperFlow_modify flowId id _

/-- A report is queued. -/
theorem queued_reported (flowId id : UInt64) (p : Progress) :
    (w.reported flowId p).queued id
      = w.queued id ++ if flowId = id then [p] else [] := by
  show List.filterMap _ (w.sys.replies ++ [⟨0, .flowProgress flowId p⟩]) = _
  rw [List.filterMap_append]
  unfold queued
  by_cases hid : flowId = id
  · simp [Frame.reports, hid]
  · simp [Frame.reports, hid]

/-- A flow that reports its news. -/
theorem FlowInv.reported {flowId : UInt64} (h : w.FlowInv flowId)
    {flow : RegisteredFlow} (hflow : w.helperFlow flowId = some flow)
    {p : Progress} (hnews : flow.news = some p) :
    (w.reported flowId p).FlowInv flowId := by
  obtain ⟨hlast, hbacked⟩ := h.entry flow hflow
  have hsent : (w.reported flowId p).sentOf flowId
      = w.sentOf flowId ++ [p] := by
    rw [sentOf_append (w := w) flowId flowId p rfl, if_pos rfl]
  have hqueued : (w.reported flowId p).queued flowId
      = w.queued flowId ++ [p] := by
    rw [queued_reported, if_pos rfl]
  refine ⟨?_, fun flow' hflow' => ?_, ?_, fun m hm hcut o ho => ?_,
    fun hasked => ?_, fun _ => h.known (.inr (.inl ?_))⟩
  · rw [hsent]
    exact h.shape.append hlast hbacked hnews
  · rw [helperFlow_reported, if_pos rfl, hflow] at hflow'
    cases hflow'
    rw [hsent]
    refine ⟨?_, fun o ho => ?_⟩
    · rw [List.getLast?_append]
      rfl
    · rcases List.mem_append.mp ho with ho | ho
      · exact hbacked o ho
      · rw [← List.mem_singleton.mp ho] at hnews
        rcases (flow.news_cases hnews).2 with ⟨heq, -⟩ | ⟨o', heq, hout⟩
        · exact absurd heq (Progress.ofOutcome_ne_readyForData o)
        · rw [Progress.ofOutcome_inj heq]
          exact hout
  · rw [hsent, hqueued]
    obtain ⟨front, hfront⟩ := h.queued
    refine ⟨front, ?_⟩
    rw [← List.append_assoc, hfront]
  · -- a client that has the outcome leaves nothing to report
    have hnone := h.shape.no_news hlast hbacked (h.mirror m hm hcut o ho).1
    rw [hnews] at hnone
    cases hnone
  · have hnone := (h.asked hasked).2
    rw [hflow] at hnone
    cases hnone
  · rw [hflow]
    exact Option.some_ne_none flow

/-- A report about another flow. -/
theorem FlowInv.reported_ne {flowId id : UInt64} (h : w.FlowInv id)
    (hne : flowId ≠ id) (p : Progress) :
    (w.reported flowId p).FlowInv id := by
  have hsent : (w.reported flowId p).sentOf id = w.sentOf id := by
    rw [sentOf_append (w := w) flowId id p rfl, if_neg hne,
      List.append_nil]
  have hqueued : (w.reported flowId p).queued id = w.queued id := by
    rw [queued_reported, if_neg hne, List.append_nil]
  have hflow : (w.reported flowId p).helperFlow id = w.helperFlow id := by
    rw [helperFlow_reported, if_neg hne.symm]
  refine ⟨?_, ?_, ?_, ?_, ?_, ?_⟩
  · rw [hsent]
    exact h.shape
  · rw [hsent, hflow]
    exact h.entry
  · rw [hsent, hqueued]
    exact h.queued
  · rw [hsent, hqueued]
    exact h.mirror
  · rw [hsent, hflow]
    exact h.asked
  · unfold Known
    rw [hsent, hflow]
    exact h.known

/-- A visit of `publish_progress`. -/
theorem Inv.publish (h : w.Inv) {flowId : UInt64} {io : Bool}
    {flow : RegisteredFlow} (hflow : w.helperFlow flowId = some flow) :
    (w.publish flowId io flow).Inv := by
  unfold Watched.publish
  split
  · exact h
  case h_2 p hnews =>
    cases io with
    | false => exact h.helperGone
    | true =>
        refine ⟨h.bounded, h.distinct, fun id => ?_⟩
        show (w.reported flowId p).FlowInv id
        by_cases hid : flowId = id
        · subst hid
          exact (h.flows flowId).reported hflow hnews
        · exact (h.flows id).reported_ne hid p

-- =========================================================== the parties

/-- The watched system after a move of a party. -/
def moved (w : Watched) (sys : System) : Watched :=
  { w with sys := sys, cutOff := w.sys.cutOffBy sys ++ w.cutOff }

/-- A client without new entries, and the rest as it was. -/
theorem FlowInv.shrunk {sys : System} {flowId : UInt64}
    (h : w.FlowInv flowId)
    (hflows : ∀ m, (w.moved sys).mirror flowId = some m →
      flowId ∉ (w.moved sys).cutOff → w.mirror flowId = some m)
    (hopen : sys.client.Open → w.sys.client.Open
      ∧ w.sys.client.nextFlowId.toNat ≤ sys.client.nextFlowId.toNat
      ∧ ((w.moved sys).mirror flowId ≠ none → w.mirror flowId ≠ none))
    (hrequests : flowId ∈ registersOf sys.requests →
      flowId ∈ registersOf w.sys.requests)
    (hreplies : sys.replies = w.sys.replies)
    (hhelper : sys.helper = w.sys.helper) :
    (w.moved sys).FlowInv flowId := by
  have hqueued : (w.moved sys).queued flowId = w.queued flowId := by
    unfold Watched.queued moved
    rw [hreplies]
  have hflow : (w.moved sys).helperFlow flowId = w.helperFlow flowId := by
    unfold helperFlow moved
    rw [hhelper]
  refine ⟨h.shape, ?_, ?_, fun m hm hcut => ?_, ?_, fun hknown ho => ?_⟩
  · rw [hflow]
    exact h.entry
  · rw [hqueued]
    exact h.queued
  · rw [hqueued]
    exact h.mirror m (hflows m hm hcut)
      fun hmem => hcut (List.mem_append_right _ hmem)
  · rw [hflow]
    exact fun hasked => h.asked (hrequests hasked)
  · obtain ⟨hopen, hle, hmirror⟩ := hopen ho
    refine Nat.lt_of_lt_of_le (h.known ?_ hopen) hle
    rcases hknown with hsent | hreg | hreq | hmir
    · exact .inl hsent
    · rw [hflow] at hreg
      exact .inr (.inl hreg)
    · exact .inr (.inr (.inl (hrequests hreq)))
    · exact .inr (.inr (.inr (hmirror hmir)))

/-- Requests that register nothing. -/
theorem registersOf_append_none (requests : List Frame)
    {frames : List Frame} (h : ∀ f ∈ frames, f.registers = none) :
    registersOf (requests ++ frames) = registersOf requests := by
  unfold registersOf
  rw [List.filterMap_append, List.filterMap_eq_nil_iff.mpr h,
    List.append_nil]

/-- The client disconnects: the entries it ends are set aside. -/
theorem mirror_disconnect {sys : System} {reason : String}
    {flowId : UInt64} {m : FlowState}
    (hclient : sys.client = w.sys.client.disconnect reason)
    (hm : (w.moved sys).mirror flowId = some m)
    (hcut : flowId ∉ (w.moved sys).cutOff) : w.mirror flowId = some m := by
  unfold mirror moved at hm
  simp only at hm
  rw [hclient] at hm
  unfold RemoteHelperClient.disconnect at hm
  split at hm
  · exact hm
  case isFalse hconn =>
    obtain ⟨old, hold, rfl⟩ := Option.map_eq_some_iff.mp
      ((Table.get?_map fun _ entry =>
        FlowState.finish entry .unexpectedClose).symm.trans hm)
    cases ho : old.outcome with
    | some o =>
        rw [FlowState.finish_of_some ho]
        exact hold
    | none =>
        refine absurd (List.mem_append_left _ ?_) hcut
        have hdisc : sys.client.disconnected = true := by
          rw [hclient]
          simp [RemoteHelperClient.disconnect, hconn]
        unfold System.cutOffBy
        rw [if_pos (by simp [hconn, hdisc])]
        refine List.mem_map.mpr ⟨(flowId, old), ?_, rfl⟩
        refine List.mem_filter.mpr ⟨Table.mem_of_get? hold, ?_⟩
        rw [ho]
        rfl

/-- A client that disconnected can make no request. -/
theorem not_open_disconnect (c : RemoteHelperClient) (reason : String) :
    ¬ (c.disconnect reason).Open := by
  intro hopen
  have hconn := hopen.connected
  unfold RemoteHelperClient.disconnect at hconn
  split at hconn
  case isTrue hdisc =>
    rw [hdisc] at hconn
    cases hconn
  · cases hconn

/-- A registration under the next flow id: the id is new everywhere. -/
theorem Inv.registered (h : w.Inv) {sys : System} {requestId : UInt32}
    {key : FlowKey} {fakeData : Bytes} {lowTtlOverride : Option UInt8}
    (hopen : w.sys.client.Open)
    (hflows : sys.client.flows = w.sys.client.flows.insert
      w.sys.client.nextFlowId (.new [] lowTtlOverride))
    (hflow : sys.client.nextFlowId = w.sys.client.nextFlowId + 1)
    (hrequest : sys.client.nextRequestId = w.sys.client.nextRequestId + 1)
    (hrequests : sys.requests = w.sys.requests ++ [⟨requestId,
      .registerFlow w.sys.client.nextFlowId key fakeData lowTtlOverride⟩])
    (hreplies : sys.replies = w.sys.replies)
    (hhelper : sys.helper = w.sys.helper) : (w.moved sys).Inv := by
  have hfresh : ¬ w.Known w.sys.client.nextFlowId := fun hknown =>
    Nat.lt_irrefl _ ((h.flows _).known hknown hopen)
  have hasked : registersOf sys.requests
      = registersOf w.sys.requests ++ [w.sys.client.nextFlowId] := by
    unfold registersOf
    rw [hrequests, List.filterMap_append]
    rfl
  have hsucc := h.bounded.toNat_succ_flowId hopen
  have hcounts : w.sys.client.Counts sys.client := fun _ =>
    ⟨hopen, .inr ⟨hflow, hrequest⟩⟩
  refine ⟨hcounts.bounded h.bounded, ?_, fun id => ?_⟩
  · show (registersOf sys.requests).Nodup
    rw [hasked]
    refine List.nodup_append.mpr ⟨h.distinct, List.pairwise_singleton _ _, ?_⟩
    intro a ha b hb heq
    rw [List.mem_singleton.mp hb] at heq
    rw [heq] at ha
    exact hfresh (.inr (.inr (.inl ha)))
  · by_cases hid : id = w.sys.client.nextFlowId
    · subst hid
      have hsent : w.sentOf w.sys.client.nextFlowId = [] := by
        by_cases hs : w.sentOf w.sys.client.nextFlowId = []
        · exact hs
        · exact absurd (.inl hs) hfresh
      have hreg : (w.moved sys).helperFlow w.sys.client.nextFlowId
          = none := by
        show (sys.helper.bind _) = none
        rw [hhelper]
        by_cases hr : w.helperFlow w.sys.client.nextFlowId = none
        · exact hr
        · exact absurd (.inr (.inl hr)) hfresh
      refine ⟨.inl hsent, fun flow hf => ?_, ?_, fun m hm _ o ho => ?_,
        fun _ => ⟨hsent, hreg⟩, fun _ _ => ?_⟩
      · rw [hreg] at hf
        cases hf
      · show List.filterMap _ sys.replies <:+ _
        rw [hreplies]
        exact (h.flows _).queued
      · -- the new entry has no outcome
        have hnew : sys.client.flows.get? w.sys.client.nextFlowId
            = some (.new [] lowTtlOverride) := by
          rw [hflows]
          exact Table.get?_insert_self
        have heq := hm.symm.trans hnew
        cases heq
        cases ho
      · show _ < sys.client.nextFlowId.toNat
        rw [hflow, hsucc]
        exact Nat.lt_succ_self _
    · have hsame : (w.moved sys).mirror id = w.mirror id := by
        show sys.client.flows.get? id = _
        rw [hflows]
        exact Table.get?_insert_ne hid
      refine (h.flows id).shrunk (fun m hm _ => hsame.symm.trans hm)
        (fun hopen' => ⟨hopen, hcounts.flowId_le h.bounded hopen', ?_⟩)
        (fun hmem => ?_) hreplies hhelper
      · rw [hsame]
        exact fun hne => hne
      · rw [hasked] at hmem
        rcases List.mem_append.mp hmem with hmem | hmem
        · exact hmem
        · exact absurd (List.mem_singleton.mp hmem) hid

/-- A call of the client. -/
theorem Inv.client (h : w.Inv) {sys : System} {frames : List Frame}
    (hclient : w.sys.client.ClientCase sys.client frames)
    (hrequests : sys.requests = w.sys.requests ++ frames)
    (hreplies : sys.replies = w.sys.replies)
    (hhelper : sys.helper = w.sys.helper) : (w.moved sys).Inv := by
  generalize hc : sys.client = c at hclient
  cases hclient with
  | kept hkeeps =>
      subst hc
      have hasked := registersOf_append_none w.sys.requests hkeeps.frames
      rw [← hrequests] at hasked
      refine ⟨hkeeps.counts.bounded h.bounded, ?_, fun id => ?_⟩
      · show (registersOf sys.requests).Nodup
        rw [hasked]
        exact h.distinct
      · refine (h.flows id).shrunk (fun m hm _ => hkeeps.flows id m hm)
          (fun hopen => ⟨(hkeeps.counts hopen).1,
            hkeeps.counts.flowId_le h.bounded hopen, fun hne => ?_⟩)
          (fun hmem => ?_) hreplies hhelper
        · obtain ⟨m, hm⟩ := Option.ne_none_iff_exists'.mp hne
          unfold mirror
          rw [hkeeps.flows id m hm]
          exact Option.some_ne_none m
        · rw [hasked] at hmem
          exact hmem
  | registered hopen hflows hdisc hflow hrequest =>
      subst hc
      exact h.registered hopen hflows hflow hrequest hrequests hreplies
        hhelper
  | disconnected reason =>
      rw [List.append_nil] at hrequests
      have hclosed : ¬ sys.client.Open := by
        rw [hc]
        exact not_open_disconnect _ reason
      refine ⟨fun hopen => absurd hopen hclosed, ?_, fun id => ?_⟩
      · show (registersOf sys.requests).Nodup
        rw [hrequests]
        exact h.distinct
      · refine (h.flows id).shrunk
          (fun m hm hcut => mirror_disconnect hc hm hcut)
          (fun hopen => absurd hopen hclosed) (fun hmem => ?_) hreplies
          hhelper
        rw [hrequests] at hmem
        exact hmem

/-- The client's reader takes the next frame off the queue. -/
theorem Inv.popped (h : w.Inv) {frame : Frame} {rest : List Frame}
    (hreplies : w.sys.replies = frame :: rest)
    (hframe : ∀ id, frame.reports id = none) :
    Inv { w with sys := { w.sys with replies := rest } } where
  bounded := h.bounded
  distinct := h.distinct
  flows id := by
    have hid := h.flows id
    have hqueued : w.queued id = rest.filterMap (·.reports id) := by
      unfold queued
      rw [hreplies, List.filterMap_cons, hframe id]
    refine ⟨hid.shape, hid.entry, ?_, ?_, hid.asked, hid.known⟩
    · show rest.filterMap (·.reports id) <:+ _
      rw [← hqueued]
      exact hid.queued
    · intro m hm hcut o ho
      show _ ∧ rest.filterMap (·.reports id) = []
      rw [← hqueued]
      exact hid.mirror m hm hcut o ho

/-- The reader applies a report to the client's entry. -/
theorem FlowInv.applied {flowId : UInt64} {requestId : UInt32}
    {p : Progress} {rest : List Frame} (h : w.FlowInv flowId)
    (hreplies : w.sys.replies
      = ⟨requestId, .flowProgress flowId p⟩ :: rest) :
    (w.moved { w.sys with
      client := w.sys.client.handleFrame ⟨requestId, .flowProgress flowId p⟩
      replies := rest }).FlowInv flowId := by
  have hqueued : w.queued flowId
      = p :: rest.filterMap (·.reports flowId) := by
    unfold Watched.queued
    rw [hreplies, List.filterMap_cons]
    simp [Frame.reports]
  have hsuffix : p :: rest.filterMap (·.reports flowId)
      <:+ w.sentOf flowId := by
    rw [← hqueued]
    exact h.queued
  have hmirror : (w.moved { w.sys with
      client := w.sys.client.handleFrame ⟨requestId, .flowProgress flowId p⟩
      replies := rest }).mirror flowId
        = (w.mirror flowId).map (RemoteHelperClient.applyProgress p) := by
    refine (Table.get?_modify _).trans ?_
    rw [if_pos rfl]
    rfl
  refine ⟨h.shape, h.entry, (List.suffix_cons p _).trans hsuffix,
    fun m hm hcut o ho => ?_, h.asked, fun hknown hopen =>
      h.known ?_ ⟨hopen.connected, hopen.ids⟩⟩
  · rw [hmirror] at hm
    obtain ⟨old, hold, rfl⟩ := Option.map_eq_some_iff.mp hm
    have hcut' : flowId ∉ w.cutOff := fun hmem =>
      hcut (List.mem_append_right _ hmem)
    -- something was on the way, so the entry had no outcome yet
    have hnone : old.outcome = none := by
      cases hout : old.outcome with
      | none => rfl
      | some o' =>
          have hempty := (h.mirror old hold hcut' o' hout).2
          rw [hqueued] at hempty
          cases hempty
    have hp : p = .ofOutcome o := by
      cases p with
      | readyForData =>
          have ho' : old.outcome = some o := ho
          rw [hnone] at ho'
          cases ho'
      | fakeDataAcked =>
          simp only [RemoteHelperClient.applyProgress,
            FlowState.finish_of_none hnone] at ho
          cases ho
          rfl
      | unexpectedClose =>
          simp only [RemoteHelperClient.applyProgress,
            FlowState.finish_of_none hnone] at ho
          cases ho
          rfl
    rw [hp] at hsuffix
    exact ⟨hsuffix.subset List.mem_cons_self,
      h.shape.nil_of_suffix hsuffix⟩
  · rcases hknown with hsent | hreg | hreq | hmir
    · exact .inl hsent
    · exact .inr (.inl hreg)
    · exact .inr (.inr (.inl hreq))
    · refine .inr (.inr (.inr fun hnone => hmir ?_))
      rw [hmirror, hnone]
      rfl

/-- The reader applies a report about another flow. -/
theorem FlowInv.applied_ne {flowId id : UInt64} {requestId : UInt32}
    {p : Progress} {rest : List Frame} (h : w.FlowInv id)
    (hne : id ≠ flowId)
    (hreplies : w.sys.replies
      = ⟨requestId, .flowProgress flowId p⟩ :: rest) :
    (w.moved { w.sys with
      client := w.sys.client.handleFrame ⟨requestId, .flowProgress flowId p⟩
      replies := rest }).FlowInv id := by
  have hqueued : w.queued id = rest.filterMap (·.reports id) := by
    unfold Watched.queued
    rw [hreplies, List.filterMap_cons]
    simp [Frame.reports, hne.symm]
  have hmirror : (w.moved { w.sys with
      client := w.sys.client.handleFrame ⟨requestId, .flowProgress flowId p⟩
      replies := rest }).mirror id = w.mirror id := by
    refine (Table.get?_modify _).trans ?_
    rw [if_neg hne]
    rfl
  refine ⟨h.shape, h.entry, ?_, ?_, h.asked, ?_⟩
  · show rest.filterMap (·.reports id) <:+ _
    rw [← hqueued]
    exact h.queued
  · rw [hmirror]
    intro m hm hcut o ho
    show _ ∧ rest.filterMap (·.reports id) = []
    rw [← hqueued]
    exact h.mirror m hm
      (fun hmem => hcut (List.mem_append_right _ hmem)) o ho
  · unfold Known
    rw [hmirror]
    exact fun hknown hopen => h.known hknown ⟨hopen.connected, hopen.ids⟩

/-- What a frame that is no report does to the client. -/
theorem handleFrame_case (c : RemoteHelperClient) {frame : Frame}
    (h : frame.message.isProgress = false) :
    c.ClientCase (c.handleFrame frame) [] := by
  have hnone : ∀ f ∈ ([] : List Frame), f.registers = none := by
    intro f hf
    cases hf
  unfold RemoteHelperClient.handleFrame
  split
  case h_1 heq =>
    rw [heq] at h
    cases h
  · refine .kept (RemoteHelperClient.Sheds.keeps ?_ hnone)
    exact ⟨fun _ _ h => h, rfl, rfl, rfl⟩
  · exact .disconnected _
  · refine .kept (RemoteHelperClient.Sheds.keeps ?_ hnone)
    split
    · exact ⟨fun _ _ h => h, rfl, rfl, rfl⟩
    · exact ⟨fun _ _ h => h, rfl, rfl, rfl⟩

/-- The client's reader handles the next frame. -/
theorem Inv.receive (h : w.Inv) {frame : Frame} {rest : List Frame}
    (hreplies : w.sys.replies = frame :: rest) :
    (w.moved { w.sys with
      client := w.sys.client.handleFrame frame
      replies := rest }).Inv := by
  cases hp : frame.message.isProgress with
  | false =>
      have hcalled : (w.moved { w.sys with
          client := w.sys.client.handleFrame frame }).Inv :=
        h.client (handleFrame_case w.sys.client hp)
          (List.append_nil _).symm rfl rfl
      exact hcalled.popped hreplies
        fun id => frame.reports_of_not_isProgress hp id
  | true =>
      obtain ⟨requestId, message⟩ := frame
      cases message with
      | flowProgress flowId p =>
          refine ⟨fun hopen => h.bounded ⟨hopen.connected, hopen.ids⟩,
            h.distinct, fun id => ?_⟩
          by_cases hid : id = flowId
          · subst hid
            exact (h.flows id).applied hreplies
          · exact (h.flows id).applied_ne hid hreplies
      | _ => cases hp

/-- Requests go to the helper, whose answers are no reports. -/
theorem Inv.helperTurn (h : w.Inv) {rest : List Frame} {turn : Served}
    (hrest : ∀ id, id ∈ registersOf rest →
      id ∈ registersOf w.sys.requests)
    (hdistinct : (registersOf rest).Nodup)
    (hsent : ∀ f ∈ turn.sent, f.message.isProgress = false)
    (hflow : ∀ id flow, (w.moved (w.sys.served rest turn)).helperFlow id
        = some flow →
      w.helperFlow id = some flow
        ∨ (id ∈ registersOf w.sys.requests ∧ id ∉ registersOf rest
          ∧ flow.lastProgress = none)) :
    (w.moved (w.sys.served rest turn)).Inv where
  bounded := h.bounded
  distinct := hdistinct
  flows id := by
    have hid := h.flows id
    have hqueued : (w.moved (w.sys.served rest turn)).queued id
        = w.queued id := by
      show List.filterMap _ (w.sys.replies ++ turn.sent) = _
      rw [List.filterMap_append, filterMap_reports_nil hsent,
        List.append_nil]
      rfl
    refine ⟨hid.shape, fun flow hf => ?_, ?_, fun m hm hcut => ?_,
      fun hasked => ?_, fun hknown => hid.known ?_⟩
    · rcases hflow id flow hf with hold | ⟨hreq, -, hlast⟩
      · exact hid.entry flow hold
      · -- a new registration, and nothing was ever sent for it
        show _ = (w.sentOf id).getLast? ∧ ∀ o, _ ∈ w.sentOf id → _
        rw [(hid.asked hreq).1]
        refine ⟨hlast, fun o ho => ?_⟩
        cases ho
    · rw [hqueued]
      exact hid.queued
    · rw [hqueued]
      exact hid.mirror m hm
        fun hmem => hcut (List.mem_append_right _ hmem)
    · have hold := hid.asked (hrest id hasked)
      refine ⟨hold.1, ?_⟩
      cases hf : (w.moved (w.sys.served rest turn)).helperFlow id with
      | none => rfl
      | some flow =>
          rcases hflow id flow hf with hsome | ⟨-, hnot, -⟩
          · rw [hold.2] at hsome
            cases hsome
          · exact absurd hasked hnot
    · rcases hknown with hs | hreg | hreq | hmir
      · exact .inl hs
      · obtain ⟨flow, hf⟩ := Option.ne_none_iff_exists'.mp hreg
        rcases hflow id flow hf with hsome | ⟨hreq, -, -⟩
        · refine .inr (.inl ?_)
          rw [hsome]
          exact Option.some_ne_none flow
        · exact .inr (.inr (.inl hreq))
      · exact .inr (.inr (.inl (hrest id hreq)))
      · exact .inr (.inr (.inr hmir))

/-- The helper serves the next request. -/
theorem Inv.serve (h : w.Inv) {peer : Peer} {env : ServeEnv}
    {session : Session} {frame : Frame} {rest : List Frame}
    (hhelper : w.sys.helper = some session)
    (hrequests : w.sys.requests = frame :: rest) :
    (w.moved (w.sys.served rest
      (serveFrame peer env session frame))).Inv := by
  have hcons : registersOf w.sys.requests
      = frame.registers.toList ++ registersOf rest := by
    unfold registersOf
    rw [hrequests, List.filterMap_cons]
    cases frame.registers <;> rfl
  have hdistinct := h.distinct
  rw [hcons] at hdistinct
  refine h.helperTurn (fun id hid => ?_) (List.nodup_append.mp hdistinct).2.1
    (fun f hf => serveFrame_sent hf) fun id flow hflow => ?_
  · rw [hcons]
    exact List.mem_append_right _ hid
  · obtain ⟨s', hs', hget⟩ := Option.bind_eq_some_iff.mp hflow
    rcases (serveFrame_case hs').registered hget with hold | ⟨hreg, hlast⟩
    · refine .inl ?_
      unfold helperFlow
      rw [hhelper]
      exact hold
    · have hmem : id ∈ frame.registers.toList := by
        rw [hreg]
        exact List.mem_singleton_self id
      refine .inr ⟨?_, fun hrest => ?_, hlast⟩
      · rw [hcons]
        exact List.mem_append_left _ hmem
      · exact (List.nodup_append.mp hdistinct).2.2 id hmem id hrest rfl

/-- Every move of a party keeps the invariant. -/
theorem Inv.party (h : w.Inv) {peer : Peer} {sys : System}
    (hcase : PartyCase peer w.sys sys) : (w.moved sys).Inv := by
  cases hcase with
  | client hclient hrequests hreplies hhelper =>
      exact h.client hclient hrequests hreplies hhelper
  | receive hreplies => exact h.receive hreplies
  | serve hhelper hrequests => exact h.serve hhelper hrequests
  | @idle turn hsession hsent =>
      refine h.helperTurn (fun _ hid => hid) h.distinct hsent
        fun id flow hflow => .inl ?_
      obtain ⟨s', hs', hget⟩ := Option.bind_eq_some_iff.mp hflow
      have hs' : turn.session = some s' := hs'
      rcases hsession with hnone | hsame
      · rw [hnone] at hs'
        cases hs'
      · unfold helperFlow
        rw [← hsame, hs']
        exact hget

/-- Every move keeps the invariant. -/
theorem Inv.step (h : w.Inv) {cfg : Config} {peer : Peer}
    {act : WatchedAct} (hstep : w.step cfg peer act = some w') :
    w'.Inv := by
  cases act with
  | party act =>
      simp only [Watched.step] at hstep
      split at hstep
      · cases hstep
      case isFalse hact =>
        obtain ⟨sys, hsys, rfl⟩ := Option.map_eq_some_iff.mp hstep
        exact h.party (PartyCase.of_step h.bounded (by simpa using hact) hsys)
  | packet flowId env pkt =>
      obtain ⟨⟨method, flow⟩, hflow, hstep⟩ :=
        Option.bind_eq_some_iff.mp hstep
      obtain ⟨l, hl, hstep⟩ := Option.bind_eq_some_iff.mp hstep
      cases hstep
      refine Inv.withOwed (h.modifyEntry flowId
        (fun flow => { flow with entry := l.state }) (fun _ => rfl) ?_) _
      intro flow' hflow' o ho
      rw [flow?_helperFlow hflow] at hflow'
      cases hflow'
      have hlocked : onPacketLocked method env flow.entry pkt.view
          = .ok l := by
        cases hres : onPacketLocked method env flow.entry pkt.view with
        | error e =>
            rw [hres] at hl
            cases hl
        | ok l' =>
            rw [hres] at hl
            cases hl
            rfl
      exact (locked_cases hlocked).outcome_stable ho
  | resume flowId call =>
      simp only [Watched.step] at hstep
      split at hstep
      · cases hstep
        refine Inv.withOwed (h.modifyEntry flowId
          (fun flow => { flow with entry := call.run flow.entry })
          (fun _ => rfl) ?_) _
        intro flow _ o ho
        show (call.run flow.entry).outcome = some o
        rw [Deferred.run_of_some ho]
        exact ho
      · cases hstep
  | publish flowId io =>
      obtain ⟨⟨method, flow⟩, hflow, hstep⟩ :=
        Option.bind_eq_some_iff.mp hstep
      cases hstep
      exact h.publish (flow?_helperFlow hflow)

-- ================================================ outcomes at the client

/-- A flow id that is used up: an entry the client has for it has the
outcome, and no registration will take the id again. -/
structure Over (w : Watched) (flowId : UInt64) (o : BypassOutcome) :
    Prop where
  outcome : ∀ m, w.mirror flowId = some m → m.outcome = some o
  used : w.sys.client.Open → flowId.toNat < w.sys.client.nextFlowId.toNat

/-- A flow that is over stays over: whatever the client does, -/
theorem Over.client {sys : System} {frames : List Frame}
    {flowId : UInt64} {o : BypassOutcome} (h : w.Over flowId o)
    (hb : w.sys.client.Bounded)
    (hclient : w.sys.client.ClientCase sys.client frames) :
    (w.moved sys).Over flowId o := by
  unfold moved
  generalize hc : sys.client = c at hclient
  cases hclient with
  | kept hkeeps =>
      subst hc
      refine ⟨fun m hm => h.outcome m (hkeeps.flows flowId m hm),
        fun hopen => ?_⟩
      exact Nat.lt_of_lt_of_le (h.used (hkeeps.counts hopen).1)
        (hkeeps.counts.flowId_le hb hopen)
  | registered hopen hflows hdisc hflow hrequest =>
      subst hc
      have hused := h.used hopen
      refine ⟨fun m hm => h.outcome m ?_, fun _ => ?_⟩
      · have hne : flowId ≠ w.sys.client.nextFlowId := by
          intro heq
          rw [heq] at hused
          exact Nat.lt_irrefl _ hused
        unfold mirror at hm
        simp only at hm
        rw [hflows, Table.get?_insert_ne hne] at hm
        exact hm
      · show flowId.toNat < sys.client.nextFlowId.toNat
        rw [hflow, hb.toNat_succ_flowId hopen]
        exact Nat.lt_succ_of_lt hused
  | disconnected reason =>
      refine ⟨fun m hm => ?_, fun hopen => ?_⟩
      · unfold mirror at hm
        simp only at hm
        rw [hc] at hm
        unfold RemoteHelperClient.disconnect at hm
        split at hm
        · exact h.outcome m hm
        · obtain ⟨old, hold, rfl⟩ := Option.map_eq_some_iff.mp
            ((Table.get?_map fun _ entry =>
              FlowState.finish entry .unexpectedClose).symm.trans hm)
          have ho := h.outcome old hold
          rw [FlowState.finish_of_some ho]
          exact ho
      · simp only at hopen
        rw [hc] at hopen
        exact absurd hopen (not_open_disconnect _ reason)

/-- A report changes no outcome. -/
theorem applyProgress_of_some {m : FlowState} {o : BypassOutcome}
    (h : m.outcome = some o) (p : Progress) :
    (RemoteHelperClient.applyProgress p m).outcome = some o := by
  cases p with
  | readyForData => exact h
  | fakeDataAcked =>
      simp only [RemoteHelperClient.applyProgress,
        FlowState.finish_of_some h]
      exact h
  | unexpectedClose =>
      simp only [RemoteHelperClient.applyProgress,
        FlowState.finish_of_some h]
      exact h

/-- whatever it receives, -/
theorem Over.receive {frame : Frame} {rest : List Frame}
    {flowId : UInt64} {o : BypassOutcome} (h : w.Over flowId o)
    (hb : w.sys.client.Bounded) :
    (w.moved { w.sys with
      client := w.sys.client.handleFrame frame
      replies := rest }).Over flowId o := by
  cases hp : frame.message.isProgress with
  | false => exact h.client hb (handleFrame_case w.sys.client hp)
  | true =>
      obtain ⟨requestId, message⟩ := frame
      cases message with
      | flowProgress id p =>
          refine ⟨fun m hm => ?_, fun hopen =>
            h.used ⟨hopen.connected, hopen.ids⟩⟩
          have hget := (Table.get?_modify _).symm.trans hm
          by_cases hid : flowId = id
          · rw [if_pos hid] at hget
            obtain ⟨old, hold, rfl⟩ := Option.map_eq_some_iff.mp hget
            exact applyProgress_of_some (h.outcome old hold) p
          · rw [if_neg hid] at hget
            exact h.outcome m hget
      | _ => cases hp

/-- and so over every step. -/
theorem Over.step {cfg : Config} {peer : Peer} {act : WatchedAct}
    {flowId : UInt64} {o : BypassOutcome} (h : w.Over flowId o)
    (hb : w.sys.client.Bounded)
    (hstep : w.step cfg peer act = some w') : w'.Over flowId o := by
  cases act with
  | party act =>
      simp only [Watched.step] at hstep
      split at hstep
      · cases hstep
      case isFalse hact =>
        obtain ⟨sys, hsys, rfl⟩ := Option.map_eq_some_iff.mp hstep
        have hcase := PartyCase.of_step hb (by simpa using hact) hsys
        cases hcase with
        | client hclient => exact h.client hb hclient
        | receive => exact h.receive hb
        | serve => exact ⟨h.outcome, h.used⟩
        | idle => exact ⟨h.outcome, h.used⟩
  | packet id env pkt =>
      obtain ⟨⟨method, flow⟩, -, hstep⟩ := Option.bind_eq_some_iff.mp hstep
      obtain ⟨l, -, hstep⟩ := Option.bind_eq_some_iff.mp hstep
      cases hstep
      exact ⟨h.outcome, h.used⟩
  | resume id call =>
      simp only [Watched.step] at hstep
      split at hstep
      · cases hstep
        exact ⟨h.outcome, h.used⟩
      · cases hstep
  | publish id io =>
      obtain ⟨⟨method, flow⟩, -, hstep⟩ := Option.bind_eq_some_iff.mp hstep
      cases hstep
      unfold Watched.publish
      split
      · exact h
      · split
        · exact ⟨h.outcome, h.used⟩
        · exact ⟨h.outcome, h.used⟩

-- ============================================================= every run

/-- Before the first flow: nothing registered, nothing on the way, and
the counters as `connect` leaves them or later requests advance them. -/
structure Fresh (w : Watched) : Prop where
  registered : ∀ session, w.sys.helper = some session →
    session.registered = []
  flows : w.sys.client.flows = []
  flowId : w.sys.client.nextFlowId = 1
  requestId : 2 ≤ w.sys.client.nextRequestId.toNat
  requests : w.sys.requests = []
  replies : w.sys.replies = []
  sent : w.sent = []

/-- Before any flow. -/
theorem Fresh.inv (h : w.Fresh) : w.Inv := by
  have hsent : ∀ id, w.sentOf id = [] := by
    intro id
    unfold sentOf
    rw [h.sent]
    rfl
  have hqueued : ∀ id, w.queued id = [] := by
    intro id
    unfold queued
    rw [h.replies]
    rfl
  have hmirror : ∀ id, w.mirror id = none := by
    intro id
    unfold mirror
    rw [h.flows]
    rfl
  have hasked : registersOf w.sys.requests = [] := by
    rw [h.requests]
    rfl
  have hflow : ∀ id, w.helperFlow id = none := by
    intro id
    unfold helperFlow
    cases hs : w.sys.helper with
    | none => rfl
    | some session =>
        show session.registered.get? id = none
        rw [h.registered session hs]
        rfl
  refine ⟨fun _ => ?_, ?_, fun id => ⟨.inl (hsent id), fun flow hf => ?_,
    ?_, fun m hm => ?_, fun hmem => ?_, fun hknown => ?_⟩⟩
  · rw [h.flowId]
    exact ⟨Nat.one_pos, h.requestId⟩
  · rw [hasked]
    exact List.nodup_nil
  · rw [hflow] at hf
    cases hf
  · rw [hqueued]
    exact List.nil_suffix
  · rw [hmirror] at hm
    cases hm
  · rw [hasked] at hmem
    cases hmem
  · rcases hknown with hs | hreg | hreq | hmir
    · exact absurd (hsent id) hs
    · exact absurd (hflow id) hreg
    · rw [hasked] at hreq
      cases hreq
    · exact absurd (hmirror id) hmir

/-- One flow id's single outcome. -/
theorem FlowInv.outcome {flowId : UInt64} (h : w.FlowInv flowId) :
    ∃ o, (∀ o', .ofOutcome o' ∈ w.sentOf flowId → o' = o)
      ∧ ∀ flow, w.helperFlow flowId = some flow →
        flow.entry.outcome = none ∨ flow.entry.outcome = some o := by
  by_cases hout : ∃ o, .ofOutcome o ∈ w.sentOf flowId
  · obtain ⟨o, ho⟩ := hout
    exact ⟨o, fun o' ho' => h.shape.outcome_unique ho' ho,
      fun flow hf => .inr ((h.entry flow hf).2 o ho)⟩
  · have hnever : ∀ o o', .ofOutcome o' ∈ w.sentOf flowId → o' = o :=
      fun o o' ho' => absurd ⟨o', ho'⟩ hout
    cases hf : w.helperFlow flowId with
    | none => exact ⟨.fakeDataAcked, hnever _, fun _ hnone => by cases hnone⟩
    | some flow =>
        cases ho : flow.entry.outcome with
        | none =>
            refine ⟨.fakeDataAcked, hnever _, fun flow' heq => .inl ?_⟩
            cases heq
            exact ho
        | some o =>
            refine ⟨o, hnever o, fun flow' heq => .inr ?_⟩
            cases heq
            exact ho

/-- The moves of the packet thread, of `publish_progress` and of the
parties, one after another. -/
def Moves (cfg : Config) (peer : Peer) :
    Watched → List WatchedAct → Watched → Prop :=
  Run fun w act w' => w.step cfg peer act = some w'

/-- And in every run. -/
theorem Moves.inv {cfg : Config} {peer : Peer} {acts : List WatchedAct}
    (h : Moves cfg peer w acts w') (hw : w.Inv) : w'.Inv :=
  Run.invariant (P := Inv) (fun hinv hstep => hinv.step hstep) h hw

/-- What is over stays over in it. -/
theorem Moves.over {cfg : Config} {peer : Peer} {acts : List WatchedAct}
    {flowId : UInt64} {o : BypassOutcome} (h : Moves cfg peer w acts w')
    (hw : w.Inv) (hover : w.Over flowId o) : w'.Over flowId o := by
  refine (Run.invariant (P := fun w => w.Inv ∧ w.Over flowId o) ?_ h
    ⟨hw, hover⟩).2
  intro s act t hs hstep
  exact ⟨hs.1.step hstep, hs.2.step hs.1.bounded hstep⟩

/-- In every interleaving, for every flow id: the reports written are the
beginning of readiness and an outcome, or of the outcome alone; the
outcome is that of the helper's entry, and of the client's unless the
client ended it by disconnecting; and a client entry with an outcome never
reports readiness again, nor is such a report on its way. -/
theorem progress_agrees (cfg : Config) (peer : Peer) (start w : Watched)
    (acts : List WatchedAct) (hstart : start.Fresh)
    (hrun : Moves cfg peer start acts w) (flowId : UInt64) :
    (∃ o,
      (w.sentOf flowId <+: [.readyForData, .ofOutcome o]
        ∨ w.sentOf flowId <+: [.ofOutcome o])
      ∧ (∀ flow, w.helperFlow flowId = some flow →
          (flow.entry.outcome = none ∨ flow.entry.outcome = some o)
          ∧ (.ofOutcome o ∈ w.sentOf flowId →
              flow.entry.outcome = some o))
      ∧ ∀ m, w.mirror flowId = some m → flowId ∉ w.cutOff →
          m.outcome = none
            ∨ (m.outcome = some o ∧ .ofOutcome o ∈ w.sentOf flowId))
    ∧ ∀ m, w.mirror flowId = some m → m.outcome.isSome = true →
        (∀ later w' m', Moves cfg peer w later w' →
          w'.mirror flowId = some m' → m'.progress ≠ some .readyForData)
        ∧ (flowId ∉ w.cutOff → ∀ frame ∈ w.sys.replies,
            frame.message ≠ .flowProgress flowId .readyForData) := by
  have hinv : w.Inv := hrun.inv hstart.inv
  have hflow := hinv.flows flowId
  constructor
  · obtain ⟨o, honly, hentry⟩ := hflow.outcome
    refine ⟨o, hflow.shape.prefix_of honly, fun flow hf =>
      ⟨hentry flow hf, (hflow.entry flow hf).2 o⟩, fun m hm hcut => ?_⟩
    cases hout : m.outcome with
    | none => exact .inl rfl
    | some o' =>
        have hsent := (hflow.mirror m hm hcut o' hout).1
        have heq := honly o' hsent
        subst heq
        exact .inr ⟨rfl, hsent⟩
  · intro m hm hsome
    obtain ⟨o, ho⟩ := Option.isSome_iff_exists.mp hsome
    have hover : w.Over flowId o := by
      refine ⟨fun m' hm' => ?_, hflow.known (.inr (.inr (.inr ?_)))⟩
      · rw [hm] at hm'
        cases hm'
        exact ho
      · rw [hm]
        exact Option.some_ne_none m
    constructor
    · intro later w' m' hlater hm'
      have ho' := (Moves.over hlater hinv hover).outcome m' hm'
      unfold FlowState.progress
      rw [ho']
      intro heq
      cases heq
    · intro hcut frame hframe heq
      have hempty := (hflow.mirror m hm hcut o ho).2
      have hmem : Progress.readyForData ∈ w.queued flowId := by
        refine List.mem_filterMap.mpr ⟨frame, hframe, ?_⟩
        simp [Frame.reports, heq]
      rw [hempty] at hmem
      cases hmem

/-- The sample session before its first flow. -/
def sampleStart : Watched where
  sys := System.samplePrepared
  owed := []
  sent := []
  cutOff := []

/-- The start of the example is fresh. -/
theorem sampleStart_fresh : sampleStart.Fresh := by
  refine ⟨fun session hs => ?_, rfl, rfl, ?_, rfl, rfl, rfl⟩
  · cases hs
    rfl
  · decide

/-- A flow waits for its data, gets it and is finished; the visit between
the critical section and the owed `finish` has nothing to report. -/
def sampleActs : List WatchedAct :=
  [.party (.register System.sampleKey [0x16] none true),
   .party (.serve {}), .party .receive,
   .party (.registered ⟨4, System.sampleKey, 1⟩ true),
   .packet 1 sampleEnv (samplePacket .outbound 100 0 { syn := true } []),
   .packet 1 sampleEnv
     (samplePacket .inbound 500 101 { syn := true, ack := true } []),
   .packet 1 sampleEnv sampleAck,
   .publish 1 true, .party .receive,
   .packet 1 sampleEnv (sampleData [0x16]),
   .publish 1 true,
   .resume 1 (.finish .fakeDataAcked),
   .publish 1 true, .party .receive]

/-- A flow that is ready and then acknowledged, on both sides. -/
theorem sample_progress_agrees :
    ∃ w m, Moves {} System.samplePeer sampleStart sampleActs w
      ∧ w.sentOf 1 = [.readyForData, .fakeDataAcked]
      ∧ w.mirror 1 = some m ∧ m.outcome = some .fakeDataAcked
      ∧ ∀ later w' m', Moves {} System.samplePeer w later w' →
          w'.mirror 1 = some m' → m'.progress ≠ some .readyForData := by
  have hrun : ∃ w, Moves {} System.samplePeer sampleStart sampleActs w
      ∧ w.sentOf 1 = [.readyForData, .fakeDataAcked]
      ∧ (w.mirror 1).bind (·.outcome) = some .fakeDataAcked :=
    ⟨_, .cons rfl <| .cons rfl <| .cons rfl <| .cons rfl <|
      .cons rfl <| .cons rfl <| .cons rfl <| .cons rfl <| .cons rfl <|
      .cons rfl <| .cons rfl <| .cons rfl <| .cons rfl <| .cons rfl <|
      .nil _, rfl, rfl⟩
  obtain ⟨w, hmoves, hsent, hbind⟩ := hrun
  obtain ⟨m, hm, ho⟩ := Option.bind_eq_some_iff.mp hbind
  have hagrees := progress_agrees {} System.samplePeer sampleStart w
    sampleActs sampleStart_fresh hmoves 1
  refine ⟨w, m, hmoves, hsent, hm, ho, (hagrees.2 m hm ?_).1⟩
  rw [ho]
  rfl

end Watched

end ZeroDpi.Helper
