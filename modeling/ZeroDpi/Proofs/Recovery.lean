/-
Recovery and the helper's lifecycle check.

The socket is a queue, so what the helper is asked in which state is
decided when a frame is written: `advance` runs the lifecycle over the
frames on the way, and the invariant (`Inv`) says that this run never
meets a frame its state refuses and ends where the last lifecycle request
leads. A `RegisterFlow` written while that place is `configured` is the
one write that breaks it.
-/
import ZeroDpi.Helper.Recovery
import ZeroDpi.Proofs.Session

namespace ZeroDpi.Helper

open Lib

-- ========================================================= the lifecycle

/-- The state a turn that goes through leaves. -/
def HelperState.after (s : HelperState) : Message → HelperState
  | .hello _ => .authenticated
  | .configureInterceptor _ => .configured
  | .openInterceptor => .interceptorOpen
  | .closeInterceptor => .configured
  | .shutdown => .exited
  | _ => s

/-- One frame of the lifecycle, if the state accepts it. -/
def HelperState.advance (s : HelperState) (frame : Frame) :
    Option HelperState :=
  if s.accepts frame.message then some (s.after frame.message) else none

/-- Where a lifecycle request leads. -/
def Lifecycle.state : Lifecycle → HelperState
  | .close => .configured
  | .configure => .configured
  | .opened => .interceptorOpen

/-- The frames are accepted one after another and lead from `s` to
`t`. -/
def AcceptsAll (s : HelperState) (frames : List Frame) (t : HelperState) :
    Prop :=
  frames.foldlM HelperState.advance s = some t

theorem AcceptsAll.append {s t u : HelperState} {frames more : List Frame}
    (h : AcceptsAll s frames t) (hmore : AcceptsAll t more u) :
    AcceptsAll s (frames ++ more) u := by
  unfold AcceptsAll
  rw [List.foldlM_append, h]
  exact hmore

theorem acceptsAll_cons {s t : HelperState} {frame : Frame}
    {rest : List Frame} :
    AcceptsAll s (frame :: rest) t
      ↔ s.accepts frame.message = true
        ∧ AcceptsAll (s.after frame.message) rest t := by
  unfold AcceptsAll
  rw [List.foldlM_cons, HelperState.advance]
  by_cases h : s.accepts frame.message = true
  · simp [h]
  · simp [h]

/-- Frames that the state accepts and that do not move it. -/
theorem acceptsAll_of_still {t : HelperState} {frames : List Frame}
    (h : ∀ f ∈ frames, t.accepts f.message = true
      ∧ t.after f.message = t) : AcceptsAll t frames t := by
  induction frames with
  | nil => rfl
  | cons f rest ih =>
      obtain ⟨hacc, hstill⟩ := h f List.mem_cons_self
      refine acceptsAll_cons.mpr ⟨hacc, ?_⟩
      rw [hstill]
      exact ih fun g hg => h g (List.mem_cons_of_mem f hg)

-- ======================================================= the helper's turn

/-- A turn that does not trip the lifecycle check: a session it leaves is
in state `t`, and it has not sent the check's answer. -/
structure Orderly (turn : Served) (t : HelperState) : Prop where
  state : ∀ s', turn.session = some s' → s'.state = t
  sent : ∀ f ∈ turn.sent, f.message ≠ lifecycleFatal

theorem ended_orderly (t : HelperState) : Orderly ended t where
  state _ h := by cases h
  sent _ h := by cases h

theorem answer_orderly {env : ServeEnv} {frames : List Frame}
    {next : Option Session} {t : HelperState}
    (hnext : ∀ s', next = some s' → s'.state = t)
    (hframes : ∀ f ∈ frames, f.message ≠ lifecycleFatal) :
    Orderly (answer env frames next) t where
  state s' h := hnext s' (answer_session h)
  sent f hf := hframes f (answer_sent hf)

theorem fatal_orderly {env : ServeEnv} {requestId : UInt32}
    {code : ErrorCode} {message : String} (t : HelperState)
    (h : Message.helperFatal code message ≠ lifecycleFatal) :
    Orderly (fatal env requestId code message) t := by
  refine answer_orderly (fun s' h => ?_) (fun f hf => ?_)
  · cases h
  · rw [List.mem_singleton.mp hf]
    exact h

/-- A frame leads where the lifecycle says. -/
theorem FrameCase.state {peer : Peer} {s s' : Session} {message : Message}
    (h : FrameCase peer s message s') :
    s'.state = s.state.after message := by
  cases h with
  | remove => exact s.state_withoutFlow _
  | _ => rfl

theorem Message.IsReply.ne_lifecycleFatal {m : Message} (h : m.IsReply) :
    m ≠ lifecycleFatal := by
  intro heq
  subst heq
  exact h rfl

/-- A turn on an accepted frame is orderly. -/
theorem serveFrame_orderly {peer : Peer} {env : ServeEnv} {s : Session}
    {frame : Frame} (h : s.state.accepts frame.message = true) :
    Orderly (serveFrame peer env s frame)
      (s.state.after frame.message) where
  state _ hs' := (serveFrame_case hs').state
  sent _ hf := (serveFrame_isReply h hf).ne_lifecycleFatal

/-- A poll is orderly, whatever the interceptor did. -/
theorem poll_orderly (env : ServeEnv) (failure : Option String)
    (s : Session) : Orderly (poll env failure s) s.state := by
  unfold poll
  split
  · refine ⟨fun s' h => ?_, fun f hf => ?_⟩
    · cases h
      rfl
    · cases hf
  · exact fatal_orderly _ (by simp [lifecycleFatal])
  · refine answer_orderly (fun s' hs' => ?_) (fun f hf => ?_)
    · cases hs'
      rfl
    · obtain ⟨⟨flowId, flow⟩, -, hf⟩ := List.mem_filterMap.mp hf
      obtain ⟨p, -, rfl⟩ := Option.map_eq_some_iff.mp hf
      simp [lifecycleFatal]

-- ====================================================== what tasks write

namespace RemoteHelperClient

/-- A request writes its message and waits, or writes nothing and
fails. -/
theorem beginRequest_wrote (c : RemoteHelperClient) (io : Bool)
    (message : Message) :
    ((c.beginRequest io message).wrote = []
        ∧ ∃ e, (c.beginRequest io message).waits = .error e)
      ∨ ∃ requestId,
        (c.beginRequest io message).wrote = [⟨requestId, message⟩]
          ∧ (c.beginRequest io message).waits = .ok requestId := by
  unfold beginRequest
  split
  · exact .inl ⟨rfl, _, rfl⟩
  · split
    · exact .inl ⟨rfl, _, rfl⟩
    · simp only
      split
      · exact .inl ⟨rfl, _, rfl⟩
      · rcases write_cases io c.nextRequestId message with hw | hw
        · rw [hw]
          exact .inl ⟨rfl, _, rfl⟩
        · rw [hw]
          exact .inr ⟨_, rfl, rfl⟩

/-- `remove_flow` writes `RemoveFlow` at most. -/
theorem removeFlow_wrote (c : RemoteHelperClient) (io : Bool)
    (key : FlowKey) {f : Frame} (hf : f ∈ (c.removeFlow io key).2) :
    ∃ flowId, f.message = .removeFlow flowId := by
  unfold removeFlow at hf
  split at hf
  · cases hf
  case h_2 flowId _ =>
    rcases write_cases io 0 (.removeFlow flowId) with hw | hw
    · rw [hw] at hf
      cases hf
    · rw [hw] at hf
      rw [List.mem_singleton.mp hf]
      exact ⟨flowId, rfl⟩

/-- `register_flow` writes `RegisterFlow` and `RemoveFlow` at most. -/
theorem beginRegister_wrote (c : RemoteHelperClient) (io : Bool)
    (key : FlowKey) (fakeData : Bytes) (lowTtlOverride : Option UInt8)
    {f : Frame}
    (hf : f ∈ (c.beginRegister io key fakeData lowTtlOverride).1.wrote) :
    (∃ flowId, f.message
        = .registerFlow flowId key fakeData lowTtlOverride)
      ∨ ∃ flowId, f.message = .removeFlow flowId := by
  unfold beginRegister at hf
  simp only at hf
  split at hf
  · cases hf
  · -- the frames of the request itself
    have hreq : ∀ (c : RemoteHelperClient) (flowId : UInt64) (g : Frame),
        g ∈ (c.beginRequest io
          (.registerFlow flowId key fakeData lowTtlOverride)).wrote →
        g.message = .registerFlow flowId key fakeData lowTtlOverride := by
      intro c flowId g hg
      rcases beginRequest_wrote c io
        (.registerFlow flowId key fakeData lowTtlOverride)
        with ⟨hw, -⟩ | ⟨requestId, hw, -⟩
      · rw [hw] at hg
        cases hg
      · rw [hw] at hg
        rw [List.mem_singleton.mp hg]
    split at hf
    · exact .inl ⟨_, hreq _ _ f hf⟩
    · rcases List.mem_append.mp hf with hf | hf
      · exact .inl ⟨_, hreq _ _ f hf⟩
      · exact .inr (removeFlow_wrote _ io key hf)

/-- The end of `register_flow` writes `RemoveFlow` at most. -/
theorem endRegister_wrote (c : RemoteHelperClient) (io : Bool)
    (key : FlowKey) (flowId : UInt64) (answer : Except String Message)
    {f : Frame} (hf : f ∈ (c.endRegister io key flowId answer).2) :
    ∃ flowId, f.message = .removeFlow flowId := by
  unfold endRegister at hf
  split at hf
  · cases hf
  · exact removeFlow_wrote c io key hf

end RemoteHelperClient

-- ========================================================= the invariant

/-- Between the moves of the coordinator the last lifecycle request is
the one it waits for. -/
def Stage.Agrees (stage : Stage) (last : Lifecycle) : Prop :=
  match stage with
  | .idle => True
  | .closing _ _ => last = .close
  | .configuring _ => last = .configure
  | .opening _ => last = .opened

namespace System

/-- What holds between any two moves. -/
structure Inv (sys : System) : Prop where
  stage : sys.stage.Agrees sys.lastLifecycle
  /-- The frames on the way are accepted one after another, and lead
  where the last lifecycle request does. -/
  queue : ∀ s, sys.helper = some s →
    AcceptsAll s.state sys.requests sys.lastLifecycle.state
  replies : ∀ f ∈ sys.replies, f.message ≠ lifecycleFatal

/-- The condition on a move: no `RegisterFlow` is written while the last
lifecycle request written is a close or a configure. -/
def Undisturbed (sys : System) : Act → Prop
  | .register key fakeData lowTtlOverride io =>
      (∃ flowId, ∃ f ∈ (sys.client.beginRegister io key fakeData
          lowTtlOverride).1.wrote,
        f.message = .registerFlow flowId key fakeData lowTtlOverride) →
      sys.lastLifecycle = .opened
  | _ => True

variable {sys : System}

/-- Flow removals and pings are accepted wherever recovery can be. -/
theorem still_of_removeFlow (last : Lifecycle) {f : Frame}
    (h : ∃ flowId, f.message = .removeFlow flowId) :
    last.state.accepts f.message = true
      ∧ last.state.after f.message = last.state := by
  obtain ⟨flowId, hm⟩ := h
  rw [hm]
  cases last with
  | close => exact ⟨rfl, rfl⟩
  | configure => exact ⟨rfl, rfl⟩
  | opened => exact ⟨rfl, rfl⟩

/-- Writing frames that do not move the lifecycle. -/
theorem Inv.send (h : sys.Inv) {frames : List Frame}
    (hframes : ∀ f ∈ frames,
      sys.lastLifecycle.state.accepts f.message = true
        ∧ sys.lastLifecycle.state.after f.message
          = sys.lastLifecycle.state) :
    (sys.send frames).Inv where
  stage := h.stage
  queue s hs := (h.queue s hs).append (acceptsAll_of_still hframes)
  replies := h.replies

/-- The client's own state is not part of it. -/
theorem Inv.withClient (h : sys.Inv) (client : RemoteHelperClient)
    (registering : List Registering) :
    Inv { sys with client := client, registering := registering } where
  stage := h.stage
  queue := h.queue
  replies := h.replies

/-- A lifecycle request that the end of the queue accepts. -/
theorem Inv.lifecycleRequest (h : sys.Inv) (io : Bool) (message : Message)
    (kind : Lifecycle) (next : UInt32 → Stage)
    (hacc : sys.lastLifecycle.state.accepts message = true)
    (hafter : sys.lastLifecycle.state.after message = kind.state)
    (hnext : ∀ requestId, (next requestId).Agrees kind) :
    (sys.lifecycleRequest io message kind next).Inv := by
  unfold System.lifecycleRequest
  rcases sys.client.beginRequest_wrote io message
    with ⟨hw, e, hwaits⟩ | ⟨requestId, hw, hwaits⟩
  · simp only [hwaits, hw]
    refine ⟨trivial, fun s hs => ?_, h.replies⟩
    exact (h.queue s hs).append rfl
  · simp only [hwaits, hw]
    refine ⟨hnext requestId, fun s hs => ?_, h.replies⟩
    refine (h.queue s hs).append (acceptsAll_cons.mpr ⟨hacc, ?_⟩)
    rw [hafter]
    rfl

/-- An orderly turn of the helper. -/
theorem Inv.served (h : sys.Inv) {rest : List Frame} {turn : Served}
    {t : HelperState} (hturn : Orderly turn t)
    (hrest : AcceptsAll t rest sys.lastLifecycle.state) :
    (sys.served rest turn).Inv where
  stage := h.stage
  queue s hs := by
    have hst := hturn.state s hs
    rw [hst]
    exact hrest
  replies f hf := by
    rcases List.mem_append.mp hf with hf | hf
    · exact h.replies f hf
    · exact hturn.sent f hf

/-- The coordinator's moves after a wait. -/
theorem Inv.resume {cfg : Config} {io : Bool} {sys' : System}
    (hstep : sys.resume cfg io = some sys') (h : sys.Inv) : sys'.Inv := by
  unfold System.resume at hstep
  have hstage := h.stage
  split at hstep
  · cases hstep
  case h_2 requestId interfaceIp hs =>
    rw [hs] at hstage
    have hlast : sys.lastLifecycle = .close := hstage
    obtain ⟨⟨answer, client⟩, -, hstep⟩ := Option.bind_eq_some_iff.mp hstep
    simp only at hstep
    split at hstep
    · cases hstep
      have hreset := h.withClient client.reset sys.registering
      refine hreset.lifecycleRequest io _ _ _ ?_ ?_ fun _ => rfl
      · rw [hlast]
        rfl
      · rw [hlast]
        rfl
    · cases hstep
      exact { stage := trivial, queue := h.queue, replies := h.replies }
  case h_3 requestId hs =>
    rw [hs] at hstage
    have hlast : sys.lastLifecycle = .configure := hstage
    obtain ⟨⟨answer, client⟩, -, hstep⟩ := Option.bind_eq_some_iff.mp hstep
    simp only at hstep
    split at hstep
    · cases hstep
      have hclient := h.withClient client sys.registering
      refine hclient.lifecycleRequest io _ _ _ ?_ ?_ fun _ => rfl
      · rw [hlast]
        rfl
      · rw [hlast]
        rfl
    · cases hstep
      exact { stage := trivial, queue := h.queue, replies := h.replies }
  case h_4 requestId hs =>
    obtain ⟨⟨answer, client⟩, -, hstep⟩ := Option.bind_eq_some_iff.mp hstep
    cases hstep
    exact { stage := trivial, queue := h.queue, replies := h.replies }

/-- Every undisturbed move keeps the invariant. -/
theorem step_inv {cfg : Config} {peer : Peer} {act : Act} {sys' : System}
    (h : sys.Inv) (hquiet : sys.Undisturbed act)
    (hstep : step cfg peer sys act = some sys') : sys'.Inv := by
  cases act with
  | rebuild interfaceIp io =>
      simp only [step] at hstep
      split at hstep
      · cases hstep
        refine h.lifecycleRequest io _ _ _ ?_ rfl fun _ => rfl
        cases sys.lastLifecycle <;> rfl
      · cases hstep
  | resume io => exact h.resume hstep
  | expire =>
      obtain ⟨requestId, -, hstep⟩ := Option.bind_eq_some_iff.mp hstep
      cases hstep
      exact { stage := trivial, queue := h.queue, replies := h.replies }
  | register key fakeData lowTtlOverride io =>
      have hsent : (sys.send (sys.client.beginRegister io key fakeData
          lowTtlOverride).1.wrote).Inv := by
        refine h.send fun f hf => ?_
        rcases sys.client.beginRegister_wrote io key fakeData lowTtlOverride
          hf with ⟨flowId, hm⟩ | hremove
        · rw [hm, hquiet ⟨flowId, f, hf, hm⟩]
          exact ⟨rfl, rfl⟩
        · exact still_of_removeFlow _ hremove
      simp only [step, Option.some.injEq] at hstep
      subst hstep
      split
      · exact hsent.withClient _ _
      · exact hsent.withClient _ _
  | registered call io =>
      simp only [step] at hstep
      split at hstep
      · cases hstep
      · obtain ⟨⟨answer, client⟩, -, hstep⟩ :=
          Option.bind_eq_some_iff.mp hstep
        cases hstep
        refine (h.send fun f hf => ?_).withClient _ _
        exact still_of_removeFlow _
          (client.endRegister_wrote io call.key call.flowId answer hf)
  | registerExpire call io =>
      simp only [step] at hstep
      split at hstep
      · cases hstep
        refine (h.send fun f hf => ?_).withClient _ _
        exact still_of_removeFlow _
          (RemoteHelperClient.removeFlow_wrote _ io call.key hf)
      · cases hstep
  | remove key io =>
      cases hstep
      refine (h.send fun f hf => ?_).withClient _ _
      exact still_of_removeFlow _
        (RemoteHelperClient.removeFlow_wrote _ io key hf)
  | heartbeat io =>
      simp only [step] at hstep
      split at hstep
      · cases hstep
      · split at hstep
        · cases hstep
          refine h.send fun f hf => ?_
          rw [List.mem_singleton.mp hf]
          cases sys.lastLifecycle <;> exact ⟨rfl, rfl⟩
        · cases hstep
          exact h.withClient _ _
  | receive =>
      simp only [step] at hstep
      split at hstep
      · cases hstep
      case h_2 frame rest hreplies =>
        cases hstep
        refine ⟨h.stage, h.queue, fun f hf => h.replies f ?_⟩
        rw [hreplies]
        exact List.mem_cons_of_mem frame hf
  | lose reason =>
      cases hstep
      exact h.withClient _ _
  | serve env =>
      simp only [step] at hstep
      split at hstep
      case h_1 session frame rest hhelper hrequests =>
        cases hstep
        have hqueue := h.queue session hhelper
        rw [hrequests] at hqueue
        obtain ⟨hacc, hrest⟩ := acceptsAll_cons.mp hqueue
        exact h.served (serveFrame_orderly hacc) hrest
      · cases hstep
  | poll env failure =>
      obtain ⟨session, hhelper, hstep⟩ := Option.map_eq_some_iff.mp hstep
      cases hstep
      exact h.served (poll_orderly env failure session)
        (h.queue session hhelper)
  | packet flowId env pkt =>
      obtain ⟨session, hhelper, hstep⟩ := Option.map_eq_some_iff.mp hstep
      cases hstep
      refine ⟨h.stage, fun s hs => ?_, h.replies⟩
      cases hs
      have hstate : (onHelperPacket session flowId env pkt).state
          = session.state := by
        unfold onHelperPacket
        split <;> rfl
      rw [hstate]
      exact h.queue session hhelper
  | quit env timedOut =>
      obtain ⟨session, hhelper, hstep⟩ := Option.map_eq_some_iff.mp hstep
      cases hstep
      refine h.served (t := session.state) ?_ (h.queue session hhelper)
      cases timedOut with
      | true => exact fatal_orderly _ (by decide)
      | false => exact ended_orderly _

-- ========================================================= whole sessions

/-- A remote plane after `prepare_remote`: the interceptor is open and
nothing is on the way. -/
structure Prepared (sys : System) : Prop where
  idle : sys.stage = .idle
  opened : sys.lastLifecycle = .opened
  requests : sys.requests = []
  replies : sys.replies = []
  helper : ∃ s, sys.helper = some s ∧ s.state = .interceptorOpen

theorem Prepared.inv (h : sys.Prepared) : sys.Inv where
  stage := by
    rw [h.idle]
    trivial
  queue s hs := by
    obtain ⟨s', hs', hstate⟩ := h.helper
    rw [hs] at hs'
    cases hs'
    rw [h.requests, h.opened, hstate]
    rfl
  replies f hf := by
    rw [h.replies] at hf
    cases hf

/-- In every interleaving of recoveries, flow registrations and removals,
heartbeats and helper turns in which no `RegisterFlow` is written while the
last lifecycle request written is a close or a configure: the next frame the
helper handles is accepted by the state it is in, and the helper has not
answered a request with the lifecycle error. -/
theorem recovery_keeps_session (cfg : Config) (peer : Peer)
    (sys sys' : System) (acts : List Act) (hstart : sys.Prepared)
    (hrun : Run (fun s act s' =>
      step cfg peer s act = some s' ∧ s.Undisturbed act) sys acts sys') :
    (∀ s frame rest, sys'.helper = some s → sys'.requests = frame :: rest →
      s.state.accepts frame.message = true)
    ∧ ∀ frame ∈ sys'.replies, frame.message ≠ lifecycleFatal := by
  have hinv : sys'.Inv := by
    refine Run.invariant_of (P := Inv) (C := Undisturbed) ?_ hrun hstart.inv
    intro s act t hs hquiet hstep
    exact step_inv hs hquiet hstep
  refine ⟨fun s frame rest hs hrequests => ?_, hinv.replies⟩
  have hqueue := hinv.queue s hs
  rw [hrequests] at hqueue
  exact (acceptsAll_cons.mp hqueue).1

/-- The two ends of the sample session. -/
def samplePeer : Peer where
  proof := List.replicate 32 7
  peerPid := 42
  peerUid := 10001
  helperPid := 43
  helperUid := 0

/-- A flow of the sample session. -/
def sampleKey : FlowKey := ⟨0x0A000001, 40000, 0x01010101, 443⟩

/-- A plane that `prepare_remote` has opened for `10.0.0.1` with the
default configuration. -/
def samplePrepared : System where
  client := { RemoteHelperClient.connected with nextRequestId := 4 }
  stage := .idle
  registering := []
  lastLifecycle := .opened
  requests := []
  replies := []
  helper := some {
    state := .interceptorOpen
    config := some (interceptorConfig {} 0x0A000001 none connectPort)
    interceptor := (buildWireMethod
      (interceptorConfig {} 0x0A000001 none connectPort).method
      fun _ => 0).map fun method => { flows := [], method := method }
    lowTtlHandle := none
    registered := [] }

theorem samplePrepared_prepared : samplePrepared.Prepared :=
  ⟨rfl, rfl, rfl, rfl, _, rfl, rfl⟩

/-- A whole recovery to `10.0.0.2`, then a registration. -/
def sampleRecovery : List Act :=
  [.rebuild 0x0A000002 true, .serve {}, .receive, .resume true,
   .serve {}, .receive, .resume true, .serve {}, .receive, .resume true,
   .register sampleKey [0x16] none true]

/-- The recovery goes through undisturbed, and the helper accepts the
registration that follows it. -/
theorem sample_recovery_keeps_session :
    ∃ sys' s frame, Run (fun s act s' =>
        step {} samplePeer s act = some s' ∧ s.Undisturbed act)
        samplePrepared sampleRecovery sys'
      ∧ sys'.helper = some s ∧ sys'.requests = [frame]
      ∧ frame.message = .registerFlow 1 sampleKey [0x16] none
      ∧ s.state.accepts frame.message = true := by
  have hrun : ∃ sys', Run (fun s act s' =>
        step {} samplePeer s act = some s' ∧ s.Undisturbed act)
        samplePrepared sampleRecovery sys'
      ∧ ∃ s frame, sys'.helper = some s ∧ sys'.requests = [frame]
        ∧ frame.message = .registerFlow 1 sampleKey [0x16] none :=
    ⟨_, .cons ⟨rfl, trivial⟩ <| .cons ⟨rfl, trivial⟩ <|
      .cons ⟨rfl, trivial⟩ <| .cons ⟨rfl, trivial⟩ <|
      .cons ⟨rfl, trivial⟩ <| .cons ⟨rfl, trivial⟩ <|
      .cons ⟨rfl, trivial⟩ <| .cons ⟨rfl, trivial⟩ <|
      .cons ⟨rfl, trivial⟩ <| .cons ⟨rfl, trivial⟩ <|
      .cons ⟨rfl, fun _ => rfl⟩ <| .nil _, _, _, rfl, rfl, rfl⟩
  obtain ⟨sys', hrun, s, frame, hs, hrequests, hm⟩ := hrun
  have hkeeps := recovery_keeps_session {} samplePeer _ sys' _
    samplePrepared_prepared hrun
  exact ⟨sys', s, frame, hrun, hs, hrequests, hm,
    hkeeps.1 s frame [] hs hrequests⟩

/-- A connection registers its flow while the close of a recovery is on
its way: the helper handles the close, refuses the registration and is
gone. -/
theorem register_in_recovery_ends_session :
    samplePrepared.Prepared ∧
    ∃ sys' s frame sys'', Run
        (fun s act s' => step {} samplePeer s act = some s')
        samplePrepared
        [.rebuild 0x0A000002 true, .register sampleKey [0x16] none true,
         .serve {}] sys'
      ∧ sys'.helper = some s ∧ sys'.requests = [frame]
      ∧ s.state.accepts frame.message = false
      ∧ step {} samplePeer sys' (.serve {}) = some sys''
      ∧ sys''.helper = none
      ∧ ⟨frame.requestId, lifecycleFatal⟩ ∈ sys''.replies := by
  refine ⟨samplePrepared_prepared, _, _, _, _,
    .cons rfl <| .cons rfl <| .cons rfl <| .nil _, rfl, rfl, rfl, rfl, rfl,
    ?_⟩
  decide

end System

end ZeroDpi.Helper
