/-
The helper's session over whole runs of `serve`.

Four variables have to agree: the lifecycle state, the interceptor, the
registrations, and the flow table the interceptor thread reads. What a
frame can do to them, if `serve` goes on after it, is `FrameCase`; the
invariant (`Session.Inv`) is read off that, one lemma per case, and the
packet thread and the poll only touch the entries.
-/
import ZeroDpi.Helper.Client
import ZeroDpi.Helper.Session
import ZeroDpi.Lib.Run

namespace ZeroDpi.Helper

open Lib

-- ============================================================ one frame

/-- The session a `RemoveFlow` leaves. -/
def Session.withoutFlow (s : Session) (flowId : UInt64) : Session :=
  match s.registered.get? flowId with
  | none => s
  | some flow => { s with
      registered := s.registered.remove flowId
      interceptor := s.interceptor.map fun active =>
        { active with flows := active.flows.remove flow.key } }

@[simp] theorem Session.state_withoutFlow (s : Session) (flowId : UInt64) :
    (s.withoutFlow flowId).state = s.state := by
  unfold Session.withoutFlow
  split
  · rfl
  · rfl

/-- The session a `RegisterFlow` leaves. -/
def Session.withFlow (s : Session) (active : InterceptorSession)
    (flowId : UInt64) (key : FlowKey) (entry : FlowState) : Session :=
  { s with
    interceptor := some { active with flows := active.flows.insert key flowId }
    registered := s.registered.insert flowId
      { key := key, entry := entry, lastProgress := none } }

/-- What a frame after which `serve` goes on has done. -/
inductive FrameCase (peer : Peer) (s : Session) :
    Message → Session → Prop where
  | hello {hello : Hello} (hstate : s.state = .created)
      (hproof : hello.sessionProof = peer.proof)
      (hpid : hello.dataPlanePid = peer.peerPid) :
      FrameCase peer s (.hello hello) { s with state := .authenticated }
  | configure {value : InterceptorConfig}
      (hstate : s.state = .authenticated ∨ s.state = .configured) :
      FrameCase peer s (.configureInterceptor value)
        { s with config := some value, state := .configured }
  | opened {method : CompositeMethod Member} {handle : Option UInt8}
      (hstate : s.state = .configured) :
      FrameCase peer s .openInterceptor { s with
        interceptor := some { flows := [], method := method }
        lowTtlHandle := handle
        state := .interceptorOpen }
  | register {flowId : UInt64} {key : FlowKey} {fakeData : Bytes}
      {lowTtlOverride : Option UInt8} {active : InterceptorSession}
      (hstate : s.state = .interceptorOpen)
      (hactive : s.interceptor = some active)
      (hid : s.registered.get? flowId = none)
      (hlimit : s.registered.length < maxLiveFlows)
      (hkey : ∀ e ∈ s.registered, e.2.key ≠ key) :
      FrameCase peer s (.registerFlow flowId key fakeData lowTtlOverride)
        (s.withFlow active flowId key (.new fakeData lowTtlOverride))
  | remove {flowId : UInt64} (hstate : s.state ≠ .created) :
      FrameCase peer s (.removeFlow flowId) (s.withoutFlow flowId)
  | setLowTtl {value : UInt8} (hstate : s.state = .interceptorOpen) :
      FrameCase peer s (.setLowTtlValue value)
        { s with lowTtlHandle := s.lowTtlHandle.map fun _ => value }
  | close (hstate : s.state ≠ .created) :
      FrameCase peer s .closeInterceptor
        { s with registered := [], interceptor := none, state := .configured }
  | ping (hstate : s.state ≠ .created) : FrameCase peer s .ping s

/-- A turn that has answered goes on with the session it meant to. -/
theorem answer_session {env : ServeEnv} {frames : List Frame}
    {next : Option Session} {s' : Session}
    (h : (answer env frames next).session = some s') : next = some s' := by
  unfold answer at h
  split at h
  · exact h
  · cases h

/-- A fatal error leaves no session. -/
theorem fatal_session {env : ServeEnv} {requestId : UInt32}
    {code : ErrorCode} {message : String} {s' : Session}
    (h : (fatal env requestId code message).session = some s') : False := by
  cases answer_session h

/-- A close removes all flows. -/
theorem closeInterceptor_eq {env : ServeEnv} {s s' : Session}
    (h : closeInterceptor env s = some s') :
    s' = { s with registered := [], interceptor := none } := by
  unfold closeInterceptor at h
  split at h
  · cases h
  · cases h
    rfl

/-- A registration, by what it finds. -/
theorem onRegisterFlow_case {peer : Peer} {env : ServeEnv} {s s' : Session}
    {requestId : UInt32} {flowId : UInt64} {key : FlowKey}
    {fakeData : Bytes} {lowTtlOverride : Option UInt8}
    (hstate : s.state = .interceptorOpen)
    (h : (onRegisterFlow env s requestId flowId key fakeData
      lowTtlOverride).session = some s') :
    FrameCase peer s (.registerFlow flowId key fakeData lowTtlOverride)
      s' := by
  unfold onRegisterFlow at h
  split at h
  · exact (fatal_session h).elim
  rename_i hid
  split at h
  · exact (fatal_session h).elim
  rename_i hlimit
  split at h
  · exact (fatal_session h).elim
  rename_i hkey
  split at h
  · cases h
  rename_i active hactive
  cases answer_session h
  refine .register hstate hactive ?_ (by omega) ?_
  · cases hg : s.registered.get? flowId with
    | none => rfl
    | some flow =>
        exact absurd (Table.containsKey_iff.mpr ⟨flow, hg⟩) hid
  · intro e he heq
    exact hkey (List.any_eq_true.mpr ⟨e, he, by simpa using heq⟩)

/-- What a frame does, if `serve` goes on after it. -/
theorem serveFrame_case {peer : Peer} {env : ServeEnv} {s s' : Session}
    {frame : Frame} (h : (serveFrame peer env s frame).session = some s') :
    FrameCase peer s frame.message s' := by
  obtain ⟨requestId, message⟩ := frame
  unfold serveFrame at h
  cases hacc : s.state.accepts message with
  | false =>
      rw [hacc] at h
      exact (fatal_session h).elim
  | true =>
      rw [hacc] at h
      cases message with
      | hello hello =>
          have h : (onHello peer env s requestId hello).session
              = some s' := h
          unfold onHello at h
          split at h
          · exact (fatal_session h).elim
          rename_i hproof
          split at h
          · exact (fatal_session h).elim
          rename_i hpid
          cases answer_session h
          exact .hello (eq_of_beq hacc)
            (by simpa using hproof) (by simpa using hpid)
      | configureInterceptor value =>
          have h : (onConfigure env s requestId value).session
              = some s' := h
          unfold onConfigure at h
          split at h
          · cases answer_session h
            unfold HelperState.accepts at hacc
            exact .configure (by simpa using hacc)
          · cases h
      | openInterceptor =>
          have h : (onOpen env s requestId).session = some s' := h
          unfold onOpen at h
          split at h
          · cases h
          split at h
          · cases h
          split at h
          · cases h
          cases answer_session h
          exact .opened (eq_of_beq hacc)
      | registerFlow flowId key fakeData lowTtlOverride =>
          exact onRegisterFlow_case (eq_of_beq hacc) h
      | removeFlow flowId =>
          cases answer_session h
          refine .remove fun hcreated => ?_
          rw [hcreated] at hacc
          cases hacc
      | setLowTtlValue value =>
          cases answer_session h
          exact .setLowTtl (eq_of_beq hacc)
      | closeInterceptor =>
          cases hclosed : closeInterceptor env s with
          | none =>
              simp only [hclosed] at h
              cases h
          | some closed =>
              simp only [hclosed] at h
              cases answer_session h
              rw [closeInterceptor_eq hclosed]
              refine .close fun hcreated => ?_
              rw [hcreated] at hacc
              cases hacc
      | ping =>
          cases answer_session h
          refine .ping fun hcreated => ?_
          rw [hcreated] at hacc
          cases hacc
      | shutdown =>
          cases hclosed : closeInterceptor env s with
          | none =>
              simp only [hclosed] at h
              cases h
          | some closed =>
              simp only [hclosed] at h
              cases answer_session h
      | _ => cases hacc

-- ====================================================== what is answered

/-- What the lifecycle check answers. -/
def lifecycleFatal : Message :=
  .helperFatal .invalidState "request is invalid in the current helper state"

/-- What a request that passes the lifecycle check is answered with. -/
def Message.IsReply : Message → Prop
  | .helloAccepted _ | .configured | .interceptorReady | .interceptorClosed
  | .flowRegistered _ | .flowRemoved _ | .pong | .shutdownComplete
  | .setLowTtlAck | .helperWarning _ _ => True
  | .helperFatal code text => .helperFatal code text ≠ lifecycleFatal
  | _ => False

/-- The frames of an answer are among those it was given. -/
theorem answer_sent {env : ServeEnv} {frames : List Frame}
    {next : Option Session} {f : Frame}
    (hf : f ∈ (answer env frames next).sent) : f ∈ frames := by
  unfold answer at hf
  split at hf
  · exact hf
  · exact List.mem_of_mem_take hf

/-- One answer to one request. -/
theorem answer_one_sent {env : ServeEnv} {frame f : Frame}
    {next : Option Session}
    (hf : f ∈ (answer env [frame] next).sent) : f = frame :=
  List.mem_singleton.mp (answer_sent hf)

/-- An error is a reply as well. -/
theorem fatal_isReply {env : ServeEnv} {requestId : UInt32}
    {code : ErrorCode} {text : String} {f : Frame}
    (h : Message.helperFatal code text ≠ lifecycleFatal)
    (hf : f ∈ (fatal env requestId code text).sent) :
    f.message.IsReply := by
  rw [answer_one_sent hf]
  exact h

/-- An accepted request is answered with replies. -/
theorem serveFrame_isReply {peer : Peer} {env : ServeEnv} {s : Session}
    {frame f : Frame} (hacc : s.state.accepts frame.message = true)
    (hf : f ∈ (serveFrame peer env s frame).sent) : f.message.IsReply := by
  obtain ⟨requestId, message⟩ := frame
  unfold serveFrame at hf
  have hacc : s.state.accepts message = true := hacc
  rw [hacc] at hf
  cases message with
  | hello hello =>
      have hf : f ∈ (onHello peer env s requestId hello).sent := hf
      unfold onHello at hf
      split at hf
      · exact fatal_isReply (by decide) hf
      split at hf
      · exact fatal_isReply (by decide) hf
      · rw [answer_one_sent hf]
        trivial
  | configureInterceptor value =>
      have hf : f ∈ (onConfigure env s requestId value).sent := hf
      unfold onConfigure at hf
      split at hf
      · rcases List.mem_append.mp (answer_sent hf) with hf | hf
        · split at hf
          · rw [List.mem_singleton.mp hf]
            trivial
          · cases hf
        · rw [List.mem_singleton.mp hf]
          trivial
      · cases hf
  | openInterceptor =>
      have hf : f ∈ (onOpen env s requestId).sent := hf
      unfold onOpen at hf
      split at hf
      · cases hf
      split at hf
      · cases hf
      split at hf
      · cases hf
      · rw [answer_one_sent hf]
        trivial
  | registerFlow flowId key fakeData lowTtlOverride =>
      have hf : f ∈ (onRegisterFlow env s requestId flowId key fakeData
        lowTtlOverride).sent := hf
      unfold onRegisterFlow at hf
      split at hf
      · exact fatal_isReply (by decide) hf
      split at hf
      · exact fatal_isReply (by decide) hf
      split at hf
      · exact fatal_isReply (by decide) hf
      split at hf
      · cases hf
      · rw [answer_one_sent hf]
        trivial
  | removeFlow flowId =>
      rw [answer_one_sent hf]
      trivial
  | setLowTtlValue value =>
      rw [answer_one_sent hf]
      trivial
  | closeInterceptor =>
      cases hclosed : closeInterceptor env s with
      | none =>
          simp only [hclosed] at hf
          cases hf
      | some closed =>
          simp only [hclosed] at hf
          rw [answer_one_sent hf]
          trivial
  | ping =>
      rw [answer_one_sent hf]
      trivial
  | shutdown =>
      cases hclosed : closeInterceptor env s with
      | none =>
          simp only [hclosed] at hf
          cases hf
      | some closed =>
          simp only [hclosed] at hf
          rw [answer_one_sent hf]
          trivial
  | _ => cases hf

-- ========================================================= the invariant

/-- What the variables of `serve` agree on between any two turns. -/
structure Session.Inv (s : Session) : Prop where
  opened : s.state = .interceptorOpen ↔ s.interceptor.isSome = true
  idle : s.state ≠ .interceptorOpen → s.registered = []
  ids : s.registered.NodupKeys
  keys : (s.registered.map fun e => e.2.key).Nodup
  limit : s.registered.length ≤ maxLiveFlows
  /-- The flow table of the interceptor names, under the key of every
  registration, that registration, and nothing else. -/
  flows : ∀ active, s.interceptor = some active →
    active.flows.NodupKeys ∧ ∀ key flowId,
      active.flows.get? key = some flowId
        ↔ ∃ flow, s.registered.get? flowId = some flow ∧ flow.key = key

variable {s : Session}

/-- A new session has nothing. -/
theorem Session.inv_new : Session.new.Inv where
  opened := by
    constructor
    · intro h
      cases h
    · intro h
      cases h
  idle _ := rfl
  ids := List.nodup_nil
  keys := List.nodup_nil
  limit := Nat.zero_le _
  flows _ h := by cases h

namespace Session.Inv

/-- A session without an interceptor. -/
theorem of_closed (hstate : s.state ≠ .interceptorOpen)
    (hactive : s.interceptor = none) (hreg : s.registered = []) :
    s.Inv where
  opened := by
    rw [hactive]
    exact ⟨fun h => absurd h hstate, fun h => by cases h⟩
  idle _ := hreg
  ids := by
    rw [hreg]
    exact List.nodup_nil
  keys := by
    rw [hreg]
    exact List.nodup_nil
  limit := by
    rw [hreg]
    exact Nat.zero_le _
  flows active h := by
    rw [hactive] at h
    cases h

/-- Outside `interceptorOpen` there is neither an interceptor nor a
registration. -/
theorem closed (h : s.Inv) (hstate : s.state ≠ .interceptorOpen) :
    s.interceptor = none ∧ s.registered = [] := by
  refine ⟨?_, h.idle hstate⟩
  cases hi : s.interceptor with
  | none => rfl
  | some active =>
      refine absurd (h.opened.mpr ?_) hstate
      rw [hi]
      rfl

/-- The invariant, over each of the changes: a flow more, -/
theorem withFlow (h : s.Inv) {active : InterceptorSession}
    {flowId : UInt64} {key : FlowKey} {entry : FlowState}
    (hstate : s.state = .interceptorOpen)
    (hactive : s.interceptor = some active)
    (hid : s.registered.get? flowId = none)
    (hlimit : s.registered.length < maxLiveFlows)
    (hkey : ∀ e ∈ s.registered, e.2.key ≠ key) :
    (s.withFlow active flowId key entry).Inv := by
  obtain ⟨hnodup, hflows⟩ := h.flows active hactive
  have hreg : (s.withFlow active flowId key entry).registered
      = (flowId, { key := key, entry := entry, lastProgress := none })
        :: s.registered := by
    unfold Session.withFlow Table.insert
    rw [Table.remove_eq_self hid]
  refine ⟨⟨fun _ => rfl, fun _ => hstate⟩, fun hne => absurd hstate hne,
    h.ids.insert, ?_, ?_, ?_⟩
  · rw [hreg, List.map_cons]
    refine List.nodup_cons.mpr ⟨fun hmem => ?_, h.keys⟩
    obtain ⟨e, he, hek⟩ := List.mem_map.mp hmem
    exact hkey e he hek
  · rw [hreg]
    exact hlimit
  · intro active' hactive'
    cases hactive'
    refine ⟨hnodup.insert, fun key' flowId' => ?_⟩
    show (active.flows.insert key flowId).get? key' = some flowId' ↔
      ∃ flow, (s.registered.insert flowId
        { key := key, entry := entry, lastProgress := none }).get? flowId'
          = some flow ∧ flow.key = key'
    by_cases hk : key' = key
    · subst hk
      rw [Table.get?_insert_self]
      constructor
      · intro heq
        cases heq
        exact ⟨_, Table.get?_insert_self, rfl⟩
      · intro hgiven
        obtain ⟨flow, hflow, hfk⟩ := hgiven
        by_cases hi : flowId' = flowId
        · rw [hi]
        · rw [Table.get?_insert_ne hi] at hflow
          exact absurd hfk (hkey _ (Table.mem_of_get? hflow))
    · rw [Table.get?_insert_ne hk, hflows]
      by_cases hi : flowId' = flowId
      · subst hi
        rw [Table.get?_insert_self, hid]
        constructor
        · intro hgiven
          obtain ⟨flow, hflow, -⟩ := hgiven
          cases hflow
        · intro hgiven
          obtain ⟨flow, hflow, hfk⟩ := hgiven
          cases hflow
          exact absurd hfk.symm hk
      · rw [Table.get?_insert_ne hi]

/-- a flow less, -/
theorem withoutFlow (h : s.Inv) (flowId : UInt64) :
    (s.withoutFlow flowId).Inv := by
  unfold Session.withoutFlow
  cases hg : s.registered.get? flowId with
  | none => exact h
  | some flow =>
      have hstate : s.state = .interceptorOpen := by
        by_cases hs : s.state = .interceptorOpen
        · exact hs
        · rw [h.idle hs] at hg
          cases hg
      obtain ⟨active, hactive⟩ :=
        Option.isSome_iff_exists.mp (h.opened.mp hstate)
      obtain ⟨hnodup, hflows⟩ := h.flows active hactive
      refine ⟨?_, fun hne => absurd hstate hne, h.ids.remove, ?_, ?_, ?_⟩
      · rw [hactive]
        exact ⟨fun _ => rfl, fun _ => hstate⟩
      · exact h.keys.sublist (List.filter_sublist.map _)
      · exact Nat.le_trans (List.length_filter_le _ _) h.limit
      · intro active' hactive'
        rw [hactive] at hactive'
        cases hactive'
        refine ⟨hnodup.remove, fun key' flowId' => ?_⟩
        show (active.flows.remove flow.key).get? key' = some flowId' ↔
          ∃ flow', (s.registered.remove flowId).get? flowId' = some flow'
            ∧ flow'.key = key'
        -- the table names one registration per key
        have hown : active.flows.get? flow.key = some flowId :=
          (hflows _ _).mpr ⟨flow, hg, rfl⟩
        by_cases hk : key' = flow.key
        · subst hk
          rw [Table.get?_remove_self]
          constructor
          · intro heq
            cases heq
          · intro hgiven
            obtain ⟨flow', hflow', hfk⟩ := hgiven
            by_cases hi : flowId' = flowId
            · rw [hi, Table.get?_remove_self] at hflow'
              cases hflow'
            · rw [Table.get?_remove_ne hi] at hflow'
              have hother := (hflows _ _).mpr ⟨flow', hflow', hfk⟩
              rw [hown] at hother
              cases hother
              exact absurd rfl hi
        · rw [Table.get?_remove_ne hk, hflows]
          by_cases hi : flowId' = flowId
          · subst hi
            rw [Table.get?_remove_self, hg]
            constructor
            · intro hgiven
              obtain ⟨flow', hflow', hfk⟩ := hgiven
              cases hflow'
              exact absurd hfk.symm hk
            · intro hgiven
              obtain ⟨flow', hflow', -⟩ := hgiven
              cases hflow'
          · rw [Table.get?_remove_ne hi]

/-- Registrations changed in place, ids and keys kept. -/
theorem mapFlows (h : s.Inv) (g : UInt64 → RegisteredFlow → RegisteredFlow)
    (hg : ∀ flowId flow, (g flowId flow).key = flow.key) :
    Inv { s with registered := s.registered.map fun e =>
      (e.1, g e.1 e.2) } where
  opened := h.opened
  idle hs := by
    show s.registered.map _ = []
    rw [h.idle hs]
    rfl
  ids := by
    unfold Table.NodupKeys
    rw [List.map_map]
    exact h.ids
  keys := by
    show (List.map _ (List.map _ _)).Nodup
    rw [List.map_map]
    have hsame : (fun e : UInt64 × RegisteredFlow => e.2.key)
        ∘ (fun e : UInt64 × RegisteredFlow => (e.1, g e.1 e.2))
          = fun e => e.2.key :=
      funext fun e => hg e.1 e.2
    rw [hsame]
    exact h.keys
  limit := by
    show (List.map _ _).length ≤ _
    rw [List.length_map]
    exact h.limit
  flows active hactive := by
    obtain ⟨hnodup, hflows⟩ := h.flows active hactive
    refine ⟨hnodup, fun key flowId => (hflows key flowId).trans ?_⟩
    show _ ↔ ∃ flow, Table.get? (s.registered.map fun e =>
      (e.1, g e.1 e.2)) flowId = some flow ∧ flow.key = key
    rw [Table.get?_map]
    constructor
    · intro hgiven
      obtain ⟨flow, hflow, hk⟩ := hgiven
      refine ⟨g flowId flow, ?_, (hg flowId flow).trans hk⟩
      rw [hflow]
      rfl
    · intro hgiven
      obtain ⟨flow, hflow, hk⟩ := hgiven
      obtain ⟨flow', hflow', rfl⟩ := Option.map_eq_some_iff.mp hflow
      exact ⟨flow', hflow', (hg flowId flow').symm.trans hk⟩

/-- a flow changed, -/
theorem modifyFlow (h : s.Inv) (flowId : UInt64)
    (f : RegisteredFlow → RegisteredFlow)
    (hf : ∀ flow, (f flow).key = flow.key) :
    Inv { s with registered := s.registered.modify flowId f } := by
  rw [Table.modify_eq_map]
  refine h.mapFlows (fun id flow => if id = flowId then f flow else flow)
    fun id flow => ?_
  by_cases hid : id = flowId
  · rw [if_pos hid]
    exact hf flow
  · rw [if_neg hid]

-- ============================================================= one turn

/-- a frame served, -/
theorem frame {peer : Peer} {message : Message} {s' : Session}
    (h : s.Inv) (hcase : FrameCase peer s message s') : s'.Inv := by
  cases hcase with
  | hello hstate =>
      have hclosed := h.closed (by rw [hstate]; decide)
      exact of_closed (s := { s with state := .authenticated })
        (fun hopen => by cases hopen) hclosed.1 hclosed.2
  | @configure value hstate =>
      have hne : s.state ≠ .interceptorOpen := by
        rcases hstate with hstate | hstate
        · rw [hstate]
          decide
        · rw [hstate]
          decide
      have hclosed := h.closed hne
      exact of_closed
        (s := { s with config := some value, state := .configured })
        (fun hopen => by cases hopen) hclosed.1 hclosed.2
  | @opened method handle hstate =>
      have hreg : s.registered = [] := h.idle (by rw [hstate]; decide)
      refine ⟨⟨fun _ => rfl, fun _ => rfl⟩, fun hne => absurd rfl hne,
        h.ids, h.keys, h.limit, ?_⟩
      -- a fresh table, over registrations that are gone
      intro active hactive
      cases hactive
      refine ⟨List.nodup_nil, fun key flowId => ?_⟩
      show none = some flowId ↔
        ∃ flow, s.registered.get? flowId = some flow ∧ flow.key = key
      rw [hreg]
      constructor
      · intro hnone
        cases hnone
      · intro hgiven
        obtain ⟨flow, hflow, -⟩ := hgiven
        cases hflow
  | register hstate hactive hid hlimit hkey =>
      exact h.withFlow hstate hactive hid hlimit hkey
  | remove => exact h.withoutFlow _
  | setLowTtl => exact ⟨h.opened, h.idle, h.ids, h.keys, h.limit, h.flows⟩
  | close =>
      exact of_closed (s := { s with
        registered := [], interceptor := none, state := .configured })
        (fun hopen => by cases hopen) rfl rfl
  | ping => exact h

/-- progress sent, -/
theorem publishProgress {env : ServeEnv} {s' : Session} (h : s.Inv)
    (hs' : (Helper.publishProgress env s).session = some s') : s'.Inv := by
  cases answer_session hs'
  exact h.mapFlows
    (fun _ flow => { flow with
      lastProgress := flow.news.or flow.lastProgress })
    fun _ _ => rfl

/-- a poll, -/
theorem poll {env : ServeEnv} {failure : Option String} {s' : Session}
    (h : s.Inv) (hs' : (Helper.poll env failure s).session = some s') :
    s'.Inv := by
  unfold Helper.poll at hs'
  split at hs'
  · cases hs'
    exact h
  · exact (fatal_session hs').elim
  · exact h.publishProgress hs'

/-- a packet. -/
theorem onHelperPacket (h : s.Inv) (flowId : UInt64) (env : HookEnv)
    (pkt : CapturedPacket) : (Helper.onHelperPacket s flowId env pkt).Inv := by
  unfold Helper.onHelperPacket
  split
  · exact h
  · refine h.modifyFlow flowId _ fun flow => ?_
    split
    · rfl
    · rfl

/-- So over every turn. -/
theorem turn {peer : Peer} {t : Turn} {s' : Session} (h : s.Inv)
    (hs' : s.turn peer t = some s') : s'.Inv := by
  cases t with
  | frame env frame => exact h.frame (serveFrame_case hs')
  | poll env failure => exact h.poll hs'
  | packet flowId env pkt =>
      cases hs'
      exact h.onHelperPacket flowId env pkt

end Session.Inv

-- ======================================================= authentication

/-- A `Hello` that names the session's proof and the peer's process. -/
def Turn.Authenticates (peer : Peer) (t : Turn) : Prop :=
  ∃ env requestId hello,
    t = .frame env ⟨requestId, .hello hello⟩
      ∧ hello.sessionProof = peer.proof
      ∧ hello.dataPlanePid = peer.peerPid

/-- The first turn that leaves `created` is such a `Hello`. -/
theorem Session.turn_authenticates {peer : Peer} {t : Turn}
    {s' : Session} (hcreated : s.state = .created)
    (hs' : s.turn peer t = some s') :
    s'.state = .created ∨ t.Authenticates peer := by
  cases t with
  | frame env frame =>
      have hcase := serveFrame_case hs'
      obtain ⟨requestId, message⟩ := frame
      cases hcase with
      | hello _ hproof hpid =>
          exact .inr ⟨env, requestId, _, rfl, hproof, hpid⟩
      | configure hstate =>
          rw [hcreated] at hstate
          rcases hstate with hstate | hstate
          · cases hstate
          · cases hstate
      | opened hstate =>
          rw [hcreated] at hstate
          cases hstate
      | register hstate =>
          rw [hcreated] at hstate
          cases hstate
      | remove hstate => exact absurd hcreated hstate
      | setLowTtl hstate =>
          rw [hcreated] at hstate
          cases hstate
      | close hstate => exact absurd hcreated hstate
      | ping hstate => exact absurd hcreated hstate
  | poll env failure =>
      refine .inl ?_
      simp only [Session.turn, Helper.poll] at hs'
      split at hs'
      · cases hs'
        exact hcreated
      · exact (fatal_session hs').elim
      · cases answer_session hs'
        exact hcreated
  | packet flowId env pkt =>
      refine .inl ?_
      cases hs'
      unfold Helper.onHelperPacket
      split
      · exact hcreated
      · exact hcreated

-- ============================================================= every run

/-- The turns of `serve`, as long as it goes on. -/
def Session.Serves (peer : Peer) : Session → List Turn → Session → Prop :=
  Run fun s t s' => s.turn peer t = some s'

/-- A session that serves was authenticated. -/
theorem Session.Serves.authenticated {peer : Peer} {turns : List Turn}
    {s' : Session} (h : s.Serves peer turns s')
    (hcreated : s.state = .created) (hs' : s'.state ≠ .created) :
    ∃ t ∈ turns, t.Authenticates peer := by
  unfold Session.Serves at h
  induction h with
  | nil _ => exact absurd hcreated hs'
  | cons hstep _ ih =>
      rcases Session.turn_authenticates hcreated hstep with hstill | hauth
      · obtain ⟨t, ht, hauth⟩ := ih hstill hs'
        exact ⟨t, List.mem_cons_of_mem _ ht, hauth⟩
      · exact ⟨_, List.mem_cons_self, hauth⟩

/-- And keeps the invariant. -/
theorem Session.Serves.inv {peer : Peer} {turns : List Turn}
    (h : Session.new.Serves peer turns s) : s.Inv := by
  refine Run.invariant (P := Session.Inv) ?_ h Session.inv_new
  intro s t s' hinv hstep
  exact hinv.turn hstep

/-- Whatever a client sends and the packet thread does, the variables of
`serve` agree as long as it goes on, and it has left `created` only for
a `Hello` that matched. -/
theorem session_agrees (peer : Peer) (turns : List Turn) (s : Session)
    (h : Session.new.Serves peer turns s) :
    s.Inv ∧ (s.state ≠ .created → ∃ t ∈ turns, t.Authenticates peer) := by
  refine ⟨Session.Serves.inv h, ?_⟩
  intro hs
  exact Session.Serves.authenticated h rfl hs

/-- The two ends of a served session. -/
def servedPeer : Peer where
  proof := List.replicate 32 7
  peerPid := 42
  peerUid := 10001
  helperPid := 43
  helperUid := 0

/-- A client that opens the default interceptor, registers a flow, sees
it polled, and removes another one that was never registered. -/
def servedTurns : List Turn :=
  [.frame {} ⟨1, .hello ⟨List.replicate 32 7, 42, "0.3.0"⟩⟩,
   .frame {} ⟨2, .configureInterceptor
     (interceptorConfig {} 0x0A000001 none 443)⟩,
   .frame {} ⟨3, .openInterceptor⟩,
   .frame {} ⟨4, .registerFlow 1 ⟨0x0A000001, 40000, 0x01010101, 443⟩
     [0x16] none⟩,
   .poll {} none,
   .frame {} ⟨0, .removeFlow 9⟩]

/-- A session with a flow. -/
theorem served_turns_agree :
    ∃ s, Session.new.Serves servedPeer servedTurns s
      ∧ s.registered.length = 1 ∧ s.Inv
      ∧ ∃ t ∈ servedTurns, t.Authenticates servedPeer := by
  have hrun : ∃ s, Session.new.Serves servedPeer servedTurns s
      ∧ s.state = .interceptorOpen ∧ s.registered.length = 1 :=
    ⟨_, .cons rfl <| .cons rfl <| .cons rfl <| .cons rfl <| .cons rfl <|
      .cons rfl <| .nil _, rfl, rfl⟩
  obtain ⟨s, hserves, hstate, hlength⟩ := hrun
  have hagrees := session_agrees servedPeer servedTurns s hserves
  refine ⟨s, hserves, hlength, hagrees.1, hagrees.2 ?_⟩
  rw [hstate]
  decide

end ZeroDpi.Helper
