/-
The remote flow controller against the local one.

The remote side keeps a flow in three places: the client's map from keys
to flow ids, its entries by flow id, and the helper's registrations. A
registration writes the first two before the helper has answered, and
takes them back by key if the answer is not the one it wants. So after
any registration the local controller has the flow, and the remote one
has it exactly if the helper agreed (`registerFlow_of_clear`,
`registerFlow_refused`). `Clear` is what the helper and the protocol
agree to, read off the state before the call.

The invariant (`Inv`) says that a flow the client has is registered with
an open helper under the id the client has for it. Clear registrations
keep it, and every other call does; `along_iff` makes runs of it.
-/
import ZeroDpi.Helper.Controller
import ZeroDpi.Proofs.Client
import ZeroDpi.Proofs.Session

namespace ZeroDpi.Helper

open Lib

-- ======================================================= the local plane

/-- After a registration the local controller has the flow, whatever it
answered. -/
theorem local_registerFlow_exists (c : LocalFlowController)
    (key key' : FlowKey) (fakeData : Bytes) (lowTtlOverride : Option UInt8) :
    FlowController.flowExists
        (c.registerFlow key fakeData lowTtlOverride).2 key'
      = (decide (key' = key) || FlowController.flowExists c key') := by
  show Table.containsKey _ key' = (_ || Table.containsKey _ key')
  unfold LocalFlowController.registerFlow
  cases hget : c.flows.get? key with
  | none => exact Table.containsKey_insert
  | some entry =>
      by_cases hkey : key' = key
      · have hin : c.flows.containsKey key = true :=
          Table.containsKey_iff.mpr ⟨entry, hget⟩
        simp [hkey, hin]
      · simp [hkey]

/-- It is refused exactly if the flow was there. -/
theorem local_registerFlow_isOk (c : LocalFlowController) (key : FlowKey)
    (fakeData : Bytes) (lowTtlOverride : Option UInt8) :
    (c.registerFlow key fakeData lowTtlOverride).1.isOk
      = !FlowController.flowExists c key := by
  show _ = !Table.containsKey _ key
  unfold LocalFlowController.registerFlow
  cases hget : c.flows.get? key with
  | none =>
      have hout : c.flows.containsKey key = false := by
        rw [Table.containsKey_eq_isSome, hget]
        rfl
      rw [hout]
      rfl
  | some entry =>
      rw [Table.containsKey_iff.mpr ⟨entry, hget⟩]
      rfl

-- ==================================================== what a client keeps

namespace RemoteHelperClient

variable {c : RemoteHelperClient}

/-- A disconnect forgets no id. -/
theorem disconnect_flowIds (c : RemoteHelperClient) (reason : String) :
    (c.disconnect reason).flowIds = c.flowIds := by
  unfold disconnect
  split
  · rfl
  · rfl

/-- The reader never touches the map from keys to ids. -/
theorem handleFrame_flowIds (c : RemoteHelperClient) (frame : Frame) :
    (c.handleFrame frame).flowIds = c.flowIds := by
  unfold handleFrame
  split
  · rfl
  · rfl
  · exact c.disconnect_flowIds _
  · split
    · rfl
    · rfl

/-- What an idle client asks goes out if ids are left and the protocol
takes the message. -/
theorem beginRequest_of_valid {io : Bool} {message : Message}
    (hopen : c.Open) (hidle : c.pending = []) (hio : io = true)
    (hvalid : message.validate = .ok ()) :
    c.beginRequest io message
      = ⟨{ c.counted with pending := [c.nextRequestId] },
          [⟨c.nextRequestId, message⟩], .ok c.nextRequestId⟩ := by
  have hconn : ¬ c.disconnected = true := by
    rw [hopen.connected]
    decide
  unfold beginRequest
  rw [if_neg hconn, if_neg hopen.ids]
  simp only [hidle, hio, write_of_valid hvalid]
  rfl

/-- Otherwise it does not wait for anything. -/
theorem beginRequest_refused {io : Bool} {message : Message}
    (h : c.nextRequestId = 0xFFFFFFFF ∨ io = false
      ∨ message.validate ≠ .ok ()) :
    ∃ e, (c.beginRequest io message).waits = .error e := by
  have hwrite : c.nextRequestId = 0xFFFFFFFF
      ∨ write io c.nextRequestId message = [] := by
    rcases h with h | h | h
    · exact .inl h
    · refine .inr ?_
      unfold write
      rw [h]
      split
      · rfl
      · rfl
    · refine .inr ?_
      unfold write
      split
      case h_1 hok => exact absurd hok h
      · rfl
  unfold beginRequest
  split
  · exact ⟨_, rfl⟩
  · rcases hwrite with h | h
    · rw [if_pos h]
      exact ⟨_, rfl⟩
    · split
      · exact ⟨_, rfl⟩
      · simp only
        split
        · exact ⟨_, rfl⟩
        · rw [h]
          exact ⟨_, rfl⟩

/-- The answer to the one request of a client is its result. -/
theorem takeAnswer_registered (hidle : c.pending = [])
    (htaken : c.answers = []) (requestId : UInt32) (flowId : UInt64) :
    ({ c with pending := [requestId] }.handleFrame
        ⟨requestId, .flowRegistered flowId⟩).takeAnswer requestId
      = some (.ok (.flowRegistered flowId), c) := by
  obtain ⟨pending, answers, flows, flowIds, nextRequestId, nextFlowId,
    disconnected⟩ := c
  cases hidle
  cases htaken
  simp [handleFrame, takeAnswer, Table.insert, Table.remove, Table.get?]

/-- And so is the end of the connection. -/
theorem takeAnswer_fatal (hconn : c.disconnected = false)
    (htaken : c.answers = []) (requestId : UInt32) (code : ErrorCode)
    (text reason : String) :
    ∃ e c', (({ c with pending := [requestId] }.handleFrame
        ⟨requestId, .helperFatal code text⟩).disconnect reason).takeAnswer
          requestId
      = some (.error e, c') := by
  obtain ⟨pending, answers, flows, flowIds, nextRequestId, nextFlowId,
    disconnected⟩ := c
  cases hconn
  cases htaken
  simp [handleFrame, disconnect, takeAnswer, Table.get?]

/-- A client that waits for nothing ignores answers. -/
theorem handleFrame_of_idle (hidle : c.pending = []) {frame : Frame}
    (hother : (∃ flowId, frame.message = .flowRemoved flowId)
      ∨ frame.message = .pong) : c.handleFrame frame = c := by
  obtain ⟨requestId, message⟩ := frame
  have hpending : c.pending.contains requestId = false := by
    rw [hidle]
    rfl
  rcases hother with ⟨flowId, rfl⟩ | rfl
  · show (if c.pending.contains requestId then _ else _) = _
    rw [hpending]
    rfl
  · show (if c.pending.contains requestId then _ else _) = _
    rw [hpending]
    rfl

/-- Reports change entries in place. -/
theorem foldl_progress {frames : List Frame}
    (h : ∀ f ∈ frames, ∃ flowId p, f.message = .flowProgress flowId p)
    (c : RemoteHelperClient) :
    ∃ flows, frames.foldl handleFrame c = { c with flows := flows }
      ∧ ∀ flowId, flows.containsKey flowId = c.flows.containsKey flowId := by
  induction frames generalizing c with
  | nil => exact ⟨c.flows, rfl, fun _ => rfl⟩
  | cons f frames ih =>
      obtain ⟨flowId, p, hf⟩ := h f List.mem_cons_self
      have hhandled : c.handleFrame f
          = { c with flows := c.flows.modify flowId (applyProgress p) } := by
        unfold handleFrame
        rw [hf]
      obtain ⟨flows, hfold, hkeys⟩ :=
        ih (fun g hg => h g (List.mem_cons_of_mem f hg)) (c.handleFrame f)
      rw [hhandled] at hfold hkeys
      refine ⟨flows, ?_, fun flowId' => ?_⟩
      · rw [List.foldl_cons, hhandled]
        exact hfold
      · rw [hkeys]
        exact Table.containsKey_modify _

/-- The client without a flow. -/
def withoutFlow (c : RemoteHelperClient) (key : FlowKey)
    (flowId : UInt64) : RemoteHelperClient :=
  { c with
    flowIds := c.flowIds.remove key
    flows := c.flows.remove flowId }

/-- A removal that is sent. -/
theorem removeFlow_of_get {key : FlowKey} {flowId : UInt64}
    (hget : c.flowIds.get? key = some flowId) (hid : flowId ≠ 0) :
    c.removeFlow true key
      = (c.withoutFlow key flowId, [⟨0, .removeFlow flowId⟩]) := by
  have hvalid : (Message.removeFlow flowId).validate = .ok () := by
    show invalidIf (flowId == 0) _ = _
    rw [beq_eq_false_iff_ne.mpr hid]
    rfl
  unfold removeFlow
  rw [hget, ← write_of_valid hvalid]
  rfl

end RemoteHelperClient

-- =========================================================== one exchange

namespace RemoteFlowController

variable {r : RemoteFlowController} {session : Session}

/-- Answers register nothing. -/
theorem receive_flowIds (r : RemoteFlowController) (turn : Served) :
    (r.receive turn).client.flowIds = r.client.flowIds := by
  have hfold : ∀ (frames : List Frame) (c : RemoteHelperClient),
      (frames.foldl RemoteHelperClient.handleFrame c).flowIds
        = c.flowIds := by
    intro frames
    induction frames with
    | nil => exact fun _ => rfl
    | cons frame frames ih =>
        exact fun c => (ih _).trans (c.handleFrame_flowIds frame)
  unfold receive
  simp only
  split
  · exact hfold _ _
  · exact (RemoteHelperClient.disconnect_flowIds _ _).trans (hfold _ _)

/-- Nothing that a write sets off touches the map from keys to ids. -/
theorem deliver_flowIds (r : RemoteFlowController) (frames : List Frame) :
    (r.deliver frames).client.flowIds = r.client.flowIds := by
  unfold deliver
  induction frames generalizing r with
  | nil => rfl
  | cons frame frames ih =>
      rw [List.foldl_cons, ih]
      split
      · rfl
      · exact r.receive_flowIds _

/-- The helper serves a frame at once. -/
theorem deliver_one (h : r.helper = some session) (frame : Frame) :
    r.deliver [frame] = r.receive (serveFrame r.peer {} session frame) := by
  unfold deliver
  rw [List.foldl_cons, List.foldl_nil, h]

/-- A turn that answers one frame and goes on. -/
theorem receive_one {next : Session} (frame : Frame) :
    r.receive { session := some next, sent := [frame] }
      = { r with
          client := r.client.handleFrame frame
          helper := some next } :=
  rfl

/-- A flow is gone after its removal, whatever becomes of the frame, and
the others stay. -/
theorem flowExists_removeFlow (r : RemoteFlowController)
    (key key' : FlowKey) :
    FlowController.flowExists (r.removeFlow key) key'
      = (decide (key' ≠ key) && FlowController.flowExists r key') := by
  show Table.containsKey _ key' = (_ && Table.containsKey _ key')
  unfold removeFlow
  simp only
  rw [deliver_flowIds]
  unfold RemoteHelperClient.removeFlow
  cases hget : r.client.flowIds.get? key with
  | none =>
      by_cases hkey : key' = key
      · have hout : r.client.flowIds.containsKey key = false := by
          rw [Table.containsKey_eq_isSome, hget]
          rfl
        simp [hkey, hout]
      · simp [hkey]
  | some flowId => exact Table.containsKey_remove

-- ======================================================== registrations

/-- The request a registration makes. -/
def asks (r : RemoteFlowController) (key : FlowKey) (fakeData : Bytes)
    (lowTtlOverride : Option UInt8) : Message :=
  .registerFlow r.client.nextFlowId key fakeData lowTtlOverride

/-- What the protocol and the helper agree to: a valid request that fits
in a frame, while request ids are left, for a flow that the helper does
not have and still has room for. -/
structure Clear (r : RemoteFlowController) (key : FlowKey)
    (fakeData : Bytes) (lowTtlOverride : Option UInt8) : Prop where
  ids : r.client.nextRequestId ≠ 0xFFFFFFFF
  valid : (r.asks key fakeData lowTtlOverride).validate = .ok ()
  fits : (r.asks key fakeData lowTtlOverride).toVec.length ≤ maxFrameSize
  room : ∀ session, r.helper = some session →
    session.registered.length < maxLiveFlows
  unknown : ∀ session, r.helper = some session →
    ∀ e ∈ session.registered, e.2.key ≠ key

/-- Clearness read off a state whose next flow id and session are
known. -/
theorem clear_of_helper {key : FlowKey} {fakeData : Bytes}
    {lowTtlOverride : Option UInt8} (flowId : UInt64)
    (hid : r.client.nextFlowId = flowId) (hhelper : r.helper = some session)
    (hids : r.client.nextRequestId ≠ 0xFFFFFFFF)
    (hvalid : (Message.registerFlow flowId key fakeData
      lowTtlOverride).validate = .ok ())
    (hfits : (Message.registerFlow flowId key fakeData
      lowTtlOverride).toVec.length ≤ maxFrameSize)
    (hroom : session.registered.length < maxLiveFlows)
    (hunknown : ∀ e ∈ session.registered, e.2.key ≠ key) :
    r.Clear key fakeData lowTtlOverride := by
  subst hid
  refine ⟨hids, hvalid, hfits, fun session' h => ?_, fun session' h => ?_⟩
  · cases hhelper.symm.trans h
    exact hroom
  · cases hhelper.symm.trans h
    exact hunknown

/-- What holds of the remote controller between calls, with the helper's
session. -/
structure Inv (r : RemoteFlowController) (session : Session) : Prop where
  helper : r.helper = some session
  state : session.state = .interceptorOpen
  agrees : session.Inv
  connected : r.client.disconnected = false
  idle : r.client.pending = []
  taken : r.client.answers = []
  counted : 0 < r.client.nextFlowId.toNat
    ∧ r.client.nextFlowId.toNat ≤ r.client.nextRequestId.toNat
  /-- The next flow id is not in use, and no flow has id zero. -/
  ids : ∀ e ∈ session.registered,
    0 < e.1.toNat ∧ e.1.toNat < r.client.nextFlowId.toNat
  /-- A flow the client has is registered under the id it has for it. -/
  held : ∀ key flowId, r.client.flowIds.get? key = some flowId →
    r.client.flows.containsKey flowId = true
      ∧ ∃ flow, session.registered.get? flowId = some flow
        ∧ flow.key = key

/-- Ids do not run out. -/
theorem Inv.nextFlowId_ne_zero (h : r.Inv session) :
    r.client.nextFlowId ≠ 0 := by
  intro hzero
  have hpos := h.counted.1
  rw [hzero] at hpos
  exact absurd hpos (Nat.lt_irrefl 0)

/-- The next one is new. -/
theorem Inv.fresh (h : r.Inv session) :
    session.registered.get? r.client.nextFlowId = none := by
  refine Table.get?_eq_none_iff.mpr fun e he heq => ?_
  have hlt := (h.ids e he).2
  rw [heq] at hlt
  exact absurd hlt (Nat.lt_irrefl _)

/-- The interceptor is open. -/
theorem Inv.active (h : r.Inv session) :
    ∃ active, session.interceptor = some active :=
  Option.isSome_iff_exists.mp (h.agrees.opened.mp h.state)

/-- A registration up to its request. -/
theorem registerFlow_eq (hid : r.client.nextFlowId ≠ 0) (key : FlowKey)
    (fakeData : Bytes) (lowTtlOverride : Option UInt8) :
    r.registerFlow key fakeData lowTtlOverride
      = match { r with client := r.client.enrolled key lowTtlOverride
          }.request (r.asks key fakeData lowTtlOverride) with
        | (.ok response, r') =>
            if response = .flowRegistered r.client.nextFlowId then
              (.ok (.new [] lowTtlOverride), r')
            else
              (.error s!"unexpected flow registration response: {repr response}",
                r'.removeFlow key)
        | (.error error, r') => (.error error, r'.removeFlow key) := by
  unfold registerFlow
  rw [if_neg hid]
  rfl

/-- The helper's answer to a clear registration. -/
theorem serve_register (h : r.Inv session) {active : InterceptorSession}
    (hactive : session.interceptor = some active) {key : FlowKey}
    {fakeData : Bytes} {lowTtlOverride : Option UInt8}
    (hclear : r.Clear key fakeData lowTtlOverride) (requestId : UInt32) :
    serveFrame r.peer {} session
        ⟨requestId, r.asks key fakeData lowTtlOverride⟩
      = { session := some (session.withFlow active r.client.nextFlowId key
            (.new fakeData lowTtlOverride))
          sent := [⟨requestId, .flowRegistered r.client.nextFlowId⟩] } := by
  have hacc : session.state.accepts (r.asks key fakeData lowTtlOverride)
      = true := by
    rw [h.state]
    rfl
  have hid : session.registered.containsKey r.client.nextFlowId
      = false := by
    rw [Table.containsKey_eq_isSome, h.fresh]
    rfl
  have hroom := Nat.not_le_of_lt (hclear.room session h.helper)
  have hkey : (session.registered.any fun e => e.2.key = key) = false := by
    refine List.any_eq_false.mpr fun e he => ?_
    simpa using hclear.unknown session h.helper e he
  unfold serveFrame
  rw [hacc]
  show onRegisterFlow {} session requestId r.client.nextFlowId key fakeData
    lowTtlOverride = _
  unfold onRegisterFlow
  rw [hid, hkey, if_neg hroom, hactive]
  rfl

/-- And to one of a flow it has, or has no room for. -/
theorem serve_register_refused (h : r.Inv session) {key : FlowKey}
    (fakeData : Bytes) (lowTtlOverride : Option UInt8)
    (hrefused : maxLiveFlows ≤ session.registered.length
      ∨ ∃ e ∈ session.registered, e.2.key = key) (requestId : UInt32) :
    ∃ code text, serveFrame r.peer {} session
        ⟨requestId, r.asks key fakeData lowTtlOverride⟩
      = { session := none
          sent := [⟨requestId, .helperFatal code text⟩] } := by
  have hacc : session.state.accepts (r.asks key fakeData lowTtlOverride)
      = true := by
    rw [h.state]
    rfl
  have hserve : serveFrame r.peer {} session
      ⟨requestId, r.asks key fakeData lowTtlOverride⟩
        = onRegisterFlow {} session requestId r.client.nextFlowId key
          fakeData lowTtlOverride := by
    unfold serveFrame
    rw [hacc]
    rfl
  rw [hserve]
  unfold onRegisterFlow
  by_cases hid : session.registered.containsKey r.client.nextFlowId = true
  · rw [if_pos hid]
    exact ⟨_, _, rfl⟩
  rw [if_neg hid]
  by_cases hroom : maxLiveFlows ≤ session.registered.length
  · rw [if_pos hroom]
    exact ⟨_, _, rfl⟩
  rw [if_neg hroom]
  rcases hrefused with hfull | ⟨e, he, hkey⟩
  · exact absurd hfull hroom
  · have hany : (session.registered.any fun e => e.2.key = key) = true :=
      List.any_eq_true.mpr ⟨e, he, by simpa using hkey⟩
    rw [if_pos hany]
    exact ⟨_, _, rfl⟩

/-- A request that does not go out. -/
theorem request_unsent {message : Message}
    (h : r.client.nextRequestId = 0xFFFFFFFF ∨ framed message = false
      ∨ message.validate ≠ .ok ()) :
    ∃ e r', r.request message = (.error e, r') := by
  obtain ⟨e, he⟩ := r.client.beginRequest_refused h
  unfold request
  simp only [he]
  exact ⟨_, _, rfl⟩

/-- A client that has put its one request on the wire. -/
def asking (r : RemoteFlowController) : RemoteFlowController :=
  { r with client := { r.client.counted with
      pending := [r.client.nextRequestId] } }

/-- A request that goes out takes its result from the helper's turn. -/
theorem request_sent {message : Message} {turn : Served}
    {answer : Except String Message} {client : RemoteHelperClient}
    (hopen : r.client.Open) (hidle : r.client.pending = [])
    (hframed : framed message = true) (hvalid : message.validate = .ok ())
    (hhelper : r.helper = some session)
    (hturn : serveFrame r.peer {} session
      ⟨r.client.nextRequestId, message⟩ = turn)
    (hanswer : (r.asking.receive turn).client.takeAnswer
      r.client.nextRequestId = some (answer, client)) :
    r.request message
      = (answer, { r.asking.receive turn with client := client }) := by
  have hserved : r.asking.deliver [⟨r.client.nextRequestId, message⟩]
      = r.asking.receive turn := by
    rw [deliver_one (r := r.asking) hhelper]
    exact congrArg r.asking.receive hturn
  rw [← hserved] at hanswer ⊢
  unfold request
  rw [RemoteHelperClient.beginRequest_of_valid hopen hidle hframed hvalid]
  unfold asking at hanswer ⊢
  simp only [hanswer]

/-- A flow that is enrolled waits for its answer. -/
theorem Inv.enrolled_open (h : r.Inv session) {key : FlowKey}
    {lowTtlOverride : Option UInt8}
    (hids : r.client.nextRequestId ≠ 0xFFFFFFFF) :
    (r.client.enrolled key lowTtlOverride).Open :=
  ⟨h.connected, hids⟩

/-- A registration that goes through: what it answers and leaves. -/
theorem registerFlow_of_clear (h : r.Inv session)
    {active : InterceptorSession}
    (hactive : session.interceptor = some active) {key : FlowKey}
    {fakeData : Bytes} {lowTtlOverride : Option UInt8}
    (hclear : r.Clear key fakeData lowTtlOverride) :
    r.registerFlow key fakeData lowTtlOverride
      = (.ok (.new [] lowTtlOverride), { r with
          client := (r.client.enrolled key lowTtlOverride).counted
          helper := some (session.withFlow active r.client.nextFlowId key
            (.new fakeData lowTtlOverride)) }) := by
  have hrequest := request_sent
    (r := { r with client := r.client.enrolled key lowTtlOverride })
    (h.enrolled_open hclear.ids) h.idle (decide_eq_true hclear.fits)
    hclear.valid h.helper
    (serve_register h hactive hclear r.client.nextRequestId)
    (RemoteHelperClient.takeAnswer_registered
      (c := (r.client.enrolled key lowTtlOverride).counted) h.idle h.taken
      r.client.nextRequestId r.client.nextFlowId)
  rw [registerFlow_eq h.nextFlowId_ne_zero, hrequest]
  show (if _ then _ else _) = _
  rw [if_pos rfl]
  rfl

/-- One that does not: an error, and the flow is gone. -/
theorem registerFlow_refused (h : r.Inv session) {key : FlowKey}
    {fakeData : Bytes} {lowTtlOverride : Option UInt8}
    (hclear : ¬ r.Clear key fakeData lowTtlOverride) :
    (r.registerFlow key fakeData lowTtlOverride).1.isOk = false
      ∧ FlowController.flowExists
        (r.registerFlow key fakeData lowTtlOverride).2 key = false := by
  have hrequest : ∃ e r', { r with
      client := r.client.enrolled key lowTtlOverride }.request
        (r.asks key fakeData lowTtlOverride) = (.error e, r') := by
    by_cases hids : r.client.nextRequestId = 0xFFFFFFFF
    · exact request_unsent (.inl hids)
    by_cases hframed : framed (r.asks key fakeData lowTtlOverride) = true
    case neg => exact request_unsent (.inr (.inl (by simpa using hframed)))
    by_cases hvalid : (r.asks key fakeData lowTtlOverride).validate = .ok ()
    case neg => exact request_unsent (.inr (.inr hvalid))
    -- the request goes out, so it is the helper that refuses
    have hrefused : maxLiveFlows ≤ session.registered.length
        ∨ ∃ e ∈ session.registered, e.2.key = key := by
      by_cases hroom : maxLiveFlows ≤ session.registered.length
      · exact .inl hroom
      by_cases hkey : ∃ e ∈ session.registered, e.2.key = key
      · exact .inr hkey
      refine absurd ⟨hids, hvalid, of_decide_eq_true hframed, ?_, ?_⟩ hclear
      · intro session' hs
        cases h.helper.symm.trans hs
        omega
      · intro session' hs e he heq
        cases h.helper.symm.trans hs
        exact hkey ⟨e, he, heq⟩
    obtain ⟨code, text, hturn⟩ := serve_register_refused h fakeData
      lowTtlOverride hrefused r.client.nextRequestId
    obtain ⟨e, client, hanswer⟩ := RemoteHelperClient.takeAnswer_fatal
      (c := (r.client.enrolled key lowTtlOverride).counted) h.connected
      h.taken r.client.nextRequestId code text
      "I/O error: failed to fill whole buffer"
    exact ⟨e, _, request_sent
      (r := { r with client := r.client.enrolled key lowTtlOverride })
      (h.enrolled_open hids) h.idle hframed hvalid h.helper hturn hanswer⟩
  obtain ⟨e, r', hrequest⟩ := hrequest
  rw [registerFlow_eq h.nextFlowId_ne_zero, hrequest]
  refine ⟨rfl, ?_⟩
  show FlowController.flowExists (r'.removeFlow key) key = false
  rw [flowExists_removeFlow]
  simp

/-- A clear registration keeps the invariant. -/
theorem Inv.register (h : r.Inv session) {active : InterceptorSession}
    (hactive : session.interceptor = some active) {key : FlowKey}
    {fakeData : Bytes} {lowTtlOverride : Option UInt8}
    (hclear : r.Clear key fakeData lowTtlOverride) :
    Inv { r with
      client := (r.client.enrolled key lowTtlOverride).counted
      helper := some (session.withFlow active r.client.nextFlowId key
        (.new fakeData lowTtlOverride)) }
      (session.withFlow active r.client.nextFlowId key
        (.new fakeData lowTtlOverride)) := by
  have hrequest : (r.client.nextRequestId + 1).toNat
      = r.client.nextRequestId.toNat + 1 :=
    RemoteHelperClient.toNat_succ_requestId ⟨h.connected, hclear.ids⟩
  have hflow : (r.client.nextFlowId + 1).toNat
      = r.client.nextFlowId.toNat + 1 := by
    have hle := h.counted.2
    have hlt := r.client.nextRequestId.toNat_lt
    rw [UInt64.toNat_add]
    simp only [UInt64.toNat_one]
    omega
  have hcounted := h.counted
  refine ⟨rfl, h.state, h.agrees.withFlow h.state hactive h.fresh
      (hclear.room session h.helper) (hclear.unknown session h.helper),
    h.connected, h.idle, h.taken, ?_, ?_, ?_⟩
  · show 0 < (r.client.nextFlowId + 1).toNat
      ∧ (r.client.nextFlowId + 1).toNat ≤ (r.client.nextRequestId + 1).toNat
    omega
  · intro e he
    show _ ∧ e.1.toNat < (r.client.nextFlowId + 1).toNat
    rw [hflow]
    rcases List.mem_cons.mp he with rfl | he
    · exact ⟨h.counted.1, Nat.lt_succ_self _⟩
    · have hold := h.ids e (List.mem_filter.mp he).1
      exact ⟨hold.1, Nat.lt_succ_of_lt hold.2⟩
  · intro key' flowId hget
    show (r.client.flows.insert r.client.nextFlowId _).containsKey flowId
        = true
      ∧ ∃ flow, (session.registered.insert r.client.nextFlowId _).get?
        flowId = some flow ∧ flow.key = key'
    rw [Table.containsKey_insert]
    by_cases hkey : key' = key
    · have hnew : some r.client.nextFlowId = some flowId := by
        rw [← hget, hkey]
        exact Table.get?_insert_self.symm
      cases hnew
      exact ⟨by simp, _, Table.get?_insert_self, hkey.symm⟩
    · have hold : r.client.flowIds.get? key' = some flowId := by
        rw [← hget]
        exact (Table.get?_insert_ne hkey).symm
      obtain ⟨hentry, flow, hflow', hk⟩ := h.held key' flowId hold
      refine ⟨by simp [hentry], flow, ?_, hk⟩
      rw [Table.get?_insert_ne]
      · exact hflow'
      · intro heq
        rw [heq, h.fresh] at hflow'
        cases hflow'

-- ============================================================== removals

/-- The helper removes what it is told to. -/
theorem serve_remove (peer : Peer) (hstate : session.state = .interceptorOpen)
    (requestId : UInt32) (flowId : UInt64) :
    serveFrame peer {} session ⟨requestId, .removeFlow flowId⟩
      = { session := some (session.withoutFlow flowId)
          sent := [⟨requestId, .flowRemoved flowId⟩] } := by
  have hacc : session.state.accepts (.removeFlow flowId) = true := by
    rw [hstate]
    rfl
  unfold serveFrame
  rw [hacc]
  rfl

/-- Removing a flow that the client has: what it leaves. -/
theorem removeFlow_of_get (h : r.Inv session) {key : FlowKey}
    {flowId : UInt64} (hget : r.client.flowIds.get? key = some flowId) :
    r.removeFlow key = { r with
      client := r.client.withoutFlow key flowId
      helper := some (session.withoutFlow flowId) } := by
  obtain ⟨-, flow, hflow, -⟩ := h.held key flowId hget
  have hid : flowId ≠ 0 := by
    intro hzero
    have hpos := (h.ids _ (Table.mem_of_get? hflow)).1
    rw [hzero] at hpos
    exact absurd hpos (Nat.lt_irrefl 0)
  unfold removeFlow
  rw [RemoteHelperClient.removeFlow_of_get hget hid]
  simp only
  have hignored : (r.client.withoutFlow key flowId).handleFrame
      ⟨0, .flowRemoved flowId⟩ = r.client.withoutFlow key flowId :=
    RemoteHelperClient.handleFrame_of_idle
      (c := r.client.withoutFlow key flowId) h.idle (.inl ⟨flowId, rfl⟩)
  rw [deliver_one (r := { r with
      client := r.client.withoutFlow key flowId }) h.helper,
    serve_remove _ h.state, receive_one, hignored]

/-- A key that is not there. -/
theorem removeFlow_of_none {key : FlowKey}
    (hget : r.client.flowIds.get? key = none) : r.removeFlow key = r := by
  unfold removeFlow RemoteHelperClient.removeFlow
  rw [hget]
  rfl

/-- A removal keeps the invariant. -/
theorem Inv.remove (h : r.Inv session) {key : FlowKey} {flowId : UInt64}
    (hget : r.client.flowIds.get? key = some flowId) :
    Inv { r with
      client := r.client.withoutFlow key flowId
      helper := some (session.withoutFlow flowId) }
      (session.withoutFlow flowId) := by
  obtain ⟨-, flow, hflow, hkey⟩ := h.held key flowId hget
  have hstate := session.state_withoutFlow flowId
  have hreg : (session.withoutFlow flowId).registered
      = session.registered.remove flowId := by
    unfold Session.withoutFlow
    rw [hflow]
  refine ⟨rfl, hstate.trans h.state, h.agrees.withoutFlow flowId,
    h.connected, h.idle, h.taken, h.counted, ?_, ?_⟩
  · intro e he
    rw [hreg] at he
    exact h.ids e (List.mem_filter.mp he).1
  · intro key' flowId' hget'
    have hget' : (r.client.flowIds.remove key).get? key'
        = some flowId' := hget'
    show (r.client.flows.remove flowId).containsKey flowId' = true ∧ _
    have hne : key' ≠ key := by
      intro heq
      subst heq
      rw [Table.get?_remove_self] at hget'
      cases hget'
    have hold : r.client.flowIds.get? key' = some flowId' := by
      rw [← hget', Table.get?_remove_ne hne]
    obtain ⟨hentry, flow', hflow', hkey'⟩ := h.held key' flowId' hold
    -- another key, so another registration
    have hid : flowId' ≠ flowId := by
      intro heq
      subst heq
      rw [hflow] at hflow'
      cases hflow'
      exact hne (hkey'.symm.trans hkey)
    rw [hreg, Table.containsKey_remove, Table.get?_remove_ne hid]
    exact ⟨by simp [hid, hentry], flow', hflow', hkey'⟩

/-- The flows of a reset controller are gone; the helper is not told. -/
theorem Inv.reset (h : r.Inv session) :
    Inv { r with client := r.client.reset } session where
  helper := h.helper
  state := h.state
  agrees := h.agrees
  connected := h.connected
  idle := h.idle
  taken := h.taken
  counted := h.counted
  ids := h.ids
  held _ _ hget := by cases hget

-- ========================================================= between calls

/-- A ping leaves everything as it was. -/
theorem Inv.write_ping (h : r.Inv session) : r.write 0 .ping = r := by
  have hframed : framed .ping = true := by decide
  have hserve : serveFrame r.peer {} session ⟨0, .ping⟩
      = { session := some session, sent := [⟨0, .pong⟩] } := by
    have hacc : session.state.accepts .ping = true := by
      rw [h.state]
      rfl
    unfold serveFrame
    rw [hacc]
    rfl
  unfold write
  rw [hframed, RemoteHelperClient.write_of_valid rfl,
    deliver_one h.helper, hserve, receive_one,
    RemoteHelperClient.handleFrame_of_idle h.idle (.inr rfl), ← h.helper]

/-- Entries that change in place, on either side. -/
theorem Inv.entries (h : r.Inv session) {flows : Table UInt64 FlowState}
    (hflows : ∀ flowId, flows.containsKey flowId
      = r.client.flows.containsKey flowId)
    (g : UInt64 → RegisteredFlow → RegisteredFlow)
    (hg : ∀ flowId flow, (g flowId flow).key = flow.key) :
    Inv { r with
      client := { r.client with flows := flows }
      helper := some { session with
        registered := session.registered.map fun e => (e.1, g e.1 e.2) } }
      { session with
        registered := session.registered.map fun e =>
          (e.1, g e.1 e.2) } := by
  refine ⟨rfl, h.state, h.agrees.mapFlows g hg, h.connected, h.idle,
    h.taken, h.counted, ?_, ?_⟩
  · intro e he
    obtain ⟨e', he', rfl⟩ := List.mem_map.mp he
    exact h.ids e' he'
  · intro key flowId hget
    obtain ⟨hentry, flow, hflow, hkey⟩ := h.held key flowId hget
    refine ⟨(hflows flowId).trans hentry, g flowId flow, ?_,
      (hg flowId flow).trans hkey⟩
    show Table.get? (session.registered.map fun e => (e.1, g e.1 e.2))
      flowId = _
    rw [Table.get?_map, hflow]
    rfl

/-- A poll reports progress, and every report gets through. -/
theorem publishProgress_eq (h : session.Inv) :
    ∃ frames, publishProgress {} session
      = { session := some { session with
            registered := session.registered.map fun e =>
              (e.1, { e.2 with
                lastProgress := e.2.news.or e.2.lastProgress }) }
          sent := frames }
      ∧ ∀ f ∈ frames, ∃ flowId p, f.message = .flowProgress flowId p := by
  refine ⟨session.registered.filterMap fun e =>
    e.2.news.map fun p => Frame.mk 0 (.flowProgress e.1 p), ?_, ?_⟩
  · unfold publishProgress answer
    simp only
    rw [if_pos]
    exact Nat.le_trans (List.length_filterMap_le _ _) h.limit
  · intro f hf
    obtain ⟨⟨flowId, flow⟩, -, hnews⟩ := List.mem_filterMap.mp hf
    obtain ⟨p, -, rfl⟩ := Option.map_eq_some_iff.mp hnews
    exact ⟨flowId, p, rfl⟩

/-- Every step keeps the agreement: a poll, -/
theorem Inv.poll (h : r.Inv session) :
    ∃ session', (r.receive (Helper.poll {} none session)).Inv session' := by
  obtain ⟨active, hactive⟩ := h.active
  have hpoll : Helper.poll {} none session = publishProgress {} session := by
    unfold Helper.poll
    rw [hactive]
  obtain ⟨frames, hpublish, hframes⟩ := publishProgress_eq h.agrees
  obtain ⟨flows, hfold, hflows⟩ :=
    RemoteHelperClient.foldl_progress hframes r.client
  rw [hpoll, hpublish]
  unfold receive
  simp only
  rw [hfold]
  exact ⟨_, h.entries hflows
    (fun _ flow => { flow with
      lastProgress := flow.news.or flow.lastProgress }) fun _ _ => rfl⟩

/-- a change of a flow, -/
theorem Inv.modifyFlow (h : r.Inv session) (flowId : UInt64)
    (f : RegisteredFlow → RegisteredFlow)
    (hf : ∀ flow, (f flow).key = flow.key) :
    Inv { r with helper := some { session with
        registered := session.registered.modify flowId f } }
      { session with registered := session.registered.modify flowId f } := by
  rw [Table.modify_eq_map]
  refine h.entries (fun _ => rfl)
    (fun id flow => if id = flowId then f flow else flow) fun id flow => ?_
  by_cases hid : id = flowId
  · rw [if_pos hid]
    exact hf flow
  · rw [if_neg hid]

/-- a packet. -/
theorem Inv.packet (h : r.Inv session) (flowId : UInt64) (env : HookEnv)
    (pkt : CapturedPacket) :
    Inv { r with helper := some (onHelperPacket session flowId env pkt) }
      (onHelperPacket session flowId env pkt) := by
  obtain ⟨active, hactive⟩ := h.active
  unfold onHelperPacket
  split
  case h_1 hnone =>
    rw [hactive] at hnone
    cases hnone
  case h_2 =>
    refine h.modifyFlow flowId _ fun flow => ?_
    split
    · rfl
    · rfl

end RemoteFlowController

-- ========================================================= the two planes

namespace Controllers

variable {s : Controllers} {session : Session}

/-- What holds of the two controllers between calls. -/
structure Inv (s : Controllers) (session : Session) : Prop where
  android : s.android.Inv session
  exist : ∀ key, FlowController.flowExists s.desktop key
    = FlowController.flowExists s.android key

/-- The condition on a move: a registration is clear. -/
def Clear (s : Controllers) : Move → Prop
  | .call (.registerFlow key fakeData lowTtlOverride) =>
      s.android.Clear key fakeData lowTtlOverride
  | _ => True

/-- Every flow that exists is registered with an open helper, under the
id that the client has for it. -/
structure Held (r : RemoteFlowController) : Prop where
  connected : r.client.disconnected = false
  helper : ∃ session, r.helper = some session
    ∧ session.state = .interceptorOpen
    ∧ ∀ key, FlowController.flowExists r key = true →
      ∃ flowId flow, r.client.flowIds.get? key = some flowId
        ∧ r.client.flows.containsKey flowId = true
        ∧ session.registered.get? flowId = some flow ∧ flow.key = key

/-- What the refinement asks of a move. -/
structure Refines (s : Controllers) (m : Move) : Prop where
  answers : (LocalFlowController.move s.desktop m).1 = (s.android.move m).1
  exist : ∀ key, FlowController.flowExists (s.step m).desktop key
    = FlowController.flowExists (s.step m).android key
  held : Held (s.step m).android
  /-- A registration of a flow that exists leaves it as it was. -/
  intact : ∀ key fakeData lowTtlOverride,
    m = .call (.registerFlow key fakeData lowTtlOverride) →
    FlowController.flowExists s.desktop key = true →
    (s.step m).android.client.flowIds = s.android.client.flowIds
      ∧ (s.step m).android.client.flows = s.android.client.flows
      ∧ (s.step m).android.helper = s.android.helper

/-- The client's half of it. -/
theorem Inv.held (h : s.Inv session) : Held s.android where
  connected := h.android.connected
  helper := by
    refine ⟨session, h.android.helper, h.android.state, fun key hkey => ?_⟩
    obtain ⟨flowId, hget⟩ := Table.containsKey_iff.mp hkey
    obtain ⟨hentry, flow, hflow, hk⟩ := h.android.held key flowId hget
    exact ⟨flowId, flow, hget, hentry, hflow, hk⟩

/-- A clear registration is of a flow that neither controller has. -/
theorem Inv.absent (h : s.Inv session) {key : FlowKey} {fakeData : Bytes}
    {lowTtlOverride : Option UInt8}
    (hclear : s.android.Clear key fakeData lowTtlOverride) :
    FlowController.flowExists s.desktop key = false := by
  rw [h.exist]
  cases hexists : FlowController.flowExists s.android key with
  | false => rfl
  | true =>
      obtain ⟨flowId, hget⟩ := Table.containsKey_iff.mp hexists
      obtain ⟨-, flow, hflow, hkey⟩ := h.android.held key flowId hget
      exact absurd hkey (hclear.unknown session h.android.helper _
        (Table.mem_of_get? hflow))

/-- Both register, with the same result. -/
theorem Inv.register (h : s.Inv session) {key : FlowKey} {fakeData : Bytes}
    {lowTtlOverride : Option UInt8}
    (hclear : s.android.Clear key fakeData lowTtlOverride) :
    (s.desktop.registerFlow key fakeData lowTtlOverride).1.isOk
        = (s.android.registerFlow key fakeData lowTtlOverride).1.isOk
      ∧ ∃ session', Inv
        ⟨(s.desktop.registerFlow key fakeData lowTtlOverride).2,
          (s.android.registerFlow key fakeData lowTtlOverride).2⟩
        session' := by
  obtain ⟨active, hactive⟩ := h.android.active
  have hdone :=
    RemoteFlowController.registerFlow_of_clear h.android hactive hclear
  rw [hdone, local_registerFlow_isOk, h.absent hclear]
  refine ⟨rfl, _, h.android.register hactive hclear, fun key' => ?_⟩
  rw [local_registerFlow_exists, h.exist key']
  exact Table.containsKey_insert.symm

/-- Both remove. -/
theorem Inv.remove (h : s.Inv session) (key : FlowKey) :
    ∃ session', Inv ⟨FlowController.removeFlow s.desktop key,
      s.android.removeFlow key⟩ session' := by
  have hexist : ∀ key', FlowController.flowExists
      (FlowController.removeFlow s.desktop key) key'
        = FlowController.flowExists (s.android.removeFlow key) key' := by
    intro key'
    rw [RemoteFlowController.flowExists_removeFlow, ← h.exist key']
    exact Table.containsKey_remove
  cases hget : s.android.client.flowIds.get? key with
  | none =>
      have hsame := RemoteFlowController.removeFlow_of_none hget
      refine ⟨session, ?_, hexist⟩
      rw [hsame]
      exact h.android
  | some flowId =>
      have hgone := RemoteFlowController.removeFlow_of_get h.android hget
      refine ⟨session.withoutFlow flowId, ?_, hexist⟩
      rw [hgone]
      exact h.android.remove hget

/-- A move that meets the condition gets the same answers and keeps the
invariant. -/
theorem Inv.step (h : s.Inv session) {m : Move} (hclear : s.Clear m) :
    (LocalFlowController.move s.desktop m).1 = (s.android.move m).1
      ∧ ∃ session', (s.step m).Inv session' := by
  cases m with
  | call call =>
      cases call with
      | registerFlow key fakeData lowTtlOverride =>
          obtain ⟨hsame, hinv⟩ := h.register hclear
          exact ⟨congrArg FlowAnswer.registered hsame, hinv⟩
      | flowExists key =>
          exact ⟨congrArg FlowAnswer.found (h.exist key), session, h⟩
      | removeFlow key => exact ⟨rfl, h.remove key⟩
      | reset =>
          exact ⟨rfl, session, h.android.reset, fun _ => rfl⟩
  | heartbeat =>
      refine ⟨rfl, session, ?_, fun key => ?_⟩
      · show (s.android.write 0 .ping).Inv session
        rw [h.android.write_ping]
        exact h.android
      · show _ = FlowController.flowExists (s.android.write 0 .ping) key
        rw [h.android.write_ping]
        exact h.exist key
  | poll =>
      obtain ⟨session', hinv⟩ := h.android.poll
      have hpoll : (s.step .poll).android
          = s.android.receive (Helper.poll {} none session) := by
        unfold Controllers.step RemoteFlowController.move
        simp only [h.android.helper]
      refine ⟨rfl, session', ?_, fun key => ?_⟩
      · rw [hpoll]
        exact hinv
      · rw [hpoll]
        refine (h.exist key).trans ?_
        show _ = Table.containsKey _ key
        rw [RemoteFlowController.receive_flowIds]
        rfl
  | packet flowId env pkt =>
      have hpacket : (s.step (.packet flowId env pkt)).android
          = { s.android with
            helper := some (onHelperPacket session flowId env pkt) } := by
        unfold Controllers.step RemoteFlowController.move
        rw [h.android.helper]
        rfl
      refine ⟨rfl, onHelperPacket session flowId env pkt, ?_, h.exist⟩
      rw [hpacket]
      exact h.android.packet flowId env pkt

/-- A registration that is not clear leaves the flow with the local
controller only. -/
theorem Inv.diverges (h : s.Inv session) {key : FlowKey} {fakeData : Bytes}
    {lowTtlOverride : Option UInt8}
    (hclear : ¬ s.android.Clear key fakeData lowTtlOverride) :
    FlowController.flowExists
        (s.desktop.registerFlow key fakeData lowTtlOverride).2 key = true
      ∧ FlowController.flowExists
        (s.android.registerFlow key fakeData lowTtlOverride).2 key
          = false := by
  refine ⟨?_,
    (RemoteFlowController.registerFlow_refused h.android hclear).2⟩
  rw [local_registerFlow_exists]
  simp

/-- The condition is exact, move by move. -/
theorem Inv.refines_iff (h : s.Inv session) {m : Move} :
    s.Refines m ↔ s.Clear m := by
  constructor
  · intro hrefines
    cases m with
    | call call =>
        cases call with
        | registerFlow key fakeData lowTtlOverride =>
            by_cases hclear : s.android.Clear key fakeData lowTtlOverride
            · exact hclear
            obtain ⟨hhas, hhasNot⟩ := h.diverges hclear
            have hexist := hrefines.exist key
            exact absurd (hhas.symm.trans (hexist.trans hhasNot)) (by decide)
        | _ => trivial
    | _ => trivial
  · intro hclear
    obtain ⟨hsame, session', hinv⟩ := h.step hclear
    refine ⟨hsame, hinv.exist, hinv.held, ?_⟩
    intro key fakeData lowTtlOverride heq hexists
    subst heq
    rw [h.absent hclear] at hexists
    cases hexists

-- ============================================================= every run

/-- A plane that has just been opened beside an empty flow table: the
client is idle and has no flow, the helper has served its way to an open
interceptor and has no flow. -/
structure Opened (s : Controllers) : Prop where
  desktop : s.desktop.flows = []
  connected : s.android.client.disconnected = false
  idle : s.android.client.pending = []
  taken : s.android.client.answers = []
  flowIds : s.android.client.flowIds = []
  /-- `Bounded`, after a request that was answered. -/
  counted : 0 < s.android.client.nextFlowId.toNat
    ∧ s.android.client.nextFlowId.toNat
      ≤ s.android.client.nextRequestId.toNat
  helper : ∃ session turns, s.android.helper = some session
    ∧ Session.new.Serves s.android.peer turns session
    ∧ session.state = .interceptorOpen ∧ session.registered = []

/-- It holds once both are open. -/
theorem Opened.inv (h : s.Opened) : ∃ session, s.Inv session := by
  obtain ⟨session, turns, hhelper, hserves, hstate, hreg⟩ := h.helper
  refine ⟨session, ⟨hhelper, hstate, hserves.inv, h.connected, h.idle,
    h.taken, h.counted, ?_, ?_⟩, ?_⟩
  · intro e he
    rw [hreg] at he
    cases he
  · intro key flowId hget
    rw [h.flowIds] at hget
    cases hget
  · intro key
    show Table.containsKey s.desktop.flows key
      = Table.containsKey s.android.client.flowIds key
    rw [h.desktop, h.flowIds]
    rfl

/-- Over every sequence of calls, and whatever goes on between them, the
remote controller gives the answers of the local one and holds every flow
that exists exactly if every registration was clear when it was made. -/
theorem remote_refines_local_iff (s : Controllers) (moves : List Move)
    (h : s.Opened) :
    Along Controllers.step Refines s moves
      ↔ Along Controllers.step Clear s moves := by
  refine along_iff (P := fun s => ∃ session, s.Inv session) ?_ ?_ h.inv
  · intro s m hgiven
    obtain ⟨session, hinv⟩ := hgiven
    exact hinv.refines_iff
  · intro s m hgiven hclear
    obtain ⟨session, hinv⟩ := hgiven
    exact (hinv.step hclear).2

/-- The sample plane, opened by the turns of a client that connects,
configures and opens. -/
def sample : Controllers where
  desktop := { flows := [] }
  android := {
    peer := System.samplePeer
    client := System.samplePrepared.client
    helper := System.samplePrepared.helper }

/-- As they are in the example. -/
theorem sample_opened : sample.Opened where
  desktop := rfl
  connected := rfl
  idle := rfl
  taken := rfl
  flowIds := rfl
  counted := by decide
  helper := ⟨_,
    [.frame {} ⟨1, .hello ⟨List.replicate 32 7, 42, "0.3.0"⟩⟩,
     .frame {} ⟨2, .configureInterceptor
       (interceptorConfig {} 0x0A000001 none connectPort)⟩,
     .frame {} ⟨3, .openInterceptor⟩],
    rfl, .cons rfl <| .cons rfl <| .cons rfl <| .nil _, rfl, rfl⟩

/-- A flow that is registered again after its removal. -/
def sampleMoves : List Move :=
  [.call (.registerFlow System.sampleKey [0x16] none), .poll,
   .call (.removeFlow System.sampleKey), .heartbeat,
   .call (.registerFlow System.sampleKey [0x16] (some 5)),
   .call (.flowExists System.sampleKey), .call .reset]

-- the runs below are evaluated state by state
set_option maxRecDepth 2000 in

/-- Whose moves meet the condition. -/
theorem sample_clear : Along Controllers.step Clear sample sampleMoves :=
  ⟨RemoteFlowController.clear_of_helper 1 rfl rfl (by decide) rfl
      (by decide) (by decide) (by decide),
    trivial, trivial, trivial,
    RemoteFlowController.clear_of_helper 2 rfl rfl (by decide) rfl
      (by decide) (by decide) (by decide),
    trivial, trivial, trivial⟩

/-- The remote controller answers like the local one, to the end. -/
theorem sample_refines :
    sample.Opened ∧ Along Controllers.step Refines sample sampleMoves :=
  ⟨sample_opened,
    (remote_refines_local_iff sample sampleMoves sample_opened).mpr
      sample_clear⟩

set_option maxRecDepth 2000 in
/-- A flow is registered twice. Both controllers refuse the second
registration; the local one keeps the flow, while the remote one forgets
it and has lost its helper. -/
theorem duplicate_registration_diverges :
    sample.Opened
      ∧ ¬ Along Controllers.step Refines sample
        [.call (.registerFlow System.sampleKey [0x16] none),
         .call (.registerFlow System.sampleKey [0x16] none)]
      ∧ ∃ s s' : Controllers,
        sample.step (.call (.registerFlow System.sampleKey [0x16] none)) = s
        ∧ s.step (.call (.registerFlow System.sampleKey [0x16] none)) = s'
        ∧ FlowController.flowExists s.android System.sampleKey = true
        ∧ (s.android.registerFlow System.sampleKey [0x16] none).1.isOk
          = false
        ∧ (s.desktop.registerFlow System.sampleKey [0x16] none).1.isOk
          = false
        ∧ FlowController.flowExists s'.desktop System.sampleKey = true
        ∧ FlowController.flowExists s'.android System.sampleKey = false
        ∧ s'.android.client.disconnected = true
        ∧ s'.android.helper = none := by
  refine ⟨sample_opened, ?_, _, _, rfl, rfl, rfl, rfl, rfl, rfl, rfl, rfl,
    rfl⟩
  intro h
  obtain ⟨-, hsecond, -⟩ := h
  have hexist := hsecond.exist System.sampleKey
  cases hexist

end Controllers

end ZeroDpi.Helper
