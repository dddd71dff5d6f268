/-
The client's calls, as what they leave behind.

Two counters make the client's identifiers fresh. A registration takes a
number from both, every other request one from the first only, and the
request counter stops before it wraps; so as long as requests can still be
made (`Open`), the flow counter is below the request counter (`Bounded`)
and has not wrapped either. `ClientCase` is what a call can do to the
entries of the client, and what it can write.
-/
import ZeroDpi.Proofs.Recovery

namespace ZeroDpi.Helper

open Lib

/-- The flow a frame asks to register. -/
def Frame.registers (frame : Frame) : Option UInt64 :=
  match frame.message with
  | .registerFlow flowId .. => some flowId
  | _ => none

namespace RemoteHelperClient

variable {c c' : RemoteHelperClient}

-- =========================================================== the counters

/-- Requests can still be made. -/
structure Open (c : RemoteHelperClient) : Prop where
  connected : c.disconnected = false
  ids : c.nextRequestId ≠ 0xFFFFFFFF

/-- The flow counter has not wrapped: it is between one and the request
counter. -/
def Bounded (c : RemoteHelperClient) : Prop :=
  c.Open → 0 < c.nextFlowId.toNat
    ∧ c.nextFlowId.toNat < c.nextRequestId.toNat

/-- What a call can do to the counters. -/
def Counts (c c' : RemoteHelperClient) : Prop :=
  c'.Open → c.Open
    ∧ ((c'.nextFlowId = c.nextFlowId
          ∧ (c'.nextRequestId = c.nextRequestId
            ∨ c'.nextRequestId = c.nextRequestId + 1))
      ∨ (c'.nextFlowId = c.nextFlowId + 1
          ∧ c'.nextRequestId = c.nextRequestId + 1))

theorem toNat_succ_requestId (h : c.Open) :
    (c.nextRequestId + 1).toNat = c.nextRequestId.toNat + 1 := by
  have hne : c.nextRequestId.toNat ≠ 0xFFFFFFFF := fun heq =>
    h.ids (UInt32.toNat_inj.mp heq)
  have hlt := c.nextRequestId.toNat_lt
  rw [UInt32.toNat_add]
  simp only [UInt32.toNat_one]
  omega

theorem Bounded.toNat_succ_flowId (hb : c.Bounded) (h : c.Open) :
    (c.nextFlowId + 1).toNat = c.nextFlowId.toNat + 1 := by
  have hbound := (hb h).2
  have hlt := c.nextRequestId.toNat_lt
  rw [UInt64.toNat_add]
  simp only [UInt64.toNat_one]
  omega

theorem Counts.refl (c : RemoteHelperClient) : Counts c c := fun h =>
  ⟨h, .inl ⟨rfl, .inl rfl⟩⟩

/-- Calls keep the flow counter below the request counter. -/
theorem Counts.bounded (h : Counts c c') (hb : c.Bounded) : c'.Bounded := by
  intro hopen'
  obtain ⟨hopen, hcount⟩ := h hopen'
  have hbound := hb hopen
  have hreq := toNat_succ_requestId hopen
  rcases hcount with ⟨hf, hr | hr⟩ | ⟨hf, hr⟩
  · rw [hf, hr]
    exact hbound
  · rw [hf, hr]
    omega
  · rw [hf, hr, hb.toNat_succ_flowId hopen]
    omega

/-- Calls never take the flow counter back. -/
theorem Counts.flowId_le (h : Counts c c') (hb : c.Bounded)
    (hopen' : c'.Open) : c.nextFlowId.toNat ≤ c'.nextFlowId.toNat := by
  obtain ⟨hopen, hcount⟩ := h hopen'
  rcases hcount with ⟨hf, -⟩ | ⟨hf, -⟩
  · exact Nat.le_of_eq (congrArg UInt64.toNat hf.symm)
  · rw [hf, hb.toNat_succ_flowId hopen]
    exact Nat.le_succ _

-- =========================================================== the requests

/-- The client after a request that has taken its number. -/
def counted (c : RemoteHelperClient) : RemoteHelperClient :=
  { c with nextRequestId := c.nextRequestId + 1 }

/-- What a request does up to its wait. -/
theorem beginRequest_cases (c : RemoteHelperClient) (io : Bool)
    (message : Message) :
    (∃ e, c.beginRequest io message = ⟨c, [], .error e⟩ ∧ ¬ c.Open)
      ∨ (∃ e, c.beginRequest io message = ⟨c.counted, [], .error e⟩
          ∧ c.Open)
      ∨ (c.beginRequest io message
          = ⟨{ c.counted with pending := c.nextRequestId :: c.pending },
              [⟨c.nextRequestId, message⟩], .ok c.nextRequestId⟩
          ∧ c.Open) := by
  unfold beginRequest
  split
  case isTrue hdisc =>
    refine .inl ⟨_, rfl, fun h => ?_⟩
    rw [h.connected] at hdisc
    cases hdisc
  case isFalse hconn =>
    split
    case isTrue hmax => exact .inl ⟨_, rfl, fun h => h.ids hmax⟩
    case isFalse hids =>
      have hopen : c.Open := ⟨by simpa using hconn, hids⟩
      simp only
      split
      · exact .inr (.inl ⟨_, rfl, hopen⟩)
      · rcases write_cases io c.nextRequestId message with hw | hw
        · rw [hw]
          exact .inr (.inl ⟨_, rfl, hopen⟩)
        · rw [hw]
          exact .inr (.inr ⟨rfl, hopen⟩)

/-- A call that took a request id. -/
theorem Counts.request (h : c.Open) (hflow : c'.nextFlowId = c.nextFlowId)
    (hrequest : c'.nextRequestId = c.nextRequestId + 1) : Counts c c' :=
  fun _ => ⟨h, .inl ⟨hflow, .inr hrequest⟩⟩

-- ================================================= calls that keep entries

/-- Entries may go; the counters and the connection stay. -/
structure Sheds (c c' : RemoteHelperClient) : Prop where
  flows : ∀ id m, c'.flows.get? id = some m → c.flows.get? id = some m
  connection : c'.disconnected = c.disconnected
  flowId : c'.nextFlowId = c.nextFlowId
  requestId : c'.nextRequestId = c.nextRequestId

/-- Entries may go, and nothing asks for a registration. -/
structure Keeps (c c' : RemoteHelperClient) (frames : List Frame) :
    Prop where
  flows : ∀ id m, c'.flows.get? id = some m → c.flows.get? id = some m
  connection : c'.disconnected = c.disconnected
  counts : Counts c c'
  frames : ∀ f ∈ frames, f.registers = none

theorem Sheds.open_iff (h : Sheds c c') : c'.Open ↔ c.Open := by
  constructor
  · intro hopen
    exact ⟨h.connection ▸ hopen.connected, h.requestId ▸ hopen.ids⟩
  · intro hopen
    refine ⟨?_, ?_⟩
    · rw [h.connection]
      exact hopen.connected
    · rw [h.requestId]
      exact hopen.ids

theorem Sheds.trans {c'' : RemoteHelperClient} (h : Sheds c c')
    (h' : Sheds c' c'') : Sheds c c'' where
  flows id m hm := h.flows id m (h'.flows id m hm)
  connection := h'.connection.trans h.connection
  flowId := h'.flowId.trans h.flowId
  requestId := h'.requestId.trans h.requestId

theorem Sheds.keeps (h : Sheds c c') {frames : List Frame}
    (hframes : ∀ f ∈ frames, f.registers = none) : Keeps c c' frames where
  flows := h.flows
  connection := h.connection
  counts hopen := ⟨h.open_iff.mp hopen, .inl ⟨h.flowId, .inl h.requestId⟩⟩
  frames := hframes

/-- A call that goes on from what another one has left. -/
theorem Keeps.after {c'' : RemoteHelperClient} {frames : List Frame}
    (h' : Keeps c' c'' frames) (h : Sheds c c') : Keeps c c'' frames where
  flows id m hm := h.flows id m (h'.flows id m hm)
  connection := h'.connection.trans h.connection
  counts hopen := by
    obtain ⟨hopen', hcount⟩ := h'.counts hopen
    rw [h.flowId, h.requestId] at hcount
    exact ⟨h.open_iff.mp hopen', hcount⟩
  frames := h'.frames

theorem sheds_timeOut (c : RemoteHelperClient) (requestId : UInt32) :
    Sheds c (c.timeOut requestId) :=
  ⟨fun _ _ h => h, rfl, rfl, rfl⟩

theorem sheds_reset (c : RemoteHelperClient) : Sheds c c.reset := by
  refine ⟨fun id m hm => ?_, rfl, rfl, rfl⟩
  cases hm

theorem sheds_takeAnswer {requestId : UInt32}
    {answer : Except String Message}
    (h : c.takeAnswer requestId = some (answer, c')) : Sheds c c' := by
  obtain ⟨answer', -, heq⟩ := Option.map_eq_some_iff.mp h
  cases heq
  exact ⟨fun _ _ h => h, rfl, rfl, rfl⟩

theorem sheds_removeFlow (c : RemoteHelperClient) (io : Bool)
    (key : FlowKey) : Sheds c (c.removeFlow io key).1 := by
  unfold removeFlow
  split
  · exact ⟨fun _ _ h => h, rfl, rfl, rfl⟩
  case h_2 flowId _ =>
    refine ⟨fun id m hm => ?_, rfl, rfl, rfl⟩
    simp only at hm
    by_cases hid : id = flowId
    · rw [hid, Table.get?_remove_self] at hm
      cases hm
    · rw [Table.get?_remove_ne hid] at hm
      exact hm

theorem removeFlow_registers (c : RemoteHelperClient) (io : Bool)
    (key : FlowKey) : ∀ f ∈ (c.removeFlow io key).2, f.registers = none := by
  intro f hf
  obtain ⟨flowId, hm⟩ := c.removeFlow_wrote io key hf
  unfold Frame.registers
  rw [hm]

theorem keeps_removeFlow (c : RemoteHelperClient) (io : Bool)
    (key : FlowKey) :
    Keeps c (c.removeFlow io key).1 (c.removeFlow io key).2 :=
  (c.sheds_removeFlow io key).keeps (c.removeFlow_registers io key)

theorem keeps_endRegister (c : RemoteHelperClient) (io : Bool)
    (key : FlowKey) (flowId : UInt64) (answer : Except String Message) :
    Keeps c (c.endRegister io key flowId answer).1
      (c.endRegister io key flowId answer).2 := by
  unfold endRegister
  split
  · exact ⟨fun _ _ h => h, rfl, .refl c, fun _ hf => by cases hf⟩
  · exact c.keeps_removeFlow io key

theorem keeps_beginRequest (c : RemoteHelperClient) (io : Bool)
    {message : Message}
    (hm : ∀ requestId, Frame.registers ⟨requestId, message⟩ = none) :
    Keeps c (c.beginRequest io message).client
      (c.beginRequest io message).wrote := by
  rcases c.beginRequest_cases io message
    with ⟨e, h, -⟩ | ⟨e, h, hopen⟩ | ⟨h, hopen⟩
  · rw [h]
    exact ⟨fun _ _ h => h, rfl, .refl c, fun _ hf => by cases hf⟩
  · rw [h]
    exact ⟨fun _ _ h => h, rfl, .request hopen rfl rfl,
      fun _ hf => by cases hf⟩
  · rw [h]
    refine ⟨fun _ _ h => h, rfl, .request hopen rfl rfl, fun f hf => ?_⟩
    rw [List.mem_singleton.mp hf]
    exact hm _

-- ============================================================ every call

/-- What a call can do to the entries and write. -/
inductive ClientCase (c : RemoteHelperClient) :
    RemoteHelperClient → List Frame → Prop where
  | kept {c' : RemoteHelperClient} {frames : List Frame}
      (h : Keeps c c' frames) : ClientCase c c' frames
  /-- A registration under the next flow id. -/
  | registered {c' : RemoteHelperClient} {requestId : UInt32}
      {key : FlowKey} {fakeData : Bytes} {lowTtlOverride : Option UInt8}
      (hopen : c.Open)
      (hflows : c'.flows
        = c.flows.insert c.nextFlowId (.new [] lowTtlOverride))
      (hdisc : c'.disconnected = c.disconnected)
      (hflow : c'.nextFlowId = c.nextFlowId + 1)
      (hrequest : c'.nextRequestId = c.nextRequestId + 1) :
      ClientCase c c'
        [⟨requestId, .registerFlow c.nextFlowId key fakeData lowTtlOverride⟩]
  | disconnected (reason : String) : ClientCase c (c.disconnect reason) []

/-- The client of a registration before its request. -/
def enrolled (c : RemoteHelperClient) (key : FlowKey)
    (lowTtlOverride : Option UInt8) : RemoteHelperClient :=
  { c with
    nextFlowId := c.nextFlowId + 1
    flows := c.flows.insert c.nextFlowId (.new [] lowTtlOverride)
    flowIds := c.flowIds.insert key c.nextFlowId }

/-- A registration that failed before its wait takes its entry back. -/
theorem removeFlow_enrolled (c : RemoteHelperClient) (io : Bool)
    (key : FlowKey) (lowTtlOverride : Option UInt8)
    (h : c'.flows = (c.enrolled key lowTtlOverride).flows)
    (hids : c'.flowIds = (c.enrolled key lowTtlOverride).flowIds)
    (id : UInt64) (m : FlowState)
    (hm : (c'.removeFlow io key).1.flows.get? id = some m) :
    c.flows.get? id = some m := by
  have hkey : c'.flowIds.get? key = some c.nextFlowId := by
    rw [hids]
    exact Table.get?_insert_self
  have hgone : (c'.removeFlow io key).1.flows
      = c'.flows.remove c.nextFlowId := by
    unfold removeFlow
    rw [hkey]
  rw [hgone, h] at hm
  by_cases hid : id = c.nextFlowId
  · rw [hid, Table.get?_remove_self] at hm
    cases hm
  · rw [Table.get?_remove_ne hid] at hm
    exact (Table.get?_insert_ne hid).symm.trans hm

theorem ClientCase.beginRegister (hb : c.Bounded) (io : Bool)
    (key : FlowKey) (fakeData : Bytes) (lowTtlOverride : Option UInt8) :
    ClientCase c
      (c.beginRegister io key fakeData lowTtlOverride).1.client
      (c.beginRegister io key fakeData lowTtlOverride).1.wrote := by
  unfold RemoteHelperClient.beginRegister
  simp only
  split
  case isTrue hzero =>
    refine .kept ⟨fun _ _ h => h, rfl, fun hopen => ?_, fun _ hf => ?_⟩
    · have hpos := (hb ⟨hopen.connected, hopen.ids⟩).1
      rw [hzero] at hpos
      exact absurd hpos (Nat.lt_irrefl 0)
    · cases hf
  · rcases (c.enrolled key lowTtlOverride).beginRequest_cases io
      (.registerFlow c.nextFlowId key fakeData lowTtlOverride)
      with ⟨e, h, hclosed⟩ | ⟨e, h, hopen⟩ | ⟨h, hopen⟩
    · have hsheds :=
        (c.enrolled key lowTtlOverride).sheds_removeFlow io key
      unfold enrolled at h
      rw [h]
      refine .kept ⟨removeFlow_enrolled c io key lowTtlOverride rfl rfl,
        hsheds.connection, fun hopen => ?_, removeFlow_registers _ io key⟩
      exact absurd (hsheds.open_iff.mp hopen) hclosed
    · have hsheds :=
        (c.enrolled key lowTtlOverride).counted.sheds_removeFlow io key
      unfold enrolled at h
      rw [h]
      refine .kept ⟨removeFlow_enrolled c io key lowTtlOverride rfl rfl,
        hsheds.connection, fun _ => ?_, removeFlow_registers _ io key⟩
      exact ⟨⟨hopen.connected, hopen.ids⟩,
        .inr ⟨hsheds.flowId, hsheds.requestId⟩⟩
    · unfold enrolled at h
      rw [h]
      exact .registered ⟨hopen.connected, hopen.ids⟩ rfl rfl rfl rfl

end RemoteHelperClient

end ZeroDpi.Helper
