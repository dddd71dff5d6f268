/-
Which exits of a connection task or a probe release its flow.

# What a task leaves

`Clean` says that nothing the task put into a controller's tables is there,
`Held` that at most what it registered for its key is, where its
`remove_flow` finds it. A registration takes the first to the second and
`remove_flow` takes it back; in between, both survive what other tasks and
threads do to the controller. So a task is clean at its end if a guard runs
`remove_flow` wherever it may be dropped (`released_guarded`), or if it is
not dropped.

# Where they do not survive

The remote controller keeps the flow id under the key. A registration of
the key by another task replaces it, and then `remove_flow` finds the other
task's flow: `Apart` excludes this.
-/
import ZeroDpi.Proofs.Client
import ZeroDpi.Proofs.ConnectionEvents

namespace ZeroDpi.ConnectionTask

open Lib Task

-- ==================================================== programs that keep it

section

variable {C ι α β : Type} {env : World C → ι → World C → Prop}
  {cond : World C → Item Wait Wait.Reply ι → Prop} {I J : C → Prop}

/-- The program leaves the controller in `I`, however it ends. -/
def Keeps (env : World C → ι → World C → Prop)
    (cond : World C → Item Wait Wait.Reply ι → Prop) (I : C → Prop)
    (t : ConnTask C α) : Prop :=
  Triple env cond (fun w => I w.controller) t fun _ _ w => I w.controller

/-- What others do keeps `I`. -/
def Stable (env : World C → ι → World C → Prop)
    (cond : World C → Item Wait Wait.Reply ι → Prop) (I : C → Prop) : Prop :=
  ∀ w i w', I w.controller → cond w (.other i) → env w i w' → I w'.controller

/-- The rules for tasks that keep an invariant while others step. -/
theorem keeps_done {a : α} : Keeps env cond I (.done a) :=
  triple_done fun _ h => h

/-- Tasks in sequence. -/
theorem keeps_bind {t : ConnTask C α} {f : α → ConnTask C β}
    (ht : Keeps env cond I t) (hf : ∀ a, Keeps env cond I (f a)) :
    Keeps env cond I (t.bind f) :=
  triple_bind ht (fun _ _ h => h) fun a _ => hf a

/-- While it waits, the others keep it. -/
theorem keeps_ask (h : Stable env cond I) (wait : Wait) :
    Keeps env cond I (ask wait) := by
  refine triple_await h ?_ ?_ ?_
  · exact fun _ _ _ _ h => h
  · exact fun _ h _ => h
  · exact fun x => triple_done fun _ h => h.1

/-- A step beside the controller. -/
theorem keeps_modify {f : World C → World C}
    (h : ∀ w, (f w).controller = w.controller) :
    Keeps env cond I (.modify f) := by
  apply triple_act
  intro w hw
  apply triple_done
  rintro _ rfl
  rw [h]
  exact hw

/-- An event. -/
theorem keeps_emit (event : ProxyEvent) : Keeps env cond I (emit event) := by
  apply keeps_modify
  intro w
  rfl

/-- An outcome. -/
theorem keeps_finish (outcome : BypassOutcome) :
    Keeps env cond I (finish outcome) := by
  apply keeps_modify
  intro w
  rfl

/-- With `?`. -/
theorem keeps_andThen {t : ConnTask C (Except Stop α)}
    {f : α → ConnTask C (Except Stop β)} (ht : Keeps env cond I t)
    (hf : ∀ a, Keeps env cond I (f a)) :
    Keeps env cond I (andThen t f) := by
  apply keeps_bind ht
  intro r
  cases r with
  | ok a => exact hf a
  | error stop => exact keeps_done

/-- So whatever is built from these keeps it. -/
theorem closed_keeps (h : Stable env cond I) (port : UInt16) :
    Closed C port fun t => Keeps env cond I t where
  done _ := keeps_done
  orPanic _ := keeps_done
  close _ := keeps_bind (keeps_finish _) fun _ =>
    keeps_bind (keeps_emit _) fun _ => keeps_done
  ask _ _ hf := keeps_bind (keeps_ask h _) hf
  andThen ht hf := keeps_andThen ht hf

/-- The end of a bypass. -/
theorem keeps_finishBypass (port : UInt16) (outcome : Option BypassOutcome)
    (timeoutError : String) :
    Keeps env cond I (finishBypassOrError port outcome timeoutError) := by
  unfold finishBypassOrError
  split
  · exact keeps_bind (keeps_emit _) fun _ => keeps_done
  · exact keeps_bind (keeps_emit _) fun _ => keeps_done
  · exact keeps_bind (keeps_finish _) fun _ =>
      keeps_bind (keeps_emit _) fun _ => keeps_done

/-- A bypass. -/
theorem keeps_bypass (h : Stable env cond I) (t : ConnectionSettings)
    (socketEnv : SocketEnv) (port : UInt16) :
    Keeps env cond I (bypass t socketEnv port) := by
  apply keeps_bind (keeps_ask h _)
  intro connected
  cases connected with
  | error error =>
      exact keeps_bind (keeps_finish _) fun _ =>
        keeps_bind (keeps_emit _) fun _ => keeps_done
  | ok u =>
      apply keeps_bind (keeps_ask h _)
      intro progress
      match progress with
      | some (.complete outcome) =>
          exact keeps_andThen (keeps_finishBypass port _ _) fun _ => keeps_done
      | some .readyForData =>
          apply keeps_andThen ((closed_keeps h port).readyForData t socketEnv)
          intro later
          apply keeps_bind (keeps_ask h _)
          intro outcome
          exact keeps_andThen (keeps_finishBypass port _ _) fun _ => keeps_done
      | none =>
          exact keeps_andThen (keeps_finishBypass port _ _) fun _ => keeps_done

/-- A relay. -/
theorem keeps_relay (h : Stable env cond I) (port : UInt16) :
    Keeps env cond I (relay port) :=
  keeps_bind (keeps_ask h _) fun _ =>
    keeps_bind (keeps_emit _) fun _ => keeps_done

-- ====================================================== the tasks, released

/-- What a controller has to do for the flow of one task under `key`. -/
structure Releases (env : World C → ι → World C → Prop)
    (cond : World C → Item Wait Wait.Reply ι → Prop) (reg : Registry C)
    (key : FlowKey) (Clean Held : C → Prop) : Prop where
  clean : Stable env cond Clean
  held : Stable env cond Held
  remove : ∀ c, Held c → Clean (reg.removeFlow key c)
  /-- A registration that is dropped is excluded. -/
  register : ∀ fakeData lowTtlOverride,
    Triple env cond (fun w => Clean w.controller)
      (reg.registerFlow key fakeData lowTtlOverride)
      fun _ r w => match r with
        | some (.ok _) => Held w.controller
        | some (.error _) => Clean w.controller
        | none => Clean w.controller

variable {reg : Registry C} {key : FlowKey} {Clean Held : C → Prop}

/-- A guard makes what holds the flow clean. -/
theorem released_guarded (h : Releases env cond reg key Clean Held)
    {t : ConnTask C α} (ht : Keeps env cond Held t) :
    Triple env cond (fun w => Held w.controller)
      (t.guarded (World.onController (reg.removeFlow key)))
      fun _ _ w => Clean w.controller :=
  triple_guarded ht fun _ _ _ hw => h.remove _ hw

/-- The guard is there from the registration to the relay, or to the end. -/
theorem released_intercepted (h : Releases env cond reg key Clean Held)
    (t : ConnectionSettings) (socketEnv : SocketEnv) :
    Triple env cond (fun w => Held w.controller)
      (intercepted reg t socketEnv key) fun _ _ w => Clean w.controller := by
  have hbypass := keeps_bypass h.held t socketEnv key.srcPort
  unfold intercepted
  dsimp only
  split
  · exact released_guarded h
      (keeps_andThen hbypass fun _ => keeps_relay h.held _)
  · refine triple_bind (released_guarded h hbypass) (fun _ _ hw => hw) ?_
    intro r _
    cases r with
    | ok later => exact keeps_relay h.clean _
    | error stop => exact keeps_done

/-- The key of a task's flow, if it gets as far as having one. -/
def Connection.flowKey (c : Connection) : Option FlowKey :=
  match c.connectIp, c.socket with
  | .v4 connectIp, .ok srcPort =>
      some ⟨c.interfaceIp, srcPort, connectIp, c.connectPort⟩
  | _, _ => none

/-- A connection task leaves nothing of its own, wherever it ends. -/
theorem released_intercept (c : Connection) (t : ConnectionSettings)
    (h : ∀ key, c.flowKey = some key →
      ∃ Held, Releases env cond reg key Clean Held) :
    Keeps env cond Clean (handleInterceptConnection reg t c) := by
  unfold handleInterceptConnection
  split
  · exact keeps_done
  · exact keeps_done
  case h_3 connectIp srcPort hip hsocket =>
    obtain ⟨Held, hreleases⟩ := h _ (by
      unfold Connection.flowKey
      rw [hip, hsocket])
    apply keeps_bind (keeps_emit _)
    intro _
    refine triple_bind (hreleases.register _ _) (fun _ _ hw => hw) ?_
    intro r _
    cases r with
    | error error => exact keeps_done
    | ok u => exact released_intercepted hreleases t c.env

/-- A probe removes its flow itself, so it must not be dropped. -/
theorem released_probe (h : Releases env cond reg key Clean Held)
    (hdropped : ∀ w wait, ¬ cond w (.dropped wait)) :
    Triple env cond (fun w => Held w.controller) (probeRegistered reg key)
      fun _ _ w => Clean w.controller := by
  have hask : ∀ {wait : Wait} {f : wait.Reply → ConnTask C Bool},
      (∀ x, Triple env cond (fun w => Held w.controller) (f x)
        fun _ _ w => Clean w.controller) →
      Triple env cond (fun w => Held w.controller) ((ask wait).bind f)
        fun _ _ w => Clean w.controller := by
    intro wait f hf
    refine triple_await h.held ?_ ?_ ?_
    · exact fun _ _ _ _ hw => hw
    · exact fun w _ hdrop => absurd hdrop (hdropped w _)
    · exact fun x => (hf x).mono (fun _ hw => hw.1) fun _ _ _ hw => hw
  have hremove : ∀ ok, Triple env cond (fun w => Held w.controller)
      ((removeFlow reg key).bind fun _ => .done ok)
      fun _ (_ : Option Bool) w => Clean w.controller := by
    intro ok
    apply triple_act
    intro w hw
    apply triple_done
    rintro _ rfl
    exact h.remove _ hw
  apply hask
  intro connected
  cases connected with
  | error error => exact hremove _
  | ok u =>
      apply hask
      intro progress
      cases progress with
      | none => exact hremove _
      | some progress =>
          apply hask
          exact fun ok => hremove ok

/-- The key of a probe's flow. -/
def Connection.probeKey (c : Connection) (connectIp : Ipv4Addr) :
    Option FlowKey :=
  c.socket.toOption.map fun srcPort => ⟨c.interfaceIp, srcPort, connectIp, 443⟩

/-- Nor does a probe, unless it is dropped. -/
theorem released_probeTtl (c : Connection) (connectIp : Ipv4Addr)
    (candidateTtl : UInt8) (hdropped : ∀ w wait, ¬ cond w (.dropped wait))
    (h : ∀ key, c.probeKey connectIp = some key →
      ∃ Held, Releases env cond reg key Clean Held) :
    Keeps env cond Clean (probeTtl reg c connectIp candidateTtl) := by
  unfold probeTtl
  split
  · exact keeps_done
  case h_2 srcPort hsocket =>
    obtain ⟨Held, hreleases⟩ := h _ (by
      unfold Connection.probeKey
      rw [hsocket]
      rfl)
    have hregister : Triple env cond (fun w => Clean w.controller)
        (registerProbeFlow reg
          ⟨c.interfaceIp, srcPort, connectIp, 443⟩ c.fakeClientHello
          (some candidateTtl))
        fun _ r w => match r with
          | some (.ok _) => Held w.controller
          | some (.error _) => Clean w.controller
          | none => Clean w.controller := by
      apply triple_act
      intro w hw
      dsimp only [Lib.Task.bind]
      split
      · apply triple_done
        rintro _ rfl
        exact hw
      · refine (hreleases.register _ _).mono ?_ fun _ _ _ h => h
        rintro _ rfl
        exact hw
    refine triple_bind hregister (fun _ _ hw => hw) ?_
    intro r _
    cases r with
    | error error => exact keeps_done
    | ok u => exact released_probe hreleases hdropped

end

-- ===================================================== the local controller

/-- What other tasks and the packet thread do to a local controller. -/
inductive LocalCall where
  | register (task : Nat) (key : FlowKey) (fakeData : Bytes)
      (lowTtlOverride : Option UInt8)
  | remove (key : FlowKey)
  | reset
  /-- The packet thread changes an entry. -/
  | packet (key : FlowKey) (f : FlowState → FlowState)

/-- What another task does to a local controller. -/
def LocalTasks.step (c : LocalTasks) : LocalCall → LocalTasks
  | .register task key fakeData lowTtlOverride =>
      match c.controller.registerFlow key fakeData lowTtlOverride with
      | (.ok _, controller) => ⟨controller, c.owner.insert key task⟩
      | (.error _, controller) => ⟨controller, c.owner⟩
  | .remove key => { c with
      controller := FlowController.removeFlow c.controller key }
  | .reset => { c with controller := FlowController.reset c.controller }
  | .packet key f => { c with
      controller := ⟨c.controller.flows.modify key f⟩ }

/-- The call is another task's, or nobody's. -/
def LocalCall.notBy (me : Nat) : LocalCall → Prop
  | .register task _ _ _ => task ≠ me
  | _ => True

/-- The others at work; the packet thread may end the task's bypass. -/
def localEnv (me : Nat) (w : World LocalTasks) (call : LocalCall)
    (w' : World LocalTasks) : Prop :=
  call.notBy me ∧ w'.controller = w.controller.step call

namespace LocalTasks

/-- Nothing of the task is in the table. -/
def Clean (me : Nat) (c : LocalTasks) : Prop :=
  ∀ key, c.owner.get? key = some me → c.controller.flows.get? key = none

/-- Nothing of the task is in the table but what is under `key`. -/
def Held (me : Nat) (key : FlowKey) (c : LocalTasks) : Prop :=
  ∀ key', key' ≠ key → c.owner.get? key' = some me →
    c.controller.flows.get? key' = none

variable {me : Nat} {c : LocalTasks}

/-- A step of the others adds nothing of the task's. -/
theorem step_absent {call : LocalCall} (hcall : call.notBy me)
    {key : FlowKey}
    (h : c.owner.get? key = some me → c.controller.flows.get? key = none) :
    (c.step call).owner.get? key = some me →
      (c.step call).controller.flows.get? key = none := by
  cases call with
  | register task key' fakeData lowTtlOverride =>
      simp only [step, LocalFlowController.registerFlow]
      cases hvacant : c.controller.flows.get? key' with
      | some entry => exact h
      | none =>
          dsimp only
          by_cases hkey : key = key'
          · subst hkey
            rw [Table.get?_insert_self]
            intro htask
            exact absurd (Option.some.inj htask) hcall
          · rw [Table.get?_insert_ne hkey, Table.get?_insert_ne hkey]
            exact h
  | remove key' =>
      intro howner
      by_cases hkey : key = key'
      · subst hkey
        exact Table.get?_remove_self
      · exact (Table.get?_remove_ne hkey).trans (h howner)
  | reset => exact fun _ => rfl
  | packet key' f =>
      intro howner
      show (c.controller.flows.modify key' f).get? key = none
      rw [Table.get?_modify, h howner]
      simp

/-- The local controller: a guard removes what was registered. -/
theorem releases (me : Nat) (key : FlowKey)
    (cond : World LocalTasks → Item Wait Wait.Reply LocalCall → Prop) :
    Releases (localEnv me) cond (localRegistry me) key (Clean me)
      (Held me key) where
  clean := by
    rintro w call w' hw - ⟨hcall, hstep⟩ key
    rw [hstep]
    exact step_absent hcall (hw key)
  held := by
    rintro w call w' hw - ⟨hcall, hstep⟩ key' hkey
    rw [hstep]
    exact step_absent hcall (hw key' hkey)
  remove := by
    intro c hc key' howner
    by_cases hkey : key' = key
    · subst hkey
      exact Table.get?_remove_self
    · exact (Table.get?_remove_ne hkey).trans (hc key' hkey howner)
  register := by
    intro fakeData lowTtlOverride
    apply triple_act
    intro w hw
    apply triple_done
    rintro _ rfl
    dsimp only [World.onController]
    cases hvacant : w.controller.controller.flows.get? key with
    | some entry =>
        have hrefused : ∃ error, w.controller.controller.registerFlow key
            fakeData lowTtlOverride = (.error error, w.controller.controller) := by
          unfold LocalFlowController.registerFlow
          rw [hvacant]
          exact ⟨_, rfl⟩
        obtain ⟨error, hrefused⟩ := hrefused
        rw [hrefused]
        exact hw
    | none =>
        have htaken : w.controller.controller.registerFlow key fakeData
            lowTtlOverride = (.ok (.new fakeData lowTtlOverride),
              ⟨w.controller.controller.flows.insert key
                (.new fakeData lowTtlOverride)⟩) := by
          unfold LocalFlowController.registerFlow
          rw [hvacant]
        rw [htaken]
        intro key' hkey howner
        rw [Table.get?_insert_ne hkey] at howner
        exact (Table.get?_insert_ne hkey).trans (hw key' howner)

end LocalTasks

-- ==================================================== the remote controller

open Helper in
/-- What other tasks and the reader do to the client. -/
inductive RemoteCall where
  | begin (task : Nat) (key : FlowKey) (fakeData : Bytes)
      (lowTtlOverride : Option UInt8)
  | finish (key : FlowKey) (flowId : UInt64) (answer : Except String Message)
  | remove (key : FlowKey)
  | reset
  | frame (frame : Frame)
  | disconnect (reason : String)
  | request (message : Message)
  | timeOut (requestId : UInt32)
  | takeAnswer (requestId : UInt32)
  /-- Whether the socket takes writes from now on. -/
  | socket (io : Bool)

/-- What the others and the helper do to the client. -/
def RemoteTasks.step (c : RemoteTasks) : RemoteCall → RemoteTasks
  | .begin task key fakeData lowTtlOverride =>
      c.begin task key fakeData lowTtlOverride
  | .finish key flowId answer => c.finish key flowId answer
  | .remove key => c.remove key
  | .reset => { c with client := c.client.reset }
  | .frame frame => { c with client := c.client.handleFrame frame }
  | .disconnect reason => { c with client := c.client.disconnect reason }
  | .request message => { c with
      client := (c.client.beginRequest c.io message).client }
  | .timeOut requestId => { c with client := c.client.timeOut requestId }
  | .takeAnswer requestId => { c with
      client := ((c.client.takeAnswer requestId).map (·.2)).getD c.client }
  | .socket io => { c with io := io }

/-- The calls of other tasks. -/
def RemoteCall.notBy (me : Nat) : RemoteCall → Prop
  | .begin task _ _ _ => task ≠ me
  | _ => True

/-- The others, seen from one task. -/
def remoteEnv (me : Nat) (w : World RemoteTasks) (call : RemoteCall)
    (w' : World RemoteTasks) : Prop :=
  call.notBy me ∧ w'.controller = w.controller.step call

namespace RemoteTasks

open Helper

/-- Nothing of the task is in either map. -/
def Clean (me : Nat) (key : FlowKey) (c : RemoteTasks) : Prop :=
  ∀ flowId, c.owner.get? flowId = some me →
    c.client.flows.get? flowId = none ∧ c.client.flowIds.get? key ≠ some flowId

/-- What is of the task is under `key`. -/
def Held (me : Nat) (key : FlowKey) (c : RemoteTasks) : Prop :=
  ∀ flowId, c.owner.get? flowId = some me →
    c.client.flows.get? flowId ≠ none → c.client.flowIds.get? key = some flowId

/-- Nobody registers a key under which the task has its flow. -/
def Apart (me : Nat) (c : RemoteTasks) : RemoteCall → Prop
  | .begin _ key _ _ => ∀ flowId, c.client.flowIds.get? key = some flowId →
      c.owner.get? flowId ≠ some me
  | _ => True

variable {me : Nat} {key : FlowKey} {c : RemoteTasks}

-- --------------------------------------------------------- what a call does

/-- The maps after a registration has begun: nothing happened, the flow is
there, or it was there. -/
theorem beginRegister_maps (client : RemoteHelperClient) (io : Bool)
    (key : FlowKey) (fakeData : Bytes) (lowTtlOverride : Option UInt8) :
    let begun := client.beginRegister io key fakeData lowTtlOverride
    begun.2 = client.nextFlowId
      ∧ ((client.nextFlowId = 0 ∧ (∃ error, begun.1.waits = .error error)
          ∧ begun.1.client.flows = client.flows
          ∧ begun.1.client.flowIds = client.flowIds)
        ∨ (client.nextFlowId ≠ 0 ∧ (∃ requestId, begun.1.waits = .ok requestId)
          ∧ begun.1.client.flows
            = client.flows.insert client.nextFlowId (.new [] lowTtlOverride)
          ∧ begun.1.client.flowIds
            = client.flowIds.insert key client.nextFlowId)
        ∨ (client.nextFlowId ≠ 0 ∧ (∃ error, begun.1.waits = .error error)
          ∧ begun.1.client.flows
            = (client.flows.insert client.nextFlowId
              (.new [] lowTtlOverride)).remove client.nextFlowId
          ∧ begun.1.client.flowIds
            = (client.flowIds.insert key client.nextFlowId).remove key)) := by
  dsimp only
  unfold RemoteHelperClient.beginRegister
  dsimp only
  split
  case isTrue hzero => exact ⟨rfl, .inl ⟨hzero, ⟨_, rfl⟩, rfl, rfl⟩⟩
  case isFalse hzero =>
    have hremoved : ∀ c' : RemoteHelperClient,
        c'.flows = (client.enrolled key lowTtlOverride).flows →
        c'.flowIds = (client.enrolled key lowTtlOverride).flowIds →
        (c'.removeFlow io key).1.flows
            = (client.flows.insert client.nextFlowId
              (.new [] lowTtlOverride)).remove client.nextFlowId
          ∧ (c'.removeFlow io key).1.flowIds
            = (client.flowIds.insert key client.nextFlowId).remove key := by
      intro c' hflows hids
      have hkey : c'.flowIds.get? key = some client.nextFlowId := by
        rw [hids]
        exact Table.get?_insert_self
      unfold RemoteHelperClient.removeFlow
      rw [hkey, hflows, hids]
      exact ⟨rfl, rfl⟩
    rcases (client.enrolled key lowTtlOverride).beginRequest_cases io
      (.registerFlow client.nextFlowId key fakeData lowTtlOverride)
      with ⟨e, h, -⟩ | ⟨e, h, -⟩ | ⟨h, -⟩
    · unfold RemoteHelperClient.enrolled at h
      rw [h]
      exact ⟨rfl, .inr (.inr ⟨hzero, ⟨_, rfl⟩, hremoved _ rfl rfl⟩)⟩
    · unfold RemoteHelperClient.enrolled at h
      rw [h]
      exact ⟨rfl, .inr (.inr ⟨hzero, ⟨_, rfl⟩, hremoved _ rfl rfl⟩)⟩
    · unfold RemoteHelperClient.enrolled at h
      rw [h]
      exact ⟨rfl, .inr (.inl ⟨hzero, ⟨_, rfl⟩, rfl, rfl⟩)⟩

/-- Entries may go, and a key that goes takes its flow with it. -/
structure Shrinks (client client' : RemoteHelperClient) : Prop where
  flows : ∀ flowId, client.flows.get? flowId = none →
    client'.flows.get? flowId = none
  flowIds : ∀ key flowId, client'.flowIds.get? key = some flowId →
    client.flowIds.get? key = some flowId
  kept : ∀ key flowId, client.flowIds.get? key = some flowId →
    client'.flows.get? flowId ≠ none → client'.flowIds.get? key = some flowId

/-- The client only loses flows: here none, -/
theorem shrinks_same {client client' : RemoteHelperClient}
    (hflows : client'.flows = client.flows)
    (hids : client'.flowIds = client.flowIds) : Shrinks client client' where
  flows flowId h := by rw [hflows, h]
  flowIds key flowId h := by rw [← hids, h]
  kept key flowId h _ := by rw [hids, h]

/-- here one, -/
theorem shrinks_removeFlow (client : RemoteHelperClient) (io : Bool)
    (key : FlowKey) : Shrinks client (client.removeFlow io key).1 := by
  unfold RemoteHelperClient.removeFlow
  split
  case h_1 => exact shrinks_same rfl rfl
  case h_2 removed hremoved =>
    constructor
    case flows =>
      intro flowId h
      by_cases hid : flowId = removed
      · rw [hid]
        exact Table.get?_remove_self
      · exact (Table.get?_remove_ne hid).trans h
    case flowIds =>
      intro key' flowId h
      by_cases hkey : key' = key
      · rw [hkey] at h
        simp at h
      · exact (Table.get?_remove_ne hkey).symm.trans h
    case kept =>
      intro key' flowId h hkept
      by_cases hkey : key' = key
      · subst hkey
        cases hremoved.symm.trans h
        exact absurd Table.get?_remove_self hkept
      · exact (Table.get?_remove_ne hkey).trans h

/-- here none, but some change, -/
theorem shrinks_map {client client' : RemoteHelperClient}
    {g : UInt64 → FlowState → FlowState}
    (hflows : client'.flows = client.flows.map fun e => (e.1, g e.1 e.2))
    (hids : client'.flowIds = client.flowIds) : Shrinks client client' where
  flows flowId h := by rw [hflows, Table.get?_map, h]; rfl
  flowIds key flowId h := by rw [← hids, h]
  kept key flowId h _ := by rw [hids, h]

/-- here all of them. -/
theorem shrinks_disconnect (client : RemoteHelperClient) (reason : String) :
    Shrinks client (client.disconnect reason) := by
  unfold RemoteHelperClient.disconnect
  split
  · exact shrinks_same rfl rfl
  · exact @shrinks_map _ _ (fun _ entry => entry.finish .unexpectedClose)
      rfl rfl

/-- A frame from the helper registers nothing. -/
theorem shrinks_handleFrame (client : RemoteHelperClient) (frame : Frame) :
    Shrinks client (client.handleFrame frame) := by
  unfold RemoteHelperClient.handleFrame
  split
  case h_1 flowId progress hframe =>
    exact @shrinks_map _ _ (fun id entry =>
      if id = flowId then RemoteHelperClient.applyProgress progress entry
      else entry) (Table.modify_eq_map _) rfl
  case h_2 => exact shrinks_same rfl rfl
  case h_3 => exact shrinks_disconnect client _
  case h_4 =>
    split
    · exact shrinks_same rfl rfl
    · exact shrinks_same rfl rfl

/-- Nor does a request. -/
theorem shrinks_beginRequest (client : RemoteHelperClient) (io : Bool)
    (message : Message) :
    Shrinks client (client.beginRequest io message).client := by
  rcases client.beginRequest_cases io message
    with ⟨e, h, -⟩ | ⟨e, h, -⟩ | ⟨h, -⟩
  · rw [h]
    exact shrinks_same rfl rfl
  · rw [h]
    exact shrinks_same rfl rfl
  · rw [h]
    exact shrinks_same rfl rfl

/-- Nor does the end of a registration. -/
theorem shrinks_finish (client : RemoteHelperClient) (io : Bool)
    (key : FlowKey) (flowId : UInt64) (answer : Except String Message) :
    Shrinks client (client.endRegister io key flowId answer).1 := by
  unfold RemoteHelperClient.endRegister
  split
  · exact shrinks_same rfl rfl
  · exact shrinks_removeFlow client io key

/-- Every call of the others shrinks the maps or begins a registration. -/
theorem step_cases (c : RemoteTasks) (call : RemoteCall) :
    ((c.step call).owner = c.owner ∧ Shrinks c.client (c.step call).client)
      ∨ ∃ task key fakeData lowTtlOverride,
        call = .begin task key fakeData lowTtlOverride := by
  cases call with
  | begin task key fakeData lowTtlOverride => exact .inr ⟨_, _, _, _, rfl⟩
  | finish key flowId answer => exact .inl ⟨rfl, shrinks_finish _ _ _ _ _⟩
  | remove key => exact .inl ⟨rfl, shrinks_removeFlow _ _ _⟩
  | reset =>
      left
      refine ⟨rfl, fun _ _ => rfl, ?_, ?_⟩
      · intro key flowId h
        cases h
      · intro key flowId _ h
        exact absurd rfl h
  | frame frame => exact .inl ⟨rfl, shrinks_handleFrame _ _⟩
  | disconnect reason => exact .inl ⟨rfl, shrinks_disconnect _ _⟩
  | request message => exact .inl ⟨rfl, shrinks_beginRequest _ _ _⟩
  | timeOut requestId => exact .inl ⟨rfl, shrinks_same rfl rfl⟩
  | takeAnswer requestId =>
      left
      refine ⟨rfl, ?_⟩
      unfold step
      cases htake : c.client.answers.get? requestId with
      | none =>
          simp only [RemoteHelperClient.takeAnswer, htake]
          exact shrinks_same rfl rfl
      | some answer =>
          simp only [RemoteHelperClient.takeAnswer, htake]
          exact shrinks_same rfl rfl
  | socket io => exact .inl ⟨rfl, shrinks_same rfl rfl⟩

-- ----------------------------------------------------- the two conditions

/-- So a clean key stays clean. -/
theorem Clean.shrinks {c' : RemoteTasks} (h : Clean me key c)
    (howner : c'.owner = c.owner) (hshrinks : Shrinks c.client c'.client) :
    Clean me key c' := by
  intro flowId hme
  rw [howner] at hme
  obtain ⟨hflows, hids⟩ := h flowId hme
  exact ⟨hshrinks.flows _ hflows, fun hkey => hids (hshrinks.flowIds _ _ hkey)⟩

/-- And what is held is at most lost. -/
theorem Held.shrinks {c' : RemoteTasks} (h : Held me key c)
    (howner : c'.owner = c.owner) (hshrinks : Shrinks c.client c'.client) :
    Held me key c' := by
  intro flowId hme hthere
  rw [howner] at hme
  apply hshrinks.kept key flowId
  · apply h flowId hme
    exact fun hnone => hthere (hshrinks.flows _ hnone)
  · exact hthere

/-- A registration is owned by its task. -/
theorem get?_owner_begin {task : Nat} {key' : FlowKey} {fakeData : Bytes}
    {lowTtlOverride : Option UInt8} (hzero : c.client.nextFlowId ≠ 0)
    (flowId : UInt64) :
    (c.begin task key' fakeData lowTtlOverride).owner.get? flowId
      = if flowId = c.client.nextFlowId then some task
        else c.owner.get? flowId := by
  unfold RemoteTasks.begin
  dsimp only
  rw [if_neg hzero]
  split
  case isTrue hid =>
    rw [hid]
    exact Table.get?_insert_self
  case isFalse hid => exact Table.get?_insert_ne hid

/-- What a registration of another task leaves alone. -/
theorem begin_frame {task : Nat} {key' : FlowKey} {fakeData : Bytes}
    {lowTtlOverride : Option UInt8} (htask : task ≠ me) {flowId : UInt64}
    (hme : (c.begin task key' fakeData lowTtlOverride).owner.get? flowId
      = some me) :
    c.owner.get? flowId = some me
      ∧ (c.begin task key' fakeData lowTtlOverride).client.flows.get? flowId
        = c.client.flows.get? flowId
      ∧ (∀ key, key ≠ key' →
        (c.begin task key' fakeData lowTtlOverride).client.flowIds.get? key
          = c.client.flowIds.get? key)
      ∧ ((c.begin task key' fakeData lowTtlOverride).client.flowIds.get? key'
          = some flowId → c.client.flowIds.get? key' = some flowId) := by
  have hmaps := beginRegister_maps c.client c.io key' fakeData lowTtlOverride
  dsimp only at hmaps
  obtain ⟨-, ⟨hzero, -, hflows, hids⟩ | ⟨hzero, -, hflows, hids⟩
    | ⟨hzero, -, hflows, hids⟩⟩ := hmaps
  · unfold RemoteTasks.begin at hme ⊢
    dsimp only at hme ⊢
    rw [if_pos hzero] at hme
    rw [hflows, hids]
    exact ⟨hme, rfl, fun _ _ => rfl, fun h => h⟩
  · rw [get?_owner_begin hzero] at hme
    have hid : flowId ≠ c.client.nextFlowId := by
      rintro rfl
      rw [if_pos rfl] at hme
      exact htask (Option.some.inj hme)
    rw [if_neg hid] at hme
    unfold RemoteTasks.begin
    dsimp only
    rw [hflows, hids]
    refine ⟨hme, Table.get?_insert_ne hid,
      fun key hkey => Table.get?_insert_ne hkey, fun h => ?_⟩
    rw [Table.get?_insert_self] at h
    exact absurd (Option.some.inj h).symm hid
  · rw [get?_owner_begin hzero] at hme
    have hid : flowId ≠ c.client.nextFlowId := by
      rintro rfl
      rw [if_pos rfl] at hme
      exact htask (Option.some.inj hme)
    rw [if_neg hid] at hme
    unfold RemoteTasks.begin
    dsimp only
    rw [hflows, hids]
    refine ⟨hme, ?_, fun key hkey => ?_, fun h => ?_⟩
    · rw [Table.get?_remove_ne hid, Table.get?_insert_ne hid]
    · rw [Table.get?_remove_ne hkey, Table.get?_insert_ne hkey]
    · rw [Table.get?_remove_self] at h
      cases h

/-- The others do not use a key that is another's. -/
theorem stable_clean (me : Nat) (key : FlowKey)
    (cond : World RemoteTasks → Item Wait Wait.Reply RemoteCall → Prop) :
    Stable (remoteEnv me) cond (Clean me key) := by
  rintro w call w' hw - ⟨hcall, hstep⟩
  rw [hstep]
  rcases step_cases w.controller call with
    ⟨howner, hshrinks⟩ | ⟨task, key', fakeData, lowTtlOverride, rfl⟩
  · exact hw.shrinks howner hshrinks
  · intro flowId hme
    obtain ⟨hme', hflows, hids, hsame⟩ := begin_frame hcall hme
    obtain ⟨hnone, hkey⟩ := hw flowId hme'
    refine ⟨hflows.trans hnone, fun h => ?_⟩
    by_cases hkeys : key = key'
    · subst hkeys
      exact hkey (hsame h)
    · exact hkey ((hids key hkeys).symm.trans h)

/-- They leave it while it is held, too. -/
theorem stable_held (me : Nat) (key : FlowKey)
    {cond : World RemoteTasks → Item Wait Wait.Reply RemoteCall → Prop}
    (hcond : ∀ w call, cond w (.other call) → Apart me w.controller call) :
    Stable (remoteEnv me) cond (Held me key) := by
  rintro w call w' hw happart ⟨hcall, hstep⟩
  rw [hstep]
  rcases step_cases w.controller call with
    ⟨howner, hshrinks⟩ | ⟨task, key', fakeData, lowTtlOverride, rfl⟩
  · exact hw.shrinks howner hshrinks
  · intro flowId hme hthere
    obtain ⟨hme', hflows, hids, -⟩ := begin_frame hcall hme
    have hkey := hw flowId hme' fun hnone => hthere (hflows.trans hnone)
    by_cases hkeys : key = key'
    · subst hkeys
      exact absurd hme' (hcond w _ happart flowId hkey)
    · exact (hids key hkeys).trans hkey

/-- A removal leaves nothing. -/
theorem clean_remove (h : Held me key c) : Clean me key (c.remove key) := by
  intro flowId hme
  unfold RemoteTasks.remove RemoteHelperClient.removeFlow
  cases hkey : c.client.flowIds.get? key with
  | none =>
      refine ⟨?_, by simp [hkey]⟩
      cases hflows : c.client.flows.get? flowId with
      | none => rfl
      | some entry =>
          have hheld := h flowId hme (by simp [hflows])
          rw [hkey] at hheld
          cases hheld
  | some removed =>
      refine ⟨?_, by simp⟩
      by_cases hid : flowId = removed
      · rw [hid]
        exact Table.get?_remove_self
      · dsimp only
        rw [Table.get?_remove_ne hid]
        cases hflows : c.client.flows.get? flowId with
        | none => rfl
        | some entry =>
            have hheld := h flowId hme (by simp [hflows])
            exact absurd (Option.some.inj (hkey.symm.trans hheld)).symm hid

/-- A registration succeeds on its own acknowledgement only. -/
theorem registrationResult_ok {flowId : UInt64}
    {answer : Except String Message} :
    registrationResult flowId answer = .ok ()
      ↔ answer.toOption = some (.flowRegistered flowId) := by
  unfold registrationResult
  split
  case h_1 acknowledged =>
    by_cases hsame : acknowledged = flowId
    · simp [hsame, Except.toOption]
    · simp [hsame, Except.toOption]
  case h_2 other hother =>
    have hne : other ≠ .flowRegistered flowId := fun heq => hother _ heq
    simp [Except.toOption, hne]
  case h_3 error => simp [Except.toOption]

/-- After the wait the flow is under its key, or gone. -/
theorem register_spec (me : Nat) (key : FlowKey) (fakeData : Bytes)
    (lowTtlOverride : Option UInt8)
    {cond : World RemoteTasks → Item Wait Wait.Reply RemoteCall → Prop}
    (hcond : ∀ w call, cond w (.other call) → Apart me w.controller call)
    (hdropped : ∀ w, ¬ cond w (.dropped .helperAnswer)) :
    Triple (remoteEnv me) cond (fun w => Clean me key w.controller)
      ((remoteRegistry me).registerFlow key fakeData lowTtlOverride)
      fun _ r w => match r with
        | some (.ok _) => Held me key w.controller
        | some (.error _) => Clean me key w.controller
        | none => Clean me key w.controller := by
  apply triple_act
  intro w hw
  have hmaps := beginRegister_maps w.controller.client w.controller.io key
    fakeData lowTtlOverride
  dsimp only at hmaps ⊢
  obtain ⟨hid, ⟨hzero, ⟨error, hwaits⟩, hflows, hids⟩
    | ⟨hzero, ⟨requestId, hwaits⟩, hflows, hids⟩
    | ⟨hzero, ⟨error, hwaits⟩, hflows, hids⟩⟩ := hmaps
  · rw [hwaits]
    apply triple_done
    rintro _ rfl flowId hme
    have howner : (w.controller.begin me key fakeData lowTtlOverride).owner
        = w.controller.owner := if_pos hzero
    have hme' : w.controller.owner.get? flowId = some me := howner ▸ hme
    show (w.controller.begin me key fakeData lowTtlOverride).client.flows.get?
        flowId = none ∧ (w.controller.begin me key fakeData
          lowTtlOverride).client.flowIds.get? key ≠ some flowId
    unfold RemoteTasks.begin
    dsimp only
    rw [hflows, hids]
    exact hw flowId hme'
  · rw [hwaits]
    -- the maps are filled before the wait
    have hheld : ∀ w', w' = World.onController
        (RemoteTasks.begin me key fakeData lowTtlOverride) w →
        Held me key w'.controller := by
      rintro _ rfl flowId hme hthere
      have howner := @get?_owner_begin w.controller me key fakeData
        lowTtlOverride hzero flowId
      have hthere' : (w.controller.client.flows.insert
          w.controller.client.nextFlowId (.new [] lowTtlOverride)).get? flowId
          ≠ none := hflows ▸ hthere
      show (w.controller.begin me key fakeData
        lowTtlOverride).client.flowIds.get? key = some flowId
      unfold RemoteTasks.begin
      dsimp only
      rw [hids, Table.get?_insert_self]
      by_cases hsame : flowId = w.controller.client.nextFlowId
      · rw [hsame]
      · rw [if_neg hsame] at howner
        rw [Table.get?_insert_ne hsame] at hthere'
        exact absurd (hw flowId (howner.symm.trans hme)).1 hthere'
    have hwait : Triple (remoteEnv me) cond (fun w => Held me key w.controller)
        (.await .helperAnswer id fun answer =>
          .act (World.onController (RemoteTasks.finish key
            (w.controller.client.beginRegister w.controller.io key fakeData
              lowTtlOverride).2 answer))
            fun _ => .done (registrationResult
              (w.controller.client.beginRegister w.controller.io key fakeData
                lowTtlOverride).2 answer))
        fun _ r w => match r with
          | some (.ok _) => Held me key w.controller
          | some (.error _) => Clean me key w.controller
          | none => Clean me key w.controller := by
      refine triple_await (stable_held me key hcond) (fun _ _ _ _ h => h) ?_ ?_
      · exact fun w _ hdrop => absurd hdrop (hdropped w)
      · intro answer
        apply triple_act
        rintro w₁ ⟨hw₁, -⟩
        apply triple_done
        rintro _ rfl
        generalize (w.controller.client.beginRegister w.controller.io key
          fakeData lowTtlOverride).2 = flowId
        unfold World.onController RemoteTasks.finish
          RemoteHelperClient.endRegister
        dsimp only
        by_cases hacknowledged : answer.toOption = some (.flowRegistered flowId)
        · rw [registrationResult_ok.mpr hacknowledged, if_pos hacknowledged]
          exact hw₁
        · rw [if_neg hacknowledged]
          cases hresult : registrationResult flowId answer with
          | ok u =>
              exact absurd (registrationResult_ok.mp hresult) hacknowledged
          | error error => exact clean_remove hw₁
    exact hwait.mono hheld fun _ _ _ h => h
  · rw [hwaits]
    apply triple_done
    rintro _ rfl flowId hme
    have howner := @get?_owner_begin w.controller me key fakeData
      lowTtlOverride hzero flowId
    show (w.controller.begin me key fakeData lowTtlOverride).client.flows.get?
        flowId = none ∧ (w.controller.begin me key fakeData
          lowTtlOverride).client.flowIds.get? key ≠ some flowId
    unfold RemoteTasks.begin
    dsimp only
    rw [hflows, hids, Table.get?_remove_self]
    refine ⟨?_, by simp⟩
    by_cases hsame : flowId = w.controller.client.nextFlowId
    · rw [hsame]
      exact Table.get?_remove_self
    · rw [if_neg hsame] at howner
      rw [Table.get?_remove_ne hsame, Table.get?_insert_ne hsame]
      exact (hw flowId (howner.symm.trans hme)).1

theorem releases (me : Nat) (key : FlowKey)
    {cond : World RemoteTasks → Item Wait Wait.Reply RemoteCall → Prop}
    (hcond : ∀ w call, cond w (.other call) → Apart me w.controller call)
    (hdropped : ∀ w, ¬ cond w (.dropped .helperAnswer)) :
    Releases (remoteEnv me) cond (remoteRegistry me) key (Clean me key)
      (Held me key) where
  clean := stable_clean me key cond
  held := stable_held me key hcond
  remove _ h := clean_remove h
  register fakeData lowTtlOverride :=
    register_spec me key fakeData lowTtlOverride hcond hdropped

end RemoteTasks

-- ========================================================== the main result

/-- The task is not dropped. -/
def NotDropped {C ι : Type} (_ : World C) : Item Wait Wait.Reply ι → Prop
  | .dropped _ => False
  | _ => True

/-- It is not dropped while its registration waits for the helper, and
nobody else registers its key while its own registration is there. -/
def Unbroken (me : Nat) (w : World RemoteTasks) :
    Item Wait Wait.Reply RemoteCall → Prop
  | .dropped wait => wait ≠ .helperAnswer
  | .other call => w.controller.Apart me call
  | .reply _ _ => True

/-- It is not dropped, and nobody else registers its key. -/
def UnbrokenProbe (me : Nat) (w : World RemoteTasks) :
    Item Wait Wait.Reply RemoteCall → Prop
  | .dropped _ => False
  | .other call => w.controller.Apart me call
  | .reply _ _ => True

/-- When the task is gone, nothing it registered is in the controller's
tables: for a connection over a local controller in every run, and else in
every run that meets its condition. -/
theorem flows_released (me : Nat) :
    (∀ t c w l r w', LocalTasks.Clean me w.controller →
        Runs (localEnv me) (fun _ _ => True)
          (handleInterceptConnection (localRegistry me) t c) w l r w' →
        LocalTasks.Clean me w'.controller)
      ∧ (∀ c connectIp candidateTtl w l r w',
        LocalTasks.Clean me w.controller →
        Runs (localEnv me) NotDropped
          (probeTtl (localRegistry me) c connectIp candidateTtl) w l r w' →
        LocalTasks.Clean me w'.controller)
      ∧ (∀ t c key w l r w', c.flowKey = some key →
        RemoteTasks.Clean me key w.controller →
        Runs (remoteEnv me) (Unbroken me)
          (handleInterceptConnection (remoteRegistry me) t c) w l r w' →
        RemoteTasks.Clean me key w'.controller)
      ∧ ∀ c connectIp candidateTtl key w l r w',
        c.probeKey connectIp = some key →
        RemoteTasks.Clean me key w.controller →
        Runs (remoteEnv me) (UnbrokenProbe me)
          (probeTtl (remoteRegistry me) c connectIp candidateTtl) w l r w' →
        RemoteTasks.Clean me key w'.controller := by
  refine ⟨?_, ?_, ?_, ?_⟩
  · intro t c w l r w' hclean hrun
    exact released_intercept c t
      (fun key _ => ⟨_, LocalTasks.releases me key _⟩) w l r w' hclean hrun
  · intro c connectIp candidateTtl w l r w' hclean hrun
    exact released_probeTtl c connectIp candidateTtl (fun _ _ h => h)
      (fun key _ => ⟨_, LocalTasks.releases me key _⟩) w l r w' hclean hrun
  · intro t c key w l r w' hkey hclean hrun
    refine released_intercept c t (fun key' hkey' => ?_) w l r w' hclean hrun
    cases hkey.symm.trans hkey'
    exact ⟨_, RemoteTasks.releases me key (fun _ _ h => h) fun _ h => h rfl⟩
  · intro c connectIp candidateTtl key w l r w' hkey hclean hrun
    refine released_probeTtl c connectIp candidateTtl (fun _ _ h => h)
      (fun key' hkey' => ?_) w l r w' hclean hrun
    cases hkey.symm.trans hkey'
    exact ⟨_, RemoteTasks.releases me key (fun _ _ h => h) fun _ h => h⟩

-- ------------------------------------------------ a release, and three leaks

/-- The flow of the examples. -/
def sampleKey : FlowKey := ⟨0xC0A80002, 40000, 0x01020304, 443⟩

/-- A local controller without flows. -/
def freshLocal : World LocalTasks := ⟨[], none, ⟨⟨[]⟩, []⟩⟩

/-- A client that has just connected. -/
def freshRemote : World RemoteTasks :=
  ⟨[], none, ⟨Helper.RemoteHelperClient.connected, true, []⟩⟩

/-- Registered by the helper, and dropped while it connects. -/
theorem dropped_connect_is_released :
    ∃ w', Runs (remoteEnv 0) (Unbroken 0)
        (handleInterceptConnection (remoteRegistry 0) sampleSettings
          sampleConnection) freshRemote
        [.reply .helperAnswer (.ok (.flowRegistered 1)), .dropped .connect]
        none w'
      ∧ RemoteTasks.Clean 0 sampleKey w'.controller := by
  have hrun : ∃ w', Runs (remoteEnv 0) (Unbroken 0)
      (handleInterceptConnection (remoteRegistry 0) sampleSettings
        sampleConnection) freshRemote
      [.reply .helperAnswer (.ok (.flowRegistered 1)), .dropped .connect]
      none w' :=
    ⟨_, .act (.act (.reply trivial (.act (.dropped
      (show Wait.connect ≠ .helperAnswer by decide)))))⟩
  obtain ⟨w', hrun⟩ := hrun
  refine ⟨w', hrun, ?_⟩
  apply (flows_released 0).2.2.1 _ _ _ _ _ _ _ rfl _ hrun
  intro flowId hme
  cases hme

/-- Dropped while the helper has not answered; a probe dropped while it
connects; and a key that another task registers. -/
theorem dropped_registrations_leak :
    (∃ w', Runs (remoteEnv 0) (fun _ _ => True)
        (handleInterceptConnection (remoteRegistry 0) sampleSettings
          sampleConnection) freshRemote [.dropped .helperAnswer] none w'
      ∧ ¬ RemoteTasks.Clean 0 sampleKey w'.controller)
    ∧ (∃ w', Runs (localEnv 0) (fun _ _ => True)
        (probeTtl (localRegistry 0) sampleConnection 0x01020304 5) freshLocal
        [.dropped .connect] none w'
      ∧ ¬ LocalTasks.Clean 0 w'.controller)
    ∧ ∃ w', Runs (remoteEnv 0) (fun _ _ => True)
        (handleInterceptConnection (remoteRegistry 0) sampleSettings
          sampleConnection) freshRemote
        [.reply .helperAnswer (.ok (.flowRegistered 1)),
          .other (.begin 1 sampleKey [] none), .dropped .connect] none w'
      ∧ ¬ RemoteTasks.Clean 0 sampleKey w'.controller := by
  refine ⟨⟨_, .act (.act (.dropped trivial)), ?_⟩,
    ⟨_, .act (.act (.dropped trivial)), ?_⟩,
    ⟨_, .act (.act (.reply trivial (.act (.other
      (t := World.onController (·.step (.begin 1 sampleKey [] none)) _) trivial
      ⟨Nat.one_ne_zero, rfl⟩ (.dropped trivial))))), ?_⟩⟩
  · intro h
    cases (h 1 rfl).1
  · intro h
    cases h sampleKey rfl
  · intro h
    cases (h 1 rfl).1

end ZeroDpi.ConnectionTask
