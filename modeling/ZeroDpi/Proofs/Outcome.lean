/-
The outcome of a flow entry, under every interleaving.

# The entry as a step system

A flow entry is its state plus the calls that a released lock still owes.
Its steps are the critical sections: one packet, one owed call re-taking
the lock, one `finish` from another party. The proxy task, the remote
helper client and `reset` only ever call `finish`; `signal_outcome` has a
single call site, the data stage of the handler, so it appears as an owed
call and not as a step of its own.

# What holds of every run

The outcome is written once (`outcome_stable`), an outcome on a flow that
is still monitored means fragment-all mode (`OutcomeInv`), and monitoring
never resumes (`unmonitored_stable`).
-/
import ZeroDpi.Proofs.Steps
import ZeroDpi.Methods.Data

namespace ZeroDpi

open Lib Handler

/-- A flow's state and the calls its released locks still owe. -/
structure FlowEntry where
  state : FlowState
  owed : List Deferred := []

/-- `FlowEntry::new`. -/
def FlowEntry.new (fakeData : Bytes) (lowTtlOverride : Option UInt8) :
    FlowEntry where
  state := .new fakeData lowTtlOverride

/-- The critical sections of an entry. -/
inductive EntryEvent where
  | packet (env : HookEnv) (pkt : CapturedPacket) (verdict : Verdict)
  | resume (call : Deferred)
  | finish (outcome : BypassOutcome)

variable {μ : Type} [BypassMethod μ]

/-- One critical section. -/
inductive EntryStep (method : μ) :
    FlowEntry → EntryEvent → FlowEntry → Prop where
  | packet {e : FlowEntry} {env : HookEnv} {pkt : CapturedPacket}
      {l : Locked} :
      onPacketLocked method env e.state pkt.view = .ok l →
      EntryStep method e (.packet env pkt l.verdict)
        ⟨l.state, l.deferred.toList ++ e.owed⟩
  | resume {e : FlowEntry} {call : Deferred} :
      call ∈ e.owed →
      EntryStep method e (.resume call)
        ⟨call.run e.state, e.owed.erase call⟩
  | finish {e : FlowEntry} (outcome : BypassOutcome) :
      EntryStep method e (.finish outcome)
        ⟨e.state.finish outcome, e.owed⟩

-- ========================================================== write once

/-- Closing a flow is finishing it with `unexpectedClose`. -/
theorem unexpected_state (s : FlowState) (pkt : PacketView) :
    (unexpected s pkt).state = s.finish .unexpectedClose := by
  cases h : s.outcome with
  | none => simp [unexpected, FlowState.finish, h]
  | some o => simp [unexpected, FlowState.finish, h]

theorem Deferred.run_of_some {s : FlowState} {o : BypassOutcome}
    (h : s.outcome = some o) (d : Deferred) : d.run s = s := by
  cases d with
  | finish o' => exact FlowState.finish_of_some h o'
  | signalOutcome o' => exact FlowState.signalOutcome_of_some h o'

theorem onHandshakeAction_outcome (s : FlowState) (action : MethodAction)
    (v : PacketView) :
    (onHandshakeAction s action v).state.outcome = s.outcome := by
  cases action with
  | emitFakeAndAccept immediate more => cases more <;> rfl
  | _ => rfl

theorem onDataAction_outcome (s : FlowState) (action : MethodAction)
    (v : PacketView) :
    (onDataAction s action v).state.outcome = s.outcome := by
  cases action with
  | emitFakeAndAccept immediate more =>
      cases more <;> cases immediate <;> rfl
  | abortAndAccept =>
      simp only [onDataAction]
      split <;> rfl
  | _ => rfl

/-- A critical section never replaces an outcome. -/
theorem Handler.LockedCase.outcome_stable {method : μ} {env : HookEnv}
    {s : FlowState} {pkt : PacketView} {l : Locked}
    (h : LockedCase method env s pkt l) {o : BypassOutcome}
    (ho : s.outcome = some o) : l.state.outcome = some o := by
  cases h with
  | closed _ => rw [unexpected_state, FlowState.finish_of_some ho, ho]
  | handshake _ _ => rw [onHandshakeAction_outcome, ho]
  | data _ _ => rw [onDataAction_outcome, ho]
  | _ => exact ho

/-- Nor does any other step of the entry. -/
theorem EntryStep.outcome_stable {method : μ} {e e' : FlowEntry}
    {event : EntryEvent} (h : EntryStep method e event e')
    {o : BypassOutcome} (ho : e.state.outcome = some o) :
    e'.state.outcome = some o := by
  cases h with
  | packet hl => exact (locked_cases hl).outcome_stable ho
  | resume _ => simpa only [Deferred.run_of_some ho] using ho
  | finish o' => simpa only [FlowState.finish_of_some ho] using ho

-- ================================================ outcome while monitored

/-- An outcome, or a promise of one without ending the monitoring, on a
monitored flow means fragment-all mode. -/
structure OutcomeInv (e : FlowEntry) : Prop where
  settled : e.state.monitor = true → e.state.outcome.isSome = true →
    e.state.fragmentAllData = true
  promised : ∀ o, .signalOutcome o ∈ e.owed → e.state.monitor = true →
    e.state.fragmentAllData = true

theorem outcomeInv_new (fakeData : Bytes) (ttl : Option UInt8) :
    OutcomeInv (.new fakeData ttl) :=
  ⟨nofun, nofun⟩

/-- Finishing a flow ends the monitoring or does nothing. -/
theorem finish_cases (s : FlowState) (o : BypassOutcome) :
    (s.finish o).monitor = false ∨ s.finish o = s := by
  cases h : s.outcome with
  | none => exact .inl (by rw [FlowState.finish_of_none h])
  | some o' => exact .inr (FlowState.finish_of_some h o)

/-- A critical section that leaves the flow monitored keeps fragment-all
mode on. -/
theorem Handler.LockedCase.fragmentAll_stable {method : μ} {env : HookEnv}
    {s : FlowState} {pkt : PacketView} {l : Locked}
    (h : LockedCase method env s pkt l) (hmon : l.state.monitor = true)
    (hall : s.fragmentAllData = true) : l.state.fragmentAllData = true := by
  cases h with
  | closed _ =>
      rw [unexpected_state] at hmon ⊢
      rcases finish_cases s .unexpectedClose with hoff | hsame
      · rw [hoff] at hmon
        cases hmon
      · rw [hsame]
        exact hall
  | handshake hack _ => rw [hack.notAll] at hall; cases hall
  | @data action v _ _ =>
      cases action with
      | emitFakeAndAccept immediate more =>
          cases more <;> cases immediate <;> simp [onDataAction, hall]
      | abortAndAccept => simp [onDataAction, hall, Handler.pass] at hmon
      | _ => simpa [onDataAction, Handler.pass] using hall
  | _ => exact hall

/-- A critical section that owes a `signalOutcome` is in fragment-all
mode. -/
theorem Handler.LockedCase.signal_fragmentAll {method : μ} {env : HookEnv}
    {s : FlowState} {pkt : PacketView} {l : Locked}
    (h : LockedCase method env s pkt l) {o : BypassOutcome}
    (hd : l.deferred = some (.signalOutcome o)) :
    l.state.fragmentAllData = true := by
  cases h with
  | @handshake action v _ _ =>
      cases action with
      | emitFakeAndAccept immediate more =>
          cases more <;> cases immediate <;> cases hd
      | _ => cases hd
  | @data action v _ _ =>
      cases action with
      | emitFakeAndAccept immediate more =>
          cases more with
          | true => rfl
          | false => cases immediate <;> cases hd
      | completeAndAccept =>
          simp only [onDataAction] at hd
          split at hd <;> cases hd
      | passThrough => cases hd
      | abortAndAccept =>
          simp only [onDataAction] at hd
          split at hd <;> cases hd
  | _ => cases hd

/-- A critical section on an open flow that leaves an outcome has ended
the monitoring. -/
theorem Handler.LockedCase.outcome_closes {method : μ} {env : HookEnv}
    {s : FlowState} {pkt : PacketView} {l : Locked}
    (h : LockedCase method env s pkt l) (ho : s.outcome = none)
    (hl : l.state.outcome.isSome = true) : l.state.monitor = false := by
  cases h with
  | closed _ => rw [unexpected_state, FlowState.finish_of_none ho]
  | handshake _ _ => simp [onHandshakeAction_outcome, ho] at hl
  | data _ _ => simp [onDataAction_outcome, ho] at hl
  | _ => simp [Handler.pass, ho] at hl

/-- Every step keeps the invariant. -/
theorem EntryStep.outcomeInv {method : μ} {e e' : FlowEntry}
    {event : EntryEvent} (h : EntryStep method e event e')
    (hinv : OutcomeInv e) : OutcomeInv e' := by
  cases h with
  | @packet _ _ l hl =>
      have hcase := locked_cases hl
      -- a monitored result comes from a monitored state
      have hmon : l.state.monitor = true → e.state.monitor = true := by
        intro hm
        cases hoff : e.state.monitor with
        | true => rfl
        | false =>
            rw [locked_of_unmonitored method _ hoff] at hl
            cases hl
            exact hoff.symm.trans hm
      constructor
      · intro hm hsome
        cases ho : e.state.outcome with
        | none =>
            have hoff := hcase.outcome_closes ho hsome
            rw [hm] at hoff
            cases hoff
        | some o =>
            exact hcase.fragmentAll_stable hm
              (hinv.settled (hmon hm) (by rw [ho]; rfl))
      · intro o hmem hm
        rcases List.mem_append.mp hmem with hnew | hold
        · exact hcase.signal_fragmentAll (Option.mem_toList.mp hnew)
        · exact hcase.fragmentAll_stable hm
            (hinv.promised o hold (hmon hm))
  | @resume call hcall =>
      cases call with
      | finish o =>
          rcases finish_cases e.state o with hoff | hsame
          · exact ⟨fun hm => absurd hm (by simp [Deferred.run, hoff]),
              fun _ _ hm => absurd hm (by simp [Deferred.run, hoff])⟩
          · constructor
            · simpa only [Deferred.run, hsame] using hinv.settled
            · intro o' hmem hm
              simp only [Deferred.run, hsame] at hm ⊢
              exact hinv.promised o' (List.mem_of_mem_erase hmem) hm
      | signalOutcome o =>
          have hall : e.state.monitor = true →
              e.state.fragmentAllData = true := hinv.promised o hcall
          cases ho : e.state.outcome with
          | none =>
              simp only [Deferred.run, FlowState.signalOutcome_of_none ho]
              exact ⟨fun hm _ => hall hm, fun _ _ hm => hall hm⟩
          | some o' =>
              simp only [Deferred.run, FlowState.signalOutcome_of_some ho]
              exact ⟨fun hm _ => hall hm, fun _ _ hm => hall hm⟩
  | finish o =>
      rcases finish_cases e.state o with hoff | hsame
      · exact ⟨fun hm => absurd hm (by simp [hoff]),
          fun _ _ hm => absurd hm (by simp [hoff])⟩
      · rw [hsame]
        exact hinv

-- ================================================= monitoring never resumes

/-- Once off, the monitoring stays off. -/
theorem EntryStep.unmonitored_stable {method : μ} {e e' : FlowEntry}
    {event : EntryEvent} (h : EntryStep method e event e')
    (hoff : e.state.monitor = false) : e'.state.monitor = false := by
  cases h with
  | packet hl =>
      rw [locked_of_unmonitored method _ hoff] at hl
      cases hl
      exact hoff
  | @resume call _ =>
      cases ho : e.state.outcome with
      | none =>
          cases call with
          | finish o => simp [Deferred.run, FlowState.finish_of_none ho]
          | signalOutcome o =>
              simpa [Deferred.run, FlowState.signalOutcome_of_none ho]
                using hoff
      | some o => rw [Deferred.run_of_some ho]; exact hoff
  | finish o =>
      rcases finish_cases e.state o with hoff' | hsame
      · exact hoff'
      · rw [hsame]
        exact hoff

-- ============================================================ whole runs

/-- Every run of a flow entry: an outcome, once written, stays; an
outcome on a monitored flow means fragment-all mode; and once the
monitoring is off it stays off, and every later packet is accepted with
the state as it was and nothing owed. -/
theorem entry_run_outcome (method : μ) (fakeData : Bytes)
    (ttl : Option UInt8) {events : List EntryEvent} {e : FlowEntry}
    (h : Run (EntryStep method) (.new fakeData ttl) events e) :
    (∀ o, e.state.outcome = some o → ∀ later e',
        Run (EntryStep method) e later e' → e'.state.outcome = some o)
    ∧ (e.state.outcome.isSome = true → e.state.monitor = true →
        e.state.fragmentAllData = true)
    ∧ (e.state.monitor = false → ∀ later e',
        Run (EntryStep method) e later e' → e'.state.monitor = false ∧
          ∀ env (pkt : CapturedPacket),
            onPacketLocked method env e'.state pkt.view
              = .ok { state := e'.state, pkt := pkt.view,
                      verdict := .accept, deferred := none }) := by
  have hinv : OutcomeInv e :=
    h.invariant (fun hinv hstep => hstep.outcomeInv hinv)
      (outcomeInv_new fakeData ttl)
  refine ⟨?_, fun hsome hmon => hinv.settled hmon hsome, ?_⟩
  · intro o ho later e' hlater
    exact hlater.invariant (P := fun x => x.state.outcome = some o)
      (fun hx hstep => hstep.outcome_stable hx) ho
  · intro hoff later e' hlater
    have hoff' : e'.state.monitor = false :=
      hlater.invariant (P := fun x => x.state.monitor = false)
        (fun hx hstep => hstep.unmonitored_stable hx) hoff
    exact ⟨hoff', fun env pkt =>
      locked_of_unmonitored method env hoff' pkt.view⟩

/-- A flow in fragment-all mode right after the owed `signalOutcome`: the
outcome is out, the flow is still monitored, and the outcome stays. -/
theorem sample_entry_run_outcome :
    ∃ (events : List EntryEvent) (e : FlowEntry),
      Run (EntryStep (IpFrag.mk 24 false)) (.new [0x16] none) events e
      ∧ e.state.outcome = some .fakeDataAcked ∧ e.state.monitor = true
      ∧ e.state.fragmentAllData = true
      ∧ ∀ later e', Run (EntryStep (IpFrag.mk 24 false)) e later e' →
          e'.state.outcome = some .fakeDataAcked := by
  have step {s : FlowState} {l : Locked} (owed : List Deferred)
      (pkt : CapturedPacket)
      (h : onPacketLocked (IpFrag.mk 24 false) sampleEnv s pkt.view = .ok l) :
      EntryStep (IpFrag.mk 24 false) ⟨s, owed⟩
        (.packet sampleEnv pkt l.verdict)
        ⟨l.state, l.deferred.toList ++ owed⟩ := .packet h
  have run : Run (EntryStep (IpFrag.mk 24 false)) (.new [0x16] none) _ _ :=
    .cons (step [] (samplePacket .outbound 100 0 { syn := true } []) rfl) <|
    .cons (step [] (samplePacket .inbound 500 101
      { syn := true, ack := true } []) rfl) <|
    .cons (step [] sampleAck rfl) <|
    .cons (step [] (sampleData [0x16]) rfl) <|
    .cons (.resume (List.mem_singleton_self
      (Deferred.signalOutcome .fakeDataAcked))) (.nil _)
  obtain ⟨hstay, hall, -⟩ := entry_run_outcome _ [0x16] none run
  exact ⟨_, _, run, rfl, rfl, hall rfl rfl, hstay _ rfl⟩

end ZeroDpi
