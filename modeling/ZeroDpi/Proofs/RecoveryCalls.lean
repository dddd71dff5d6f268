/-
The calls the recovery coordinator makes, over whole runs.

# The order of the calls

A trace is a sequence of quiet calls and of whole recoveries
(`Recoveries`). A recovery starts with a successful rebuild and ends with
`Recovered`, and everything between the two is the `verifying` and the
`rescanning` stage, where the coordinator listens to nobody. So the
invariant says of every other stage that the trace is whole, and of these
two which part of a recovery is on top of it (`CallsAt`).

# The backoff

The stage of a backoff is entered with the failure and the delay as the
two latest calls. It is left into another attempt by the sleep, which
waits the delay out, or by a closed channel, which does not.
-/
import ZeroDpi.Proofs.Coordinator

namespace ZeroDpi.Runtime

open Lib

-- ========================================================= the recoveries

/-- The calls that are no part of a recovery. -/
def Call.quiet : Call → Bool
  | .rebuild _ (.ok _) => false
  | .applyInterfaceBinding _ => false
  | .verify _ => false
  | .rescan _ => false
  | .publish (.recovered _ _ _) => false
  | _ => true

/-- All earlier rescans were over by `start`, for as long as the interval
says. -/
def RescansApart (older : List (Nat × Call)) (start : Nat) : Prop :=
  ∀ now outcome, (now, .rescan outcome) ∈ older →
    now + recoveryRescanMinInterval ≤ start

/-- What is published between a rescan and its `Recovered`. -/
def rescanNotice (now : Nat) (outcome : RescanOutcome) :
    List (Nat × Call) :=
  if outcome.found = 0 then
    [(now, .publish (.unavailable
      "recovery rescan found no reachable target"))]
  else []

/-- Traces, latest call first, made of quiet calls and whole recoveries:
rebuild, apply, verify and `Recovered`, all for one binding, with a rescan
after a verification that failed, if targets are selected automatically
and the earlier rescans are far enough back. -/
inductive Recoveries (autoSelect : Bool) : List (Nat × Call) → Prop where
  | nil : Recoveries autoSelect []
  | quiet {now : Nat} {call : Call} {older : List (Nat × Call)} :
      call.quiet = true → Recoveries autoSelect older →
      Recoveries autoSelect ((now, call) :: older)
  | verified {binding : InterfaceBinding} {verified : Bool}
      {built applied checked now : Nat} {older : List (Nat × Call)} :
      Recoveries autoSelect older →
      Recoveries autoSelect
        ((now, .publish (.recovered binding.ip verified false))
          :: (checked, .verify verified)
          :: (applied, .applyInterfaceBinding binding)
          :: (built, .rebuild binding (.ok ())) :: older)
  | rescanned {binding : InterfaceBinding} {outcome : RescanOutcome}
      {built applied checked scanned now : Nat}
      {older : List (Nat × Call)} :
      autoSelect = true → RescansApart older checked →
      Recoveries autoSelect older →
      Recoveries autoSelect
        ((now, .publish (.recovered binding.ip false outcome.switched))
          :: rescanNotice now outcome
          ++ (scanned, .rescan outcome) :: (checked, .verify false)
          :: (applied, .applyInterfaceBinding binding)
          :: (built, .rebuild binding (.ok ())) :: older)

/-- More quiet calls on top. -/
theorem Recoveries.quietly {autoSelect : Bool} {older : List (Nat × Call)}
    (h : Recoveries autoSelect older) :
    ∀ {calls : List (Nat × Call)}, (∀ x ∈ calls, x.2.quiet = true) →
      Recoveries autoSelect (calls ++ older) := by
  intro calls
  induction calls with
  | nil =>
      intro _
      exact h
  | cons x rest ih =>
      intro hquiet
      exact .quiet (hquiet x List.mem_cons_self)
        (ih fun y hy => hquiet y (List.mem_cons_of_mem x hy))

/-- The trace at a stage: whole, or with the recovery under way on top. -/
def CallsAt (autoSelect : Bool) (trace : List (Nat × Call)) : Stage → Prop
  | .verifying binding => ∃ applied built older,
      trace = (applied, .applyInterfaceBinding binding)
        :: (built, .rebuild binding (.ok ())) :: older
      ∧ Recoveries autoSelect older
  | .rescanning binding => autoSelect = true
      ∧ ∃ checked applied built older,
        trace = (checked, .verify false)
          :: (applied, .applyInterfaceBinding binding)
          :: (built, .rebuild binding (.ok ())) :: older
        ∧ RescansApart older checked ∧ Recoveries autoSelect older
  | _ => Recoveries autoSelect trace

/-- The binding a stage rebuilds for. -/
def Stage.rebuildsFor : Stage → Option InterfaceBinding
  | .rebuilding _ binding _ _ => some binding
  | .backingOff _ binding _ _ _ => some binding
  | _ => none

namespace RecoveryCoordinator

/-- What holds between any two steps. -/
structure CallInv (autoSelect : Bool) (c : RecoveryCoordinator) : Prop where
  auto : c.autoSelect = autoSelect
  calls : CallsAt autoSelect c.trace c.stage
  /-- No rebuild for the current binding. -/
  changed : ∀ binding, c.stage.rebuildsFor = some binding →
    c.current ≠ some binding
  /-- `last_rescan` is no earlier than any rescan. -/
  rescans : ∀ now outcome, (now, .rescan outcome) ∈ c.trace →
    ∃ last, c.lastRescan = some last ∧ now ≤ last
  past : ∀ last, c.lastRescan = some last → last ≤ c.clock

variable {autoSelect : Bool} {c : RecoveryCoordinator}

/-- Before the first call. -/
theorem callInv_new (autoSelect : Bool) (initial : Option InterfaceBinding)
    (clock : Nat) : CallInv autoSelect (new autoSelect initial clock) where
  auto := rfl
  calls := .nil
  changed _ h := by cases h
  rescans _ _ h := by cases h
  past _ h := by cases h

/-- The passage of time. -/
theorem CallInv.at (h : CallInv autoSelect c) (elapsed : Nat) :
    CallInv autoSelect { c with clock := c.clock + elapsed } where
  auto := h.auto
  calls := h.calls
  changed := h.changed
  rescans := h.rescans
  past last hlast := Nat.le_add_right_of_le (h.past last hlast)

/-- The trace, once the stage is known. -/
theorem CallInv.callsAt (h : CallInv autoSelect c) {stage : Stage}
    (hs : c.stage = stage) : CallsAt autoSelect c.trace stage := by
  rw [← hs]
  exact h.calls

/-- New calls that are no rescans. -/
theorem CallInv.rescans_append (h : CallInv autoSelect c)
    (calls : List (Nat × Call))
    (hother : ∀ x ∈ calls, ∀ outcome, x.2 ≠ .rescan outcome) (now : Nat)
    (outcome : RescanOutcome)
    (hmem : (now, .rescan outcome) ∈ calls ++ c.trace) :
    ∃ last, c.lastRescan = some last ∧ now ≤ last := by
  rcases List.mem_append.mp hmem with hnew | hold
  · exact absurd rfl (hother _ hnew outcome)
  · exact h.rescans now outcome hold

/-- Quiet calls, from a whole trace to a stage outside the recoveries. -/
theorem CallInv.quietly (h : CallInv autoSelect c)
    {c' : RecoveryCoordinator} (hwhole : Recoveries autoSelect c.trace)
    (calls : List (Nat × Call)) (htrace : c'.trace = calls ++ c.trace)
    (hquiet : ∀ x ∈ calls, x.2.quiet = true)
    (hauto : c'.autoSelect = c.autoSelect)
    (hlast : c'.lastRescan = c.lastRescan) (hclock : c'.clock = c.clock)
    (hstage : CallsAt autoSelect c'.trace c'.stage
      = Recoveries autoSelect c'.trace)
    (hchanged : ∀ binding, c'.stage.rebuildsFor = some binding →
      c'.current ≠ some binding) : CallInv autoSelect c' where
  auto := hauto.trans h.auto
  calls := by
    rw [hstage, htrace]
    exact hwhole.quietly hquiet
  changed := hchanged
  rescans now outcome hmem := by
    rw [htrace] at hmem
    rw [hlast]
    refine h.rescans_append calls ?_ now outcome hmem
    intro x hx other heq
    have hcall := hquiet x hx
    rw [heq] at hcall
    cases hcall
  past last h' := by
    rw [hclock]
    exact h.past last (hlast.symm.trans h')

/-- The start. -/
theorem CallInv.start (h : CallInv autoSelect c)
    (hs : c.stage = .starting) : CallInv autoSelect c.start := by
  have hwhole : Recoveries autoSelect c.trace := h.callsAt hs
  unfold RecoveryCoordinator.start
  split
  case h_1 binding _ =>
    exact h.quietly hwhole [(c.clock, .publish (.online binding.ip))] rfl
      (by simp [Call.quiet]) rfl rfl rfl rfl nofun
  · exact h.quietly hwhole [] rfl nofun rfl rfl rfl rfl nofun

/-- The head of the loop: a rebuild is only ever started for a binding
that is not the current one. -/
theorem CallInv.decide (h : CallInv autoSelect c)
    {source : NetworkChangeSource} (hs : c.stage = .deciding source)
    (disconnected : Bool) (target : Ipv4Addr)
    (probe : Except String InterfaceBinding) :
    CallInv autoSelect (c.decide source disconnected target probe) := by
  have hwhole : Recoveries autoSelect c.trace := h.callsAt hs
  unfold RecoveryCoordinator.decide
  split
  · exact h.quietly hwhole [_] rfl (by simp [Call.quiet]) rfl rfl rfl rfl nofun
  · split
    · exact h.quietly hwhole [_] rfl (by simp [Call.quiet]) rfl rfl rfl rfl
        nofun
    · cases probe with
      | error error =>
          exact h.quietly hwhole [_, _] rfl (by simp [Call.quiet]) rfl rfl
            rfl rfl nofun
      | ok binding =>
          simp only
          split
          · exact h.quietly hwhole [_, _] rfl (by simp [Call.quiet]) rfl
              rfl rfl rfl nofun
          case isFalse hne =>
            refine h.quietly hwhole [_, _] rfl (by simp [Call.quiet]) rfl
              rfl rfl rfl ?_
            intro b hb hcurrent
            cases hb
            exact hne hcurrent

/-- A rebuild that has ended. -/
theorem CallInv.onRebuilt (h : CallInv autoSelect c)
    {source : NetworkChangeSource} {binding : InterfaceBinding}
    {attempt : UInt32} {delay : Nat}
    (hs : c.stage = .rebuilding source binding attempt delay)
    (result : Except String Unit) :
    CallInv autoSelect
      (c.onRebuilt source binding attempt delay result) := by
  have hwhole : Recoveries autoSelect c.trace := h.callsAt hs
  cases result with
  | error error =>
      refine h.quietly hwhole [_, _] rfl (by simp [Call.quiet]) rfl rfl rfl
        rfl ?_
      intro b hb
      cases hb
      exact h.changed binding (by rw [hs]; rfl)
  | ok u =>
      exact {
        auto := h.auto
        calls := ⟨_, _, c.trace, rfl, hwhole⟩
        changed := nofun
        rescans := h.rescans_append [_, _] (by simp)
        past := h.past }

/-- From the backoff into another attempt or back to the probe. -/
theorem CallInv.leaveBackoff (h : CallInv autoSelect c)
    {source : NetworkChangeSource} {binding : InterfaceBinding}
    {attempt : UInt32} {delay since : Nat}
    (hs : c.stage = .backingOff source binding attempt delay since) :
    CallInv autoSelect (c.retry source binding attempt delay)
      ∧ CallInv autoSelect (c.goto (.deciding source)) := by
  have hwhole : Recoveries autoSelect c.trace := h.callsAt hs
  refine ⟨h.quietly hwhole [] rfl nofun rfl rfl rfl rfl ?_,
    h.quietly hwhole [] rfl nofun rfl rfl rfl rfl nofun⟩
  intro b hb
  cases hb
  exact h.changed binding (by rw [hs]; rfl)

/-- A verification that has. -/
theorem CallInv.onVerified (h : CallInv autoSelect c)
    {binding : InterfaceBinding} (hs : c.stage = .verifying binding)
    (verified : Bool) :
    CallInv autoSelect (c.onVerified binding verified) := by
  obtain ⟨applied, built, older, htrace, hwhole⟩ := h.callsAt hs
  unfold RecoveryCoordinator.onVerified
  simp only
  split
  case isTrue hscan =>
    simp only [Bool.and_eq_true, Bool.not_eq_true'] at hscan
    obtain ⟨⟨hfailed, hauto⟩, hallowed⟩ := hscan
    have hapart : RescansApart older c.clock := by
      intro now outcome hmem
      obtain ⟨last, hlast, hle⟩ := h.rescans now outcome (by
        rw [htrace]
        exact List.mem_cons_of_mem _ (List.mem_cons_of_mem _ hmem))
      simp only [rescanAllowed, log, hlast, decide_eq_true_eq] at hallowed
      have hpos : 0 < recoveryRescanMinInterval := by decide
      omega
    refine ⟨h.auto, ⟨h.auto.symm.trans hauto, c.clock, applied, built,
      older, ?_, hapart, hwhole⟩, ?_, h.rescans_append [_] (by simp),
      h.past⟩
    · show (c.clock, Call.verify verified) :: c.trace = _
      rw [htrace, hfailed]
    · intro b hb
      cases hb
  case isFalse =>
    refine ⟨h.auto, ?_, ?_, h.rescans_append [_, _] (by simp), h.past⟩
    · show Recoveries autoSelect (_ :: (c.clock, Call.verify verified)
        :: c.trace)
      rw [htrace]
      exact .verified hwhole
    · intro b hb
      cases hb

/-- A rescan that has. -/
theorem CallInv.onRescanned (h : CallInv autoSelect c)
    {binding : InterfaceBinding} (hs : c.stage = .rescanning binding)
    (outcome : RescanOutcome) :
    CallInv autoSelect (c.onRescanned binding outcome) := by
  obtain ⟨hauto, checked, applied, built, older, htrace, hapart, hwhole⟩ :=
    h.callsAt hs
  have hshape : (c.onRescanned binding outcome).trace
      = (c.clock, .publish (.recovered binding.ip false outcome.switched))
        :: rescanNotice c.clock outcome
        ++ (c.clock, .rescan outcome) :: c.trace := by
    unfold RecoveryCoordinator.onRescanned rescanNotice
    simp only
    split <;> rfl
  have hother : (c.onRescanned binding outcome).stage = .listening
      ∧ (c.onRescanned binding outcome).autoSelect = c.autoSelect
      ∧ (c.onRescanned binding outcome).lastRescan = some c.clock
      ∧ (c.onRescanned binding outcome).clock = c.clock := by
    unfold RecoveryCoordinator.onRescanned
    simp only
    split <;> exact ⟨rfl, rfl, rfl, rfl⟩
  obtain ⟨hstage, hsame, hlast, hclock⟩ := hother
  refine ⟨hsame.trans h.auto, ?_, ?_, ?_, ?_⟩
  · rw [hstage, hshape, htrace]
    exact .rescanned hauto hapart hwhole
  · rw [hstage]
    nofun
  · intro now outcome' hmem
    refine ⟨c.clock, hlast, ?_⟩
    rw [hshape] at hmem
    have hold : now = c.clock ∨ (now, .rescan outcome') ∈ c.trace := by
      rcases List.mem_append.mp hmem with hnew | hmem
      · rcases List.mem_cons.mp hnew with heq | hnotice
        · cases heq
        · unfold rescanNotice at hnotice
          split at hnotice
          · cases List.mem_singleton.mp hnotice
          · cases hnotice
      · rcases List.mem_cons.mp hmem with heq | hold
        · cases heq
          exact .inl rfl
        · exact .inr hold
    rcases hold with rfl | hold
    · exact Nat.le_refl _
    · obtain ⟨last, hlast', hle⟩ := h.rescans now outcome' hold
      exact Nat.le_trans hle (h.past last hlast')
  · intro last hlast'
    rw [hlast] at hlast'
    cases hlast'
    exact Nat.le_of_eq hclock.symm

/-- So every reaction keeps the invariant. -/
theorem CallInv.react (h : CallInv autoSelect c) {act : Act}
    {c' : RecoveryCoordinator} (hreact : Reaction c act c') :
    CallInv autoSelect c' := by
  cases hreact with
  | start hs => exact h.start hs
  | @received r hs =>
      have hwhole : Recoveries autoSelect c.trace := h.callsAt hs
      cases r <;>
        exact h.quietly hwhole [] rfl nofun rfl rfl rfl rfl nofun
  | decide hs => exact h.decide hs _ _ _
  | rebuilt hs => exact h.onRebuilt hs _
  | slept hs hdue => exact (h.leaveBackoff hs).1
  | @interrupted _ _ _ _ _ r hs =>
      cases r with
      | closed => exact (h.leaveBackoff hs).1
      | lagged => exact (h.leaveBackoff hs).2
      | changed source => exact (h.leaveBackoff hs).2
  | verified hs => exact h.onVerified hs _
  | rescanned hs => exact h.onRescanned hs _

/-- In every run of the coordinator, whatever its environment answers and
whenever: the calls are quiet ones and whole recoveries, with the last
recovery possibly under way, and no rebuild is for the current binding. -/
theorem recovery_call_discipline (autoSelect : Bool)
    (initial : Option InterfaceBinding) (clock : Nat)
    (labels : List (Nat × Act)) (c : RecoveryCoordinator)
    (hrun : Run Steps (new autoSelect initial clock) labels c) :
    CallsAt autoSelect c.trace c.stage
      ∧ ∀ source binding attempt delay,
        c.stage = .rebuilding source binding attempt delay →
          c.current ≠ some binding := by
  have hinv : CallInv autoSelect c := by
    refine hrun.invariant (P := CallInv autoSelect) ?_
      (callInv_new autoSelect initial clock)
    intro s label t hs hstep
    exact (hs.at label.1).react (react_cases hstep)
  refine ⟨hinv.calls, ?_⟩
  intro source binding attempt delay hs
  exact hinv.changed binding (by rw [hs]; rfl)

/-- A move to mobile and back, with a target that answers neither time:
the second rescan comes when the first is a minute back. -/
def sampleRescans : List (Nat × Act) :=
  [(0, .start), (5, .received (.changed .address)),
   (0, .decide false 0x01010101 (.ok sampleMobile)),
   (20, .rebuilt (.ok ())), (300, .verified false),
   (700, .rescanned ⟨0, false⟩), (60000, .received (.changed .route)),
   (0, .decide false 0x01010101 (.ok sampleWifi)),
   (20, .rebuilt (.ok ())), (300, .verified false),
   (700, .rescanned ⟨2, true⟩)]

/-- A recovery with rescans. -/
theorem sample_recovery_calls :
    ∃ c, Run Steps (new true (some sampleWifi) 0) sampleRescans c
      ∧ c.trace.length = 16 ∧ Recoveries true c.trace := by
  have hruns : ∃ c, Run Steps (new true (some sampleWifi) 0) sampleRescans c
      ∧ c.trace.length = 16 ∧ c.stage = .listening :=
    ⟨_, .cons rfl <| .cons rfl <| .cons rfl <| .cons rfl <| .cons rfl <|
      .cons rfl <| .cons rfl <| .cons rfl <| .cons rfl <| .cons rfl <|
      .cons rfl <| .nil _, rfl, rfl⟩
  obtain ⟨c, hrun, hlen, hstage⟩ := hruns
  have hcalls := (recovery_call_discipline true (some sampleWifi) 0 _ c
    hrun).1
  rw [hstage] at hcalls
  exact ⟨c, hrun, hlen, hcalls⟩

-- ============================================================ the backoff

/-- The delay after the `n`-th failure, from 0: doubled up to its
maximum. -/
def backoffDelay : Nat → Nat
  | 0 => backoffInitial
  | n + 1 => min (backoffDelay n * 2) backoffMax

/-- The first `n` delays, latest first. -/
def backoffDelays : Nat → List Nat
  | 0 => []
  | n + 1 => backoffDelay n :: backoffDelays n

/-- The delays published for the failed attempts on top of a trace, latest
first: `rebuild_with_retry` does nothing else between two attempts. -/
def retryDelays : List (Nat × Call) → List Nat
  | (_, .publish (.recovering _ delay _)) :: (_, .rebuild _ (.error _))
      :: older => delay :: retryDelays older
  | _ => []

/-- At every point of a trace, the delays published in a row are the
first ones of the backoff. -/
def DelaysDouble (trace : List (Nat × Call)) : Prop :=
  ∀ newer older, trace = newer ++ older →
    ∃ n, retryDelays older = backoffDelays n

/-- The next attempt after a failed one, for the same binding, starts
when the delay published with the failure is over. -/
def HonoursBackoff (c c' : RecoveryCoordinator) : Prop :=
  ∀ source binding attempt delay since source' binding' attempt' delay',
    c.stage = .backingOff source binding attempt delay since →
    c'.stage = .rebuilding source' binding' attempt' delay' →
    ∃ now published number error failed older,
      c.trace = (now, .publish (.recovering number published error))
        :: (failed, .rebuild binding' (.error error)) :: older
      ∧ now + published ≤ c'.clock

/-- The condition on a step: a backoff does not end with a closed channel
before its delay is over. -/
def WaitsOut (c : RecoveryCoordinator) (label : Nat × Act) : Prop :=
  ∀ source binding attempt delay since,
    c.stage = .backingOff source binding attempt delay since →
    label.2 = .interrupted .closed → since + delay ≤ c.clock + label.1

/-- The failures on top of the trace, as the stage has them. -/
def BackoffAt (trace : List (Nat × Call)) : Stage → Prop
  | .rebuilding _ _ _ delay => ∃ n, retryDelays trace = backoffDelays n
      ∧ delay = backoffDelay n
  | .backingOff _ binding attempt delay since => ∃ n error older,
      trace = (since, .publish (.recovering attempt delay error))
        :: (since, .rebuild binding (.error error)) :: older
      ∧ retryDelays older = backoffDelays n ∧ delay = backoffDelay n
  | _ => True

/-- The delays so far, and the one that is waited for. -/
structure BackoffInv (c : RecoveryCoordinator) : Prop where
  double : DelaysDouble c.trace
  stage : BackoffAt c.trace c.stage

/-- A delay more. -/
theorem DelaysDouble.cons {trace : List (Nat × Call)}
    (h : DelaysDouble trace) {now : Nat} {call : Call} {n : Nat}
    (hn : retryDelays ((now, call) :: trace) = backoffDelays n) :
    DelaysDouble ((now, call) :: trace) := by
  intro newer older hsplit
  cases newer with
  | nil =>
      rw [← show (now, call) :: trace = older from hsplit]
      exact ⟨n, hn⟩
  | cons x newer =>
      rw [List.cons_append, List.cons.injEq] at hsplit
      exact h newer older hsplit.2

/-- A call that publishes no failure starts over. -/
theorem retryDelays_quiet {call : Call} (older : List (Nat × Call))
    (now : Nat)
    (hcall : ∀ attempt delay error,
      call ≠ .publish (.recovering attempt delay error)) :
    retryDelays ((now, call) :: older) = backoffDelays 0 := by
  unfold retryDelays
  split
  case h_1 heq =>
    cases heq
    exact absurd rfl (hcall _ _ _)
  · rfl

/-- A call that is no delay. -/
theorem DelaysDouble.log {trace : List (Nat × Call)}
    (h : DelaysDouble trace) (now : Nat) (call : Call)
    (hcall : ∀ attempt delay error,
      call ≠ .publish (.recovering attempt delay error)) :
    DelaysDouble ((now, call) :: trace) :=
  h.cons (retryDelays_quiet trace now hcall)

/-- Before the first call. -/
theorem backoffInv_new (autoSelect : Bool)
    (initial : Option InterfaceBinding) (clock : Nat) :
    BackoffInv (new autoSelect initial clock) where
  double newer older hsplit := by
    obtain ⟨-, rfl⟩ := List.append_eq_nil_iff.mp hsplit.symm
    exact ⟨0, rfl⟩
  stage := trivial

/-- Time passes. -/
theorem BackoffInv.at (h : BackoffInv c) (clock : Nat) :
    BackoffInv { c with clock := clock } :=
  ⟨h.double, h.stage⟩

/-- A decision starts over. -/
theorem BackoffInv.decide (h : BackoffInv c) (source : NetworkChangeSource)
    (disconnected : Bool) (target : Ipv4Addr)
    (probe : Except String InterfaceBinding) :
    BackoffInv (c.decide source disconnected target probe) := by
  unfold RecoveryCoordinator.decide
  split
  · exact ⟨h.double.log _ _ nofun, trivial⟩
  · split
    · exact ⟨h.double.log _ _ nofun, trivial⟩
    · have hprobed := h.double.log c.clock (.probe target probe) nofun
      cases probe with
      | error error => exact ⟨hprobed.log _ _ nofun, trivial⟩
      | ok binding =>
          simp only
          split
          · exact ⟨hprobed.log _ _ nofun, trivial⟩
          · exact ⟨hprobed.log _ _ nofun,
              0, retryDelays_quiet _ _ nofun, rfl⟩

/-- A rebuild that failed doubles the delay. -/
theorem BackoffInv.onRebuilt (h : BackoffInv c)
    {source : NetworkChangeSource} {binding : InterfaceBinding}
    {attempt : UInt32} {delay : Nat}
    (hs : c.stage = .rebuilding source binding attempt delay)
    (result : Except String Unit) :
    BackoffInv (c.onRebuilt source binding attempt delay result) := by
  have hlogged := h.double.log c.clock (.rebuild binding result) nofun
  cases result with
  | ok u => exact ⟨hlogged.log _ _ nofun, trivial⟩
  | error error =>
      have hstage := h.stage
      rw [hs] at hstage
      obtain ⟨n, hdelays, hdelay⟩ := hstage
      refine ⟨hlogged.cons (n := n + 1) ?_,
        n, error, c.trace, rfl, hdelays, hdelay⟩
      show delay :: retryDelays c.trace = backoffDelays (n + 1)
      rw [hdelays, hdelay, backoffDelays]

/-- The next attempt. -/
theorem BackoffInv.retry (h : BackoffInv c)
    {source : NetworkChangeSource} {binding : InterfaceBinding}
    {attempt : UInt32} {delay since : Nat}
    (hs : c.stage = .backingOff source binding attempt delay since) :
    BackoffInv (c.retry source binding attempt delay) := by
  have hstage := h.stage
  rw [hs] at hstage
  obtain ⟨n, error, older, htrace, hdelays, hdelay⟩ := hstage
  refine ⟨h.double, n + 1, ?_, ?_⟩
  · show retryDelays c.trace = backoffDelays (n + 1)
    rw [htrace]
    show delay :: retryDelays older = _
    rw [hdelays, hdelay, backoffDelays]
  · rw [hdelay, backoffDelay]

/-- So every reaction keeps it, -/
theorem BackoffInv.react (h : BackoffInv c) {act : Act}
    {c' : RecoveryCoordinator} (hreact : Reaction c act c') :
    BackoffInv c' := by
  cases hreact with
  | start hs =>
      unfold RecoveryCoordinator.start
      split
      · exact ⟨h.double.log _ _ nofun, trivial⟩
      · exact ⟨h.double, trivial⟩
  | @received r hs => cases r <;> exact ⟨h.double, trivial⟩
  | decide hs => exact h.decide _ _ _ _
  | rebuilt hs => exact h.onRebuilt hs _
  | slept hs hdue => exact h.retry hs
  | @interrupted _ _ _ _ _ r hs =>
      cases r with
      | closed => exact h.retry hs
      | lagged => exact ⟨h.double, trivial⟩
      | changed source => exact ⟨h.double, trivial⟩
  | @verified _ verified hs =>
      have hlogged := h.double.log c.clock (.verify verified) nofun
      unfold RecoveryCoordinator.onVerified
      simp only
      split
      · exact ⟨hlogged, trivial⟩
      · exact ⟨hlogged.log _ _ nofun, trivial⟩
  | @rescanned _ outcome hs =>
      have hlogged := h.double.log c.clock (.rescan outcome) nofun
      unfold RecoveryCoordinator.onRescanned
      simp only
      split
      · have hnotice := hlogged.log c.clock (.publish (.unavailable
          "recovery rescan found no reachable target")) (by
            intro _ _ _ heq
            cases heq)
        exact ⟨hnotice.log _ _ nofun, trivial⟩
      · exact ⟨hlogged.log _ _ nofun, trivial⟩

/-- and every step. -/
theorem BackoffInv.step (h : BackoffInv c) {label : Nat × Act}
    {c' : RecoveryCoordinator} (hstep : c.Steps label c') :
    BackoffInv c' :=
  (h.at (c.clock + label.1)).react (react_cases hstep)

/-- A step honours the backoff exactly if it waits it out. -/
theorem BackoffInv.honours_iff (h : BackoffInv c) {label : Nat × Act}
    {c' : RecoveryCoordinator} (hstep : c.Steps label c') :
    HonoursBackoff c c' ↔ WaitsOut c label := by
  obtain ⟨elapsed, act⟩ := label
  have hcase := react_cases hstep
  generalize hc : ({ c with clock := c.clock + elapsed }
    : RecoveryCoordinator) = later at hcase
  have hsame : later.stage = c.stage := by rw [← hc]
  have hclock : later.clock = c.clock + elapsed := by rw [← hc]
  constructor
  · intro hhonours source binding attempt delay since hs hact
    have hact : act = .interrupted .closed := hact
    subst hact
    cases hcase with
    | interrupted hlater =>
        obtain ⟨now, published, number, error, failed, older, htrace, hle⟩ :=
          hhonours _ _ _ _ _ _ _ _ _ (hsame.symm.trans hlater) rfl
        have hstage := h.stage
        rw [hs] at hstage
        obtain ⟨n, error', older', htrace', -, -⟩ := hstage
        rw [htrace'] at htrace
        cases htrace
        rw [← hclock]
        exact hle
  · intro hwaits source binding attempt delay since source' binding'
      attempt' delay' hs hs'
    have hstage := h.stage
    rw [hs] at hstage
    obtain ⟨n, error, older, htrace, -, -⟩ := hstage
    have hlater := hsame.trans hs
    -- only the two ends of a backoff lead from here to an attempt
    cases hcase with
    | slept hs₂ hdue =>
        cases hlater.symm.trans hs₂
        cases hs'
        exact ⟨since, delay, attempt, error, since, older, htrace, hdue⟩
    | @interrupted _ _ _ _ _ r hs₂ =>
        cases hlater.symm.trans hs₂
        cases r with
        | closed =>
            cases hs'
            refine ⟨since, delay, attempt, error, since, older, htrace, ?_⟩
            show since + delay ≤ later.clock
            rw [hclock]
            exact hwaits _ _ _ _ _ hs rfl
        | lagged => cases hs'
        | changed source => cases hs'
    | start hs₂ => cases hlater.symm.trans hs₂
    | received hs₂ => cases hlater.symm.trans hs₂
    | decide hs₂ => cases hlater.symm.trans hs₂
    | rebuilt hs₂ => cases hlater.symm.trans hs₂
    | verified hs₂ => cases hlater.symm.trans hs₂
    | rescanned hs₂ => cases hlater.symm.trans hs₂

/-- In every run of the coordinator, the delays it publishes are the
first one doubled up to the maximum, and every attempt waits the delay of
the failed one before it out, exactly when no backoff of the run ends
with a closed channel before its delay is over. -/
theorem rebuild_backoff_honoured_iff (autoSelect : Bool)
    (initial : Option InterfaceBinding) (clock : Nat)
    (labels : List (Nat × Act)) (c : RecoveryCoordinator)
    (hrun : Run Steps (new autoSelect initial clock) labels c) :
    (DelaysDouble c.trace
      ∧ Run (fun s label s' => s.Steps label s' ∧ HonoursBackoff s s')
          (new autoSelect initial clock) labels c)
      ↔ Run (fun s label s' => s.Steps label s' ∧ WaitsOut s label)
          (new autoSelect initial clock) labels c := by
  have hnew := backoffInv_new autoSelect initial clock
  have hinv : BackoffInv c :=
    hrun.invariant (P := BackoffInv) (fun hs hstep => hs.step hstep) hnew
  constructor
  · intro hgiven
    exact hgiven.2.restrict_mono (P := BackoffInv)
      (B := fun s label _ => WaitsOut s label)
      (fun hs hstep => hs.step hstep)
      (fun hs hstep hhonours => (hs.honours_iff hstep).mp hhonours) hnew
  · intro hwaits
    refine ⟨hinv.double, ?_⟩
    exact hwaits.restrict_mono (P := BackoffInv)
      (A := fun s label _ => WaitsOut s label)
      (B := fun s _ s' => HonoursBackoff s s')
      (fun hs hstep => hs.step hstep)
      (fun hs hstep hout => (hs.honours_iff hstep).mpr hout) hnew

/-- The sample move: the second attempt comes a second after the first
has failed. -/
theorem sample_backoff_honoured :
    ∃ c, Run (fun s label s' => s.Steps label s' ∧ HonoursBackoff s s')
        (new true (some sampleWifi) 0) sampleMove c
      ∧ DelaysDouble c.trace := by
  have hwaits : ∀ {s : RecoveryCoordinator} {label : Nat × Act},
      label.2 ≠ .interrupted .closed → WaitsOut s label := by
    intro s label hne _ _ _ _ _ _ hact
    exact absurd hact hne
  have hruns : ∃ c, Run Steps (new true (some sampleWifi) 0) sampleMove c
      ∧ Run (fun s label s' => s.Steps label s' ∧ WaitsOut s label)
        (new true (some sampleWifi) 0) sampleMove c :=
    ⟨_, .cons rfl <| .cons rfl <| .cons rfl <| .cons rfl <|
      .cons (react_slept rfl (by decide)) <| .cons rfl <| .cons rfl <|
      .nil _,
      .cons ⟨rfl, hwaits nofun⟩ <| .cons ⟨rfl, hwaits nofun⟩ <|
      .cons ⟨rfl, hwaits nofun⟩ <| .cons ⟨rfl, hwaits nofun⟩ <|
      .cons ⟨react_slept rfl (by decide), hwaits nofun⟩ <|
      .cons ⟨rfl, hwaits nofun⟩ <| .cons ⟨rfl, hwaits nofun⟩ <| .nil _⟩
  obtain ⟨c, hrun, hout⟩ := hruns
  obtain ⟨hdouble, hhonours⟩ :=
    (rebuild_backoff_honoured_iff true (some sampleWifi) 0 _ c hrun).mpr
      hout
  exact ⟨c, hhonours, hdouble⟩

/-- A move whose attempts fail, with the event channel closed. -/
def sampleSpin : List (Nat × Act) :=
  [(0, .start), (5, .received (.changed .address)),
   (0, .decide false 0x01010101 (.ok sampleMobile)),
   (20, .rebuilt (.error "open packet interceptor")),
   (0, .interrupted .closed),
   (20, .rebuilt (.error "open packet interceptor"))]

/-- The failure is published with a delay of a second, and the next
attempt has failed 20 milliseconds later. -/
theorem closed_channel_skips_backoff :
    ∃ c, Run Steps (new true (some sampleWifi) 0) sampleSpin c
      ∧ c.trace.take 4
        = [(45, .publish (.recovering 2 2000 "open packet interceptor")),
           (45, .rebuild sampleMobile (.error "open packet interceptor")),
           (25, .publish (.recovering 1 1000 "open packet interceptor")),
           (25, .rebuild sampleMobile (.error "open packet interceptor"))]
      ∧ ¬ Run (fun s label s' => s.Steps label s' ∧ HonoursBackoff s s')
          (new true (some sampleWifi) 0) sampleSpin c := by
  refine ⟨_, .cons rfl <| .cons rfl <| .cons rfl <| .cons rfl <|
    .cons rfl <| .cons rfl <| .nil _, rfl, ?_⟩
  intro hhonours
  -- the fifth step starts the second attempt
  obtain _ | ⟨⟨h₁, -⟩, hhonours⟩ := hhonours
  cases h₁
  obtain _ | ⟨⟨h₂, -⟩, hhonours⟩ := hhonours
  cases h₂
  obtain _ | ⟨⟨h₃, -⟩, hhonours⟩ := hhonours
  cases h₃
  obtain _ | ⟨⟨h₄, -⟩, hhonours⟩ := hhonours
  cases h₄
  obtain _ | ⟨⟨h₅, hbackoff⟩, hhonours⟩ := hhonours
  cases h₅
  obtain ⟨now, published, number, error, failed, older, htrace, hle⟩ :=
    hbackoff _ _ _ _ _ _ _ _ _ rfl rfl
  cases htrace
  exact absurd hle (by decide)

end RecoveryCoordinator
end ZeroDpi.Runtime
