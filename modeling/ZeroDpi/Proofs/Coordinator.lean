/-
What the recovery coordinator announces and where the data plane runs.

A rebuild takes the old plane down before it brings the new one up, so
after a failed rebuild there is no plane. `current` is only written after
a successful rebuild and cleared when a probe fails; a failed rebuild
leaves it alone. As long as no probe comes back with that stale binding,
the invariant (`Inv`) says that `current` is what the last rebuild was
for, and every announcement is right. A probe that does is announced as
online over no plane at all.
-/
import ZeroDpi.Runtime.Coordinator
import ZeroDpi.Lib.Run

namespace ZeroDpi.Runtime

open Lib

-- ============================================================ the trace

/-- The latest rebuild of a trace. -/
def lastRebuild : List (Nat × Call) →
    Option (InterfaceBinding × Except String Unit)
  | [] => none
  | (_, .rebuild binding result) :: _ => some (binding, result)
  | _ :: older => lastRebuild older

/-- The latest rebuild failed. -/
def lastRebuildFailed (trace : List (Nat × Call)) : Prop :=
  ∃ binding error, lastRebuild trace = some (binding, .error error)

/-- The data plane was last built for `binding`: by the latest rebuild,
or, without one, from the beginning. -/
def BuiltFor (initial : Option InterfaceBinding)
    (trace : List (Nat × Call)) (binding : InterfaceBinding) : Prop :=
  match lastRebuild trace with
  | some (built, .ok _) => built = binding
  | some (_, .error _) => False
  | none => initial = some binding

/-- The address a status says the plane runs at. -/
def NetworkStatus.announced : NetworkStatus → Option Ipv4Addr
  | .online ip => some ip
  | .recovered ip _ _ => some ip
  | _ => none

/-- Every announcement of a trace was right when it was made. -/
def Truthful (initial : Option InterfaceBinding)
    (trace : List (Nat × Call)) : Prop :=
  ∀ newer now status older ip,
    trace = newer ++ (now, .publish status) :: older →
    status.announced = some ip →
    ∃ binding, BuiltFor initial older binding ∧ binding.ip = ip

variable {initial : Option InterfaceBinding} {trace : List (Nat × Call)}

theorem truthful_nil : Truthful initial [] := by
  intro newer now status older ip h
  cases newer with
  | nil => cases h
  | cons _ _ => cases h

/-- A further call keeps a trace truthful when it announces nothing or
something right. -/
theorem truthful_cons {now : Nat} {call : Call} :
    Truthful initial ((now, call) :: trace)
      ↔ Truthful initial trace
        ∧ ∀ status ip, call = .publish status → status.announced = some ip →
          ∃ binding, BuiltFor initial trace binding ∧ binding.ip = ip := by
  constructor
  · intro h
    constructor
    · intro newer now' status older ip htrace hip
      refine h ((now, call) :: newer) now' status older ip ?_ hip
      rw [htrace]
      rfl
    · intro status ip hcall hip
      refine h [] now status trace ip ?_ hip
      rw [hcall]
      rfl
  · intro hgiven newer now' status older ip htrace hip
    obtain ⟨htail, hhead⟩ := hgiven
    cases newer with
    | nil =>
        cases htrace
        exact hhead status ip rfl hip
    | cons call' newer =>
        cases htrace
        exact htail newer now' status older ip rfl hip

/-- What a longer trace says of an older one. -/
theorem Truthful.older {new : List (Nat × Call)}
    (h : Truthful initial (new ++ trace)) : Truthful initial trace := by
  induction new with
  | nil => exact h
  | cons entry new ih => exact ih (truthful_cons.mp h).1

/-- A call that announces nothing. -/
theorem Truthful.quiet {now : Nat} {call : Call} (h : Truthful initial trace)
    (hcall : ∀ status, call = .publish status → status.announced = none) :
    Truthful initial ((now, call) :: trace) := by
  refine truthful_cons.mpr ⟨h, fun status ip heq hip => ?_⟩
  rw [hcall status heq] at hip
  cases hip

/-- An announcement of the binding the plane was built for. -/
theorem Truthful.announce {now : Nat} {status : NetworkStatus}
    {binding : InterfaceBinding} (h : Truthful initial trace)
    (hip : status.announced = some binding.ip)
    (hbuilt : BuiltFor initial trace binding) :
    Truthful initial ((now, .publish status) :: trace) := by
  refine truthful_cons.mpr ⟨h, fun status' ip heq hip' => ?_⟩
  cases heq
  rw [hip] at hip'
  cases hip'
  exact ⟨binding, hbuilt, rfl⟩

namespace RecoveryCoordinator

-- ============================================================ one step

/-- The ways a wait can end. -/
inductive Reaction (c : RecoveryCoordinator) :
    Act → RecoveryCoordinator → Prop where
  | start (hs : c.stage = .starting) : Reaction c .start c.start
  | received {r : Received} (hs : c.stage = .listening) :
      Reaction c (.received r) (c.onReceived r)
  | decide {source : NetworkChangeSource} {disconnected : Bool}
      {target : Ipv4Addr} {probe : Except String InterfaceBinding}
      (hs : c.stage = .deciding source) :
      Reaction c (.decide disconnected target probe)
        (c.decide source disconnected target probe)
  | rebuilt {source : NetworkChangeSource} {binding : InterfaceBinding}
      {attempt : UInt32} {delay : Nat} {result : Except String Unit}
      (hs : c.stage = .rebuilding source binding attempt delay) :
      Reaction c (.rebuilt result)
        (c.onRebuilt source binding attempt delay result)
  | slept {source : NetworkChangeSource} {binding : InterfaceBinding}
      {attempt : UInt32} {delay since : Nat}
      (hs : c.stage = .backingOff source binding attempt delay since)
      (hdue : since + delay ≤ c.clock) :
      Reaction c .slept (c.retry source binding attempt delay)
  | interrupted {source : NetworkChangeSource} {binding : InterfaceBinding}
      {attempt : UInt32} {delay since : Nat} {r : Received}
      (hs : c.stage = .backingOff source binding attempt delay since) :
      Reaction c (.interrupted r)
        (c.onInterrupted source binding attempt delay r)
  | verified {binding : InterfaceBinding} {verified : Bool}
      (hs : c.stage = .verifying binding) :
      Reaction c (.verified verified) (c.onVerified binding verified)
  | rescanned {binding : InterfaceBinding} {outcome : RescanOutcome}
      (hs : c.stage = .rescanning binding) :
      Reaction c (.rescanned outcome) (c.onRescanned binding outcome)

theorem react_cases {c c' : RecoveryCoordinator} {act : Act}
    (h : c.react act = some c') : Reaction c act c' := by
  unfold react at h
  split at h
  case h_1 hs => cases h; exact .start hs
  case h_2 hs => cases h; exact .received hs
  case h_3 hs => cases h; exact .decide hs
  case h_4 hs => cases h; exact .rebuilt hs
  case h_5 hs =>
    split at h
    case isTrue hdue => cases h; exact .slept hs hdue
    case isFalse => cases h
  case h_6 hs => cases h; exact .interrupted hs
  case h_7 hs => cases h; exact .verified hs
  case h_8 hs => cases h; exact .rescanned hs
  case h_9 => cases h

theorem react_slept {c : RecoveryCoordinator}
    {source : NetworkChangeSource} {binding : InterfaceBinding}
    {attempt : UInt32} {delay since : Nat}
    (hs : c.stage = .backingOff source binding attempt delay since)
    (hdue : since + delay ≤ c.clock) :
    c.react .slept = some (c.retry source binding attempt delay) := by
  simp only [react, hs, hdue, if_true]

/-- The steps, labelled with the time they take and the act. -/
def Steps (c : RecoveryCoordinator) (label : Nat × Act)
    (c' : RecoveryCoordinator) : Prop :=
  c.step label.1 label.2 = some c'

-- ========================================================= the invariant

/-- What a stage relies on: no rebuild before `run` starts, a successful
one before the verification. -/
def Stage.Agrees (trace : List (Nat × Call)) : Stage → Prop
  | .starting => lastRebuild trace = none
  | .verifying binding | .rescanning binding =>
      lastRebuild trace = some (binding, .ok ())
  | _ => True

/-- What holds between any two steps. -/
structure Inv (initial : Option InterfaceBinding)
    (c : RecoveryCoordinator) : Prop where
  truthful : Truthful initial c.trace
  /-- A failed rebuild aside, `current` is what the plane was built
  for. -/
  current : ∀ binding, c.current = some binding →
    lastRebuildFailed c.trace ∨ BuiltFor initial c.trace binding
  stage : Stage.Agrees c.trace c.stage

/-- The condition on a step: no probe returns `current` while the latest
rebuild is a failed one. -/
def Clear (c : RecoveryCoordinator) : Act → Prop
  | .decide disconnected target (.ok binding) =>
      disconnected = false → target ≠ 0 → c.current = some binding →
        ¬ lastRebuildFailed c.trace
  | _ => True

theorem inv_new (autoSelect : Bool) (initial : Option InterfaceBinding)
    (clock : Nat) : Inv initial (new autoSelect initial clock) where
  truthful := truthful_nil
  current _ h := .inr h
  stage := rfl

variable {c : RecoveryCoordinator}

/-- The passage of time. -/
theorem Inv.at (h : Inv initial c) (clock : Nat) :
    Inv initial { c with clock := clock } where
  truthful := h.truthful
  current := h.current
  stage := h.stage

/-- A move to a stage that relies on nothing. -/
theorem Inv.goto (h : Inv initial c) {stage : Stage}
    (hstage : Stage.Agrees c.trace stage) : Inv initial (c.goto stage) where
  truthful := h.truthful
  current := h.current
  stage := hstage

/-- A status that announces nothing. -/
theorem Inv.publish (h : Inv initial c) {status : NetworkStatus}
    (hquiet : status.announced = none) :
    Inv initial (c.publish status) where
  truthful := h.truthful.quiet fun status' heq => by
    cases heq
    exact hquiet
  current := h.current
  stage := h.stage

/-- A status that announces the binding the plane was built for. -/
theorem Inv.announce (h : Inv initial c) (status : NetworkStatus)
    {binding : InterfaceBinding} (hip : status.announced = some binding.ip)
    (hbuilt : BuiltFor initial c.trace binding) :
    Inv initial (c.publish status) where
  truthful := h.truthful.announce hip hbuilt
  current := h.current
  stage := h.stage

/-- A call that is no rebuild and no status. -/
theorem Inv.log (h : Inv initial c) (call : Call)
    (hquiet : ∀ status, call ≠ .publish status)
    (hlast : lastRebuild ((c.clock, call) :: c.trace) = lastRebuild c.trace) :
    Inv initial (c.log call) where
  truthful := h.truthful.quiet fun status heq => absurd heq (hquiet status)
  current binding hb := by
    have hold := h.current binding hb
    unfold lastRebuildFailed BuiltFor at hold ⊢
    unfold RecoveryCoordinator.log
    rw [hlast]
    exact hold
  stage := by
    have hold := h.stage
    unfold RecoveryCoordinator.log
    cases hs : c.stage with
    | starting =>
        rw [hs] at hold
        exact hlast.trans hold
    | verifying binding =>
        rw [hs] at hold
        exact hlast.trans hold
    | rescanning binding =>
        rw [hs] at hold
        exact hlast.trans hold
    | _ => trivial

/-- `current` cleared. -/
theorem Inv.clearCurrent (h : Inv initial c) :
    Inv initial { c with current := none } where
  truthful := h.truthful
  current _ hb := by cases hb
  stage := h.stage

-- ============================================================= the steps

theorem Inv.start (h : Inv initial c) (hstage : c.stage = .starting) :
    Inv initial c.start := by
  have hlast : lastRebuild c.trace = none := by
    have hs := h.stage
    rw [hstage] at hs
    exact hs
  have hfresh : ¬ lastRebuildFailed c.trace := by
    intro hgiven
    obtain ⟨binding, error, hfailed⟩ := hgiven
    rw [hlast] at hfailed
    cases hfailed
  unfold RecoveryCoordinator.start
  cases hc : c.current with
  | none => exact h.goto trivial
  | some binding =>
      have hbuilt := (h.current binding hc).resolve_left hfresh
      exact (h.announce (.online binding.ip) rfl hbuilt).goto
        trivial

theorem Inv.decide (h : Inv initial c) {source : NetworkChangeSource}
    {disconnected : Bool} {target : Ipv4Addr}
    {probe : Except String InterfaceBinding}
    (hclear : c.Clear (.decide disconnected target probe)) :
    Inv initial (c.decide source disconnected target probe) := by
  unfold RecoveryCoordinator.decide
  split
  · exact (h.clearCurrent.publish rfl).goto trivial
  · rename_i hdisc
    split
    · exact (h.publish rfl).goto trivial
    · rename_i htarget
      have hprobed : Inv initial (c.log (.probe target probe)) :=
        h.log _ (fun status heq => by cases heq) rfl
      cases probe with
      | error error => exact (hprobed.clearCurrent.publish rfl).goto trivial
      | ok binding =>
          simp only
          split
          · rename_i hcurrent
            have hfresh := hclear (by simpa using hdisc) htarget hcurrent
            have hbuilt := (h.current binding hcurrent).resolve_left hfresh
            exact (hprobed.announce (.online binding.ip) rfl
              hbuilt).goto trivial
          · exact (hprobed.publish rfl).goto trivial

theorem Inv.onRebuilt (h : Inv initial c) {source : NetworkChangeSource}
    {binding : InterfaceBinding} {attempt : UInt32} {delay : Nat}
    {result : Except String Unit} :
    Inv initial (c.onRebuilt source binding attempt delay result) := by
  have hquiet : Truthful initial
      ((c.clock, .rebuild binding result) :: c.trace) :=
    h.truthful.quiet fun status heq => by cases heq
  unfold RecoveryCoordinator.onRebuilt
  cases result with
  | ok u =>
      refine ⟨hquiet.quiet ?_, ?_, rfl⟩
      · intro status heq
        cases heq
      · intro b hb
        cases hb
        exact .inr rfl
  | error error =>
      refine ⟨hquiet.quiet ?_, ?_, trivial⟩
      · intro status heq
        cases heq
        rfl
      · intro b _
        exact .inl ⟨binding, error, rfl⟩

theorem Inv.onVerified (h : Inv initial c) {binding : InterfaceBinding}
    {verified : Bool} (hstage : c.stage = .verifying binding) :
    Inv initial (c.onVerified binding verified) := by
  have hlast : lastRebuild c.trace = some (binding, .ok ()) := by
    have hs := h.stage
    rw [hstage] at hs
    exact hs
  have hbuilt : BuiltFor initial c.trace binding := by
    simp [BuiltFor, hlast]
  have hlogged : Inv initial (c.log (.verify verified)) :=
    h.log _ (fun status heq => by cases heq) rfl
  unfold RecoveryCoordinator.onVerified
  simp only
  split
  · exact hlogged.goto hlast
  · exact (hlogged.announce (.recovered binding.ip verified false)
      rfl hbuilt).goto trivial

theorem Inv.onRescanned (h : Inv initial c) {binding : InterfaceBinding}
    {outcome : RescanOutcome} (hstage : c.stage = .rescanning binding) :
    Inv initial (c.onRescanned binding outcome) := by
  have hlast : lastRebuild c.trace = some (binding, .ok ()) := by
    have hs := h.stage
    rw [hstage] at hs
    exact hs
  have hbuilt : BuiltFor initial c.trace binding := by
    simp [BuiltFor, hlast]
  have hlogged : Inv initial
      { c.log (.rescan outcome) with lastRescan := some c.clock } := by
    have hl := h.log (.rescan outcome)
      (fun status heq => by cases heq) rfl
    exact ⟨hl.truthful, hl.current, hl.stage⟩
  unfold RecoveryCoordinator.onRescanned
  simp only
  split
  · exact ((hlogged.publish rfl).announce
      (.recovered binding.ip false outcome.switched) rfl
      hbuilt).goto trivial
  · exact (hlogged.announce
      (.recovered binding.ip false outcome.switched) rfl
      hbuilt).goto trivial

/-- A clear reaction keeps the invariant. -/
theorem Inv.react (h : Inv initial c) {act : Act}
    {c' : RecoveryCoordinator} (hclear : c.Clear act)
    (hreact : Reaction c act c') : Inv initial c' := by
  cases hreact with
  | start hs => exact h.start hs
  | @received r hs => cases r <;> exact h.goto trivial
  | decide hs => exact h.decide hclear
  | rebuilt hs => exact h.onRebuilt
  | slept hs hdue => exact h.goto trivial
  | @interrupted _ _ _ _ _ r hs => cases r <;> exact h.goto trivial
  | verified hs => exact h.onVerified hs
  | rescanned hs => exact h.onRescanned hs

theorem Inv.step (h : Inv initial c) {label : Nat × Act}
    {c' : RecoveryCoordinator} (hclear : c.Clear label.2)
    (hstep : c.Steps label c') : Inv initial c' := by
  have hlater := h.at (c.clock + label.1)
  refine hlater.react ?_ (react_cases hstep)
  exact hclear

-- ====================================================== the other way

/-- A reaction only adds to the trace. -/
theorem Reaction.extends {act : Act} {c' : RecoveryCoordinator}
    (h : Reaction c act c') : ∃ new, c'.trace = new ++ c.trace := by
  cases h with
  | start hs =>
      unfold RecoveryCoordinator.start
      split
      · exact ⟨[_], rfl⟩
      · exact ⟨[], rfl⟩
  | @received r hs => cases r <;> exact ⟨[], rfl⟩
  | @decide _ _ _ probe hs =>
      unfold RecoveryCoordinator.decide
      split
      · exact ⟨[_], rfl⟩
      · split
        · exact ⟨[_], rfl⟩
        · cases probe with
          | error error => exact ⟨[_, _], rfl⟩
          | ok binding =>
              simp only
              split
              · exact ⟨[_, _], rfl⟩
              · exact ⟨[_, _], rfl⟩
  | @rebuilt _ _ _ _ result hs =>
      cases result with
      | ok u => exact ⟨[_, _], rfl⟩
      | error error => exact ⟨[_, _], rfl⟩
  | slept hs hdue => exact ⟨[], rfl⟩
  | @interrupted _ _ _ _ _ r hs => cases r <;> exact ⟨[], rfl⟩
  | verified hs =>
      unfold RecoveryCoordinator.onVerified
      simp only
      split
      · exact ⟨[_], rfl⟩
      · exact ⟨[_, _], rfl⟩
  | rescanned hs =>
      unfold RecoveryCoordinator.onRescanned
      simp only
      split
      · exact ⟨[_, _, _], rfl⟩
      · exact ⟨[_, _], rfl⟩

/-- A reaction that leaves a truthful trace was clear: the probe that
returns a stale `current` is announced at once. -/
theorem Reaction.clear {act : Act} {c' : RecoveryCoordinator}
    (h : Reaction c act c') (htrue : Truthful initial c'.trace) :
    c.Clear act := by
  cases h with
  | @decide source disconnected target probe hs =>
      cases probe with
      | error error => trivial
      | ok binding =>
          intro hdisc htarget hcurrent hfailed
          simp only [RecoveryCoordinator.decide, hdisc, htarget, log,
            hcurrent, if_true, if_false, Bool.false_eq_true] at htrue
          obtain ⟨built, hbuilt, -⟩ :=
            (truthful_cons.mp htrue).2 _ _ rfl rfl
          obtain ⟨failed, error, hlast⟩ := hfailed
          simp only [BuiltFor, lastRebuild, hlast] at hbuilt
  | _ => trivial

/-- A run never takes back what it did. -/
theorem run_extends {labels : List (Nat × Act)} {c' : RecoveryCoordinator}
    (h : Run Steps c labels c') : ∃ new, c'.trace = new ++ c.trace := by
  induction h with
  | nil c => exact ⟨[], rfl⟩
  | @cons s t u label labels hstep _ ih =>
      obtain ⟨later, hlater⟩ := ih
      obtain ⟨new, hnew⟩ := (react_cases hstep).extends
      refine ⟨later ++ new, ?_⟩
      rw [hlater, hnew, List.append_assoc]

-- ========================================================== whole runs

/-- A run of the coordinator and the run with the condition on every
step. -/
theorem run_clear_of_truthful {labels : List (Nat × Act)}
    {c' : RecoveryCoordinator} (h : Run Steps c labels c')
    (htrue : Truthful initial c'.trace) :
    Run (fun s label s' => s.Steps label s' ∧ s.Clear label.2)
      c labels c' := by
  induction h with
  | nil c => exact .nil c
  | @cons s t u label labels hstep hrest ih =>
      obtain ⟨later, hlater⟩ := run_extends hrest
      rw [hlater] at htrue
      have hclear : s.Clear label.2 := (react_cases hstep).clear htrue.older
      rw [← hlater] at htrue
      exact .cons ⟨hstep, hclear⟩ (ih htrue)

/-- In every run of the coordinator, every `Online` and `Recovered` it
publishes is for the binding of the latest rebuild, which succeeded, or,
without a rebuild, for the initial binding, exactly when no probe of the
run returns `current` while the latest rebuild is a failed one. -/
theorem announcements_truthful_iff (autoSelect : Bool)
    (initial : Option InterfaceBinding) (clock : Nat)
    (labels : List (Nat × Act)) (c : RecoveryCoordinator)
    (hrun : Run Steps (new autoSelect initial clock) labels c) :
    Truthful initial c.trace
      ↔ Run (fun s label s' => s.Steps label s' ∧ s.Clear label.2)
          (new autoSelect initial clock) labels c := by
  constructor
  · intro htrue
    exact run_clear_of_truthful hrun htrue
  · intro hclear
    have hinv : Inv initial c := by
      refine Run.invariant_of (P := Inv initial)
        (C := fun s (label : Nat × Act) => s.Clear label.2) ?_ hclear
        (inv_new autoSelect initial clock)
      intro s label t hs hc hstep
      exact hs.step hc hstep
    exact hinv.truthful

/-- Two addresses the sample machine moves between. -/
def sampleWifi : InterfaceBinding := ⟨0x0A000001, 2, "wlan0"⟩

/-- A binding to the mobile network. -/
def sampleMobile : InterfaceBinding := ⟨0x0A000002, 3, "rmnet0"⟩

/-- From Wi-Fi to mobile, with one failed attempt. -/
def sampleMove : List (Nat × Act) :=
  [(0, .start), (5, .received (.changed .address)),
   (0, .decide false 0x01010101 (.ok sampleMobile)),
   (20, .rebuilt (.error "open packet interceptor")), (1000, .slept),
   (20, .rebuilt (.ok ())), (300, .verified true)]

/-- The move is announced when it is done. -/
theorem sample_move_truthful :
    ∃ c, Run Steps (new true (some sampleWifi) 0) sampleMove c
      ∧ c.trace.head?
        = some (1345, .publish (.recovered sampleMobile.ip true false))
      ∧ Truthful (some sampleWifi) c.trace := by
  have hruns : ∃ c, Run Steps (new true (some sampleWifi) 0) sampleMove c
      ∧ Run (fun s label s' => s.Steps label s' ∧ s.Clear label.2)
        (new true (some sampleWifi) 0) sampleMove c
      ∧ c.trace.head?
        = some (1345, .publish (.recovered sampleMobile.ip true false)) := by
    refine ⟨_, .cons rfl <| .cons rfl <| .cons rfl <| .cons rfl <|
      .cons (react_slept rfl (by decide)) <| .cons rfl <| .cons rfl <| .nil _,
      .cons ⟨rfl, trivial⟩ <| .cons ⟨rfl, trivial⟩ <| .cons ⟨rfl, ?_⟩ <|
      .cons ⟨rfl, trivial⟩ <| .cons ⟨react_slept rfl (by decide), trivial⟩ <|
      .cons ⟨rfl, trivial⟩ <| .cons ⟨rfl, trivial⟩ <| .nil _, rfl⟩
    intro _ _ hcurrent
    cases hcurrent
  obtain ⟨c, hrun, hclear, hhead⟩ := hruns
  exact ⟨c, hrun, hhead,
    (announcements_truthful_iff true (some sampleWifi) 0 _ c hrun).mpr
      hclear⟩

/-- The attempt to move fails, the next event finds Wi-Fi back, and the
coordinator announces it online: the latest rebuild is the failed one. -/
theorem online_after_failed_rebuild :
    ∃ c, Run Steps (new true (some sampleWifi) 0)
        [(0, .start), (5, .received (.changed .address)),
         (0, .decide false 0x01010101 (.ok sampleMobile)),
         (20, .rebuilt (.error "open packet interceptor")),
         (100, .interrupted (.changed .address)),
         (0, .decide false 0x01010101 (.ok sampleWifi))] c
      ∧ c.trace.head? = some (125, .publish (.online sampleWifi.ip))
      ∧ lastRebuild c.trace
        = some (sampleMobile, .error "open packet interceptor")
      ∧ ¬ Truthful (some sampleWifi) c.trace := by
  refine ⟨_, .cons rfl <| .cons rfl <| .cons rfl <| .cons rfl <|
    .cons rfl <| .cons rfl <| .nil _, rfl, rfl, ?_⟩
  intro htrue
  obtain ⟨built, hbuilt, -⟩ := (truthful_cons.mp htrue).2 _ _ rfl rfl
  exact hbuilt

end RecoveryCoordinator
end ZeroDpi.Runtime
