/-
Runs of the process runner side by side.

# Reports

A thread that wins the flag holds the right to report the exit of its run
(its tag) until it has emitted the event. Per run, events and rights
together never exceed one: the flag is lowered only when a new run begins,
and there are no rights for a run that has not begun. All that a thread may
do to this is `Allowed`; every program follows it.

# Earlier runs

If no job that could still write is left when a run begins, the jobs of
earlier runs are harmless for good: `Keeps watched`.
-/
import ZeroDpi.Android.ProcessRunner
import ZeroDpi.Lib.Run

namespace ZeroDpi.Android.ProcessRunner

open Lib Task

/-- The fields that runs share. -/
def watched (s : State) : Option Nat × Option Nat × Option String × Bool × Bool :=
  (s.dataPlaneProcess, s.helperProcess, s.sessionDirectory, s.stopRequested,
    s.exitEmitted)

/-- `Exited` events. -/
def isExit : ZeroDpiRunnerEvent → Bool
  | .exited _ => true
  | _ => false

/-- The exits that were reported, with their runs. -/
def reports (s : State) : List Nat :=
  (s.events.filter fun e => isExit e.2).map Prod.fst

/-- How often the exit of a run was reported. -/
def exits (run : Nat) (s : State) : Nat := (reports s).count run

/-- What the reports depend on. -/
def ghost (s : State) : Nat × List Nat × Bool × List Nat × List Name :=
  (s.run, s.abandoned, s.exitEmitted, reports s, s.launched)

-- ================================================== programs that are quiet

section Keeps

variable {ν α β : Type} {V : State → ν}

/-- The rules for code that keeps a view of the state, at this state. -/
theorem keeps_pure (a : α) : Keeps V (pure a : Prog α) := trivial

theorem keeps_bind {p : Prog α} {f : α → Prog β} (hp : Keeps V p)
    (hf : ∀ a, Keeps V (f a)) : Keeps V (p >>= f) := Keeps.bind hp hf

/-- A wait changes nothing. -/
theorem keeps_ask (q : Query) : Keeps V (ask q) :=
  ⟨fun _ => rfl, fun _ => trivial⟩

/-- Nor does a read. -/
theorem keeps_look (f : State → α) : Keeps V (look f) :=
  fun _ => ⟨rfl, trivial⟩

/-- A write, if it does not show in the view. -/
theorem keeps_set {f : State → State} (h : ∀ s, V (f s) = V s) :
    Keeps V (set f) := fun s => ⟨h s, trivial⟩

end Keeps

/-- Other events report no exit. -/
theorem reports_emit {owner : Nat} {event : ZeroDpiRunnerEvent} {s : State}
    (h : isExit event = false) :
    reports { s with events := (owner, event) :: s.events } = reports s := by
  simp [reports, h]

/-- So that emitting them keeps what is counted. -/
theorem keeps_emit (owner : Option Nat) {event : ZeroDpiRunnerEvent}
    (h : isExit event = false) : Keeps ghost (emit owner event) := by
  apply keeps_bind (keeps_ask _)
  intro _
  apply keeps_set
  intro s
  simp only [ghost, reports_emit h]

/-- The helpers of calls and jobs report nothing and begin nothing, one by
one. -/
theorem keeps_cleanupBootstrap : Keeps ghost cleanupBootstrap := by
  apply keeps_bind (keeps_look _)
  intro present
  split
  · exact keeps_set fun _ => rfl
  · exact keeps_pure _

theorem keeps_forgetHelper : Keeps ghost forgetHelper :=
  keeps_bind (keeps_set fun _ => rfl) fun _ => keeps_set fun _ => rfl

theorem keeps_requestTerm (owner : Option Nat) (pid : Option Int) :
    Keeps ghost (requestTerm owner pid) := by
  cases pid with
  | none => exact keeps_pure _
  | some pid =>
      apply keeps_bind (keeps_ask _)
      intro failure
      cases failure with
      | none => exact keeps_pure _
      | some line => exact keeps_bind (keeps_emit owner rfl) fun _ => keeps_pure _

theorem keeps_waitIf (needed : Bool) (process : Nat) :
    Keeps ghost (waitIf needed process) := by
  cases needed with
  | false => exact keeps_pure _
  | true => exact keeps_ask _

theorem keeps_stopHelper (owner : Option Nat) (helper : Nat) :
    Keeps ghost (stopHelper owner helper) := by
  apply keeps_bind (keeps_look _); intro known
  apply keeps_bind (keeps_ask _); intro found
  apply keeps_bind (keeps_requestTerm owner _); intro termRequested
  apply keeps_bind (keeps_waitIf _ _); intro exitedAfterTerm
  apply keeps_bind (keeps_look _); intro stillAlive
  apply keeps_bind (keeps_waitIf _ _); intro _
  exact keeps_bind keeps_forgetHelper fun _ => keeps_pure _

/-- In particular the helper's end. -/
theorem keeps_stopHelperProcess (owner : Option Nat) :
    Keeps ghost (stopHelperProcess owner) := by
  apply keeps_bind (keeps_look _)
  intro helper
  cases helper with
  | none => exact keeps_pure _
  | some helper =>
      apply keeps_bind (keeps_look _)
      intro alive
      split
      · exact keeps_stopHelper owner helper
      · exact keeps_bind keeps_forgetHelper fun _ => keeps_pure _

/-- Cancelling a job is a write to its handle. -/
theorem keeps_cancelJob {get : State → Option Nat} {clear : State → State}
    (h : ∀ s, ghost (clear s) = ghost s) :
    Keeps ghost (cancelJob get clear) :=
  keeps_bind (keeps_set fun _ => rfl) fun _ => keeps_set h

/-- All four of them. -/
theorem keeps_cancelJobs : Keeps ghost cancelJobs := by
  refine keeps_bind (keeps_cancelJob fun _ => rfl) fun _ => ?_
  refine keeps_bind (keeps_cancelJob fun _ => rfl) fun _ => ?_
  refine keeps_bind (keeps_cancelJob fun _ => rfl) fun _ => ?_
  exact keeps_cancelJob fun _ => rfl

/-- And the fields. -/
theorem keeps_cleanupProcesses : Keeps ghost cleanupProcesses := by
  apply keeps_bind keeps_cancelJobs; intro _
  refine keeps_bind (keeps_set fun _ => rfl) fun _ => ?_
  apply keeps_bind keeps_forgetHelper; intro _
  exact keeps_set fun _ => rfl

/-- Lines of the helper. -/
theorem keeps_emitLines (owner : Option Nat) (lines : List (List Char)) :
    Keeps ghost (emitLines owner lines) := by
  induction lines with
  | nil => exact keeps_pure _
  | cons line rest ih =>
      apply keeps_bind (keeps_ask _); intro _
      exact keeps_bind (keeps_emit owner rfl) fun _ => ih

/-- The parser makes no exit out of a line. -/
theorem isExit_parse (line : List Char) :
    isExit ((RuntimeEventLineParser.parse line).getD
      (.log (String.ofList line))) = false := by
  unfold RuntimeEventLineParser.parse
  simp only
  split
  · unfold RuntimeEventLineParser.event
    split <;> rfl
  · rfl

/-- The identity of the data plane. -/
theorem keeps_checkIdentity (appUid : Int) (run : Nat) (useRoot : Bool)
    (pid uid : Int) :
    Keeps ghost (checkIdentity appUid run useRoot pid uid) := by
  refine keeps_bind (keeps_set fun _ => rfl) fun _ => ?_
  split
  · apply keeps_bind (keeps_emit _ rfl); intro _
    refine keeps_bind (keeps_set fun _ => rfl) fun _ => ?_
    exact keeps_bind (keeps_stopHelperProcess _) fun _ => keeps_pure _
  · exact keeps_emit _ rfl

/-- Its lines. -/
theorem keeps_outputLines (appUid : Int) (run : Nat) (useRoot : Bool)
    (lines : List (List Char)) :
    Keeps ghost (outputLines appUid run useRoot lines) := by
  have hcheck : ∀ line, Keeps ghost (checkLine appUid run useRoot line) := by
    intro line
    unfold checkLine
    split
    · exact keeps_pure _
    · exact keeps_checkIdentity appUid run useRoot _ _
  induction lines with
  | nil => exact keeps_pure _
  | cons line rest ih =>
      apply keeps_bind (keeps_ask _); intro _
      apply keeps_bind (hcheck line); intro _
      exact keeps_bind (keeps_emit _ (isExit_parse line)) fun _ => ih

theorem keeps_stopLiveHelper (run : Nat) :
    Keeps ghost (stopLiveHelper run) := by
  apply keeps_bind (keeps_look _)
  intro alive
  split
  · exact keeps_bind (keeps_stopHelperProcess _) fun _ => keeps_emit _ rfl
  · exact keeps_pure _

/-- The helper's death. -/
theorem keeps_reportHelper (run : Nat) (exitCode : Int) :
    Keeps ghost (reportHelper run exitCode) := by
  apply keeps_bind (keeps_look _); intro requested
  apply keeps_bind (keeps_look _); intro alive
  split
  · exact keeps_bind (keeps_emit _ rfl) fun _ => keeps_emit _ rfl
  · exact keeps_pure _

/-- A wait for the data plane. -/
theorem keeps_waitForDataPlane (process : Option Nat) :
    Keeps ghost (waitForDataPlane process) := by
  cases process with
  | none => exact keeps_pure _
  | some current => exact keeps_bind (keeps_ask _) fun _ => keeps_pure _

theorem keeps_logAll (lines : List String) : Keeps ghost (logAll lines) := by
  induction lines with
  | nil => exact keeps_pure _
  | cons line rest ih => exact keeps_bind (keeps_emit _ rfl) fun _ => ih

theorem keeps_refuseHelper (message : String) :
    Keeps ghost (refuseHelper message) := by
  apply keeps_bind (keeps_stopHelperProcess _); intro _
  exact keeps_bind keeps_cleanupBootstrap fun _ => keeps_emit _ rfl

-- ========================================================= what is allowed

/-- The run that a thread reports for. -/
def owner (s : State) : Name → Nat
  | .call _ => s.run
  | .job _ run _ => run

/-- All that a thread does to the reports. The tag is the run for which it
is about to report an exit. -/
inductive Allowed (name : Name) :
    Option Nat → State → Option Nat → State → Prop where
  | quiet {t : Option Nat} {s s' : State} : ghost s' = ghost s →
      Allowed name t s t s'
  | claim {s : State} : s.exitEmitted = false →
      Allowed name none s (some (owner s name)) { s with exitEmitted := true }
  | report {r : Nat} {exitCode : Int} {s : State} :
      Allowed name (some r) s none
        { s with events := (r, .exited exitCode) :: s.events }
  | begin {s : State} : isCall name = true →
      Allowed name none s none
        { s with exitEmitted := false, run := s.run + 1 }
  | abandon {s : State} : isCall name = true →
      Allowed name none s none
        { s with exitEmitted := true, abandoned := s.run :: s.abandoned }
  | launch {s s' : State} (id : Nat) (job : Job) : isCall name = true →
      ghost s' = (s.run, s.abandoned, s.exitEmitted, reports s,
        s.launched ++ [.job id s.run job]) →
      Allowed name none s none s'

section Follows

variable {α β : Type} {name : Name}

/-- From no right to none. -/
abbrev Harmless (name : Name) (p : Prog α) : Prop :=
  Follows (Allowed name) none p fun t _ => t = none

/-- Code that keeps the counted part is harmless. -/
theorem harmless_of_keeps {p : Prog α} (h : Keeps ghost p) :
    Harmless name p :=
  Keeps.follows (fun _ _ _ hV => .quiet hV) none h

/-- Harmless code in sequence. -/
theorem harmless_bind {p : Prog α} {f : α → Prog β} (hp : Harmless name p)
    (hf : ∀ a, Harmless name (f a)) : Harmless name (p >>= f) := by
  refine Follows.bind hp fun t a ht => ?_
  rw [ht]
  exact hf a

/-- With quiet code in front. -/
theorem harmless_after {p : Prog α} {f : α → Prog β} (hp : Keeps ghost p)
    (hf : ∀ a, Harmless name (f a)) : Harmless name (p >>= f) :=
  harmless_bind (harmless_of_keeps hp) hf

/-- The flag is won and the event follows, or it was won before. -/
theorem harmless_emitExited {run : Option Nat} (exitCode : Int)
    (hrun : ∀ s, run.getD s.run = owner s name) :
    Harmless name (emitExited run exitCode) := by
  intro s
  cases hs : s.exitEmitted with
  | true =>
      refine ⟨none, .quiet ?_, ?_⟩
      · simp [hs]
      · simp only [hs, if_true]
        exact rfl
  | false =>
      refine ⟨some (owner s name), ?_, ?_⟩
      · simp only [hs, Bool.false_eq_true, if_false]
        exact .claim hs
      · simp only [hs, Bool.false_eq_true, if_false, hrun]
        refine ⟨fun _ => rfl, fun _ s' => ⟨none, .report, ?_⟩⟩
        exact rfl

/-- A call may launch jobs of its run. -/
theorem harmless_launch {call : Call} (job : Job)
    {keep : Nat → State → State} (hkeep : ∀ id s, ghost (keep id s) = ghost s) :
    Harmless (.call call) (launch job keep) := by
  intro s
  refine ⟨none, .launch s.nextJob job rfl ?_, rfl⟩
  rw [hkeep]
  rfl

-- ================================================================ the jobs

variable (appUid : Int) (id run : Nat) (job : Job)

/-- The jobs that only read. -/
theorem harmless_outputJob (useRoot : Bool) :
    Harmless name (outputJob appUid run useRoot) := by
  apply harmless_of_keeps
  apply keeps_bind (keeps_ask _); intro _
  apply keeps_bind (keeps_ask _); intro lines
  exact keeps_outputLines appUid run useRoot lines

theorem harmless_helperOutputJob : Harmless name (helperOutputJob run) := by
  apply harmless_of_keeps
  apply keeps_bind (keeps_ask _); intro _
  apply keeps_bind (keeps_ask _); intro lines
  exact keeps_emitLines (some run) lines

/-- The helper's wait. -/
theorem harmless_helperWaitJob (helper : Nat) :
    Harmless name (helperWaitJob run helper) := by
  apply harmless_of_keeps
  apply keeps_bind (keeps_ask _); intro _
  apply keeps_bind (keeps_ask _); intro exitCode
  exact keeps_bind keeps_forgetHelper fun _ => keeps_reportHelper run exitCode

/-- The job that emits the exit of its run, if it gets the flag. -/
theorem harmless_waitJob (process : Nat) :
    Harmless (.job id run job) (waitJob run process) := by
  apply harmless_after (keeps_ask _); intro _
  apply harmless_after (keeps_ask _); intro exitCode
  refine harmless_after (keeps_set fun _ => rfl) fun _ => ?_
  refine harmless_after (keeps_set fun _ => rfl) fun _ => ?_
  refine harmless_after (keeps_set fun _ => rfl) fun _ => ?_
  apply harmless_after (keeps_stopLiveHelper run); intro _
  apply harmless_after keeps_cleanupBootstrap; intro _
  apply harmless_bind (harmless_emitExited exitCode fun _ => rfl); intro _
  exact harmless_of_keeps (keeps_pure _)

-- =============================================================== the calls

variable (call : Call)

/-- A start, from its last step back to its first. -/
theorem harmless_startDataPlane (useRoot : Bool) :
    Harmless (.call call) (startDataPlane useRoot) := by
  apply harmless_after (keeps_ask _)
  intro launched
  cases launched with
  | error message =>
      apply harmless_of_keeps
      apply keeps_bind (keeps_stopHelperProcess _); intro _
      exact keeps_bind keeps_cleanupBootstrap fun _ => keeps_emit _ rfl
  | ok _ =>
      have hregister : Harmless (.call call) register :=
        harmless_of_keeps fun _ => ⟨rfl, keeps_pure _⟩
      apply harmless_bind hregister; intro process
      refine harmless_after (keeps_set fun _ => rfl) fun _ => ?_
      refine harmless_bind (harmless_launch _ fun _ _ => rfl) fun _ => ?_
      refine harmless_bind (harmless_launch _ fun _ _ => rfl) fun _ => ?_
      apply harmless_after (keeps_look _); intro helper
      cases helper with
      | none => exact harmless_of_keeps (keeps_pure _)
      | some helper => exact harmless_launch _ fun _ _ => rfl

theorem harmless_awaitHelper : Harmless (.call call) awaitHelper := by
  apply harmless_after (keeps_ask _); intro ready
  apply harmless_after (keeps_logAll _); intro _
  split
  · exact harmless_of_keeps (keeps_refuseHelper _)
  · split
    · exact harmless_of_keeps (keeps_refuseHelper _)
    · refine harmless_after (keeps_set fun _ => rfl) fun _ => ?_
      apply harmless_after (keeps_emit _ rfl); intro _
      refine harmless_bind (harmless_launch _ fun _ _ => rfl) fun _ => ?_
      exact harmless_startDataPlane call true

theorem harmless_launchHelper : Harmless (.call call) launchHelper := by
  apply harmless_after (keeps_ask _)
  intro launched
  cases launched with
  | error message =>
      apply harmless_of_keeps
      exact keeps_bind keeps_cleanupBootstrap fun _ => keeps_emit _ rfl
  | ok pid =>
      have hregister : Harmless (.call call) register :=
        harmless_of_keeps fun _ => ⟨rfl, keeps_pure _⟩
      apply harmless_bind hregister; intro process
      refine harmless_after (keeps_set fun _ => rfl) fun _ => ?_
      refine harmless_after (keeps_set fun _ => rfl) fun _ => ?_
      apply harmless_after (keeps_look _); intro kept
      split
      · exact harmless_awaitHelper call
      · apply harmless_of_keeps
        exact keeps_bind keeps_cleanupBootstrap fun _ => keeps_emit _ rfl

theorem harmless_startHelper : Harmless (.call call) startHelper := by
  apply harmless_after (keeps_ask _)
  intro missing
  cases missing with
  | some path => exact harmless_of_keeps (keeps_emit _ rfl)
  | none =>
      apply harmless_after (keeps_ask _)
      intro bootstrap
      cases bootstrap with
      | error message => exact harmless_of_keeps (keeps_emit _ rfl)
      | ok directory =>
          refine harmless_after (keeps_set fun _ => rfl) fun _ => ?_
          apply harmless_after (keeps_emit _ rfl); intro _
          exact harmless_launchHelper call

/-- Here the flag is lowered, for a new run. -/
theorem harmless_startRun (useRoot : Bool) :
    Harmless (.call call) (startRun useRoot) := by
  have hbegin : Harmless (.call call)
      (set fun s => { s with exitEmitted := false, run := s.run + 1 }) :=
    fun s => ⟨none, .begin rfl, rfl⟩
  apply harmless_bind hbegin; intro _
  refine harmless_after (keeps_set fun _ => rfl) fun _ => ?_
  refine harmless_after (keeps_set fun _ => rfl) fun _ => ?_
  split
  · exact harmless_startHelper call
  · exact harmless_startDataPlane call false

/-- The whole call. -/
theorem harmless_start (useRoot : Bool) :
    Harmless (.call call) (start useRoot) := by
  apply harmless_after (keeps_look _); intro dataPlaneAlive
  apply harmless_after (keeps_look _); intro helperAlive
  split
  · exact harmless_of_keeps (keeps_emit _ rfl)
  · apply harmless_after (keeps_ask _)
    intro missing
    cases missing with
    | some path => exact harmless_of_keeps (keeps_emit _ rfl)
    | none =>
        apply harmless_after (keeps_emit _ rfl); intro _
        exact harmless_startRun call useRoot

/-- A stop emits at most the exit of the last run. -/
theorem harmless_finishStop (exitCode : Int) :
    Harmless (.call call) (finishStop exitCode) := by
  apply harmless_after (keeps_stopHelperProcess _); intro _
  apply harmless_after keeps_cleanupProcesses; intro _
  apply harmless_after keeps_cleanupBootstrap; intro _
  apply harmless_after (keeps_emit _ rfl); intro _
  apply harmless_bind (harmless_emitExited exitCode fun _ => rfl); intro _
  exact harmless_of_keeps (keeps_pure _)

/-- So does the call. -/
theorem harmless_stop : Harmless (.call call) stop := by
  refine harmless_after (keeps_set fun _ => rfl) fun _ => ?_
  apply harmless_after (keeps_look _)
  intro current
  cases current with
  | none => exact harmless_finishStop call 0
  | some current =>
      apply harmless_after (keeps_ask _)
      intro stopped
      split
      · exact harmless_finishStop call 0
      · apply harmless_of_keeps
        exact keeps_bind (keeps_emit _ rfl) fun _ => keeps_pure _

/-- And this one. -/
theorem harmless_forceStop : Harmless (.call call) forceStop := by
  refine harmless_after (keeps_set fun _ => rfl) fun _ => ?_
  apply harmless_after (keeps_look _); intro current
  apply harmless_after (keeps_waitForDataPlane _); intro _
  exact harmless_finishStop call (-1)

/-- An abandon takes the flag, and emits nothing. -/
theorem harmless_abandon : Harmless (.call call) abandon := by
  have habandon : Harmless (.call call) (set fun s =>
      { s with exitEmitted := true, abandoned := s.run :: s.abandoned }) :=
    fun s => ⟨none, .abandon rfl, rfl⟩
  refine harmless_after (keeps_set fun _ => rfl) fun _ => ?_
  apply harmless_bind habandon; intro _
  apply harmless_of_keeps
  apply keeps_bind keeps_cancelJobs; intro _
  apply keeps_bind (keeps_look _); intro dataPlane
  refine keeps_bind (keeps_set fun _ => rfl) fun _ => ?_
  refine keeps_bind (keeps_set fun _ => rfl) fun _ => ?_
  apply keeps_bind (keeps_waitForDataPlane _); intro _
  exact keeps_bind (keeps_stopHelperProcess _) fun _ => keeps_cleanupBootstrap

/-- Every program follows what is allowed to it. -/
theorem harmless_program (name : Name) :
    Harmless name (program appUid name) := by
  have hpure : ∀ {α : Type} {p : Prog α}, Harmless name p →
      Harmless name (p >>= fun _ => pure ()) := fun hp =>
    harmless_bind hp fun _ => harmless_of_keeps (keeps_pure _)
  cases name with
  | call call =>
      cases call with
      | start useRoot => exact harmless_start _ useRoot
      | stop => exact hpure (harmless_stop _)
      | forceStop => exact hpure (harmless_forceStop _)
      | abandon => exact harmless_abandon _
  | job id run job =>
      cases job with
      | output process useRoot => exact harmless_outputJob appUid run useRoot
      | wait process => exact harmless_waitJob id run _ process
      | helperOutput => exact harmless_helperOutputJob run
      | helperWait helper => exact harmless_helperWaitJob run helper

end Follows

-- ============================================================== the reports

/-- One report for every run: `rights r` threads are about to report for
the run `r`. -/
structure Books (rights : Nat → Nat) (s : State) : Prop where
  once : ∀ r, exits r s + rights r ≤ 1
  pending : s.exitEmitted = false → exits s.run s + rights s.run = 0
  later : ∀ r, s.run < r → exits r s + rights r = 0
  abandoned : ∀ r ∈ s.abandoned, r ≤ s.run ∧ exits r s + rights r = 0
    ∧ (r = s.run → s.exitEmitted = true)

/-- The right that a tag stands for. -/
def right (t : Option Nat) (r : Nat) : Nat := if t = some r then 1 else 0

/-- The books read only the counted part. -/
theorem Books.of_ghost {rights rights' : Nat → Nat} {s s' : State}
    (h : Books rights s) (hrun : s'.run = s.run)
    (habandoned : s'.abandoned = s.abandoned)
    (hemitted : s'.exitEmitted = s.exitEmitted)
    (hreports : reports s' = reports s) (hle : ∀ r, rights' r ≤ rights r) :
    Books rights' s' := by
  have hexits : ∀ r, exits r s' = exits r s := fun r => by
    rw [exits, hreports, exits]
  constructor
  · intro r
    have := h.once r
    have := hle r
    rw [hexits]
    omega
  · intro hopen
    have := h.pending (hemitted ▸ hopen)
    have := hle s.run
    rw [hrun, hexits]
    omega
  · intro r hr
    have := h.later r (hrun ▸ hr)
    have := hle r
    rw [hexits]
    omega
  · intro r hr
    obtain ⟨hle', hzero, hflag⟩ := h.abandoned r (habandoned ▸ hr)
    have := hle r
    rw [hrun, hexits, hemitted]
    exact ⟨hle', by omega, hflag⟩

/-- One report more, of its run. -/
theorem exits_report (r run : Nat) (exitCode : Int) (s : State) :
    exits r { s with events := (run, .exited exitCode) :: s.events }
      = exits r s + right (some run) r := by
  simp [exits, reports, isExit, right, List.count_cons]

/-- An allowed step keeps the books, if a report is claimed for the last run
only, and a run is abandoned before its exit is claimed. -/
theorem Books.step {rights rights' : Nat → Nat} {name : Name}
    {t t' : Option Nat} {s s' : State} (h : Books rights s)
    (hG : Allowed name t s t' s')
    (hrights : ∀ r, rights' r + right t r = rights r + right t' r)
    (hclaim : watched s' ≠ watched s → owner s name = s.run)
    (habandon : s'.abandoned ≠ s.abandoned →
      s.exitEmitted = false ∨ s.run ∈ s.abandoned) :
    Books rights' s' := by
  cases hG with
  | quiet hghost =>
      have hsame : ∀ r, rights' r ≤ rights r := fun r => by
        have := hrights r
        omega
      simp only [ghost, Prod.mk.injEq] at hghost
      obtain ⟨hrun, habandoned, hemitted, hreports, -⟩ := hghost
      exact h.of_ghost hrun habandoned hemitted hreports hsame
  | launch id job hcall hghost =>
      have hsame : ∀ r, rights' r ≤ rights r := fun r => by
        have := hrights r
        omega
      simp only [ghost, Prod.mk.injEq] at hghost
      obtain ⟨hrun, habandoned, hemitted, hreports, -⟩ := hghost
      exact h.of_ghost hrun habandoned hemitted hreports hsame
  | claim hopen =>
      have howner : owner s name = s.run := by
        apply hclaim
        simp [watched, hopen]
      have hzero := h.pending hopen
      have hother : ∀ r, r ≠ s.run → rights' r = rights r := by
        intro r hr
        have := hrights r
        simpa [right, howner, Ne.symm hr] using this
      have hself : rights' s.run = rights s.run + 1 := by
        have := hrights s.run
        simpa [right, howner] using this
      refine ⟨fun r => ?_, fun hfalse => (by cases hfalse), fun r hr => ?_,
        fun r hr => ?_⟩
      · show exits r s + rights' r ≤ 1
        by_cases hr : r = s.run
        · rw [hr, hself]
          omega
        · rw [hother r hr]
          exact h.once r
      · show exits r s + rights' r = 0
        rw [hother r (by rintro rfl; exact absurd hr (Nat.lt_irrefl _))]
        exact h.later r hr
      · obtain ⟨hle, hz, hflag⟩ := h.abandoned r hr
        have hne : r ≠ s.run := by
          rintro rfl
          rw [hflag rfl] at hopen
          cases hopen
        refine ⟨hle, ?_, fun _ => rfl⟩
        show exits r s + rights' r = 0
        rw [hother r hne]
        exact hz
  | @report run exitCode =>
      have hsum : ∀ r, exits r { s with
          events := (run, .exited exitCode) :: s.events } + rights' r
          = exits r s + rights r := by
        intro r
        have := hrights r
        rw [exits_report]
        simp only [right, reduceCtorEq, if_false] at this ⊢
        omega
      refine ⟨fun r => ?_, fun hopen => ?_, fun r hr => ?_, fun r hr => ?_⟩
      · rw [hsum]
        exact h.once r
      · exact (hsum _).trans (h.pending hopen)
      · rw [hsum]
        exact h.later r hr
      · rw [hsum]
        exact h.abandoned r hr
  | begin hcall =>
      have hsame : ∀ r, rights' r = rights r := fun r => by
        have := hrights r
        omega
      refine ⟨fun r => ?_, fun _ => ?_, fun r hr => ?_, fun r hr => ?_⟩
      · rw [hsame]
        exact h.once r
      · rw [hsame]
        exact h.later _ (Nat.lt_succ_self s.run)
      · rw [hsame]
        exact h.later r (Nat.lt_of_succ_lt hr)
      · obtain ⟨hle, hz, -⟩ := h.abandoned r hr
        rw [hsame]
        refine ⟨Nat.le_succ_of_le hle, hz, fun heq => ?_⟩
        have heq : r = s.run + 1 := heq
        omega
  | abandon hcall =>
      have hsame : ∀ r, rights' r = rights r := fun r => by
        have := hrights r
        omega
      have hnone : exits s.run s + rights s.run = 0 := by
        have hchanged : s.run :: s.abandoned ≠ s.abandoned := fun heq =>
          absurd (congrArg List.length heq) (by simp)
        rcases habandon hchanged with hopen | hmem
        · exact h.pending hopen
        · exact (h.abandoned _ hmem).2.1
      refine ⟨fun r => ?_, fun hfalse => (by cases hfalse), fun r hr => ?_,
        fun r hr => ?_⟩
      · rw [hsame]
        exact h.once r
      · rw [hsame]
        exact h.later r hr
      · rw [hsame]
        rcases List.mem_cons.mp hr with rfl | hold
        · exact ⟨Nat.le_refl _, hnone, fun _ => rfl⟩
        · obtain ⟨hle, hz, -⟩ := h.abandoned r hold
          exact ⟨hle, hz, fun _ => rfl⟩

-- =============================================================== the system

variable (appUid : Int)

/-- The threads, each with the run whose flag it holds. -/
abbrev Tags := List (Thread State Query Reply Name × Option Nat)

/-- How many threads are about to report for a run. -/
def rightsOf (l : Tags) (r : Nat) : Nat := (l.map Prod.snd).count (some r)

/-- A thread whose tag changes. -/
theorem rightsOf_set {l : Tags} {n : Nat} {th th' : Thread State Query Reply Name}
    {t t' : Option Nat} (hl : l[n]? = some (th, t)) (r : Nat) :
    rightsOf (l.set n (th', t')) r + right t r = rightsOf l r + right t' r := by
  obtain ⟨hn, hget⟩ := List.getElem?_eq_some_iff.mp hl
  have hsplit : l = l.take n ++ (th, t) :: l.drop (n + 1) := by
    rw [← hget, List.getElem_cons_drop, List.take_append_drop]
  have hset : l.set n (th', t') = l.take n ++ (th', t') :: l.drop (n + 1) :=
    List.set_eq_take_append_cons_drop.trans (if_pos hn)
  have hold : rightsOf l r
      = rightsOf (l.take n ++ (th, t) :: l.drop (n + 1)) r :=
    congrArg (rightsOf · r) hsplit
  rw [hold, hset]
  simp only [rightsOf, List.map_append, List.map_cons, List.count_append,
    List.count_cons, right, beq_iff_eq]
  omega

/-- A thread that ends. -/
theorem rightsOf_eraseIdx (l : Tags) (n r : Nat) :
    rightsOf (l.eraseIdx n) r ≤ rightsOf l r := by
  apply List.Sublist.count_le
  exact (List.eraseIdx_sublist l n).map Prod.snd

/-- New threads hold nothing. -/
theorem rightsOf_forks (l : Tags) (names : List Name) (r : Nat) :
    rightsOf (l ++ names.map fun i => ((platform appUid).start i, none)) r
      = rightsOf l r := by
  simp [rightsOf, List.count_append, List.count_eq_zero]

/-- The jobs of earlier runs do not write any more. -/
def JobsQuiet (P : System) : Prop :=
  ∀ th ∈ P.threads, ∀ id r job, th.name = .job id r job →
    r ≤ P.shared.run ∧ (r < P.shared.run → th.rest.Keeps watched)

/-- What holds in every state of an orderly run. -/
structure Inv (P : System) : Prop where
  launched : P.shared.launched = []
  jobs : JobsQuiet P
  books : ∃ l, Tagged Allowed l P.threads ∧ Books (rightsOf l) P.shared

/-- A run is begun when no job of an earlier one can still write, and
abandoned before its exit is claimed. -/
def Orderly (P : System) (a : Action) : Prop :=
  ∀ P', step appUid P a = some P' →
    (P'.shared.run ≠ P.shared.run → ∀ th ∈ P.threads, isCall th.name = false →
      th.rest.Keeps watched)
    ∧ (P'.shared.abandoned ≠ P.shared.abandoned →
      P.shared.exitEmitted = false ∨ P.shared.run ∈ P.shared.abandoned)

/-- Who may begin a run, and what is launched. -/
theorem allowed_spec {name : Name} {t t' : Option Nat} {s s' : State}
    (h : Allowed name t s t' s') :
    s.run ≤ s'.run ∧ (s'.run = s.run ∨ isCall name = true)
      ∧ ∀ i ∈ s'.launched, i ∈ s.launched
        ∨ ∃ id job, i = .job id s'.run job := by
  cases h with
  | quiet hghost =>
      simp only [ghost, Prod.mk.injEq] at hghost
      rw [hghost.1, hghost.2.2.2.2]
      exact ⟨Nat.le_refl _, .inl rfl, fun i hi => .inl hi⟩
  | launch id job hcall hghost =>
      simp only [ghost, Prod.mk.injEq] at hghost
      rw [hghost.1, hghost.2.2.2.2]
      refine ⟨Nat.le_refl _, .inl rfl, fun i hi => ?_⟩
      rcases List.mem_append.mp hi with hold | hnew
      · exact .inl hold
      · exact .inr ⟨id, job, List.mem_singleton.mp hnew⟩
  | claim => exact ⟨Nat.le_refl _, .inl rfl, fun i hi => .inl hi⟩
  | report => exact ⟨Nat.le_refl _, .inl rfl, fun i hi => .inl hi⟩
  | begin hcall => exact ⟨Nat.le_succ _, .inr hcall, fun i hi => .inl hi⟩
  | abandon hcall => exact ⟨Nat.le_refl _, .inl rfl, fun i hi => .inl hi⟩

/-- The jobs after a step of a thread: those of before, the one that made
it, and those of the last run that it launched. -/
theorem JobsQuiet.step {P P' : System} {n : Nat}
    {th : Thread State Query Reply Name} {t : Option Nat} {l l' : Tags}
    (hjobs : JobsQuiet P) (hl : Tagged Allowed l P.threads)
    (hget : l[n]? = some (th, t)) (hl' : Tagged Allowed l' P'.threads)
    (hnew : P.shared.launched = [])
    (h : Retagged (platform appUid) Allowed none P n th t l l' P'.shared)
    (hbegin : P'.shared.run ≠ P.shared.run →
      ∀ th ∈ P.threads, isCall th.name = false → th.rest.Keeps watched) :
    JobsQuiet P' := by
  obtain ⟨s', threads'⟩ := P'
  have hmem : ∀ p ∈ l, p.1 ∈ P.threads := fun p hp => by
    rw [← hl.1]
    exact List.mem_map_of_mem hp
  have hth : th ∈ P.threads := hmem _ (List.mem_of_getElem? hget)
  -- a thread that was there, or goes on from one that was there
  have hold : ∀ (th₀ : Thread State Query Reply Name)
      (rest : Task State Query Reply Unit), th₀ ∈ P.threads →
      rest.Milder th₀.rest → P.shared.run ≤ s'.run →
      ∀ id r job, th₀.name = .job id r job →
      r ≤ s'.run ∧ (r < s'.run → rest.Keeps watched) := by
    intro th₀ rest hin hmilder hle id r job hname
    obtain ⟨hr, hkeeps⟩ := hjobs th₀ hin id r job hname
    refine ⟨Nat.le_trans hr hle, fun hlt => hmilder _ _ ?_⟩
    by_cases hrun : s'.run = P.shared.run
    · exact hkeeps (hrun ▸ hlt)
    · exact hbegin hrun th₀ hin (by rw [hname]; rfl)
  have hself : ∀ p : Task State Query Reply Unit, p.Milder p :=
    fun _ _ _ hkeeps => hkeeps
  intro th₁ hth₁ id r job hname
  rw [← hl'.1] at hth₁
  obtain ⟨⟨th₂, t₂⟩, hp, rfl⟩ := List.mem_map.mp hth₁
  cases h with
  | @act t' s₁ rest hG hmilder =>
      obtain ⟨hle, -, hlaunched⟩ := allowed_spec hG
      rcases List.mem_append.mp hp with hp | hp
      · rcases List.mem_or_eq_of_mem_set hp with hin | heq
        · exact hold th₂ _ (hmem _ hin) (hself _) hle id r job hname
        · cases heq
          exact hold th rest hth hmilder hle id r job hname
      · obtain ⟨i, hi, heq⟩ := List.mem_map.mp hp
        cases heq
        rcases hlaunched i hi with hin | ⟨id', job', hname'⟩
        · rw [hnew] at hin
          cases hin
        · have hname : i = .job id r job := hname
          rw [hname'] at hname
          cases hname
          exact ⟨Nat.le_refl _, fun hlt => absurd hlt (Nat.lt_irrefl _)⟩
  | @reply rest hmilder =>
      rcases List.mem_or_eq_of_mem_set hp with hin | heq
      · exact hold th₂ _ (hmem _ hin) (hself _) (Nat.le_refl _) id r job hname
      · cases heq
        exact hold th rest hth hmilder (Nat.le_refl _) id r job hname
  | ended =>
      exact hold th₂ _ (hmem _ (List.mem_of_mem_eraseIdx hp)) (hself _)
        (Nat.le_refl _) id r job hname

/-- A thread that changes a shared field is a call, or a job of the last
run. -/
theorem owner_of_changed {P P' : System} {m : Move Query Reply}
    (hjobs : JobsQuiet P) (hstep : P.step (platform appUid) m = some P')
    {th : Thread State Query Reply Name}
    (hth : P.threads[m.index]? = some th)
    (hchanged : watched P'.shared ≠ watched P.shared) :
    owner P.shared th.name = P.shared.run := by
  cases hname : th.name with
  | call call => rfl
  | job id r job =>
      obtain ⟨hle, hkeeps⟩ := hjobs th (List.mem_of_getElem? hth) id r job hname
      show r = P.shared.run
      apply Decidable.of_not_not
      intro hne
      apply hchanged
      exact Pool.step_keeps (platform appUid) (fun _ => rfl) hstep hth
        (hkeeps (Nat.lt_of_le_of_ne hle hne))

/-- A step of a thread, by what it does to its tag. -/
theorem inv_thread {P P' : System} {m : Move Query Reply} (h : Inv P)
    (hcond : Orderly appUid P (.thread m))
    (hstep : P.step (platform appUid) m = some P') : Inv P' := by
  obtain ⟨hbegin, habandon⟩ := hcond P' hstep
  obtain ⟨l, hl, hbooks⟩ := h.books
  have hprogram : ∀ i, ((platform appUid).program i).Follows (Allowed i) none
      fun _ _ => True := fun i =>
    (harmless_program appUid i).mono fun _ _ _ => trivial
  obtain ⟨th, t, l', hget, hl', hre⟩ := hl.step (platform appUid) hprogram hstep
  have hjobs := h.jobs.step appUid hl hget hl' h.launched hre hbegin
  have hth : P.threads[m.index]? = some th := by
    rw [← hl.1, List.getElem?_map, hget]
    rfl
  have howner := owner_of_changed appUid h.jobs hstep hth
  obtain ⟨s', threads'⟩ := P'
  cases hre with
  | @act t' s₁ rest hG hmilder =>
      refine ⟨rfl, hjobs, _, hl', ?_⟩
      have hrights : ∀ r, rightsOf (l.set m.index (⟨th.name, rest⟩, t')
          ++ ((platform appUid).forks s₁).map fun i =>
            ((platform appUid).start i, none)) r + right t r
          = rightsOf l r + right t' r := by
        intro r
        rw [rightsOf_forks, rightsOf_set hget]
      have hbooks' := hbooks.step hG hrights howner habandon
      exact hbooks'.of_ghost rfl rfl rfl rfl fun _ => Nat.le_refl _
  | @reply rest hmilder =>
      refine ⟨h.launched, hjobs, _, hl', ?_⟩
      refine hbooks.of_ghost rfl rfl rfl rfl fun r => ?_
      have := @rightsOf_set l m.index th ⟨th.name, rest⟩ t t hget r
      omega
  | ended =>
      refine ⟨h.launched, hjobs, _, hl', ?_⟩
      exact hbooks.of_ghost rfl rfl rfl rfl fun r => rightsOf_eraseIdx l _ r

/-- Before the first run. -/
theorem inv_initial : Inv initial := by
  refine ⟨rfl, ?_, [], ⟨rfl, ?_⟩, ?_⟩
  · intro th hth
    cases hth
  · intro p hp
    cases hp
  · refine ⟨fun r => Nat.zero_le 1, fun _ => rfl, fun r _ => rfl, ?_⟩
    intro r hr
    cases hr

/-- Every action keeps it. -/
theorem inv_step {P P' : System} {a : Action} (h : Inv P)
    (hcond : Orderly appUid P a) (hstep : step appUid P a = some P') :
    Inv P' := by
  cases a with
  | thread m => exact inv_thread appUid h hcond hstep
  | exits process =>
      simp only [step] at hstep
      split at hstep
      · cases hstep
        obtain ⟨l, hl, hbooks⟩ := h.books
        exact ⟨h.launched, h.jobs, l, hl,
          hbooks.of_ghost rfl rfl rfl rfl fun _ => Nat.le_refl _⟩
      · cases hstep
  | call call =>
      simp only [step] at hstep
      split at hstep
      · cases hstep
      · cases hstep
        obtain ⟨l, hl, hbooks⟩ := h.books
        refine ⟨h.launched, ?_, l ++ [((platform appUid).start (.call call),
          none)], ⟨?_, ?_⟩, ?_⟩
        · intro th hth id r job hname
          rcases List.mem_append.mp hth with hold | hnew
          · exact h.jobs th hold id r job hname
          · rw [List.mem_singleton.mp hnew] at hname
            cases hname
        · rw [List.map_append, hl.1]
          rfl
        · intro p hp
          rcases List.mem_append.mp hp with hold | hnew
          · exact hl.2 p hold
          · rw [List.mem_singleton.mp hnew]
            exact (harmless_program appUid (.call call)).mono
              fun _ _ _ => trivial
        · refine hbooks.of_ghost rfl rfl rfl rfl fun r => ?_
          exact Nat.le_of_eq (rightsOf_forks appUid l [.call call] r)

/-- No step of a job of an earlier run changes a shared field. -/
def EarlierJobsHarmless (P : System) : Prop :=
  ∀ m P' th id r job, P.step (platform appUid) m = some P' →
    P.threads[m.index]? = some th → th.name = .job id r job →
    r < P.shared.run → watched P'.shared = watched P.shared

/-- Runs that begin when the jobs of the earlier ones cannot write any more,
and are abandoned before their exit is claimed, do not interfere. -/
theorem runs_do_not_interfere {P : System} {l : List Action}
    (h : Run (fun P a P' => step appUid P a = some P' ∧ Orderly appUid P a)
      initial l P) :
    (∀ r, exits r P.shared ≤ 1)
      ∧ (∀ r ∈ P.shared.abandoned, exits r P.shared = 0)
      ∧ EarlierJobsHarmless appUid P := by
  have hinv : Inv P := h.invariant_of (fun hP hC hs => inv_step appUid hP hC hs)
    inv_initial
  obtain ⟨tags, -, hbooks⟩ := hinv.books
  refine ⟨fun r => ?_, fun r hr => ?_, ?_⟩
  · have := hbooks.once r
    omega
  · have := (hbooks.abandoned r hr).2.1
    omega
  · intro m P' th id r job hstep hth hname hlt
    obtain ⟨-, hkeeps⟩ := hinv.jobs th (List.mem_of_getElem? hth) id r job hname
    exact Pool.step_keeps (platform appUid) (fun _ => rfl) hstep hth
      (hkeeps hlt)

-- =============================================================== four runs

/-- Steps of one thread. -/
def acts (n k : Nat) : List Action :=
  List.replicate k (.thread (.act n))

/-- The answer a thread gets. -/
def reply (n : Nat) (q : Query) (x : Reply q) : Action := .thread (.reply n q x)

/-- `start` without root, as the `n`-th thread. -/
def startActions (n : Nat) : List Action :=
  [.call (.start false)] ++ acts n 2 ++ [reply n .executable (none : Option String),
    reply n .emit ()] ++ acts n 4
    ++ [reply n .launchProcess (.ok () : Except (Option String) Unit)]
    ++ acts n 5 ++ [.thread (.finish n)]

/-- The exit of a process and the end of its wait job, the `n`-th thread. -/
def exitActions (n process : Nat) : List Action :=
  [.exits process, reply n (.waitFor process) (0 : Int)] ++ acts n 6
    ++ [reply n .emit ()] ++ acts n 1 ++ [.thread (.finish n)]

/-- The same behind an exit that was emitted already, with the end of the
output job in front of it. -/
def lateExitActions (process : Nat) : List Action :=
  [.exits process, reply 1 (.waitFor process) (0 : Int)] ++ acts 1 6
    ++ [.thread (.finish 1), reply 0 .lines ([] : List (List Char)),
      .thread (.finish 0)]

/-- `forceStop`, as the third thread, of a process that survives its wait. -/
def forceStopActions (process : Nat) : List Action :=
  [.call .forceStop] ++ acts 2 2 ++ [reply 2 (.waitForCompat process) false]
    ++ acts 2 14 ++ [reply 2 .emit ()] ++ acts 2 2 ++ [reply 2 .emit ()]
    ++ acts 2 1 ++ [.thread (.finish 2)]

/-- `abandon`, likewise. -/
def abandonActions (process : Nat) : List Action :=
  [.call .abandon] ++ acts 2 13 ++ [reply 2 (.waitForCompat process) false]
    ++ acts 2 2 ++ [.thread (.finish 2)]

/-- A step that begins no run beside a job, and abandons none that exited. -/
def calmStep (P : System) (a : Action) : Option System :=
  (step appUid P a).filter fun P' =>
    (P'.shared.run = P.shared.run || P.threads.all fun th => isCall th.name)
      && (P'.shared.abandoned = P.shared.abandoned || !P.shared.exitEmitted)

/-- Such a step meets the condition. -/
theorem orderly_of_calmStep {P P' : System} {a : Action}
    (h : calmStep appUid P a = some P') :
    step appUid P a = some P' ∧ Orderly appUid P a := by
  obtain ⟨hstep, hcalm⟩ := Option.filter_eq_some_iff.mp h
  refine ⟨hstep, fun P'' hstep' => ?_⟩
  rw [hstep] at hstep'
  cases hstep'
  simp only [Bool.and_eq_true, Bool.or_eq_true, decide_eq_true_eq,
    List.all_eq_true, Bool.not_eq_true'] at hcalm
  refine ⟨fun hrun th hth hcall => ?_, fun habandoned => ?_⟩
  · rcases hcalm.1 with heq | hall
    · exact absurd heq hrun
    · rw [hall th hth] at hcall
      cases hcall
  · rcases hcalm.2 with heq | hopen
    · exact absurd heq habandoned
    · exact .inl hopen

/-- A run as far as its two jobs. -/
def runActions : List Action :=
  startActions 0 ++ [reply 0 .begin (), reply 1 .begin ()]

/-- A run that exits, one that is stopped by force, one that is abandoned,
and the next. The processes of the second and the third survive the call,
and their jobs end before the start behind it. -/
def fourRuns : List Action :=
  runActions ++ exitActions 1 0
    ++ [reply 0 .lines ([] : List (List Char)), .thread (.finish 0)]
    ++ runActions ++ forceStopActions 1 ++ lateExitActions 1
    ++ runActions ++ abandonActions 2 ++ lateExitActions 2
    ++ startActions 0

/-- Each exit is reported once, none for the run that was abandoned. -/
theorem four_runs_in_order : ∃ P,
    Run (fun P a P' => step 10000 P a = some P' ∧ Orderly 10000 P a)
      initial fourRuns P
    ∧ P.shared.run = 4 ∧ P.shared.abandoned = [3]
    ∧ (exits 1 P.shared, exits 2 P.shared, exits 3 P.shared) = (1, 1, 0)
    ∧ EarlierJobsHarmless 10000 P := by
  have hsome : ((fourRuns.foldlM (calmStep 10000) initial).map fun P =>
      (P.shared.run, P.shared.abandoned,
        (exits 1 P.shared, exits 2 P.shared, exits 3 P.shared)))
      = some (4, [3], (1, 1, 0)) := by decide +kernel
  obtain ⟨P, hP, heq⟩ := Option.map_eq_some_iff.mp hsome
  have hrun := (Run.of_foldlM hP).mono fun h => orderly_of_calmStep 10000 h
  obtain ⟨hruns, heq⟩ := Prod.mk.inj heq
  obtain ⟨habandoned, hexits⟩ := Prod.mk.inj heq
  exact ⟨P, hrun, hruns, habandoned, hexits,
    (runs_do_not_interfere 10000 hrun).2.2⟩

/-- A process that survives `forceStop`, and the next run. -/
def lateExit : List Action :=
  runActions ++ forceStopActions 0 ++ startActions 2

/-- When the old process dies, its wait job forgets the new one and reports
the exit of its run once more. -/
theorem late_exit_wipes_the_next_run :
    (∃ P, Run (fun P a P' => step 10000 P a = some P') initial
        (lateExit ++ exitActions 1 0) P ∧ exits 1 P.shared = 2)
      ∧ ∃ P, Run (fun P a P' => step 10000 P a = some P') initial
        (lateExit ++ [.exits 0, reply 1 (.waitFor 0) (0 : Int)]
          ++ acts 1 1) P ∧ ¬ EarlierJobsHarmless 10000 P := by
  constructor
  · have hsome : (((lateExit ++ exitActions 1 0).foldlM (step 10000)
        initial).map fun P => exits 1 P.shared) = some 2 := by decide +kernel
    obtain ⟨P, hP, heq⟩ := Option.map_eq_some_iff.mp hsome
    exact ⟨P, Run.of_foldlM hP, heq⟩
  · have hsome : (((lateExit ++ [.exits 0, reply 1 (.waitFor 0) (0 : Int)]
        ++ acts 1 1).foldlM (step 10000) initial).map fun P =>
          (P.shared.run, P.shared.dataPlaneProcess,
            P.threads[1]?.map (·.name),
            (P.step (platform 10000) (.act 1)).map
              (·.shared.dataPlaneProcess)))
        = some (2, some 1, some (.job 1 1 (.wait 0)), some none) := by
      decide +kernel
    obtain ⟨P, hP, heq⟩ := Option.map_eq_some_iff.mp hsome
    simp only [Prod.mk.injEq] at heq
    obtain ⟨hrun, hdata, hname, hwiped⟩ := heq
    refine ⟨P, Run.of_foldlM hP, fun h => ?_⟩
    obtain ⟨th, hth, hthname⟩ := Option.map_eq_some_iff.mp hname
    obtain ⟨P', hstep, hnone⟩ := Option.map_eq_some_iff.mp hwiped
    have hsame := h (.act 1) P' th 1 1 (.wait 0) hstep hth hthname
      (by rw [hrun]; decide)
    simp [watched, hdata, hnone] at hsame

end ZeroDpi.Android.ProcessRunner
