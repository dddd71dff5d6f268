/-
At most one live local interceptor.

The plane forgets an interceptor handle by handle: first `shutdown`, then
`done_rx`, and `stop_report` once its report is in. The invariant (`Inv`)
says that only the newest thread can be one the plane has not seen the
end of, and that the handles say how far its stop has come: both there
while it was not asked to stop, a receiver in `stop_report` from the
request until an `Ok` report. An error report is taken once and leaves a
closed receiver behind, which never confirms anything.
-/
import ZeroDpi.Runtime.LocalPlane
import ZeroDpi.Lib.Run

namespace ZeroDpi.Runtime

open Lib

/-- A thread that was asked to stop and has reported success. -/
def Interceptor.Stopped (i : Interceptor) : Prop :=
  i.requested = true ∧ i.report = some .ok

theorem modify_length_append {α : Type _} (l : List α) (a : α)
    (f : α → α) : (l ++ [a]).modify l.length f = l ++ [f a] := by
  induction l with
  | nil => rfl
  | cons b l ih =>
      show b :: (l ++ [a]).modify l.length f = _
      rw [ih]
      rfl

namespace PlaneState

-- ========================================================= the invariant

/-- How far the stop of the newest thread has come, read off the
handles: `n` is its number. -/
inductive Tracked (plane : LocalPlane) (n : Nat) (i : Interceptor) :
    Prop where
  | running (hshutdown : plane.shutdown = some n)
      (hdone : plane.doneRx = some n) (hstop : plane.stopReport = none)
  | stopping (taken : Bool)
      (hstop : plane.stopReport = some { interceptor := n, taken := taken })
      (hrequested : i.requested = true)
      (htaken : taken = true → ∃ r, i.report = some r ∧ r ≠ .ok)

/-- What the threads and the handles agree on. -/
structure Sound (s : PlaneState) : Prop where
  entered : ∀ older ∈ s.entered, ∀ i ∈ older,
    i.Stopped ∧ i ∈ s.interceptors
  disarmed : s.plane.armed = false →
    s.plane.stopReport = none ∧ ∀ i ∈ s.interceptors, i.Stopped
  armed : s.plane.armed = true → ∃ earlier i,
    s.interceptors = earlier ++ [i] ∧ (∀ j ∈ earlier, j.Stopped)
      ∧ Tracked s.plane earlier.length i

/-- What holds between any two steps: a call only waits for a report. -/
structure Inv (s : PlaneState) : Prop extends Sound s where
  waiting : s.waiting.isSome = true → s.plane.stopReport.isSome = true

variable {s : PlaneState}

/-- The end of a call. -/
theorem Sound.finish (h : s.Sound) (result : Except String Unit) :
    (s.finish result).Inv where
  entered := h.entered
  disarmed := h.disarmed
  armed := h.armed
  waiting hw := by cases hw

/-- `open` on a plane with nothing live. -/
theorem Sound.openPlane (h : s.Sound) (hoff : s.plane.armed = false)
    (opening : Opening) : (s.openPlane opening).Inv := by
  obtain ⟨hstop, hall⟩ := h.disarmed hoff
  have hentered : Sound { s with
      entered := s.interceptors :: s.entered } := by
    refine ⟨?_, h.disarmed, h.armed⟩
    intro older holder i hi
    rcases List.mem_cons.mp holder with rfl | holder
    · exact ⟨hall i hi, hi⟩
    · exact h.entered older holder i hi
  cases opening with
  | openFailed e => exact hentered.finish _
  | spawnFailed e => exact hentered.finish _
  | opened =>
      refine Sound.finish ⟨?_, ?_, ?_⟩ _
      · intro older holder i hi
        obtain ⟨hs, hmem⟩ := hentered.entered older holder i hi
        exact ⟨hs, List.mem_append_left _ hmem⟩
      · intro hoff'
        cases hoff'
      · intro _
        exact ⟨s.interceptors, {}, rfl, hall, .running rfl rfl hstop⟩

/-- The rest of a call whose `stop_local` leaves nothing live. -/
theorem Sound.stopped (h : s.Sound) (hoff : s.plane.armed = false)
    (opening : Opening) (call : PlaneCall) :
    (s.stopped opening call).Inv := by
  cases call with
  | rebuild binding => exact h.openPlane hoff opening
  | stop => exact h.finish _
  | closeForReload => exact h.finish _

/-- A change of the newest thread alone, which a stopped thread does not
undergo. -/
theorem Sound.entered_modify (h : s.Sound) {earlier : List Interceptor}
    {i : Interceptor} (hlist : s.interceptors = earlier ++ [i])
    {i' : Interceptor} (hsame : i.Stopped → i' = i) :
    ∀ older ∈ s.entered, ∀ j ∈ older,
      j.Stopped ∧ j ∈ earlier ++ [i'] := by
  intro older holder j hj
  obtain ⟨hs, hmem⟩ := h.entered older holder j hj
  refine ⟨hs, ?_⟩
  rw [hlist] at hmem
  rcases List.mem_append.mp hmem with hmem | hmem
  · exact List.mem_append_left _ hmem
  · have hji : j = i := List.mem_singleton.mp hmem
    rw [hji] at hs
    rw [hji, hsame hs]
    exact List.mem_append_right _ (List.mem_singleton_self i)

theorem Inv.begin (h : s.Inv) (opening : Opening) (call : PlaneCall) :
    (s.begin opening call).Inv := by
  unfold PlaneState.begin
  cases harmed : s.plane.armed with
  | false => exact h.toSound.stopped harmed opening call
  | true =>
      obtain ⟨earlier, i, hlist, hearlier, htracked⟩ := h.armed harmed
      cases htracked with
      | stopping taken hstop hrequested htaken =>
          simp only [hstop, Bool.not_true, Bool.false_eq_true, if_false]
          refine ⟨⟨h.entered, h.disarmed, h.armed⟩, fun _ => ?_⟩
          rw [hstop]
          rfl
      | running hshutdown hdone hstop =>
          simp only [hstop, hshutdown, request, hdone, Bool.not_true,
            Bool.false_eq_true, if_false]
          have hmod : s.interceptors.modify earlier.length
              (fun i => { i with requested := true })
              = earlier ++ [{ i with requested := true }] := by
            rw [hlist]
            exact modify_length_append earlier i _
          refine ⟨⟨?_, ?_, ?_⟩, fun _ => rfl⟩
          · rw [hmod]
            refine h.entered_modify hlist fun hs => ?_
            rw [← hs.1]
          · intro hoff
            rw [harmed] at hoff
            cases hoff
          · intro _
            refine ⟨earlier, { i with requested := true }, hmod, hearlier,
              .stopping false rfl rfl fun hf => ?_⟩
            cases hf

/-- A waiting call has a receiver, and the thread it belongs to is the
newest one. -/
theorem Inv.stopping (h : s.Inv) {stop : StopReport}
    (hstop : s.plane.stopReport = some stop) :
    s.plane.armed = true ∧ ∃ earlier i,
      s.interceptors = earlier ++ [i] ∧ (∀ j ∈ earlier, j.Stopped)
        ∧ stop.interceptor = earlier.length ∧ i.requested = true := by
  cases harmed : s.plane.armed with
  | false =>
      have hnone := (h.disarmed harmed).1
      rw [hstop] at hnone
      cases hnone
  | true =>
      obtain ⟨earlier, i, hlist, hearlier, htracked⟩ := h.armed harmed
      refine ⟨rfl, earlier, i, hlist, hearlier, ?_⟩
      cases htracked with
      | running _ _ hnone =>
          rw [hstop] at hnone
          cases hnone
      | stopping taken hstop' hrequested htaken =>
          rw [hstop] at hstop'
          cases hstop'
          exact ⟨rfl, hrequested⟩

/-- An error report is taken: the receiver is closed from now on. -/
theorem Inv.taken (h : s.Inv) {stop : StopReport}
    (hstop : s.plane.stopReport = some stop) {earlier : List Interceptor}
    {i : Interceptor} (hlist : s.interceptors = earlier ++ [i])
    (hn : stop.interceptor = earlier.length)
    {r : Report} (hreport : i.report = some r) (hne : r ≠ .ok) :
    Sound { s with plane := { s.plane with
      stopReport := some { stop with taken := true } } } := by
  obtain ⟨harmed, earlier', i', hlist', hearlier, -, hrequested⟩ :=
    h.stopping hstop
  obtain ⟨hsame, hi⟩ := List.append_inj' (hlist.symm.trans hlist') rfl
  cases hi
  subst hsame
  refine ⟨h.entered, ?_, ?_⟩
  · intro hoff
    rw [harmed] at hoff
    cases hoff
  · intro _
    refine ⟨earlier, i, hlist, hearlier,
      .stopping true ?_ hrequested fun _ => ⟨r, hreport, hne⟩⟩
    rw [← hn]

theorem Inv.receive (h : s.Inv) {opening : Opening} {s' : PlaneState}
    (hstep : s.receive opening = some s') : s'.Inv := by
  unfold PlaneState.receive at hstep
  obtain ⟨call, hcall, hstep⟩ := Option.bind_eq_some_iff.mp hstep
  obtain ⟨stop, hstop, hstep⟩ := Option.bind_eq_some_iff.mp hstep
  obtain ⟨harmed, earlier, i, hlist, hearlier, hn, hrequested⟩ :=
    h.stopping hstop
  split at hstep
  · cases hstep
    exact h.toSound.finish _
  · obtain ⟨i', hi', hstep⟩ := Option.bind_eq_some_iff.mp hstep
    rw [hlist, hn, List.getElem?_concat_length] at hi'
    cases hi'
    obtain ⟨report, hreport, hstep⟩ := Option.bind_eq_some_iff.mp hstep
    cases report with
    | failed e =>
        cases hstep
        refine (h.taken hstop hlist hn hreport fun heq => ?_).finish _
        cases heq
    | gone =>
        cases hstep
        refine (h.taken hstop hlist hn hreport fun heq => ?_).finish _
        cases heq
    | ok =>
        cases hstep
        have hall : ∀ j ∈ s.interceptors, j.Stopped := by
          intro j hj
          rw [hlist] at hj
          rcases List.mem_append.mp hj with hj | hj
          · exact hearlier j hj
          · rw [List.mem_singleton.mp hj]
            exact ⟨hrequested, hreport⟩
        have hoff : Sound { s with
            plane := { s.plane with stopReport := none, armed := false } } :=
          ⟨h.entered, fun _ => ⟨rfl, hall⟩, fun hon => by cases hon⟩
        exact hoff.stopped rfl opening call

/-- Only the newest thread can still report. -/
theorem Inv.report (h : s.Inv) {n : Nat} {r : Report} {s' : PlaneState}
    (hstep : s.report n r = some s') : s'.Inv := by
  unfold PlaneState.report at hstep
  obtain ⟨i, hi, hstep⟩ := Option.bind_eq_some_iff.mp hstep
  split at hstep
  · cases hstep
  rename_i hsilent
  have hnot : ¬ i.Stopped := by
    intro hs
    rw [hs.2] at hsilent
    exact hsilent rfl
  cases hstep
  cases harmed : s.plane.armed with
  | false =>
      have hs := (h.disarmed harmed).2 i (List.mem_of_getElem? hi)
      exact absurd hs hnot
  | true =>
      obtain ⟨earlier, live, hlist, hearlier, htracked⟩ := h.armed harmed
      have hnew : n = earlier.length ∧ i = live := by
        rw [hlist] at hi
        rcases Nat.lt_or_ge n earlier.length with hlt | hge
        · rw [List.getElem?_append_left hlt] at hi
          exact absurd (hearlier i (List.mem_of_getElem? hi)) hnot
        · rw [List.getElem?_append_right hge] at hi
          obtain ⟨hlen, hget⟩ := List.getElem?_eq_some_iff.mp hi
          have hz : n - earlier.length = 0 := by
            simp only [List.length_singleton] at hlen
            omega
          refine ⟨by omega, ?_⟩
          simp only [hz, List.getElem_cons_zero] at hget
          exact hget.symm
      obtain ⟨rfl, rfl⟩ := hnew
      have hmod : s.interceptors.modify earlier.length
          (fun i => { i with report := some r, asked := i.requested })
          = earlier ++ [{ i with report := some r, asked := i.requested }] := by
        rw [hlist]
        exact modify_length_append earlier i _
      refine ⟨⟨?_, ?_, ?_⟩, h.waiting⟩
      · rw [hmod]
        exact h.entered_modify hlist fun hs => absurd hs hnot
      · intro hoff
        rw [harmed] at hoff
        cases hoff
      · intro _
        refine ⟨earlier, _, hmod, hearlier, ?_⟩
        cases htracked with
        | running hshutdown hdone hstop => exact .running hshutdown hdone hstop
        | stopping taken hstop hrequested htaken =>
            refine .stopping taken hstop hrequested fun ht => ?_
            obtain ⟨r', hr', -⟩ := htaken ht
            rw [hr'] at hsilent
            exact absurd rfl hsilent

theorem inv_opened : opened.Inv := by
  have hunopened : unopened.Sound := by
    refine ⟨fun older holder => ?_, fun _ => ⟨rfl, fun i hi => ?_⟩,
      fun hon => ?_⟩
    · cases holder
    · cases hi
    · cases hon
  exact hunopened.openPlane rfl .opened

theorem Inv.step (h : s.Inv) {act : Act} {s' : PlaneState}
    (hstep : s.step act = some s') : s'.Inv := by
  cases act with
  | call call opening =>
      simp only [PlaneState.step] at hstep
      split at hstep
      · cases hstep
        exact h.begin opening call
      · cases hstep
  | received opening => exact h.receive hstep
  | timedOut =>
      obtain ⟨call, -, hstep⟩ := Option.bind_eq_some_iff.mp hstep
      cases hstep
      exact h.toSound.finish _
  | report n r => exact h.report hstep

-- =========================================================== whole runs

/-- In every run of a local controller: whenever `LocalPlane::open` was
entered, every interceptor thread spawned before had been asked to stop
and had reported `Ok` (after it was asked, if threads report `Ok` only
then, as `run_until` does); a disarmed plane has no thread whose report
is outstanding; and an armed one has both handles of its thread, or the
receiver of its report. -/
theorem open_after_confirmed_stops (acts : List Act) (s : PlaneState)
    (hrun : Run (fun s act s' => s.step act = some s') opened acts s) :
    (∀ older ∈ s.entered, ∀ i ∈ older,
        i.requested = true ∧ i.report = some .ok)
    ∧ ((∀ i ∈ s.interceptors, i.report = some .ok → i.asked = true) →
        ∀ older ∈ s.entered, ∀ i ∈ older, i.asked = true)
    ∧ (s.plane.armed = false →
        ∀ i ∈ s.interceptors, i.report.isSome = true)
    ∧ (s.plane.armed = true →
        (s.plane.shutdown.isSome = true ∧ s.plane.doneRx.isSome = true)
          ∨ s.plane.stopReport.isSome = true) := by
  have hinv : s.Inv := hrun.invariant (fun hs hstep => hs.step hstep)
    inv_opened
  refine ⟨?_, ?_, ?_, ?_⟩
  · intro older holder i hi
    exact (hinv.entered older holder i hi).1
  · intro hasked older holder i hi
    obtain ⟨hstopped, hmem⟩ := hinv.entered older holder i hi
    exact hasked i hmem hstopped.2
  · intro hoff i hi
    rw [((hinv.disarmed hoff).2 i hi).2]
    rfl
  · intro hon
    obtain ⟨earlier, i, -, -, htracked⟩ := hinv.armed hon
    cases htracked with
    | running hshutdown hdone _ =>
        rw [hshutdown, hdone]
        exact .inl ⟨rfl, rfl⟩
    | stopping taken hstop _ _ =>
        rw [hstop]
        exact .inr rfl

/-- A rebuild whose first wait times out: the retry finds the report and
opens the second interceptor. -/
theorem sample_open_after_retry :
    ∃ s first, Run (fun s act s' => s.step act = some s') opened
        [.call (.rebuild ⟨0x0A000002, 3, "rmnet0"⟩) .opened, .timedOut,
         .report 0 .ok,
         .call (.rebuild ⟨0x0A000002, 3, "rmnet0"⟩) .opened,
         .received .opened] s
      ∧ s.interceptors.length = 2 ∧ s.entered = [[first], []]
      ∧ first.requested = true ∧ first.report = some .ok := by
  have hrun : ∃ s first, Run (fun s act s' => s.step act = some s') opened
        [.call (.rebuild ⟨0x0A000002, 3, "rmnet0"⟩) .opened, .timedOut,
         .report 0 .ok,
         .call (.rebuild ⟨0x0A000002, 3, "rmnet0"⟩) .opened,
         .received .opened] s
      ∧ s.interceptors.length = 2 ∧ s.entered = [[first], []] :=
    ⟨_, _, .cons rfl <| .cons rfl <| .cons rfl <| .cons rfl <|
      .cons rfl <| .nil _, rfl, rfl⟩
  obtain ⟨s, first, hrun, htwo, hentered⟩ := hrun
  have hstopped := (open_after_confirmed_stops _ s hrun).1 [first]
    (by rw [hentered]; exact List.mem_cons_self) first
    (List.mem_singleton_self first)
  exact ⟨s, first, hrun, htwo, hentered, hstopped⟩

end PlaneState
end ZeroDpi.Runtime
