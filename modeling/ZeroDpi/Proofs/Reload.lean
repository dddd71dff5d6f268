/-
What follows a generation, in terms of the generations there were.

# The turns

`turnAfter` says what comes after a generation from what it ended with and
from the history before it alone: no variable of the loop is in it.
`restoresNext` is the part with the restore attempts. It is a recursion on
the history because an attempt that fails is not followed by another one.

# The invariant

The loop keeps in `last_good` what the history says was ready last, and in
`restoring` what `restoresNext` says of the generations before the one that
runs. `Called`, `Closing` and `Retrying` are what holds in each phase.
-/
import ZeroDpi.Lib.Run
import ZeroDpi.Runtime.Reload

namespace ZeroDpi.Reload

open Lib

variable {E Event : Type}

-- =============================================================== the turns

/-- An error before the listener was ready. -/
def Generation.failedStart (g : Generation E) : Bool :=
  match g.result with
  | .ok () => false
  | .error _ => !g.ready

/-- What the loop can go back to. -/
def Generation.backup (g : Generation E) : Backup where
  config := g.config
  targets := backupTargets g.config.loadBalanceEnabled g.discoveredTtl
    g.targets

/-- The most recent generation that was ready; histories are latest
first. -/
def lastReady (history : List (Generation E)) : Option (Generation E) :=
  history.find? (·.ready)

/-- The next generation is an attempt to restore: the last one failed to
start, one before it was ready, and it was no such attempt itself. -/
def restoresNext : List (Generation E) → Bool
  | [] => false
  | g :: earlier =>
      g.failedStart && (lastReady earlier).isSome && !restoresNext earlier

/-- What the loop does next. -/
inductive Turn (E : Type) where
  | finish (result : Except E Unit)
  | reload (cfg : ServiceConfig)
  | restore (good : Generation E)
  | retry

/-- What comes after `g`, once its data plane is closed. -/
def turnAfter (g : Generation E) (earlier : List (Generation E)) : Turn E :=
  match g.result with
  | .ok () =>
      match g.pending with
      | some next => .reload next
      | none => .finish (.ok ())
  | .error error =>
      match if g.ready then none else lastReady earlier with
      | none => .finish (.error error)
      | some good => if restoresNext earlier then .retry else .restore good

/-- The turn has begun. -/
def Turn.Entered (s : Loop E Event) : Turn E → Prop
  | .finish result => s.phase = .returned result
  | .reload cfg => s.phase = .executing ∧ s.cfg = cfg
  | .restore good => s.phase = .executing ∧ s.cfg = good.config
      ∧ s.session.restoreTargets = some good.backup.targets
  | .retry => ∃ message, s.phase = .retrying message

/-- The turn has begun, and the user may have answered its screen. -/
def Turn.Begun (s : Loop E Event) (turn : Turn E) : Prop :=
  turn.Entered s
    ∨ turn = .retry ∧ (s.phase = .executing ∨ ∃ result, s.phase = .returned result)

/-- The generation's data plane is not closed yet. -/
def Phase.Closes (phase : Phase E) (result : Except E Unit) : Prop :=
  phase = .closing result
    ∨ ∃ error message, phase = .cleaning result error message

/-- The data planes of a history are closed. -/
def AllClosed (history : List (Generation E)) (closed : List Nat) : Prop :=
  ∀ g ∈ history, ∀ plane, g.plane = some plane → plane ∈ closed

/-- A start that failed before it was ready. -/
theorem failedStart_iff {g : Generation E} :
    g.failedStart = true ↔ (∃ error, g.result = .error error)
      ∧ g.ready = false := by
  unfold Generation.failedStart
  cases g.result with
  | ok u => simp
  | error e => simp

/-- A generation that was not ready is not gone back to. -/
theorem lastReady_cons_of_not_ready {g : Generation E}
    {earlier : List (Generation E)} (hready : g.ready = false) :
    lastReady (g :: earlier) = lastReady earlier := by
  simp [lastReady, hready]

/-- It restores once, and then tries again. -/
theorem restoresNext_cons {g : Generation E} {earlier : List (Generation E)} :
    restoresNext (g :: earlier) = true ↔ g.failedStart = true
      ∧ (lastReady earlier).isSome = true ∧ restoresNext earlier = false := by
  simp [restoresNext, and_assoc]

/-- A retry comes behind a restore that failed. -/
theorem turnAfter_retry {g : Generation E} {earlier : List (Generation E)}
    (h : turnAfter g earlier = .retry) :
    g.failedStart = true ∧ restoresNext earlier = true := by
  unfold turnAfter at h
  split at h
  case h_1 => split at h <;> simp at h
  case h_2 error hresult =>
    split at h
    case h_1 => simp at h
    case h_2 good hgood =>
      have hunready : g.ready = false := by
        cases hready : g.ready with
        | false => rfl
        | true => simp [hready] at hgood
      refine ⟨failedStart_iff.mpr ⟨⟨error, hresult⟩, hunready⟩, ?_⟩
      cases hrestored : restoresNext earlier with
      | true => rfl
      | false => simp [hrestored] at h

-- =========================================================== the invariant

/-- Where `execute` is about to be called. -/
structure Called (s : Loop E Event) : Prop where
  plane : s.session.plane = none
  closed : AllClosed s.history s.closed
  restoring : s.restoring = restoresNext s.history
  targets : s.session.restoreTargets = if s.restoring
    then (lastReady s.history).map (·.backup.targets) else none
  config : s.restoring = true →
    some s.cfg = (lastReady s.history).map (·.config)

/-- Where `execute` has returned. -/
structure Closing (s : Loop E Event) (g : Generation E)
    (earlier : List (Generation E)) : Prop where
  history : s.history = g :: earlier
  ready : s.session.ready = g.ready
  pending : s.session.pending = g.pending
  plane : s.session.plane = g.plane
  closed : AllClosed earlier s.closed
  restoring : s.restoring = restoresNext earlier

/-- Where the retry screen is shown. -/
structure Retrying (s : Loop E Event) (g : Generation E)
    (earlier : List (Generation E)) : Prop where
  history : s.history = g :: earlier
  turn : turnAfter g earlier = .retry
  plane : s.session.plane = none
  closed : AllClosed s.history s.closed

/-- What holds of the loop and its history. -/
structure Loop.Inv (s : Loop E Event) : Prop where
  lastGood : s.lastGood = (lastReady s.history).map (·.backup)
  executing : s.phase = .executing → Called s
  closing : ∀ result, s.phase.Closes result →
    ∃ g earlier, g.result = result ∧ Closing s g earlier
  retrying : ∀ message, s.phase = .retrying message →
    ∃ g earlier, Retrying s g earlier
  followed : s.abandoned = false → ∀ g earlier, s.history = g :: earlier →
    s.phase.Closes g.result ∨ (turnAfter g earlier).Begun s
  abandoned : s.abandoned = true → ∃ error, s.phase = .returned (.error error)

/-- Before the first generation. -/
theorem inv_init (cfg : ServiceConfig) :
    (Loop.init cfg : Loop E Event).Inv where
  lastGood := rfl
  executing := by
    intro _
    exact {
      plane := rfl
      closed := by simp [AllClosed, Loop.init]
      restoring := rfl
      targets := rfl
      config := by simp [Loop.init] }
  closing := by simp [Loop.init, Phase.Closes]
  retrying := by simp [Loop.init]
  followed := by simp [Loop.init]
  abandoned := by simp [Loop.init]

/-- Where the data plane of the last generation is closed. -/
structure Closed (s : Loop E Event) (g : Generation E)
    (earlier : List (Generation E)) : Prop where
  history : s.history = g :: earlier
  ready : s.session.ready = g.ready
  pending : s.session.pending = g.pending
  plane : s.session.plane = none
  closed : AllClosed s.history s.closed
  restoring : s.restoring = restoresNext earlier
  lastGood : s.lastGood = (lastReady s.history).map (·.backup)
  abandoned : s.abandoned = false

/-- A turn that calls `execute` again. -/
theorem inv_next {s : Loop E Event} {cfg : ServiceConfig}
    {restoreTargets : Option (List Target)} {notice : String}
    {restoring : Bool} {g : Generation E} {earlier : List (Generation E)}
    (hlast : s.lastGood = (lastReady s.history).map (·.backup))
    (habandoned : s.abandoned = false) (hhistory : s.history = g :: earlier)
    (hcalled : Called (s.next cfg restoreTargets notice restoring))
    (hturn : (turnAfter g earlier).Begun
      (s.next cfg restoreTargets notice restoring)) :
    (s.next cfg restoreTargets notice restoring).Inv where
  lastGood := hlast
  executing := fun _ => hcalled
  closing := by simp [Loop.next, Phase.Closes]
  retrying := by simp [Loop.next]
  followed := by
    intro _ g' earlier' hhistory'
    have hsame : g :: earlier = g' :: earlier' := hhistory.symm.trans hhistory'
    cases hsame
    exact .inr hturn
  abandoned := by simp [Loop.next, habandoned]

/-- A turn that does not restore. -/
theorem called_reloaded {s : Loop E Event} {cfg : ServiceConfig}
    (hplane : s.session.plane = none) (hclosed : AllClosed s.history s.closed)
    (hnext : restoresNext s.history = false) : Called (s.reloaded cfg) where
  plane := hplane
  closed := hclosed
  restoring := hnext.symm
  targets := rfl
  config := by simp [Loop.reloaded, Loop.next]

/-- A turn that restores. -/
theorem called_restored {s : Loop E Event} {good : Generation E}
    {notice : String} (hplane : s.session.plane = none)
    (hclosed : AllClosed s.history s.closed)
    (hnext : restoresNext s.history = true)
    (hgood : lastReady s.history = some good) :
    Called (s.next good.backup.config (some good.backup.targets) notice
      true) where
  plane := hplane
  closed := hclosed
  restoring := hnext.symm
  targets := by
    show some good.backup.targets = (lastReady s.history).map _
    rw [hgood]
    rfl
  config := by
    intro _
    show some good.backup.config = (lastReady s.history).map _
    rw [hgood]
    rfl

/-- The loop returns. -/
theorem inv_returned {s : Loop E Event} {result : Except E Unit}
    (hlast : s.lastGood = (lastReady s.history).map (·.backup))
    (habandoned : s.abandoned = false)
    (hturn : ∀ g earlier, s.history = g :: earlier →
      (turnAfter g earlier).Begun { s with phase := .returned result }) :
    ({ s with phase := .returned result } : Loop E Event).Inv where
  lastGood := hlast
  executing := by simp
  closing := by simp [Phase.Closes]
  retrying := by simp
  followed := fun _ g earlier hhistory => .inr (hturn g earlier hhistory)
  abandoned := by simp [habandoned]

/-- The retry screen comes. -/
theorem inv_retrying {s : Loop E Event} {message : String}
    {g : Generation E} {earlier : List (Generation E)}
    (hlast : s.lastGood = (lastReady s.history).map (·.backup))
    (habandoned : s.abandoned = false)
    (hretrying : Retrying s g earlier) :
    ({ s with phase := .retrying message } : Loop E Event).Inv where
  lastGood := hlast
  executing := by simp
  closing := by simp [Phase.Closes]
  retrying := by
    intro _ _
    exact ⟨g, earlier, hretrying.history, hretrying.turn, hretrying.plane,
      hretrying.closed⟩
  followed := by
    intro _ g' earlier' hhistory
    have hsame : g :: earlier = g' :: earlier' :=
      hretrying.history.symm.trans hhistory
    cases hsame
    rw [hretrying.turn]
    exact .inr (.inl ⟨message, rfl⟩)
  abandoned := by simp [habandoned]

/-- The turn is to return. -/
theorem inv_finish {s : Loop E Event} {g : Generation E}
    {earlier : List (Generation E)} (h : Closed s g earlier)
    {result : Except E Unit} (hturn : turnAfter g earlier = .finish result) :
    ({ s with phase := .returned result } : Loop E Event).Inv
      ∧ (turnAfter g earlier).Entered { s with phase := .returned result } := by
  have hentered : (turnAfter g earlier).Entered
      ({ s with phase := .returned result } : Loop E Event) := by
    rw [hturn]
    rfl
  refine ⟨inv_returned h.lastGood h.abandoned ?_, hentered⟩
  intro g' earlier' hhistory
  have hsame : g :: earlier = g' :: earlier' := h.history.symm.trans hhistory
  cases hsame
  exact .inl hentered

-- =============================================================== the steps

/-- A generation that is closing has not returned. -/
theorem Phase.Closes.not_returned {phase : Phase E} {result : Except E Unit}
    (h : phase.Closes result) : ∀ result', phase ≠ .returned result' := by
  intro result'
  rcases h with rfl | ⟨error, message, rfl⟩
  · simp
  · simp

/-- Nothing is abandoned before the end. -/
theorem Loop.Inv.not_abandoned {s : Loop E Event} (h : s.Inv)
    (hphase : ∀ result, s.phase ≠ .returned result) :
    s.abandoned = false := by
  cases habandoned : s.abandoned with
  | false => rfl
  | true =>
      obtain ⟨error, hreturned⟩ := h.abandoned habandoned
      exact absurd hreturned (hphase _)

/-- A generation has ended. -/
theorem inv_executed {s : Loop E Event} (h : s.Inv)
    (hphase : s.phase = .executing) (result : Except E Unit)
    (session : Session Event) : (s.executed result session).Inv := by
  have hcalled := h.executing hphase
  have habandoned := h.not_abandoned (by simp [hphase])
  constructor
  case lastGood =>
    have hlast := h.lastGood
    by_cases hready : session.ready = true
    · simp [Loop.executed, lastReady, hready, Generation.backup]
    · have hunready : session.ready = false := by simpa using hready
      simp [Loop.executed, lastReady, hunready, hlast]
  case executing => simp [Loop.executed]
  case closing =>
    intro result' hcloses
    have hsame : result = result' := by
      simpa [Loop.executed, Phase.Closes] using hcloses
    subst hsame
    exact ⟨_, s.history, rfl, rfl, rfl, rfl, rfl, hcalled.closed,
      hcalled.restoring⟩
  case retrying => simp [Loop.executed]
  case followed =>
    intro _ g earlier hhistory
    cases hhistory
    exact .inl (.inl rfl)
  case abandoned => simp [Loop.executed, habandoned]

/-- A closing that was confirmed. -/
theorem closed_of_closing {s : Loop E Event} {g : Generation E}
    {earlier : List (Generation E)} (hinv : s.Inv) (h : Closing s g earlier)
    (habandoned : s.abandoned = false) {session : Session Event}
    (hready : session.ready = s.session.ready)
    (hpending : session.pending = s.session.pending)
    (hplane : session.plane = none) :
    Closed { s with
      session := session
      closed := s.session.plane.toList ++ s.closed } g earlier where
  history := h.history
  ready := hready.trans h.ready
  pending := hpending.trans h.pending
  plane := hplane
  closed := by
    intro g' hg' plane hgiven
    have hmem : g' ∈ g :: earlier := h.history ▸ hg'
    apply List.mem_append.mpr
    rcases List.mem_cons.mp hmem with rfl | hearlier
    · left
      rw [h.plane, hgiven]
      exact List.mem_singleton.mpr rfl
    · right
      exact h.closed g' hearlier plane hgiven
  restoring := h.restoring
  lastGood := hinv.lastGood
  abandoned := habandoned

/-- The closing was confirmed, or the same session is on the cleanup
screen. -/
theorem closeGeneration_cases (session : Session Event)
    (outcome : Except E Unit) :
    (∃ session', session.closeGeneration outcome = (.ok (), session')
        ∧ session'.ready = session.ready ∧ session'.pending = session.pending
        ∧ session'.plane = none)
      ∨ ∃ error, outcome = .error error
        ∧ session.closeGeneration outcome
          = (.error error, { session with monitor := none }) := by
  unfold Session.closeGeneration
  cases hplane : session.plane with
  | none => exact .inl ⟨_, rfl, rfl, rfl, rfl⟩
  | some plane =>
      cases outcome with
      | ok u => exact .inl ⟨_, rfl, rfl, rfl, rfl⟩
      | error error => exact .inr ⟨error, rfl, rfl⟩

/-- A phase in which the data plane is not closed, with the same
variables. -/
theorem Loop.Inv.stays {s t : Loop E Event} (h : s.Inv)
    {result : Except E Unit} (hcloses : s.phase.Closes result)
    (habandoned : s.abandoned = false) (hphase : t.phase.Closes result)
    (hsame : t = { s with
      session := { s.session with monitor := t.session.monitor }
      phase := t.phase }) : t.Inv := by
  obtain ⟨g, earlier, hresult, hclosing⟩ := h.closing result hcloses
  have hnot : ∀ {phase : Phase E}, phase.Closes result →
      phase ≠ .executing ∧ (∀ m, phase ≠ .retrying m)
        ∧ ∀ result', phase.Closes result' → result' = result := by
    intro phase hphase
    rcases hphase with rfl | ⟨error, message, rfl⟩
    · simp [Phase.Closes, eq_comm]
    · simp [Phase.Closes, eq_comm]
  obtain ⟨hexecuting, hretrying, honly⟩ := hnot hphase
  have hhistory : t.history = s.history := by rw [hsame]
  have habandoned' : t.abandoned = false := by rw [hsame]; exact habandoned
  constructor
  case lastGood =>
    rw [hsame]
    exact h.lastGood
  case executing => exact fun hgiven => absurd hgiven hexecuting
  case closing =>
    intro result' hgiven
    cases honly result' hgiven
    refine ⟨g, earlier, hresult, ?_⟩
    rw [hsame]
    exact ⟨hclosing.history, hclosing.ready, hclosing.pending, hclosing.plane,
      hclosing.closed, hclosing.restoring⟩
  case retrying => exact fun m hgiven => absurd hgiven (hretrying m)
  case followed =>
    intro _ g' earlier' hgiven
    have hhistory' : g :: earlier = g' :: earlier' :=
      (hhistory.trans hclosing.history).symm.trans hgiven
    cases hhistory'
    exact .inl (hresult ▸ hphase)
  case abandoned => simp [habandoned']

/-- Its error was shown. -/
theorem inv_answered {s : Loop E Event} (h : s.Inv) {result : Except E Unit}
    {error : E} {message : String}
    (hphase : s.phase = .cleaning result error message)
    (shown : Except E Bool) : (s.answered result error shown).Inv := by
  have hcloses : s.phase.Closes result := .inr ⟨error, message, hphase⟩
  have hleft : ∀ e : E, ({ s with
      phase := .returned (.error e), abandoned := true } :
        Loop E Event).Inv := by
    intro e
    exact {
      lastGood := h.lastGood
      executing := by simp
      closing := by simp [Phase.Closes]
      retrying := by simp
      followed := by simp
      abandoned := fun _ => ⟨e, rfl⟩ }
  unfold Loop.answered
  split
  case h_1 terminal => exact hleft terminal
  case h_2 => exact hleft error
  case h_3 =>
    exact h.stays hcloses (h.not_abandoned hcloses.not_returned) (.inl rfl) rfl

variable [ToString E]

/-- There is nothing to go back to. -/
theorem settle_final {s : Loop E Event} {error : E}
    (h : s.session.ready = true ∨ s.lastGood = none) :
    s.settle (.error error) = { s with phase := .returned (.error error) } := by
  unfold Loop.settle
  dsimp only
  split
  case h_1 => rfl
  case h_2 previous hsome =>
      have hready : s.session.ready = true := by
        apply h.resolve_right
        simp [hsome]
      rw [if_pos hready]

/-- There is. -/
theorem settle_restore {s : Loop E Event} {error : E} {previous : Backup}
    (hready : s.session.ready = false) (hlast : s.lastGood = some previous)
    (hrestoring : s.restoring = false) :
    ∃ notice, s.settle (.error error)
      = s.next previous.config (some previous.targets) notice true := by
  unfold Loop.settle
  dsimp only
  split
  case h_1 hnone => simp [hlast] at hnone
  case h_2 previous' hsome =>
      cases hlast.symm.trans hsome
      rw [if_neg (by simp [hready]), if_pos (by simp [hrestoring])]
      exact ⟨_, rfl⟩

/-- It has failed as well. -/
theorem settle_retry {s : Loop E Event} {error : E} {previous : Backup}
    (hready : s.session.ready = false) (hlast : s.lastGood = some previous)
    (hrestoring : s.restoring = true) :
    ∃ message, s.settle (.error error)
      = { s with phase := .retrying message } := by
  unfold Loop.settle
  dsimp only
  split
  case h_1 hnone => simp [hlast] at hnone
  case h_2 previous' hsome =>
      rw [if_neg (by simp [hready]), if_neg (by simp [hrestoring])]
      exact ⟨_, rfl⟩

/-- A generation that ended well. -/
theorem settle_ok_spec {s : Loop E Event} {g : Generation E}
    {earlier : List (Generation E)} (h : Closed s g earlier)
    (hresult : g.result = .ok ()) :
    (s.settle (.ok ())).Inv
      ∧ (turnAfter g earlier).Entered (s.settle (.ok ())) := by
  have hnext : restoresNext s.history = false := by
    rw [h.history]
    simp [restoresNext, Generation.failedStart, hresult]
  unfold Loop.settle
  dsimp only
  split
  case h_1 next hpending =>
    have hturn : turnAfter g earlier = .reload next := by
      simp [turnAfter, hresult, ← h.pending, hpending]
    have hentered : (turnAfter g earlier).Entered (s.reloaded next) := by
      rw [hturn]
      exact ⟨rfl, rfl⟩
    exact ⟨inv_next h.lastGood h.abandoned h.history
      (called_reloaded h.plane h.closed hnext) (.inl hentered), hentered⟩
  case h_2 hpending =>
    apply inv_finish h
    simp [turnAfter, hresult, ← h.pending, hpending]

/-- One that did not. -/
theorem settle_error_spec {s : Loop E Event} {g : Generation E}
    {earlier : List (Generation E)} (h : Closed s g earlier) {error : E}
    (hresult : g.result = .error error) :
    (s.settle (.error error)).Inv
      ∧ (turnAfter g earlier).Entered (s.settle (.error error)) := by
  -- `last_good` is this generation if it was ready, and else as before
  have hlast := h.lastGood
  rw [h.history] at hlast
  by_cases hready : g.ready = true
  · rw [settle_final (.inl (h.ready.trans hready))]
    apply inv_finish h
    simp [turnAfter, hresult, hready]
  · have hunready : g.ready = false := by simpa using hready
    have hready' := h.ready.trans hunready
    rw [lastReady_cons_of_not_ready hunready] at hlast
    cases hgood : lastReady earlier with
    | none =>
        rw [hgood] at hlast
        rw [settle_final (.inr hlast)]
        apply inv_finish h
        simp [turnAfter, hresult, hunready, hgood]
    | some good =>
        rw [hgood] at hlast
        by_cases hrestored : restoresNext earlier = true
        · have hturn : turnAfter g earlier = .retry := by
            simp [turnAfter, hresult, hunready, hgood, hrestored]
          obtain ⟨message, hsettle⟩ := @settle_retry _ _ _ s error _ hready'
            hlast (h.restoring.trans hrestored)
          rw [hsettle]
          refine ⟨inv_retrying h.lastGood h.abandoned
            ⟨h.history, hturn, h.plane, h.closed⟩, ?_⟩
          rw [hturn]
          exact ⟨message, rfl⟩
        · have hfirst : restoresNext earlier = false := by simpa using hrestored
          have hturn : turnAfter g earlier = .restore good := by
            simp [turnAfter, hresult, hunready, hgood, hfirst]
          obtain ⟨notice, hsettle⟩ := @settle_restore _ _ _ s error _ hready'
            hlast (h.restoring.trans hfirst)
          have hnext : restoresNext s.history = true := by
            rw [h.history]
            apply restoresNext_cons.mpr
            exact ⟨failedStart_iff.mpr ⟨⟨error, hresult⟩, hunready⟩,
              by simp [hgood], hfirst⟩
          have hlastReady : lastReady s.history = some good := by
            rw [h.history, lastReady_cons_of_not_ready hunready, hgood]
          have hentered : (turnAfter g earlier).Entered
              (s.next good.backup.config (some good.backup.targets) notice
                true) := by
            rw [hturn]
            exact ⟨rfl, rfl, rfl⟩
          rw [hsettle]
          exact ⟨inv_next h.lastGood h.abandoned h.history
            (called_restored h.plane h.closed hnext hlastReady)
            (.inl hentered), hentered⟩

/-- The end of a turn begins the turn after its generation. -/
theorem settle_spec {s : Loop E Event} {g : Generation E}
    {earlier : List (Generation E)} (h : Closed s g earlier) :
    (s.settle g.result).Inv
      ∧ (turnAfter g earlier).Entered (s.settle g.result) := by
  cases hresult : g.result with
  | ok u => exact settle_ok_spec h hresult
  | error error => exact settle_error_spec h hresult

/-- A closing is confirmed and the next turn begins, or the cleanup screen
comes. -/
theorem close_spec {s : Loop E Event} (h : s.Inv) {g : Generation E}
    {earlier : List (Generation E)} (hphase : s.phase = .closing g.result)
    (hhistory : s.history = g :: earlier) (outcome : Except E Unit) :
    (s.close g.result outcome).Inv
      ∧ ((turnAfter g earlier).Entered (s.close g.result outcome)
        ∨ ∃ error, outcome = .error error
          ∧ ∃ message, (s.close g.result outcome).phase
            = .cleaning g.result error message) := by
  have hcloses : s.phase.Closes g.result := .inl hphase
  have habandoned := h.not_abandoned hcloses.not_returned
  obtain ⟨g', earlier', -, hclosing⟩ := h.closing _ hcloses
  have hsame : g :: earlier = g' :: earlier' :=
    hhistory.symm.trans hclosing.history
  cases hsame
  unfold Loop.close
  rcases closeGeneration_cases s.session outcome with
    ⟨session, hclose, hready, hpending, hplane⟩ | ⟨error, rfl, hclose⟩
  · rw [hclose]
    have hspec := settle_spec
      (closed_of_closing h hclosing habandoned hready hpending hplane)
    exact ⟨hspec.1, .inl hspec.2⟩
  · rw [hclose]
    exact ⟨h.stays hcloses habandoned (.inr ⟨_, _, rfl⟩) rfl,
      .inr ⟨error, rfl, _, rfl⟩⟩

/-- The retry screen leads to a call that does not restore, to the next
screen, or out of the loop. -/
theorem inv_retried {s : Loop E Event} (h : s.Inv) {message : String}
    (hphase : s.phase = .retrying message) (shown : Except E Bool)
    (source : Source E) : (s.retried source shown).Inv := by
  have habandoned := h.not_abandoned (by simp [hphase])
  obtain ⟨g, earlier, hretrying⟩ := h.retrying message hphase
  have hreturned : ∀ result : Except E Unit,
      ({ s with phase := .returned result } : Loop E Event).Inv := by
    intro result
    apply inv_returned h.lastGood habandoned
    intro g' earlier' hhistory
    have hsame : g :: earlier = g' :: earlier' :=
      hretrying.history.symm.trans hhistory
    cases hsame
    exact .inr ⟨hretrying.turn, .inr ⟨result, rfl⟩⟩
  -- the generation before the screen was a restore attempt
  have hnext : restoresNext s.history = false := by
    rw [hretrying.history]
    simp [restoresNext, (turnAfter_retry hretrying.turn).2]
  unfold Loop.retried
  split
  case h_1 terminal => exact hreturned _
  case h_2 => exact hreturned _
  case h_3 =>
    split
    case h_1 next hcandidate =>
      exact inv_next h.lastGood habandoned hretrying.history
        (called_reloaded hretrying.plane hretrying.closed hnext)
        (.inr ⟨hretrying.turn, .inl rfl⟩)
    case h_2 => exact hreturned _
    case h_3 error hcandidate =>
      exact inv_retrying h.lastGood habandoned hretrying

/-- Every step keeps the invariant. -/
theorem inv_step {s : Loop E Event} {label : Label E Event} (h : s.Inv) :
    (s.step label).Inv := by
  unfold Loop.step
  split
  case h_1 result session hphase => exact inv_executed h hphase result session
  case h_2 result outcome hphase =>
    obtain ⟨g, earlier, rfl, hclosing⟩ := h.closing _ (.inl hphase)
    exact (close_spec h hphase hclosing.history outcome).1
  case h_3 result error message shown hphase =>
    exact inv_answered h hphase shown
  case h_4 message shown source hphase =>
    exact inv_retried h hphase shown source
  case h_5 => exact h

/-- So does every run. -/
theorem inv_run (cfg : ServiceConfig) (labels : List (Label E Event)) :
    (run cfg labels).Inv :=
  foldl_invariant inv_step (inv_init cfg)

-- =========================================================== the main result

/-- Generations follow each other as `turnAfter` says. -/
structure Loop.Orderly (s : Loop E Event) : Prop where
  /-- `execute` is called without a data plane, and the ones before are
  confirmed closed. -/
  plane : s.phase = .executing →
    s.session.plane = none ∧ AllClosed s.history s.closed
  /-- It is called with targets exactly to restore. -/
  attempt : s.phase = .executing →
    (s.session.restoreTargets.isSome = true ↔ restoresNext s.history = true)
  /-- Then it is what was ready last. -/
  restored : s.phase = .executing → restoresNext s.history = true →
    ∃ good, lastReady s.history = some good ∧ s.cfg = good.config
      ∧ s.session.restoreTargets = some good.backup.targets
  /-- The retry screen is shown after an attempt to restore that failed. -/
  retrying : ∀ message, s.phase = .retrying message →
    ∃ g earlier, s.history = g :: earlier ∧ g.failedStart = true
      ∧ restoresNext earlier = true
  /-- A generation is followed by its turn, and by nothing before that. -/
  followed : s.abandoned = false → ∀ g earlier, s.history = g :: earlier →
    s.phase.Closes g.result ∨ (turnAfter g earlier).Begun s
  /-- A confirmed closing begins the turn. -/
  confirmed : ∀ g earlier, s.history = g :: earlier →
    s.phase = .closing g.result →
    (turnAfter g earlier).Entered (s.step (.close (.ok ())))
  /-- Nothing follows a cleanup that was given up. -/
  abandoned : s.abandoned = true →
    ∃ error, s.phase = .returned (.error error)
  /-- Only the cleanup screen gives one up. -/
  left : ∀ label, (s.step label).abandoned = true → s.abandoned = true
    ∨ ∃ result error message shown, s.phase = .cleaning result error message
      ∧ label = .answered shown ∧ shown ≠ .ok true

/-- Settling abandons nothing; nor do the two below. -/
@[simp]
theorem abandoned_settle (s : Loop E Event) (result : Except E Unit) :
    (s.settle result).abandoned = s.abandoned := by
  unfold Loop.settle Loop.reloaded Loop.next
  split
  · split <;> rfl
  · split
    · rfl
    · split
      · rfl
      · split <;> rfl

@[simp]
theorem abandoned_close (s : Loop E Event) (result outcome : Except E Unit) :
    (s.close result outcome).abandoned = s.abandoned := by
  unfold Loop.close
  split
  · simp
  · rfl

@[simp]
theorem abandoned_retried (s : Loop E Event) (source : Source E)
    (shown : Except E Bool) :
    (s.retried source shown).abandoned = s.abandoned := by
  unfold Loop.retried Loop.reloaded Loop.next
  split
  · rfl
  · rfl
  · split <;> rfl

/-- Every run of the loop, whatever its generations do, however their data
planes close and whatever the user answers. -/
theorem run_orderly (cfg : ServiceConfig) (labels : List (Label E Event)) :
    (run cfg labels).Orderly := by
  have h := inv_run cfg labels
  generalize run cfg labels = s at h
  constructor
  case plane =>
    intro hphase
    exact ⟨(h.executing hphase).plane, (h.executing hphase).closed⟩
  case attempt =>
    intro hphase
    have hcalled := h.executing hphase
    rw [hcalled.targets, hcalled.restoring]
    cases hnext : restoresNext s.history with
    | false => simp
    | true =>
        cases hhistory : s.history with
        | nil => simp [hhistory, restoresNext] at hnext
        | cons g earlier =>
            rw [hhistory] at hnext
            obtain ⟨hfailed, hsome, -⟩ := restoresNext_cons.mp hnext
            rw [lastReady_cons_of_not_ready (failedStart_iff.mp hfailed).2]
            simpa using hsome
  case restored =>
    intro hphase hnext
    have hcalled := h.executing hphase
    have hrestoring := hcalled.restoring.trans hnext
    have hconfig := hcalled.config hrestoring
    have htargets := hcalled.targets
    rw [if_pos hrestoring] at htargets
    cases hgood : lastReady s.history with
    | none => simp [hgood] at hconfig
    | some good =>
        rw [hgood] at hconfig htargets
        exact ⟨good, rfl, by simpa using hconfig, htargets⟩
  case retrying =>
    intro message hphase
    obtain ⟨g, earlier, hretrying⟩ := h.retrying message hphase
    exact ⟨g, earlier, hretrying.history, turnAfter_retry hretrying.turn⟩
  case followed => exact h.followed
  case confirmed =>
    intro g earlier hhistory hphase
    have hstep : s.step (.close (.ok ())) = s.close g.result (.ok ()) := by
      simp [Loop.step, hphase]
    rw [hstep]
    rcases (close_spec h hphase hhistory (.ok ())).2 with
      hentered | ⟨error, herror, -⟩
    · exact hentered
    · simp at herror
  case abandoned => exact h.abandoned
  case left =>
    intro label hleft
    unfold Loop.step at hleft
    split at hleft
    case h_1 => exact .inl hleft
    case h_2 => exact .inl (by simpa using hleft)
    case h_3 result error message shown hphase =>
      right
      refine ⟨result, error, message, shown, hphase, rfl, ?_⟩
      rintro rfl
      have hnot := h.not_abandoned (by simp [hphase])
      simp [Loop.answered, hnot] at hleft
    case h_4 => exact .inl (by simpa using hleft)
    case h_5 => exact .inl hleft

-- --------------------------------------------- a TTL that was discovered

/-- A target of the first generation. -/
def sampleTarget : Target := Target.ofSni "example.com" 0x01020304 90

/-- And its pool. -/
def samplePool : TargetPool where
  strategy := .roundRobin
  state := {
    members := [.scanned sampleTarget 0 0]
    history := [.scanned sampleTarget 0 0]
    historyIndices := [(sampleTarget.key, 0)]
    cursor := 0
    generation := 1
    random := 0 }
  counters := { loads := [0], traffics := [⟨0, 0⟩] }

/-- A generation that was ready and is reloaded; its discovery found 5. -/
def sampleReady : Session Unit := { Session.new with
  pool := some samplePool
  pending := some ⟨{}, false⟩
  ready := true
  discoveredTtl := some 5 }

/-- The targets to restore are not those of the pool; a failed attempt to
restore is followed by the retry screen; and an error after the listener was
ready is not what the loop returns if the user gives up the cleanup. -/
theorem restored_targets_and_given_up_cleanup :
    ((run ⟨{}, false⟩ [.executed (.ok ()) sampleReady, .close (.ok ()),
        .executed (.error "bind") Session.new, .close (.ok ())] :
          Loop String Unit).session.restoreTargets
      = some [{ sampleTarget with lowTtl := some 5 }]
      ∧ sampleReady.targets = [sampleTarget]
      ∧ { sampleTarget with lowTtl := some 5 } ≠ sampleTarget)
    ∧ (run ⟨{}, false⟩ [.executed (.ok ()) sampleReady, .close (.ok ()),
        .executed (.error "bind") Session.new, .close (.ok ()),
        .executed (.error "bind") Session.new, .close (.ok ())] :
          Loop String Unit).phase
      = .retrying ("Service stopped. Restoring the previous configuration "
        ++ "also failed: " ++ "bind")
    ∧ (run ⟨{}, false⟩ [.executed (.error "proxy")
          { sampleReady with plane := some 0 },
        .close (.error "rules"), .answered (.ok false)] :
          Loop String Unit).phase = .returned (.error "rules") := by
  refine ⟨⟨rfl, rfl, by decide⟩, rfl, rfl⟩

end ZeroDpi.Reload
