/-
Reloads of the configuration: `run_loop` and the session it shares with the
generations (zerodpi/src/reload.rs).

# The loop as a machine

A generation is one call of `execute`. When it has returned, its data plane
is closed, on the user's word as often as it takes; then the loop goes on
with the configuration the user asked for, with the last one that was
ready, or with the retry screen, or it returns. These are the `Phase`s.

`execute` may leave anything at all in the session and return anything.
What the closing of a data plane answers, what the user picks and whether
the terminal can show a screen, and what the configuration's file holds are
given as well. An `Arc` to a data plane or a monitor is its number, and
errors are of any type that can be shown.

`history`, `closed` and `abandoned` are history variables; no step reads
them.
-/
import ZeroDpi.Config.Validate
import ZeroDpi.TargetPool

namespace ZeroDpi.Reload

variable {E Event : Type}

-- ============================================================= the session

/-- A `Config`, with the field of it that only the loop reads here. -/
structure ServiceConfig where
  config : Config
  loadBalanceEnabled : Bool

/-- `Session`, without the terminal and the helper. -/
structure Session (Event : Type) where
  plane : Option Nat
  monitor : Option Nat
  pool : Option TargetPool
  pending : Option ServiceConfig
  restoreTargets : Option (List Target)
  notice : Option String
  initialEvents : List Event
  ready : Bool
  discoveredTtl : Option UInt8

/-- `Session::new`. -/
def Session.new : Session Event where
  plane := none
  monitor := none
  pool := none
  pending := none
  restoreTargets := none
  notice := none
  initialEvents := []
  ready := false
  discoveredTtl := none

/-- What a turn of the loop does before it calls `execute`. -/
def Session.cleared (s : Session Event) : Session Event :=
  { s with
    pending := none
    ready := false
    pool := none
    initialEvents := []
    discoveredTtl := none }

/-- `close_generation`, where `close_for_reload` answers `outcome`. -/
def Session.closeGeneration (s : Session Event) (outcome : Except E Unit) :
    Except E Unit × Session Event :=
  match s.plane with
  | none => (.ok (), { s with monitor := none })
  | some _ =>
      match outcome with
      -- a data plane that may still be there keeps its owner
      | .error error => (.error error, { s with monitor := none })
      | .ok () => (.ok (), { s with monitor := none, plane := none })

/-- The targets of a generation that was ready, as the loop keeps them. -/
def backupTargets (loadBalanceEnabled : Bool) (discoveredTtl : Option UInt8)
    (targets : List Target) : List Target :=
  if loadBalanceEnabled then targets
  else targets.modifyHead fun target =>
    { target with lowTtl := discoveredTtl <|> target.lowTtl }

/-- The last targets of the session's pool. -/
def Session.targets (s : Session Event) : List Target :=
  (s.pool.map fun pool => pool.probeSnapshot.2).getD []

/-- What `run` puts aside before a reload, to go back to when it fails. -/
structure Backup where
  config : ServiceConfig
  targets : List Target

/-- What a reload of the file meets. -/
structure Source (E : Type) where
  /-- `ConfigSource::load`. -/
  load : Except E ServiceConfig
  /-- `validate_reload`. -/
  validateReload : Except E Unit
  sameConfig : ServiceConfig → Except E Bool
  /-- The list of targets, where the mode reads one, can be opened. -/
  openList : Except E Unit

/-- `Session::candidate`. -/
def candidate (source : Source E) (active : Option ServiceConfig) :
    Except E (Option ServiceConfig) := do
  let next ← source.load
  source.validateReload
  let same ← match active with
    | some cfg => source.sameConfig cfg
    | none => .ok false
  if same then return none
  else
    source.openList
    return some next

-- ================================================================ the loop

/-- Where the loop of `run` stands. -/
inductive Phase (E : Type) where
  /-- About to call `execute`. -/
  | executing
  /-- `execute` has returned; its data plane is to be closed. -/
  | closing (result : Except E Unit)
  /-- The screen after a closing that was not confirmed. -/
  | cleaning (result : Except E Unit) (error : E) (message : String)
  /-- The screen of `retry_screen`. -/
  | retrying (message : String)
  | returned (result : Except E Unit)

/-- A generation: what it ran with, and what it left. -/
structure Generation (E : Type) where
  config : ServiceConfig
  result : Except E Unit
  ready : Bool
  pending : Option ServiceConfig
  plane : Option Nat
  targets : List Target
  discoveredTtl : Option UInt8

/-- The loop's variables, and its history, latest first. -/
structure Loop (E Event : Type) where
  session : Session Event
  cfg : ServiceConfig
  lastGood : Option Backup
  restoring : Bool
  phase : Phase E
  history : List (Generation E)
  /-- The data planes whose closing was confirmed. -/
  closed : List Nat
  /-- A cleanup screen was left, or could not be shown. -/
  abandoned : Bool

/-- The start of `run_loop`, as far as its first call of `execute`. -/
def Loop.init (cfg : ServiceConfig) : Loop E Event where
  session := Session.new.cleared
  cfg := cfg
  lastGood := none
  restoring := false
  phase := .executing
  history := []
  closed := []
  abandoned := false

/-- The next turn. -/
def Loop.next (s : Loop E Event) (cfg : ServiceConfig)
    (restoreTargets : Option (List Target)) (notice : String)
    (restoring : Bool) : Loop E Event :=
  { s with
    session := { s.session.cleared with
      restoreTargets := restoreTargets
      notice := some notice }
    cfg := cfg
    restoring := restoring
    phase := .executing }

/-- The loop after a reload that went through. -/
def Loop.reloaded (s : Loop E Event) (cfg : ServiceConfig) : Loop E Event :=
  s.next cfg none "Config reloaded successfully" false

/-- `execute` returns. -/
def Loop.executed (s : Loop E Event) (result : Except E Unit)
    (session : Session Event) : Loop E Event :=
  { s with
    session := session
    lastGood :=
      if session.ready then some {
        config := s.cfg
        targets := backupTargets s.cfg.loadBalanceEnabled
          session.discoveredTtl session.targets }
      else s.lastGood
    phase := .closing result
    history := {
      config := s.cfg
      result := result
      ready := session.ready
      pending := session.pending
      plane := session.plane
      targets := session.targets
      discoveredTtl := session.discoveredTtl } :: s.history }

variable [ToString E]

/-- The `match` at the end of a turn. -/
def Loop.settle (s : Loop E Event) : Except E Unit → Loop E Event
  | .ok () =>
      match s.session.pending with
      | some next => s.reloaded next
      | none => { s with phase := .returned (.ok ()) }
  | .error error =>
      match s.lastGood with
      | none => { s with phase := .returned (.error error) }
      | some previous =>
          if s.session.ready then { s with phase := .returned (.error error) }
          else if !s.restoring then
            s.next previous.config (some previous.targets)
              ("Previous configuration restored. Config reload failed: "
                ++ toString error) true
          else { s with
            phase := .retrying
              ("Service stopped. Restoring the previous configuration "
                ++ "also failed: " ++ toString error) }

/-- A call of `close_generation`. -/
def Loop.close (s : Loop E Event) (result outcome : Except E Unit) :
    Loop E Event :=
  match s.session.closeGeneration outcome with
  | (.ok (), session) =>
      Loop.settle { s with
        session := session
        closed := s.session.plane.toList ++ s.closed } result
  | (.error error, session) => { s with
      session := session
      phase := .cleaning result error
        ("Service stopped; cleanup not confirmed: " ++ toString error
          ++ ". L retries cleanup before starting any service.") }

/-- The cleanup screen was `shown`, with the user's answer. -/
def Loop.answered (s : Loop E Event) (result : Except E Unit) (error : E) :
    Except E Bool → Loop E Event
  | .error terminal =>
      { s with phase := .returned (.error terminal), abandoned := true }
  | .ok false => { s with phase := .returned (.error error), abandoned := true }
  | .ok true => { s with phase := .closing result }

/-- A turn of `retry_screen`. -/
def Loop.retried (s : Loop E Event) (source : Source E) :
    Except E Bool → Loop E Event
  | .error terminal => { s with phase := .returned (.error terminal) }
  | .ok false => { s with phase := .returned (.ok ()) }
  | .ok true =>
      match candidate source none with
      | .ok (some next) => s.reloaded next
      | .ok none => { s with phase := .returned (.ok ()) }
      | .error error => { s with
          phase := .retrying
            ("Service stopped. Config reload failed: " ++ toString error) }

/-- What a step of the loop observes. -/
inductive Label (E Event : Type) where
  | executed (result : Except E Unit) (session : Session Event)
  | close (outcome : Except E Unit)
  | answered (shown : Except E Bool)
  | retried (shown : Except E Bool) (source : Source E)

/-- What happens, if the loop waits for it. -/
def Loop.step (s : Loop E Event) (label : Label E Event) : Loop E Event :=
  match s.phase, label with
  | .executing, .executed result session => s.executed result session
  | .closing result, .close outcome => s.close result outcome
  | .cleaning result error _, .answered shown => s.answered result error shown
  | .retrying _, .retried shown source => s.retried source shown
  | _, _ => s

/-- A run of `run_loop`. -/
def run (cfg : ServiceConfig) (labels : List (Label E Event)) :
    Loop E Event :=
  labels.foldl Loop.step (Loop.init cfg)

end ZeroDpi.Reload
