/-
The local data plane: `DataPlaneController` over a `LocalPlane`
(zerodpi/src/data_plane.rs).

Every call holds the controller's lock from beginning to end, so there is
one call at a time; it waits in one place, for the report of an
interceptor thread that was asked to stop. Everything else a call does is
one step. Interceptor threads are numbered in the order they are spawned,
and the handles the plane keeps (`shutdown`, `done_rx`, the receiver in
`stop_report`) are the numbers of their threads.

A thread ends once, by itself or because it was asked to: with the result
of `run_until`, or without a word. `asked` records whether the request
had been made by then, and `entered` the threads as they were each time
`LocalPlane::open` was entered; no step reads either.

The flow table that `rebuild` resets between stop and open, and the
configuration the filter is built from, are not part of the protocol.
-/
import ZeroDpi.Runtime.Coordinator

namespace ZeroDpi.Runtime

/-- What an interceptor thread leaves on its done channel. -/
inductive Report where
  | ok
  | failed (error : String)
  /-- The sender is dropped without a message. -/
  | gone
  deriving DecidableEq

/-- An interceptor thread. -/
structure Interceptor where
  /-- `shutdown.request()` was called. -/
  requested : Bool := false
  report : Option Report := none
  /-- The request had been made when the thread reported. -/
  asked : Bool := false
  deriving DecidableEq

/-- `stop_report`: the receiver behind `spawn_interceptor_report`. One
message comes through it; after that the channel is closed. -/
structure StopReport where
  interceptor : Nat
  taken : Bool
  deriving DecidableEq

/-- The plane's own fields. -/
structure LocalPlane where
  shutdown : Option Nat
  doneRx : Option Nat
  stopReport : Option StopReport
  armed : Bool
  deriving DecidableEq

/-- The calls on the controller. -/
inductive PlaneCall where
  | rebuild (binding : InterfaceBinding)
  | stop
  | closeForReload
  deriving DecidableEq

/-- How `LocalPlane::open` ends. An interceptor whose thread cannot be
spawned is dropped with the closure it was moved into. -/
inductive Opening where
  | openFailed (error : String)
  | spawnFailed (error : String)
  | opened
  deriving DecidableEq

/-- The plane, its interceptors and the call that waits. -/
structure PlaneState where
  plane : LocalPlane
  interceptors : List Interceptor
  /-- The call that waits for the report. -/
  waiting : Option PlaneCall
  /-- What the last call returned. -/
  returned : Option (Except String Unit)
  entered : List (List Interceptor)

namespace PlaneState

/-- The plane `DataPlaneController::local` opens. -/
def unopened : PlaneState where
  plane := { shutdown := none, doneRx := none, stopReport := none,
             armed := false }
  interceptors := []
  waiting := none
  returned := none
  entered := []

/-- The call returns. -/
def finish (s : PlaneState) (result : Except String Unit) : PlaneState :=
  { s with waiting := none, returned := some result }

/-- `LocalPlane::open`. -/
def openPlane (s : PlaneState) (opening : Opening) : PlaneState :=
  let s := { s with entered := s.interceptors :: s.entered }
  match opening with
  | .openFailed _ => s.finish (.error "open packet interceptor")
  | .spawnFailed _ => s.finish (.error "spawn intercept thread")
  | .opened =>
      { s with
        interceptors := s.interceptors ++ [({} : Interceptor)]
        plane := { s.plane with
          shutdown := some s.interceptors.length
          doneRx := some s.interceptors.length
          armed := true } }.finish (.ok ())

/-- The call after `stop_local` has returned `Ok`. -/
def stopped (s : PlaneState) (opening : Opening) : PlaneCall → PlaneState
  | .rebuild _ => s.openPlane opening
  | .stop | .closeForReload => s.finish (.ok ())

/-- The request reaches the thread. -/
def request (s : PlaneState) (n : Nat) : PlaneState :=
  { s with
    interceptors := s.interceptors.modify n fun i =>
      { i with requested := true } }

/-- The error of a stop that finds a handle missing. -/
def stopIncomplete : String :=
  "packet interceptor stop did not complete; refusing to reopen over live "
    ++ "firewall rules"

/-- A call up to the wait of `stop_local`, or to its end. -/
def begin (s : PlaneState) (opening : Opening) (call : PlaneCall) :
    PlaneState :=
  if !s.plane.armed then s.stopped opening call
  else match s.plane.stopReport with
  | some _ => { s with waiting := some call }
  | none =>
      match s.plane.shutdown with
      | none => s.finish (.error stopIncomplete)
      | some n =>
          let s := { s with plane := { s.plane with shutdown := none } }
          let s := s.request n
          match s.plane.doneRx with
          | none => s.finish (.error stopIncomplete)
          | some m =>
              { s with
                plane := { s.plane with
                  doneRx := none
                  stopReport := some { interceptor := m, taken := false } }
                waiting := some call }

/-- `stop_local` after an `Ok` report, and the rest of the call. -/
def confirmed (s : PlaneState) (opening : Opening) (call : PlaneCall) :
    PlaneState :=
  { s with
    plane := { s.plane with stopReport := none, armed := false }
  }.stopped opening call

/-- The wait of `stop_local` ends with what the receiver returns; there
is nothing to receive before the thread has reported. -/
def receive (s : PlaneState) (opening : Opening) : Option PlaneState := do
  let call ← s.waiting
  let stop ← s.plane.stopReport
  if stop.taken then
    return s.finish (.error
      "packet interceptor thread stopped before reporting a result")
  let i ← s.interceptors[stop.interceptor]?
  let report ← i.report
  let failed := { s with plane := { s.plane with
    stopReport := some { stop with taken := true } } }
  match report with
  | .ok => return s.confirmed opening call
  | .failed _ | .gone => return failed.finish (.error
      "packet interceptor stopped during shutdown")

/-- The wait runs into its timeout. -/
def timeOut (s : PlaneState) : Option PlaneState := do
  let _ ← s.waiting
  return s.finish (.error "packet interceptor did not stop within 5 seconds")

/-- A thread ends. -/
def report (s : PlaneState) (n : Nat) (report : Report) :
    Option PlaneState := do
  let i ← s.interceptors[n]?
  if i.report.isSome then none
  return { s with
    interceptors := s.interceptors.modify n fun i =>
      { i with report := some report, asked := i.requested } }

/-- What happens next. -/
inductive Act where
  /-- A call enters; `opening` is how an open it reaches would end. -/
  | call (call : PlaneCall) (opening : Opening)
  /-- The waiting call receives. -/
  | received (opening : Opening)
  | timedOut
  /-- Interceptor thread `n` ends. -/
  | report (n : Nat) (report : Report)
  deriving DecidableEq

/-- One of these. -/
def step (s : PlaneState) : Act → Option PlaneState
  | .call call opening =>
      if s.waiting.isNone then some (s.begin opening call) else none
  | .received opening => s.receive opening
  | .timedOut => s.timeOut
  | .report n r => s.report n r

/-- The state `DataPlaneController::local` returns with. -/
def opened : PlaneState := unopened.openPlane .opened

end PlaneState
end ZeroDpi.Runtime
