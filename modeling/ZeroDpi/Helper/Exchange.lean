/-
Concurrent requests of `RemoteHelperClient`: `request`,
`allocate_request_id`, `handle_frame` and `disconnect`
(zerodpi/src/helper_client.rs) taken apart.

`Helper.Client` runs a `request` up to its wait in one go. Here any
number of calls are under way at once and a step is one use of the shared
data: the `disconnected` flag, the identifier counter, the `pending` map,
the socket, a one-shot channel. `handle_frame` still holds the lock of
the map when it sends, and so does the drain of `disconnect`, so these
are one step each; `disconnect` sets its flag in a step before the drain.

Which thread takes a step is not kept: frames of any content may come in
at any time, and so may a disconnect and its drain. `wire` and `sends`
are history variables; no step reads them.
-/
import ZeroDpi.Helper.Client

namespace ZeroDpi.Helper

open Lib

namespace Exchange

/-- Where a call of `request` is. -/
inductive Point where
  /-- About to look at `disconnected`. -/
  | entered
  /-- About to allocate an identifier. -/
  | checked
  /-- About to put its sender into `pending`. -/
  | allocated (requestId : UInt32)
  /-- About to write. -/
  | inserted (requestId : UInt32)
  /-- The write failed; about to take the sender back. -/
  | unwritten (requestId : UInt32)
  | waiting (requestId : UInt32)
  /-- The timer fired; about to take the sender back. -/
  | expired (requestId : UInt32)
  /-- The caller dropped the future. -/
  | abandoned (requestId : UInt32)
  | returned (requestId : Option UInt32) (result : Except String Message)

/-- The identifier a call has allocated. -/
def Point.requestId? : Point → Option UInt32
  | .entered | .checked => none
  | .allocated requestId | .inserted requestId | .unwritten requestId
  | .waiting requestId | .expired requestId | .abandoned requestId =>
      some requestId
  | .returned requestId _ => requestId

/-- A call of `request` with its one-shot channel. -/
structure Call where
  message : Message
  point : Point
  channel : Option (Except String Message)

/-- `sender.send`: lost once the receiver is gone. -/
def Call.send (answer : Except String Message) (c : Call) : Call :=
  match c.point with
  | .inserted _ | .unwritten _ | .waiting _ =>
      { c with channel := some answer }
  | _ => c

end Exchange

/-- The shared data of a client, and the calls that work on it. -/
structure Exchange where
  nextRequestId : UInt32
  /-- The sender of a call, under the call's identifier. -/
  pending : Table UInt32 Nat
  disconnected : Bool
  /-- A `disconnect` between its flag and its drain. -/
  draining : Option String
  calls : List Exchange.Call
  /-- Every frame written in the session. -/
  wire : List Frame
  /-- Every frame whose message was sent to a call. -/
  sends : List (Nat × Frame)

namespace Exchange

/-- The client `connect` returns: the handshake was request 1. -/
def start (hello : Hello) : Exchange where
  nextRequestId := 2
  pending := []
  disconnected := false
  draining := none
  calls := []
  wire := [⟨1, .hello hello⟩]
  sends := []

/-- Call `i` goes on to a point of `request`. -/
def moveTo (s : Exchange) (i : Nat) (point : Point) : Exchange :=
  { s with calls := s.calls.modify i fun c => { c with point := point } }

/-- The next statement of call `i`; `io` says whether the socket takes a
write. -/
def advance (s : Exchange) (i : Nat) (io : Bool) : Option Exchange := do
  let c ← s.calls[i]?
  match c.point with
  | .entered =>
      if s.disconnected then
        return s.moveTo i
          (.returned none (.error "root helper is disconnected"))
      else return s.moveTo i .checked
  | .checked =>
      if s.nextRequestId = 0xFFFFFFFF then
        return s.moveTo i (.returned none
          (.error "helper request identifier space exhausted"))
      else return { s.moveTo i (.allocated s.nextRequestId) with
        nextRequestId := s.nextRequestId + 1 }
  | .allocated requestId =>
      if maxPendingRequests ≤ s.pending.length then
        return s.moveTo i (.returned (some requestId)
          (.error "too many outstanding root-helper requests"))
      else return { s.moveTo i (.inserted requestId) with
        pending := s.pending.insert requestId i }
  | .inserted requestId =>
      match RemoteHelperClient.write io requestId c.message with
      | [] => return s.moveTo i (.unwritten requestId)
      | frames => return { s.moveTo i (.waiting requestId) with
          wire := s.wire ++ frames }
  | .unwritten requestId =>
      return { s.moveTo i (.returned (some requestId)
          (.error "write root-helper request")) with
        pending := s.pending.remove requestId }
  | .waiting requestId =>
      match c.channel with
      | some answer =>
          return s.moveTo i (.returned (some requestId) answer)
      | none =>
          -- the wait goes on while somebody may still send
          if s.pending.get? requestId = some i then none
          else return s.moveTo i (.returned (some requestId)
            (.error "root helper response channel closed"))
  | .expired requestId =>
      return { s.moveTo i (.returned (some requestId)
          (.error "root helper request timed out")) with
        pending := s.pending.remove requestId }
  | .abandoned _ | .returned _ _ => none

/-- The first half of `disconnect`: the flag, once. -/
def disconnect (s : Exchange) (reason : String) : Exchange :=
  if s.disconnected then s
  else { s with disconnected := true, draining := some reason }

/-- The second half: every sender left in the map reports the reason. -/
def drain (s : Exchange) (reason : String) : Exchange :=
  { s with
    draining := none
    pending := []
    calls := s.calls.mapIdx fun i c =>
      if s.pending.any fun e => e.2 = i then
        c.send (.error s!"root helper disconnected: {reason}")
      else c }

/-- `handle_frame`, as far as requests are concerned. -/
def receive (s : Exchange) (frame : Frame) : Exchange :=
  match frame.message with
  | .flowProgress _ _ | .helperWarning _ _ => s
  | .helperFatal _ message => s.disconnect message
  | message =>
      match s.pending.get? frame.requestId with
      | none => s
      | some i => { s with
          pending := s.pending.remove frame.requestId
          calls := s.calls.modify i (Call.send (.ok message))
          sends := s.sends ++ [(i, frame)] }

/-- The steps of the parties. -/
inductive Act where
  /-- A task calls `request`. -/
  | call (message : Message)
  /-- A call takes its next statement. -/
  | advance (i : Nat) (io : Bool)
  /-- The timer of a wait fires; the channel was looked at first. -/
  | expire (i : Nat)
  /-- A task drops the future it waits on. -/
  | abandon (i : Nat)
  /-- The heartbeat pings. -/
  | ping (io : Bool)
  /-- `remove_flow` tells the helper. -/
  | removeFlow (flowId : UInt64) (io : Bool)
  /-- The reader handles a frame. -/
  | receive (frame : Frame)
  /-- The reader or the heartbeat finds the socket broken. -/
  | disconnect (reason : String)
  /-- The disconnecting thread empties the map. -/
  | drain

/-- A message that expects no answer. -/
def notify (s : Exchange) (io : Bool) (message : Message) : Exchange :=
  { s with wire := s.wire ++ RemoteHelperClient.write io 0 message }

/-- One step, unless it is not the party's turn. -/
def step (s : Exchange) : Act → Option Exchange
  | .call message =>
      some { s with calls := s.calls ++ [⟨message, .entered, none⟩] }
  | .advance i io => s.advance i io
  | .expire i => do
      match ← s.calls[i]? with
      | ⟨_, .waiting requestId, none⟩ =>
          return s.moveTo i (.expired requestId)
      | _ => none
  | .abandon i => do
      match ← s.calls[i]? with
      | ⟨_, .waiting requestId, _⟩ =>
          return s.moveTo i (.abandoned requestId)
      | _ => none
  | .ping io => some (s.notify io .ping)
  | .removeFlow flowId io => some (s.notify io (.removeFlow flowId))
  | .receive frame => some (s.receive frame)
  | .disconnect reason => some (s.disconnect reason)
  | .drain => s.draining.map s.drain

end Exchange

end ZeroDpi.Helper
