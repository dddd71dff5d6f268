/-
The proxy's event channel (zerodpi-core/src/proxy/events.rs) and the relays
that use it (proxy.rs, `counting_relay_with_client_fragmentation` and the
`RelayFinished` its callers emit).

# Who runs

Relays, other senders and the receiver run on threads of their own, and
every step here is one use of what they share: the registry under its lock,
a counter, or the queue. Labels choose who moves, so a list of labels is an
interleaving; a label that is not enabled (its thread is elsewhere, or waits
for the lock) does nothing.

# What is shared

An `Arc` of counters is the number of its relay in `relays`. A copy loop is
the only writer of its counter and its `total` is the counter's value. The
queue never refuses an event while the receiver lives.

# History

`sent` and `delivered` are read by no step. Nor is the number of the relay
in `relayFinished` and in a sample, which says whose counters these are:
ports are used again, so the events themselves do not tell.
-/
import Mathlib.Algebra.Ring.Nat
import ZeroDpi.Lib.Run
import ZeroDpi.Lib.Table

namespace ZeroDpi.RelayEvents

open Lib

variable {ε : Type}

-- =============================================================== the relays

/-- From the client, or from the server. -/
inductive Direction where
  | c2s
  | s2c
  deriving DecidableEq

/-- The bytes of both directions. -/
structure RelayCounters where
  c2s : UInt64
  s2c : UInt64
  deriving DecidableEq

/-- `RelayCounters::default`. -/
def RelayCounters.default : RelayCounters := ⟨0, 0⟩

/-- `load`. -/
def RelayCounters.load (c : RelayCounters) : Direction → UInt64
  | .c2s => c.c2s
  | .s2c => c.s2c

/-- `store`. -/
def RelayCounters.store (c : RelayCounters) (d : Direction)
    (total : UInt64) : RelayCounters :=
  match d with
  | .c2s => { c with c2s := total }
  | .s2c => { c with s2c := total }

/-- Why a relay has ended. -/
inductive RelayEndReason where
  | completed
  | maxLifetime
  | networkError
  deriving DecidableEq

/-- What it has done. -/
structure RelayResult where
  c2sBytes : UInt64
  s2cBytes : UInt64
  reason : RelayEndReason
  deriving DecidableEq

/-- The bytes of one direction. -/
def RelayResult.bytes (result : RelayResult) : Direction → UInt64
  | .c2s => result.c2sBytes
  | .s2c => result.s2cBytes

/-- Where a relay is. -/
inductive Phase where
  /-- In `register_relay`, past the check, before the lock. -/
  | registering
  | relaying
  /-- The result is read, the registration not yet dropped. -/
  | ended (result : RelayResult)
  /-- Back in the caller, before its `emit`. -/
  | returned (result : RelayResult)
  | finished
  /-- The future was dropped while it relayed. -/
  | aborted
  deriving DecidableEq

/-- A relay, as far as its events go. -/
structure Relay where
  srcPort : UInt16
  /-- The generation of the `RelayRegistration` it holds. -/
  registration : Option UInt64
  counters : RelayCounters
  phase : Phase
  deriving DecidableEq

/-- The relay is over. -/
def Relay.over (relay : Relay) : Bool :=
  relay.phase = .finished || relay.phase = .aborted

/-- The buffer of a copy loop. -/
def bufLen : Nat := 64 * 1024

-- ============================================================= the registry

/-- A relay in the registry. -/
structure RegisteredRelay where
  generation : UInt64
  /-- The relay that `counters` is shared with. -/
  relay : Nat
  deriving DecidableEq

/-- `RelayRegistration::drop`, under the lock. -/
def dropRegistration (relays : Table UInt16 RegisteredRelay)
    (srcPort : UInt16) (generation : UInt64) :
    Table UInt16 RegisteredRelay :=
  if (relays.get? srcPort).any fun relay => relay.generation = generation
  then relays.remove srcPort
  else relays

-- ============================================================== the channel

/-- A sample of its counters. -/
structure RelayProgress where
  srcPort : UInt16
  c2sBytes : UInt64
  s2cBytes : UInt64
  deriving DecidableEq

/-- An entry of a batch, with the relay whose counters it shows. -/
structure Sample where
  relay : Nat
  progress : RelayProgress
  deriving DecidableEq

/-- The bytes of one direction. -/
def Sample.bytes (sample : Sample) : Direction → UInt64
  | .c2s => sample.progress.c2sBytes
  | .s2c => sample.progress.s2cBytes

/-- What is queued: every event but progress. -/
inductive ProxyEvent (ε : Type) where
  | relayFinished (relay : Nat) (srcPort : UInt16) (result : RelayResult)
  | other (event : ε)
  deriving DecidableEq

/-- What the receiver returns. -/
inductive Delivery (ε : Type) where
  | lifecycle (event : ProxyEvent ε)
  | relayProgressBatch (sampledAt : Nat) (entries : List Sample)
  deriving DecidableEq

/-- Where the receiver is. -/
inductive Receiver where
  /-- Between two calls, or waiting in `recv`. -/
  | idle
  /-- In `sample_progress`, before the lock. -/
  | due (now : Nat)
  /-- Under the lock, with the entries still to read, the one of which
  `c2s` is read, and those it has. -/
  | sampling (now : Nat) (todo : List (UInt16 × RegisteredRelay))
      (half : Option (UInt16 × Nat × UInt64)) (entries : List Sample)
  /-- About to return the batch. -/
  | built (now : Nat) (entries : List Sample)
  deriving DecidableEq

/-- The registry is locked while it is sampled. -/
def Receiver.holdsLock : Receiver → Bool
  | .sampling .. => true
  | _ => false

/-- The channel of events: the relays, the registry and the receiver. -/
structure Channel (ε : Type) where
  /-- There is a registry. -/
  progress : Bool
  generation : UInt64
  registry : Table UInt16 RegisteredRelay
  queue : List (ProxyEvent ε)
  /-- Some sender is left. -/
  connected : Bool
  /-- The receiver was dropped. -/
  isClosed : Bool
  nextProgress : Nat
  receiver : Receiver
  relays : List Relay
  sent : List (ProxyEvent ε)
  delivered : List (Delivery ε)
  deriving DecidableEq

/-- `PROGRESS_INTERVAL`, in nanoseconds. -/
def progressInterval : Nat := 500 * 1000000

/-- `proxy_event_channel`. -/
def proxyEventChannel (progressEnabled : Bool) (now : Nat) : Channel ε where
  progress := progressEnabled
  generation := 0
  registry := []
  queue := []
  connected := true
  isClosed := false
  nextProgress := now + progressInterval
  receiver := .idle
  relays := []
  sent := []
  delivered := []

namespace Channel

/-- The counters of a relay. -/
def counters (s : Channel ε) (r : Nat) : RelayCounters :=
  ((s.relays[r]?).map Relay.counters).getD .default

/-- `ProxyEventSender::send`. -/
def send (s : Channel ε) (event : ProxyEvent ε) : Channel ε :=
  if s.isClosed then s
  else { s with queue := s.queue ++ [event], sent := s.sent ++ [event] }

-- ------------------------------------------------------------- relay steps

/-- A relay begins: `register_relay` as far as the lock. -/
def start (s : Channel ε) (srcPort : UInt16) : Option (Channel ε) :=
  if s.connected then
    some { s with
      relays := s.relays ++ [{
        srcPort := srcPort
        registration := none
        counters := .default
        phase := if s.isClosed || !s.progress then .relaying
          else .registering }] }
  else none

/-- `register_relay` under the lock. -/
def register (s : Channel ε) (r : Nat) : Option (Channel ε) :=
  match s.relays[r]? with
  | none => none
  | some relay =>
      if relay.phase = .registering ∧ s.receiver.holdsLock = false then
        let generation := s.generation + 1
        some { s with
          generation := generation
          registry := s.registry.insert relay.srcPort ⟨generation, r⟩
          relays := s.relays.set r
            { relay with registration := some generation
                         phase := .relaying } }
      else none

/-- A copy loop wrote a chunk and stores its total. -/
def count (s : Channel ε) (r : Nat) (d : Direction) (n : Nat) :
    Option (Channel ε) :=
  match s.relays[r]? with
  | none => none
  | some relay =>
      if relay.phase = .relaying ∧ 0 < n ∧ n ≤ bufLen then
        some { s with
          relays := s.relays.set r
            { relay with
              counters := relay.counters.store d
                (relay.counters.load d + UInt64.ofNat n) } }
      else none

/-- The relay loop breaks and its result is read. -/
def ends (s : Channel ε) (r : Nat) (reason : RelayEndReason) :
    Option (Channel ε) :=
  match s.relays[r]? with
  | none => none
  | some relay =>
      if relay.phase = .relaying then
        some { s with
          relays := s.relays.set r
            { relay with
              phase := .ended
                ⟨relay.counters.c2s, relay.counters.s2c, reason⟩ } }
      else none

/-- The registry after a relay's locals are dropped. -/
def afterDrop (s : Channel ε) (relay : Relay) :
    Table UInt16 RegisteredRelay :=
  match relay.registration with
  | some generation => dropRegistration s.registry relay.srcPort generation
  | none => s.registry

/-- A registration can be dropped only with the lock. -/
def canDrop (s : Channel ε) (relay : Relay) : Prop :=
  relay.registration = none ∨ s.receiver.holdsLock = false

instance (s : Channel ε) (relay : Relay) : Decidable (s.canDrop relay) :=
  inferInstanceAs (Decidable (_ ∨ _))

/-- The relay function returns and its registration is dropped. -/
def drop (s : Channel ε) (r : Nat) : Option (Channel ε) :=
  match s.relays[r]? with
  | none => none
  | some relay =>
      match relay.phase with
      | .ended result =>
          if s.canDrop relay then
            some { s with
              registry := s.afterDrop relay
              relays := s.relays.set r
                { relay with registration := none
                             phase := .returned result } }
          else none
      | _ => none

/-- The relay's future is dropped at one of its awaits. -/
def abort (s : Channel ε) (r : Nat) : Option (Channel ε) :=
  match s.relays[r]? with
  | none => none
  | some relay =>
      if relay.phase = .relaying ∧ s.canDrop relay then
        some { s with
          registry := s.afterDrop relay
          relays := s.relays.set r
            { relay with registration := none, phase := .aborted } }
      else none

/-- The caller emits `RelayFinished`. -/
def finish (s : Channel ε) (r : Nat) : Option (Channel ε) :=
  match s.relays[r]? with
  | none => none
  | some relay =>
      match relay.phase with
      | .returned result =>
          some { s.send (.relayFinished r relay.srcPort result) with
            relays := s.relays.set r { relay with phase := .finished } }
      | _ => none

/-- The last sender is dropped. Relays hold one to their end. -/
def disconnect (s : Channel ε) : Option (Channel ε) :=
  if s.relays.all Relay.over then some { s with connected := false }
  else none

-- ---------------------------------------------------------- receiver steps

/-- The head of the queue is returned. -/
def deliverHead (s : Channel ε) : Option (Channel ε) :=
  match s.queue with
  | event :: rest =>
      some { s with
        queue := rest
        delivered := s.delivered ++ [.lifecycle event] }
  | [] => none

/-- `try_recv` as far as the lock, on its own or in the loop of `recv`. -/
def tryRecv (s : Channel ε) (now : Nat) : Option (Channel ε) :=
  if s.receiver = .idle ∧ s.isClosed = false then
    match s.deliverHead with
    | some s' => some s'
    | none =>
        -- `Disconnected`, or not yet time
        if s.connected = false ∨ now < s.nextProgress then some s
        else some { s with
          nextProgress := now + progressInterval
          receiver := if s.progress then .due now else .idle }
  else none

/-- `events.recv()`: the first arm of `recv`'s `select!`, and all of `recv`
without progress. -/
def recvEvent (s : Channel ε) : Option (Channel ε) :=
  if s.receiver = .idle ∧ s.isClosed = false then s.deliverHead else none

/-- `sample_progress` takes the lock. -/
def lock (s : Channel ε) : Option (Channel ε) :=
  match s.receiver with
  | .due now =>
      some { s with
        receiver := if s.registry.isEmpty then .idle
          else .sampling now s.registry none [] }
  | _ => none

/-- The first load of an entry. A hash map gives its entries in any
order. -/
def loadC2s (s : Channel ε) (i : Nat) : Option (Channel ε) :=
  match s.receiver with
  | .sampling now todo none entries =>
      match todo[i]? with
      | some (srcPort, relay) =>
          some { s with
            receiver := .sampling now (todo.eraseIdx i)
              (some (srcPort, relay.relay, (s.counters relay.relay).c2s))
              entries }
      | none => none
  | _ => none

/-- The second load of an entry. -/
def loadS2c (s : Channel ε) : Option (Channel ε) :=
  match s.receiver with
  | .sampling now todo (some (srcPort, r, c2s)) entries =>
      some { s with
        receiver := .sampling now todo none
          (entries ++ [⟨r, srcPort, c2s, (s.counters r).s2c⟩]) }
  | _ => none

/-- The batch is complete and the lock is given back. -/
def unlock (s : Channel ε) : Option (Channel ε) :=
  match s.receiver with
  | .sampling now [] none entries =>
      some { s with receiver := .built now entries }
  | _ => none

/-- The batch is returned. -/
def deliver (s : Channel ε) : Option (Channel ε) :=
  match s.receiver with
  | .built now entries =>
      some { s with
        receiver := .idle
        delivered := s.delivered ++ [.relayProgressBatch now entries] }
  | _ => none

/-- The receiver is dropped, and what is queued with it. -/
def close (s : Channel ε) : Option (Channel ε) :=
  if s.receiver = .idle then some { s with isClosed := true, queue := [] }
  else none

end Channel

-- ============================================================ interleavings

/-- What happens next: a relay does something, or the receiver. -/
inductive Label (ε : Type) where
  | start (srcPort : UInt16)
  | register (r : Nat)
  | count (r : Nat) (d : Direction) (n : Nat)
  | ends (r : Nat) (reason : RelayEndReason)
  | drop (r : Nat)
  | abort (r : Nat)
  | finish (r : Nat)
  | send (event : ε)
  | disconnect
  | tryRecv (now : Nat)
  | recvEvent
  | lock
  | loadC2s (i : Nat)
  | loadS2c
  | unlock
  | deliver
  | close
  deriving DecidableEq

namespace Channel

/-- One of these; `none` if it is not possible. -/
def step (s : Channel ε) : Label ε → Option (Channel ε)
  | .start srcPort => s.start srcPort
  | .register r => s.register r
  | .count r d n => s.count r d n
  | .ends r reason => s.ends r reason
  | .drop r => s.drop r
  | .abort r => s.abort r
  | .finish r => s.finish r
  | .send event => if s.connected then some (s.send (.other event)) else none
  | .disconnect => s.disconnect
  | .tryRecv now => s.tryRecv now
  | .recvEvent => s.recvEvent
  | .lock => s.lock
  | .loadC2s i => s.loadC2s i
  | .loadS2c => s.loadS2c
  | .unlock => s.unlock
  | .deliver => s.deliver
  | .close => s.close

/-- One turn of an interleaving. -/
def next (s : Channel ε) (label : Label ε) : Channel ε :=
  (s.step label).getD s

end Channel

/-- The channel after an interleaving. -/
def run (progressEnabled : Bool) (now : Nat) (labels : List (Label ε)) :
    Channel ε :=
  labels.foldl Channel.next (proxyEventChannel progressEnabled now)

end ZeroDpi.RelayEvents
