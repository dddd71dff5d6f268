/-
The event channel: queued events and sampled progress agree.

# What carries it

- Lifecycle events come in one order because there is one queue: what was
  sent is what was delivered and then what is queued (`fifo`).
- A batch reads registered relays only, under the lock, and a relay gives
  up its registration before it sends `RelayFinished`. So a relay that is
  finished is not read, and one whose end was delivered is not in the batch
  the receiver is putting together (`late`).
- A counter is written by one loop. While its total does not pass 2^64 it
  grows, so what is read later is no less, and the total of `RelayFinished`
  is its last value.
- A registration is told from others of its port by its generation. The
  generation wraps, so two live registrations of a port could have the same
  one; where they do not, a drop removes its own entry or none.

`Steps` says once what a label can do; every invariant is a case analysis
of it.
-/
import ZeroDpi.RelayEvents

namespace ZeroDpi.RelayEvents

open Lib

variable {ε : Type}

-- ========================================================= what a step does

open Channel in
/-- What a label does to the channel. -/
inductive Steps (s : Channel ε) : Label ε → Channel ε → Prop where
  /-- Not enabled, or nothing to receive. -/
  | same (label : Label ε) : Steps s label s
  | start (srcPort : UInt16) {phase : Phase} :
      phase = .relaying ∨ phase = .registering →
      Steps s (.start srcPort)
        { s with relays := s.relays ++ [⟨srcPort, none, .default, phase⟩] }
  | register {r : Nat} {relay : Relay} :
      s.relays[r]? = some relay → relay.phase = .registering →
      s.receiver.holdsLock = false →
      Steps s (.register r)
        { s with
          generation := s.generation + 1
          registry := s.registry.insert relay.srcPort ⟨s.generation + 1, r⟩
          relays := s.relays.set r
            { relay with registration := some (s.generation + 1)
                         phase := .relaying } }
  | count {r : Nat} {relay : Relay} (d : Direction) {n : Nat} :
      s.relays[r]? = some relay → relay.phase = .relaying → n ≤ bufLen →
      Steps s (.count r d n)
        { s with
          relays := s.relays.set r
            { relay with
              counters := relay.counters.store d
                (relay.counters.load d + UInt64.ofNat n) } }
  | ends {r : Nat} {relay : Relay} (reason : RelayEndReason) :
      s.relays[r]? = some relay → relay.phase = .relaying →
      Steps s (.ends r reason)
        { s with
          relays := s.relays.set r
            { relay with
              phase := .ended
                ⟨relay.counters.c2s, relay.counters.s2c, reason⟩ } }
  | drop {r : Nat} {relay : Relay} {result : RelayResult} :
      s.relays[r]? = some relay → relay.phase = .ended result →
      s.canDrop relay →
      Steps s (.drop r)
        { s with
          registry := s.afterDrop relay
          relays := s.relays.set r
            { relay with registration := none, phase := .returned result } }
  | abort {r : Nat} {relay : Relay} :
      s.relays[r]? = some relay → relay.phase = .relaying →
      s.canDrop relay →
      Steps s (.abort r)
        { s with
          registry := s.afterDrop relay
          relays := s.relays.set r
            { relay with registration := none, phase := .aborted } }
  | finish {r : Nat} {relay : Relay} {result : RelayResult} :
      s.relays[r]? = some relay → relay.phase = .returned result →
      Steps s (.finish r)
        { s.send (.relayFinished r relay.srcPort result) with
          relays := s.relays.set r { relay with phase := .finished } }
  | send (event : ε) : Steps s (.send event) (s.send (.other event))
  | disconnect : Steps s .disconnect { s with connected := false }
  | deliverHead {event : ProxyEvent ε} {rest : List (ProxyEvent ε)}
      (label : Label ε) : s.receiver = .idle → s.isClosed = false →
      s.queue = event :: rest →
      Steps s label
        { s with
          queue := rest
          delivered := s.delivered ++ [.lifecycle event] }
  | due (now : Nat) {receiver : Receiver} : s.receiver = .idle →
      receiver = .due now ∨ receiver = .idle →
      Steps s (.tryRecv now)
        { s with
          nextProgress := now + progressInterval
          receiver := receiver }
  | lockEmpty {now : Nat} : s.receiver = .due now →
      Steps s .lock { s with receiver := .idle }
  | lock {now : Nat} : s.receiver = .due now →
      Steps s .lock { s with receiver := .sampling now s.registry none [] }
  | loadC2s {now i : Nat} {todo : List (UInt16 × RegisteredRelay)}
      {entries : List Sample} {srcPort : UInt16} {relay : RegisteredRelay} :
      s.receiver = .sampling now todo none entries →
      todo[i]? = some (srcPort, relay) →
      Steps s (.loadC2s i)
        { s with
          receiver := .sampling now (todo.eraseIdx i)
            (some (srcPort, relay.relay, (s.counters relay.relay).c2s))
            entries }
  | loadS2c {now : Nat} {todo : List (UInt16 × RegisteredRelay)}
      {entries : List Sample} {srcPort : UInt16} {r : Nat} {c2s : UInt64} :
      s.receiver = .sampling now todo (some (srcPort, r, c2s)) entries →
      Steps s .loadS2c
        { s with
          receiver := .sampling now todo none
            (entries ++ [⟨r, srcPort, c2s, (s.counters r).s2c⟩]) }
  | unlock {now : Nat} {entries : List Sample} :
      s.receiver = .sampling now [] none entries →
      Steps s .unlock { s with receiver := .built now entries }
  | deliver {now : Nat} {entries : List Sample} :
      s.receiver = .built now entries →
      Steps s .deliver
        { s with
          receiver := .idle
          delivered := s.delivered ++ [.relayProgressBatch now entries] }
  | close : Steps s .close { s with isClosed := true, queue := [] }

/-- The cases of a step, one function at a time: the head of the queue is
delivered. -/
theorem steps_of_deliverHead {s t : Channel ε} (label : Label ε)
    (hidle : s.receiver = .idle) (hopen : s.isClosed = false)
    (h : s.deliverHead = some t) : Steps s label t := by
  unfold Channel.deliverHead at h
  split at h
  case h_1 hqueue =>
    cases h
    exact .deliverHead label hidle hopen hqueue
  case h_2 => cases h

/-- A step of a relay that is there. -/
theorem steps_of_relayStep {s t : Channel ε} {label : Label ε} {r : Nat}
    {f : Relay → Option (Channel ε)}
    (h : (match s.relays[r]? with
      | none => none
      | some relay => f relay) = some t)
    (hf : ∀ {relay}, s.relays[r]? = some relay → f relay = some t →
      Steps s label t) : Steps s label t := by
  split at h
  case h_1 => cases h
  case h_2 relay hrelay => exact hf hrelay h

/-- All of them. -/
theorem steps_of_step {s t : Channel ε} {label : Label ε}
    (h : s.step label = some t) : Steps s label t := by
  cases label with
  | start srcPort =>
      simp only [Channel.step, Channel.start, Option.ite_none_right_eq_some]
        at h
      obtain ⟨-, h⟩ := h
      cases h
      apply Steps.start srcPort
      by_cases hlocal : (s.isClosed || !s.progress) = true
      · exact .inl (if_pos hlocal)
      · exact .inr (if_neg hlocal)
  | register r =>
      apply steps_of_relayStep h
      intro relay hrelay h
      simp only [Option.ite_none_right_eq_some] at h
      obtain ⟨⟨hphase, hfree⟩, h⟩ := h
      cases h
      exact .register hrelay hphase hfree
  | count r d n =>
      apply steps_of_relayStep h
      intro relay hrelay h
      simp only [Option.ite_none_right_eq_some] at h
      obtain ⟨⟨hphase, -, hn⟩, h⟩ := h
      cases h
      exact .count d hrelay hphase hn
  | ends r reason =>
      apply steps_of_relayStep h
      intro relay hrelay h
      simp only [Option.ite_none_right_eq_some] at h
      obtain ⟨hphase, h⟩ := h
      cases h
      exact .ends reason hrelay hphase
  | drop r =>
      apply steps_of_relayStep h
      intro relay hrelay h
      split at h
      case h_1 result hphase =>
        simp only [Option.ite_none_right_eq_some] at h
        obtain ⟨hcan, h⟩ := h
        cases h
        exact .drop hrelay hphase hcan
      case h_2 => cases h
  | abort r =>
      apply steps_of_relayStep h
      intro relay hrelay h
      simp only [Option.ite_none_right_eq_some] at h
      obtain ⟨⟨hphase, hcan⟩, h⟩ := h
      cases h
      exact .abort hrelay hphase hcan
  | finish r =>
      apply steps_of_relayStep h
      intro relay hrelay h
      split at h
      case h_1 result hphase =>
        cases h
        exact .finish hrelay hphase
      case h_2 => cases h
  | send event =>
      simp only [Channel.step, Option.ite_none_right_eq_some] at h
      obtain ⟨-, h⟩ := h
      cases h
      exact .send event
  | disconnect =>
      simp only [Channel.step, Channel.disconnect,
        Option.ite_none_right_eq_some] at h
      obtain ⟨-, h⟩ := h
      cases h
      exact .disconnect
  | tryRecv now =>
      simp only [Channel.step, Channel.tryRecv,
        Option.ite_none_right_eq_some] at h
      obtain ⟨⟨hidle, hopen⟩, h⟩ := h
      split at h
      case h_1 hhead =>
        cases h
        exact steps_of_deliverHead _ hidle hopen hhead
      case h_2 =>
        split at h
        case isTrue =>
          cases h
          exact .same _
        case isFalse =>
          cases h
          apply Steps.due now hidle
          by_cases hprogress : s.progress = true
          · exact .inl (if_pos hprogress)
          · exact .inr (if_neg hprogress)
  | recvEvent =>
      simp only [Channel.step, Channel.recvEvent,
        Option.ite_none_right_eq_some] at h
      obtain ⟨⟨hidle, hopen⟩, h⟩ := h
      exact steps_of_deliverHead _ hidle hopen h
  | lock =>
      simp only [Channel.step, Channel.lock] at h
      split at h
      case h_1 now hdue =>
        cases h
        by_cases hempty : s.registry.isEmpty = true
        · rw [if_pos hempty]
          exact .lockEmpty hdue
        · rw [if_neg hempty]
          exact .lock hdue
      case h_2 => cases h
  | loadC2s i =>
      simp only [Channel.step, Channel.loadC2s] at h
      split at h
      case h_1 hsampling =>
        split at h
        case h_1 hentry =>
          cases h
          exact .loadC2s hsampling hentry
        case h_2 => cases h
      case h_2 => cases h
  | loadS2c =>
      simp only [Channel.step, Channel.loadS2c] at h
      split at h
      case h_1 hsampling =>
        cases h
        exact .loadS2c hsampling
      case h_2 => cases h
  | unlock =>
      simp only [Channel.step, Channel.unlock] at h
      split at h
      case h_1 hsampling =>
        cases h
        exact .unlock hsampling
      case h_2 => cases h
  | deliver =>
      simp only [Channel.step, Channel.deliver] at h
      split at h
      case h_1 hbuilt =>
        cases h
        exact .deliver hbuilt
      case h_2 => cases h
  | close =>
      simp only [Channel.step, Channel.close,
        Option.ite_none_right_eq_some] at h
      obtain ⟨-, h⟩ := h
      cases h
      exact .close

/-- A label that is not possible changes nothing. -/
theorem steps_next (s : Channel ε) (label : Label ε) :
    Steps s label (s.next label) := by
  unfold Channel.next
  cases h : s.step label with
  | none => exact .same label
  | some t => exact steps_of_step h

-- ================================================================ the queue

/-- The event, if it is one. -/
def Delivery.lifecycle? : Delivery ε → Option (ProxyEvent ε)
  | .lifecycle event => some event
  | .relayProgressBatch .. => none

/-- The lifecycle events of what was delivered, in order. -/
def lifecycleOf (delivered : List (Delivery ε)) : List (ProxyEvent ε) :=
  delivered.filterMap Delivery.lifecycle?

/-- An event goes to the end. -/
theorem lifecycleOf_append_lifecycle (delivered : List (Delivery ε))
    (event : ProxyEvent ε) :
    lifecycleOf (delivered ++ [.lifecycle event])
      = lifecycleOf delivered ++ [event] :=
  List.filterMap_append

/-- A batch is none. -/
theorem lifecycleOf_append_batch (delivered : List (Delivery ε)) (now : Nat)
    (entries : List Sample) :
    lifecycleOf (delivered ++ [.relayProgressBatch now entries])
      = lifecycleOf delivered := by
  simp [lifecycleOf, Delivery.lifecycle?]

/-- The events that were delivered. -/
theorem mem_lifecycleOf {delivered : List (Delivery ε)}
    {event : ProxyEvent ε} :
    event ∈ lifecycleOf delivered ↔ .lifecycle event ∈ delivered := by
  unfold lifecycleOf
  rw [List.mem_filterMap]
  constructor
  · intro h
    obtain ⟨delivery, hmem, hevent⟩ := h
    cases delivery with
    | lifecycle e =>
        cases hevent
        exact hmem
    | relayProgressBatch now entries => cases hevent
  · intro h
    exact ⟨_, h, rfl⟩

/-- What was delivered is the beginning of what was sent, and the rest is
queued as long as there is a receiver. -/
structure Fifo (s : Channel ε) : Prop where
  delivered : lifecycleOf s.delivered <+: s.sent
  queued : s.isClosed = false → s.sent = lifecycleOf s.delivered ++ s.queue

/-- Sending appends to the queue. -/
theorem Fifo.send {s : Channel ε} (h : Fifo s) (event : ProxyEvent ε) :
    Fifo (s.send event) := by
  unfold Channel.send
  by_cases hclosed : s.isClosed = true
  · rw [if_pos hclosed]
    exact h
  · rw [if_neg hclosed]
    refine ⟨h.delivered.trans (List.prefix_append _ _), fun hopen => ?_⟩
    show s.sent ++ [event] = lifecycleOf s.delivered ++ (s.queue ++ [event])
    rw [h.queued hopen, List.append_assoc]

/-- Events are delivered in the order they were sent in. -/
theorem fifo_step {s t : Channel ε} {label : Label ε} (h : Fifo s)
    (hstep : Steps s label t) : Fifo t := by
  cases hstep with
  | same => exact h
  | start | register | count | ends | drop | abort | disconnect | due
  | lockEmpty | lock | loadC2s | loadS2c | unlock =>
      exact ⟨h.delivered, h.queued⟩
  | finish =>
      exact ⟨(h.send _).delivered, (h.send _).queued⟩
  | send event => exact h.send _
  | @deliverHead event rest _ _ hopen hqueue =>
      have hsent : s.sent = lifecycleOf (s.delivered ++ [.lifecycle event])
          ++ rest := by
        rw [h.queued hopen, hqueue, lifecycleOf_append_lifecycle,
          List.append_assoc]
        rfl
      exact ⟨⟨rest, hsent.symm⟩, fun _ => hsent⟩
  | @deliver now entries _ =>
      have hsame := lifecycleOf_append_batch s.delivered now entries
      refine ⟨?_, fun hopen => ?_⟩
      · show lifecycleOf (s.delivered ++ _) <+: s.sent
        rw [hsame]
        exact h.delivered
      · show s.sent = lifecycleOf (s.delivered ++ _) ++ s.queue
        rw [hsame]
        exact h.queued hopen
  | close => exact ⟨h.delivered, nofun⟩

-- ============================================================= the registry

/-- What a relay holds fits where it is. -/
structure Relay.Sound (relay : Relay) : Prop where
  registered : relay.registration ≠ none →
    relay.phase = .relaying ∨ ∃ result, relay.phase = .ended result
  result : ∀ result,
    relay.phase = .ended result ∨ relay.phase = .returned result →
    ∀ d, result.bytes d = relay.counters.load d

/-- Every entry is of a relay that holds its registration. -/
def Registered (registry : Table UInt16 RegisteredRelay)
    (relays : List Relay) : Prop :=
  ∀ srcPort entry, (srcPort, entry) ∈ registry → ∃ relay,
    relays[entry.relay]? = some relay ∧ relay.srcPort = srcPort
      ∧ relay.registration = some entry.generation

/-- A relay whose end was sent is finished, and its totals are its
counters. -/
def Finished (sent : List (ProxyEvent ε)) (relays : List Relay) : Prop :=
  ∀ r srcPort result, .relayFinished r srcPort result ∈ sent → ∃ relay,
    relays[r]? = some relay ∧ relay.phase = .finished
      ∧ ∀ d, result.bytes d = relay.counters.load d

/-- The relays whose counters are in the batch the receiver is putting
together, or will be. -/
def Receiver.held : Receiver → List Nat
  | .idle => []
  | .due _ => []
  | .sampling _ todo half entries =>
      todo.map (fun e => e.2.relay) ++ half.toList.map (fun e => e.2.1)
        ++ entries.map Sample.relay
  | .built _ entries => entries.map Sample.relay

/-- The registry, and who may be read from it. -/
structure Sound (s : Channel ε) : Prop where
  relays : ∀ relay ∈ s.relays, relay.Sound
  nodup : s.registry.NodupKeys
  registered : Registered s.registry s.relays
  finished : Finished s.sent s.relays
  locked : s.receiver.holdsLock = true → ∀ r ∈ s.receiver.held,
    ∃ e ∈ s.registry, e.2.relay = r

section Relays

variable {l : List Relay} {r i : Nat} {relay relay' : Relay}

/-- The relays behind a change of one. -/
theorem getElem?_set_relay (h : l[r]? = some relay) :
    (l.set r relay')[i]? = if r = i then some relay' else l[i]? := by
  obtain ⟨hlt, -⟩ := List.getElem?_eq_some_iff.mp h
  rw [List.getElem?_set]
  by_cases hri : r = i
  · rw [if_pos hri, if_pos hri, if_pos hlt]
  · rw [if_neg hri, if_neg hri]

/-- What holds of all of them. -/
theorem forall_set_relay {P : Relay → Prop} (h : ∀ relay ∈ l, P relay)
    (hr : P relay') : ∀ relay ∈ l.set r relay', P relay := by
  intro relay hmem
  rcases List.mem_or_eq_of_mem_set hmem with hold | rfl
  · exact h relay hold
  · exact hr

/-- New relays come behind the old ones. -/
theorem getElem?_append_of_some {l' : List Relay} (h : l[i]? = some relay) :
    (l ++ l')[i]? = some relay := by
  obtain ⟨hlt, -⟩ := List.getElem?_eq_some_iff.mp h
  rw [List.getElem?_append_left hlt, h]

/-- A step of a relay that is not finished does not touch those that
are. -/
theorem Finished.set {sent : List (ProxyEvent ε)} (h : Finished sent l)
    (hr : l[r]? = some relay) (hphase : relay.phase ≠ .finished) :
    Finished sent (l.set r relay') := by
  intro j srcPort result hmem
  obtain ⟨old, hold, hdone, hbytes⟩ := h j srcPort result hmem
  have hne : r ≠ j := by
    rintro rfl
    rw [hr] at hold
    cases hold
    exact hphase hdone
  refine ⟨old, ?_, hdone, hbytes⟩
  rw [getElem?_set_relay hr, if_neg hne, hold]

/-- A relay may go on with the registration it has. -/
theorem Registered.set {registry : Table UInt16 RegisteredRelay}
    (h : Registered registry l) (hr : l[r]? = some relay)
    (hport : relay'.srcPort = relay.srcPort)
    (hregistration : relay'.registration = relay.registration) :
    Registered registry (l.set r relay') := by
  intro srcPort entry hmem
  obtain ⟨old, hold, hold_port, hold_reg⟩ := h srcPort entry hmem
  rw [getElem?_set_relay hr]
  by_cases hri : r = entry.relay
  · rw [← hri, hr] at hold
    cases hold
    rw [if_pos hri]
    exact ⟨relay', rfl, hport.trans hold_port,
      hregistration.trans hold_reg⟩
  · rw [if_neg hri]
    exact ⟨old, hold, hold_port, hold_reg⟩

end Relays

/-- A drop adds no entry. -/
theorem mem_of_mem_dropRegistration
    {registry : Table UInt16 RegisteredRelay} {srcPort : UInt16}
    {generation : UInt64} {e : UInt16 × RegisteredRelay}
    (h : e ∈ dropRegistration registry srcPort generation) :
    e ∈ registry := by
  unfold dropRegistration at h
  split at h
  case isTrue => exact (List.mem_filter.mp h).1
  case isFalse => exact h

/-- A drop registers nothing. -/
theorem mem_of_mem_afterDrop {s : Channel ε} {relay : Relay}
    {e : UInt16 × RegisteredRelay} (h : e ∈ s.afterDrop relay) :
    e ∈ s.registry := by
  unfold Channel.afterDrop at h
  split at h
  case h_1 => exact mem_of_mem_dropRegistration h
  case h_2 => exact h

/-- Ports stay distinct. -/
theorem nodupKeys_afterDrop {s : Channel ε} (h : s.registry.NodupKeys)
    (relay : Relay) : Table.NodupKeys (s.afterDrop relay) := by
  unfold Channel.afterDrop
  split
  case h_1 =>
    unfold dropRegistration
    split
    case isTrue => exact h.remove
    case isFalse => exact h
  case h_2 => exact h

/-- A dropped registration has no entry left. -/
theorem not_mem_afterDrop {s : Channel ε} {relay : Relay}
    {generation : UInt64} (hnodup : s.registry.NodupKeys)
    (hgeneration : relay.registration = some generation) {r : Nat} :
    (relay.srcPort, ⟨generation, r⟩) ∉ s.afterDrop relay := by
  intro hmem
  have hget := hnodup.get?_of_mem (mem_of_mem_afterDrop hmem)
  have hdrop : s.afterDrop relay = s.registry.remove relay.srcPort := by
    simp [Channel.afterDrop, hgeneration, dropRegistration, hget]
  rw [hdrop] at hmem
  have hne := (List.mem_filter.mp hmem).2
  simp at hne

/-- A relay that gives up its registration. -/
theorem Registered.afterDrop {s : Channel ε} (h : Sound s) {r : Nat}
    {relay relay' : Relay} (hr : s.relays[r]? = some relay) :
    Registered (s.afterDrop relay) (s.relays.set r relay') := by
  intro srcPort entry hmem
  obtain ⟨old, hold, hport, hreg⟩ :=
    h.registered srcPort entry (mem_of_mem_afterDrop hmem)
  have hne : r ≠ entry.relay := by
    intro hri
    rw [← hri, hr] at hold
    cases hold
    subst hport
    exact not_mem_afterDrop h.nodup hreg hmem
  rw [getElem?_set_relay hr, if_neg hne]
  exact ⟨old, hold, hport, hreg⟩

/-- A registered relay is not finished. -/
theorem Sound.not_finished {s : Channel ε} (h : Sound s)
    {e : UInt16 × RegisteredRelay} (hmem : e ∈ s.registry) {relay : Relay}
    (hrelay : s.relays[e.2.relay]? = some relay) :
    relay.phase ≠ .finished := by
  obtain ⟨old, hold, -, hreg⟩ := h.registered e.1 e.2 hmem
  rw [hrelay] at hold
  cases hold
  have hsound := h.relays relay (List.mem_of_getElem? hrelay)
  have hphase := hsound.registered (by simp [hreg])
  intro hdone
  rcases hphase with hp | ⟨result, hp⟩
  · simp [hdone] at hp
  · simp [hdone] at hp

/-- A relay that drops what it holds leaves what is being read alone. -/
theorem Sound.locked_afterDrop {s : Channel ε} (h : Sound s)
    {relay : Relay} (hcan : s.canDrop relay)
    (hlock : s.receiver.holdsLock = true) :
    ∀ r ∈ s.receiver.held, ∃ e ∈ s.afterDrop relay, e.2.relay = r := by
  rcases hcan with hnone | hfree
  · have hsame : s.afterDrop relay = s.registry := by
      simp [Channel.afterDrop, hnone]
    rw [hsame]
    exact h.locked hlock
  · rw [hfree] at hlock
    cases hlock

/-- A relay at work, and what the step makes of it. -/
theorem Sound.relay {s : Channel ε} (h : Sound s) {r : Nat} {relay : Relay}
    (hr : s.relays[r]? = some relay) : relay.Sound :=
  h.relays relay (List.mem_of_getElem? hr)

-- ------------------------------------------------------------ relay steps

section

variable {s : Channel ε} {r : Nat} {relay : Relay}

/-- A relay that starts. -/
theorem Sound.start (h : Sound s) {srcPort : UInt16} {phase : Phase}
    (hphase : phase = .relaying ∨ phase = .registering) :
    Sound { s with
      relays := s.relays ++ [⟨srcPort, none, .default, phase⟩] } where
  relays := by
    intro relay hmem
    rcases List.mem_append.mp hmem with hold | hnew
    · exact h.relays relay hold
    · cases List.mem_singleton.mp hnew
      refine ⟨fun hreg => absurd rfl hreg, fun result hresult => ?_⟩
      rcases hphase with rfl | rfl
      · simp at hresult
      · simp at hresult
  nodup := h.nodup
  registered := by
    intro srcPort entry hmem
    obtain ⟨old, hold, hrest⟩ := h.registered srcPort entry hmem
    exact ⟨old, getElem?_append_of_some hold, hrest⟩
  finished := by
    intro r srcPort result hmem
    obtain ⟨old, hold, hrest⟩ := h.finished r srcPort result hmem
    exact ⟨old, getElem?_append_of_some hold, hrest⟩
  locked := h.locked

/-- It registers itself, with a new generation. -/
theorem Sound.register (h : Sound s) (hr : s.relays[r]? = some relay)
    (hphase : relay.phase = .registering)
    (hfree : s.receiver.holdsLock = false) :
    Sound { s with
      generation := s.generation + 1
      registry := s.registry.insert relay.srcPort ⟨s.generation + 1, r⟩
      relays := s.relays.set r
        { relay with registration := some (s.generation + 1)
                     phase := .relaying } } where
  relays := by
    apply forall_set_relay h.relays
    exact ⟨fun _ => .inl rfl, by simp⟩
  nodup := h.nodup.insert
  registered := by
    intro srcPort entry hmem
    rcases List.mem_cons.mp hmem with hnew | hold
    · cases hnew
      refine ⟨{ relay with registration := some (s.generation + 1)
                           phase := .relaying }, ?_, rfl, rfl⟩
      rw [getElem?_set_relay hr, if_pos rfl]
    · obtain ⟨hmem, -⟩ := List.mem_filter.mp hold
      obtain ⟨old, hold, hport, hreg⟩ := h.registered srcPort entry hmem
      -- a relay that is still registering has no entry
      have hne : r ≠ entry.relay := by
        intro hri
        rw [← hri, hr] at hold
        cases hold
        have hheld := (h.relay hr).registered (by simp [hreg])
        simp [hphase] at hheld
      refine ⟨old, ?_, hport, hreg⟩
      rw [getElem?_set_relay hr, if_neg hne, hold]
  finished := h.finished.set hr (by simp [hphase])
  locked := by
    intro hlock
    rw [hfree] at hlock
    cases hlock

/-- It counts what it copied. -/
theorem Sound.count (h : Sound s) (hr : s.relays[r]? = some relay)
    (hphase : relay.phase = .relaying) (counters : RelayCounters) :
    Sound { s with
      relays := s.relays.set r { relay with counters := counters } } where
  relays := by
    apply forall_set_relay h.relays
    exact ⟨(h.relay hr).registered, by simp [hphase]⟩
  nodup := h.nodup
  registered := h.registered.set hr rfl rfl
  finished := h.finished.set hr (by simp [hphase])
  locked := h.locked

/-- It ends. -/
theorem Sound.ends (h : Sound s) (hr : s.relays[r]? = some relay)
    (hphase : relay.phase = .relaying) (reason : RelayEndReason) :
    Sound { s with
      relays := s.relays.set r
        { relay with
          phase := .ended
            ⟨relay.counters.c2s, relay.counters.s2c, reason⟩ } } where
  relays := by
    apply forall_set_relay h.relays
    refine ⟨fun _ => .inr ⟨_, rfl⟩, fun result hresult d => ?_⟩
    rcases hresult with heq | heq
    · cases heq
      cases d with
      | c2s => rfl
      | s2c => rfl
    · cases heq
  nodup := h.nodup
  registered := h.registered.set hr rfl rfl
  finished := h.finished.set hr (by simp [hphase])
  locked := h.locked

/-- Its guard is dropped. -/
theorem Sound.drop (h : Sound s) (hr : s.relays[r]? = some relay)
    {result : RelayResult} (hphase : relay.phase = .ended result)
    (hcan : s.canDrop relay) :
    Sound { s with
      registry := s.afterDrop relay
      relays := s.relays.set r
        { relay with registration := none
                     phase := .returned result } } where
  relays := by
    apply forall_set_relay h.relays
    refine ⟨fun hreg => absurd rfl hreg, fun result' hresult => ?_⟩
    rcases hresult with heq | heq
    · cases heq
    · cases heq
      exact (h.relay hr).result result (.inl hphase)
  nodup := nodupKeys_afterDrop h.nodup relay
  registered := Registered.afterDrop h hr
  finished := h.finished.set hr (by simp [hphase])
  locked := h.locked_afterDrop hcan

/-- Or dropped with the task. -/
theorem Sound.abort (h : Sound s) (hr : s.relays[r]? = some relay)
    (hphase : relay.phase = .relaying) (hcan : s.canDrop relay) :
    Sound { s with
      registry := s.afterDrop relay
      relays := s.relays.set r
        { relay with registration := none, phase := .aborted } } where
  relays := by
    apply forall_set_relay h.relays
    exact ⟨fun hreg => absurd rfl hreg, by simp⟩
  nodup := nodupKeys_afterDrop h.nodup relay
  registered := Registered.afterDrop h hr
  finished := h.finished.set hr (by simp [hphase])
  locked := h.locked_afterDrop hcan

/-- An event that is no relay's end, or the end of a relay that is done. -/
theorem Finished.send {event : ProxyEvent ε} {relays : List Relay}
    (h : Finished s.sent relays) (hevent : Finished [event] relays) :
    Finished (s.send event).sent relays := by
  unfold Channel.send
  by_cases hclosed : s.isClosed = true
  · rw [if_pos hclosed]
    exact h
  · rw [if_neg hclosed]
    intro r srcPort result hmem
    rcases List.mem_append.mp hmem with hold | hnew
    · exact h r srcPort result hold
    · exact hevent r srcPort result hnew

end

/-- A send writes the queue and its log, and nothing else. -/
theorem send_eq (s : Channel ε) (event : ProxyEvent ε) :
    ∃ queue sent, s.send event = { s with queue, sent } := by
  unfold Channel.send
  by_cases hclosed : s.isClosed = true
  · exact ⟨s.queue, s.sent, if_pos hclosed⟩
  · exact ⟨_, _, if_neg hclosed⟩

/-- Sending touches the queue only. -/
@[simp] theorem send_relays (s : Channel ε) (event : ProxyEvent ε) :
    (s.send event).relays = s.relays := by
  obtain ⟨queue, sent, h⟩ := send_eq s event
  rw [h]

@[simp] theorem send_registry (s : Channel ε) (event : ProxyEvent ε) :
    (s.send event).registry = s.registry := by
  obtain ⟨queue, sent, h⟩ := send_eq s event
  rw [h]

@[simp] theorem send_receiver (s : Channel ε) (event : ProxyEvent ε) :
    (s.send event).receiver = s.receiver := by
  obtain ⟨queue, sent, h⟩ := send_eq s event
  rw [h]

@[simp] theorem send_delivered (s : Channel ε) (event : ProxyEvent ε) :
    (s.send event).delivered = s.delivered := by
  obtain ⟨queue, sent, h⟩ := send_eq s event
  rw [h]

/-- It reports its end. -/
theorem Sound.finish {s : Channel ε} {r : Nat} {relay : Relay} (h : Sound s)
    (hr : s.relays[r]? = some relay) {result : RelayResult}
    (hphase : relay.phase = .returned result) :
    Sound { s.send (.relayFinished r relay.srcPort result) with
      relays := s.relays.set r { relay with phase := .finished } } where
  relays := by
    apply forall_set_relay h.relays
    refine ⟨fun hreg => ?_, by simp⟩
    have hheld := (h.relay hr).registered hreg
    simp [hphase] at hheld
  nodup := by simpa using h.nodup
  registered := by
    show Registered (s.send _).registry _
    rw [send_registry]
    exact h.registered.set hr rfl rfl
  finished := by
    apply Finished.send
    · exact h.finished.set hr (by simp [hphase])
    · intro j srcPort result' hmem
      cases List.mem_singleton.mp hmem
      refine ⟨{ relay with phase := .finished }, ?_, rfl, ?_⟩
      · rw [getElem?_set_relay hr, if_pos rfl]
      · exact (h.relay hr).result result (.inr hphase)
  locked := by simpa using h.locked

/-- Other events. -/
theorem Sound.send {s : Channel ε} (h : Sound s) (event : ε) :
    Sound (s.send (.other event)) where
  relays := by simpa using h.relays
  nodup := by simpa using h.nodup
  registered := by simpa using h.registered
  finished := by
    rw [send_relays]
    apply h.finished.send
    intro r srcPort result hmem
    cases List.mem_singleton.mp hmem
  locked := by simpa using h.locked

-- --------------------------------------------------------- receiver steps

/-- The receiver has nothing of the registry. -/
theorem Sound.unlocked {s t : Channel ε} (h : Sound s)
    (hregistry : t.registry = s.registry) (hrelays : t.relays = s.relays)
    (hsent : t.sent = s.sent) (hfree : t.receiver.holdsLock = false) :
    Sound t where
  relays := hrelays ▸ h.relays
  nodup := hregistry ▸ h.nodup
  registered := by
    rw [hregistry, hrelays]
    exact h.registered
  finished := by
    rw [hsent, hrelays]
    exact h.finished
  locked := by
    intro hlock
    rw [hfree] at hlock
    cases hlock

/-- The receiver goes on reading. -/
theorem Sound.reads {s : Channel ε} (h : Sound s) {receiver : Receiver}
    (hlocked : ∀ r ∈ receiver.held, ∃ e ∈ s.registry, e.2.relay = r) :
    Sound { s with receiver := receiver } :=
  ⟨h.relays, h.nodup, h.registered, h.finished, fun _ => hlocked⟩

/-- A first load takes an entry out of those to read. -/
theorem held_loadC2s {now i : Nat} {todo : List (UInt16 × RegisteredRelay)}
    {entries : List Sample} {srcPort : UInt16} {relay : RegisteredRelay}
    {c2s : UInt64} (hentry : todo[i]? = some (srcPort, relay)) :
    (Receiver.sampling now (todo.eraseIdx i) (some (srcPort, relay.relay, c2s))
        entries).held
      ⊆ (Receiver.sampling now todo none entries).held := by
  intro r hr
  simp only [Receiver.held, List.mem_append, List.mem_map,
    Option.mem_toList, Option.some.injEq] at hr ⊢
  rcases hr with (⟨e, he, rfl⟩ | ⟨e, rfl, rfl⟩) | hr
  · exact .inl (.inl ⟨e, List.mem_of_mem_eraseIdx he, rfl⟩)
  · exact .inl (.inl ⟨_, List.mem_of_getElem? hentry, rfl⟩)
  · exact .inr hr

/-- A second load moves an entry to those read. -/
theorem held_loadS2c {now : Nat} {todo : List (UInt16 × RegisteredRelay)}
    {entries : List Sample} {srcPort : UInt16} {r : Nat}
    {c2s s2c : UInt64} :
    (Receiver.sampling now todo none
        (entries ++ [⟨r, srcPort, c2s, s2c⟩])).held
      ⊆ (Receiver.sampling now todo (some (srcPort, r, c2s))
        entries).held := by
  intro j hj
  simp only [Receiver.held, List.mem_append, List.mem_map, List.map_append,
    Option.mem_toList, Option.some.injEq, List.mem_singleton, List.map_cons,
    List.map_nil] at hj ⊢
  rcases hj with (hj | ⟨e, he, -⟩) | hj | rfl
  · exact .inl (.inl hj)
  · cases he
  · exact .inr hj
  · exact .inl (.inr ⟨_, rfl, rfl⟩)

/-- Every step keeps the registry and the relays in agreement. -/
theorem sound_step {s t : Channel ε} {label : Label ε} (h : Sound s)
    (hstep : Steps s label t) : Sound t := by
  cases hstep with
  | same => exact h
  | start srcPort hphase => exact h.start hphase
  | register hr hphase hfree => exact h.register hr hphase hfree
  | count d hr hphase => exact h.count hr hphase _
  | ends reason hr hphase => exact h.ends hr hphase reason
  | drop hr hphase hcan => exact h.drop hr hphase hcan
  | abort hr hphase hcan => exact h.abort hr hphase hcan
  | finish hr hphase => exact h.finish hr hphase
  | send event => exact h.send event
  | disconnect | close | deliverHead =>
      exact ⟨h.relays, h.nodup, h.registered, h.finished, h.locked⟩
  | due now _ hreceiver =>
      refine h.unlocked rfl rfl rfl ?_
      rcases hreceiver with rfl | rfl
      · rfl
      · rfl
  | lockEmpty => exact h.unlocked rfl rfl rfl rfl
  | lock =>
      apply h.reads
      intro r hr
      simp only [Receiver.held, Option.toList_none, List.map_nil,
        List.append_nil, List.mem_map] at hr
      exact hr
  | loadC2s hsampling hentry =>
      have hlocked := h.locked (by rw [hsampling]; rfl)
      rw [hsampling] at hlocked
      exact h.reads fun r hr => hlocked r (held_loadC2s hentry hr)
  | loadS2c hsampling =>
      have hlocked := h.locked (by rw [hsampling]; rfl)
      rw [hsampling] at hlocked
      exact h.reads fun r hr => hlocked r (held_loadS2c hr)
  | unlock => exact h.unlocked rfl rfl rfl rfl
  | deliver => exact h.unlocked rfl rfl rfl rfl

-- ============================================================ late progress

/-- The samples of a batch. -/
def Delivery.samples : Delivery ε → List Sample
  | .lifecycle _ => []
  | .relayProgressBatch _ entries => entries

/-- The end of a relay. -/
def Delivery.Finishes (delivery : Delivery ε) (r : Nat) : Prop :=
  ∃ srcPort result, delivery = .lifecycle (.relayFinished r srcPort result)

/-- What comes after the end of a relay shows none of its counters. -/
def NotLate (first second : Delivery ε) : Prop :=
  ∀ r, first.Finishes r → ∀ sample ∈ second.samples, sample.relay ≠ r

/-- No batch was late, and the next will not be. -/
structure Timely (s : Channel ε) : Prop where
  order : s.delivered.Pairwise NotLate
  late : ∀ delivery ∈ s.delivered, ∀ r, delivery.Finishes r →
    r ∉ s.receiver.held

/-- A delivery that no earlier one excludes. -/
theorem Timely.append {s : Channel ε} (h : Timely s) {delivery : Delivery ε}
    (hnew : ∀ old ∈ s.delivered, NotLate old delivery) :
    (s.delivered ++ [delivery]).Pairwise NotLate := by
  refine List.pairwise_append.mpr
    ⟨h.order, List.pairwise_singleton _ _, fun old hold new hmem => ?_⟩
  cases List.mem_singleton.mp hmem
  exact hnew old hold

/-- The receiver holds no more than before. -/
theorem Timely.shrink {s t : Channel ε} (h : Timely s)
    (hdelivered : t.delivered = s.delivered)
    (hheld : t.receiver.held ⊆ s.receiver.held) : Timely t where
  order := hdelivered ▸ h.order
  late := by
    rw [hdelivered]
    intro delivery hmem r hfinishes hr
    exact h.late delivery hmem r hfinishes (hheld hr)

/-- A relay whose end was delivered is not registered. -/
theorem not_registered_of_finishes {s : Channel ε} (hfifo : Fifo s)
    (hsound : Sound s) {delivery : Delivery ε} (hmem : delivery ∈ s.delivered)
    {r : Nat} (hfinishes : delivery.Finishes r)
    {e : UInt16 × RegisteredRelay} (he : e ∈ s.registry) :
    e.2.relay ≠ r := by
  rintro rfl
  obtain ⟨srcPort, result, rfl⟩ := hfinishes
  have hsent := hfifo.delivered.subset (mem_lifecycleOf.mpr hmem)
  obtain ⟨relay, hrelay, hdone, -⟩ :=
    hsound.finished e.2.relay srcPort result hsent
  exact hsound.not_finished he hrelay hdone

/-- No batch names a relay behind its end. -/
theorem timely_step {s t : Channel ε} {label : Label ε} (h : Timely s)
    (hfifo : Fifo s) (hsound : Sound s) (hstep : Steps s label t) :
    Timely t := by
  cases hstep with
  | same => exact h
  | start | register | count | ends | drop | abort | disconnect | close =>
      exact ⟨h.order, h.late⟩
  | finish => exact h.shrink (send_delivered ..) (by simp)
  | send event => exact h.shrink (send_delivered ..) (by simp)
  | deliverHead _ hidle =>
      refine ⟨h.append fun old hold r _ sample hmem => ?_, ?_⟩
      · cases hmem
      · intro delivery _ r _ hr
        simp [hidle, Receiver.held] at hr
  | due now _ hreceiver =>
      refine h.shrink rfl ?_
      rcases hreceiver with rfl | rfl
      · exact List.nil_subset _
      · exact List.nil_subset _
  | lockEmpty => exact h.shrink rfl (List.nil_subset _)
  | lock =>
      refine ⟨h.order, fun delivery hmem r hfinishes hr => ?_⟩
      simp only [Receiver.held, Option.toList_none, List.map_nil,
        List.append_nil, List.mem_map] at hr
      obtain ⟨e, he, hrelay⟩ := hr
      exact not_registered_of_finishes hfifo hsound hmem hfinishes he hrelay
  | loadC2s hsampling hentry =>
      refine h.shrink rfl ?_
      rw [hsampling]
      exact held_loadC2s hentry
  | loadS2c hsampling =>
      refine h.shrink rfl ?_
      rw [hsampling]
      exact held_loadS2c
  | unlock hsampling =>
      refine h.shrink rfl ?_
      rw [hsampling]
      exact List.Subset.refl _
  | deliver hbuilt =>
      refine ⟨h.append fun old hold r hfinishes sample hmem hsample => ?_, ?_⟩
      · apply h.late old hold r hfinishes
        rw [hbuilt, ← hsample]
        exact List.mem_map_of_mem hmem
      · intro delivery _ r _ hr
        cases hr

-- =============================================================== byte counts

/-- What samples show of one counter, in order. -/
def bytesOf (r : Nat) (d : Direction) (samples : List Sample) :
    List UInt64 :=
  (samples.filter fun sample => sample.relay = r).map (·.bytes d)

/-- What the delivered batches show of one counter, in order. -/
def shown (delivered : List (Delivery ε)) (r : Nat) (d : Direction) :
    List UInt64 :=
  bytesOf r d (delivered.flatMap Delivery.samples)

/-- What is read for the batch the receiver is putting together. -/
def Receiver.loads (r : Nat) (d : Direction) : Receiver → List UInt64
  | .idle => []
  | .due _ => []
  | .sampling _ _ half entries =>
      bytesOf r d entries
        ++ (half.toList.filter fun e => e.2.1 = r ∧ d = .c2s).map (·.2.2)
  | .built _ entries => bytesOf r d entries

/-- Every read of one counter, in order. -/
def Channel.loads (s : Channel ε) (r : Nat) (d : Direction) : List UInt64 :=
  shown s.delivered r d ++ s.receiver.loads r d

/-- A counter that was never read to be more than later. -/
def Growing (r : Nat) (d : Direction) (s : Channel ε) : Prop :=
  (s.loads r d ++ [(s.counters r).load d]).Pairwise (· ≤ ·)

/-- What a label counts. -/
def Label.counts? : Label ε → Option (Nat × Direction × Nat)
  | .count r d n => some (r, d, n)
  | _ => none

/-- A total does not pass 2^64. -/
def NoWrap (r : Nat) (d : Direction) (s : Channel ε) (label : Label ε) :
    Prop :=
  ∀ c ∈ label.counts?, c.1 = r → c.2.1 = d →
    ((s.counters r).load d).toNat + c.2.2 < 2 ^ 64

instance (r : Nat) (d : Direction) (s : Channel ε) (label : Label ε) :
    Decidable (NoWrap r d s label) :=
  inferInstanceAs (Decidable (∀ c ∈ label.counts?, _))

/-- What one more delivery shows of a relay. -/
theorem shown_append (delivered : List (Delivery ε)) (delivery : Delivery ε)
    (r : Nat) (d : Direction) :
    shown (delivered ++ [delivery]) r d
      = shown delivered r d ++ bytesOf r d delivery.samples := by
  simp [shown, bytesOf]

/-- The counter is read once more, or the last value grows. -/
theorem pairwise_last {l : List UInt64} {a b : UInt64}
    (h : (l ++ [a]).Pairwise (· ≤ ·)) (hab : a ≤ b) :
    (l ++ [b]).Pairwise (· ≤ ·) := by
  obtain ⟨hl, -, hla⟩ := List.pairwise_append.mp h
  refine List.pairwise_append.mpr
    ⟨hl, List.pairwise_singleton _ _, fun x hx y hy => ?_⟩
  cases List.mem_singleton.mp hy
  exact UInt64.le_trans (hla x hx a List.mem_cons_self) hab

/-- Repeating the last value keeps an order. -/
theorem pairwise_again {l : List UInt64} {a : UInt64}
    (h : (l ++ [a]).Pairwise (· ≤ ·)) :
    (l ++ [a] ++ [a]).Pairwise (· ≤ ·) := by
  obtain ⟨-, -, hla⟩ := List.pairwise_append.mp h
  refine List.pairwise_append.mpr
    ⟨h, List.pairwise_singleton _ _, fun x hx y hy => ?_⟩
  cases List.mem_singleton.mp hy
  rcases List.mem_append.mp hx with hx | hx
  · exact hla x hx a List.mem_cons_self
  · cases List.mem_singleton.mp hx
    exact UInt64.le_refl a

section Growing

variable {s t : Channel ε} {r i : Nat} {d : Direction} {relay relay' : Relay}

/-- No read, and a counter that did not fall. -/
theorem Growing.same (h : Growing r d s)
    (hloads : t.loads r d = s.loads r d)
    (hcounter : (s.counters r).load d ≤ (t.counters r).load d) :
    Growing r d t := by
  unfold Growing
  rw [hloads]
  exact pairwise_last h hcounter

/-- Nothing at all. -/
theorem Growing.kept (h : Growing r d s)
    (hloads : t.loads r d = s.loads r d)
    (hcounter : t.counters r = s.counters r) : Growing r d t := by
  apply h.same hloads
  rw [hcounter]
  exact UInt64.le_refl _

/-- One read more. -/
theorem Growing.read (h : Growing r d s)
    (hloads : t.loads r d = s.loads r d ++ [(s.counters r).load d])
    (hcounter : t.counters r = s.counters r) : Growing r d t := by
  unfold Growing
  rw [hloads, hcounter]
  exact pairwise_again h

/-- The counters of a relay that is there. -/
theorem counters_of_getElem? (h : s.relays[r]? = some relay) :
    s.counters r = relay.counters := by
  simp [Channel.counters, h]

/-- Behind a change of one relay. -/
theorem counters_set (h : s.relays[r]? = some relay)
    (ht : t.relays = s.relays.set r relay') :
    t.counters i = if r = i then relay'.counters else s.counters i := by
  unfold Channel.counters
  rw [ht, getElem?_set_relay h]
  by_cases hri : r = i
  · simp [hri]
  · simp [hri]

/-- A step of a relay that does not count. -/
theorem counters_set_same (h : s.relays[r]? = some relay)
    (ht : t.relays = s.relays.set r relay')
    (hcounters : relay'.counters = relay.counters) :
    t.counters i = s.counters i := by
  rw [counters_set h ht]
  by_cases hri : r = i
  · rw [if_pos hri, hcounters, ← hri, counters_of_getElem? h]
  · rw [if_neg hri]

/-- Behind a new one. -/
theorem counters_start {srcPort : UInt16} {phase : Phase}
    (ht : t.relays = s.relays ++ [⟨srcPort, none, .default, phase⟩]) :
    t.counters i = s.counters i := by
  unfold Channel.counters
  rw [ht]
  rcases Nat.lt_trichotomy i s.relays.length with hlt | heq | hgt
  · rw [List.getElem?_append_left hlt]
  · subst heq
    simp
  · have hout : s.relays.length + 1 ≤ i := hgt
    rw [List.getElem?_eq_none (by simpa using hout),
      List.getElem?_eq_none (by omega)]

/-- A store in one direction. -/
theorem load_store (c : RelayCounters) (d' : Direction) (total : UInt64) :
    (c.store d' total).load d = if d' = d then total else c.load d := by
  cases d with
  | c2s =>
      cases d' with
      | c2s => rfl
      | s2c => rfl
  | s2c =>
      cases d' with
      | c2s => rfl
      | s2c => rfl

/-- Counting up, short of the counter's end. -/
theorem le_add_of_no_wrap {total : UInt64} {n : Nat}
    (h : total.toNat + n < 2 ^ 64) : total ≤ total + UInt64.ofNat n := by
  have hn : n < 2 ^ 64 := by omega
  rw [UInt64.le_iff_toNat_le, UInt64.toNat_add,
    UInt64.toNat_ofNat_of_lt' hn, Nat.mod_eq_of_lt h]
  omega

/-- A relay that counts. -/
theorem Growing.count (h : Growing r d s) {j n : Nat} {d' : Direction}
    (hr : s.relays[j]? = some relay)
    (hloads : t.loads r d = s.loads r d)
    (ht : t.relays = s.relays.set j
      { relay with
        counters := relay.counters.store d'
          (relay.counters.load d' + UInt64.ofNat n) })
    (hwrap : NoWrap r d s (.count j d' n)) : Growing r d t := by
  apply h.same hloads
  rw [counters_set hr ht]
  by_cases hj : j = r
  · subst hj
    rw [if_pos rfl, load_store, counters_of_getElem? hr]
    by_cases hd : d' = d
    · subst hd
      rw [if_pos rfl]
      apply le_add_of_no_wrap
      have hlt := hwrap _ rfl rfl rfl
      rw [counters_of_getElem? hr] at hlt
      exact hlt
    · rw [if_neg hd]
      exact UInt64.le_refl _
  · rw [if_neg hj]
    exact UInt64.le_refl _

end Growing

/-- The values read of a counter do not fall, as long as it does not wrap.
-/
theorem growing_step {s t : Channel ε} {label : Label ε} {r : Nat}
    {d : Direction} (h : Growing r d s) (hwrap : NoWrap r d s label)
    (hstep : Steps s label t) : Growing r d t := by
  cases hstep with
  | same => exact h
  | start srcPort _ =>
      exact h.kept rfl (counters_start rfl)
  | register hr | ends _ hr | drop hr | abort hr =>
      exact h.kept rfl (counters_set_same hr rfl rfl)
  | count d' hr _ _ => exact h.count hr rfl rfl hwrap
  | finish hr =>
      refine h.kept ?_ (counters_set_same hr rfl rfl)
      simp [Channel.loads]
  | send event =>
      refine h.kept ?_ ?_
      · simp [Channel.loads]
      · simp [Channel.counters]
  | disconnect | close => exact h
  | deliverHead =>
      refine h.kept ?_ rfl
      simp [Channel.loads, shown_append, Delivery.samples, bytesOf]
  | due now hidle hreceiver =>
      refine h.kept ?_ rfl
      rcases hreceiver with rfl | rfl
      · simp [Channel.loads, hidle, Receiver.loads]
      · simp [Channel.loads, hidle, Receiver.loads]
  | lockEmpty hdue =>
      refine h.kept ?_ rfl
      simp [Channel.loads, hdue, Receiver.loads]
  | lock hdue =>
      refine h.kept ?_ rfl
      simp [Channel.loads, hdue, Receiver.loads, bytesOf]
  | @loadC2s _ _ _ _ _ relay hsampling =>
      by_cases hmine : relay.relay = r ∧ d = .c2s
      · obtain ⟨rfl, rfl⟩ := hmine
        refine h.read ?_ rfl
        simp [Channel.loads, hsampling, Receiver.loads, RelayCounters.load]
      · refine h.kept ?_ rfl
        simp [Channel.loads, hsampling, Receiver.loads, hmine]
  | @loadS2c _ _ _ _ j _ hsampling =>
      by_cases hj : j = r
      · subst hj
        cases d with
        | c2s =>
            refine h.kept ?_ rfl
            simp [Channel.loads, hsampling, Receiver.loads, bytesOf,
              Sample.bytes]
        | s2c =>
            refine h.read ?_ rfl
            simp [Channel.loads, hsampling, Receiver.loads, bytesOf,
              Sample.bytes, RelayCounters.load]
      · refine h.kept ?_ rfl
        simp [Channel.loads, hsampling, Receiver.loads, bytesOf, hj]
  | unlock hsampling =>
      refine h.kept ?_ rfl
      simp [Channel.loads, hsampling, Receiver.loads]
  | deliver hbuilt =>
      refine h.kept ?_ rfl
      simp [Channel.loads, hbuilt, Receiver.loads, shown_append,
        Delivery.samples]

-- ============================================================== generations

/-- The relay a label registers. -/
def Label.registers? : Label ε → Option Nat
  | .register r => some r
  | _ => none

/-- A registration does not get the generation of an older one of its port
that is still held. -/
def NoReuse (s : Channel ε) (label : Label ε) : Prop :=
  ∀ r ∈ label.registers?, ∀ relay ∈ s.relays[r]?, ∀ other ∈ s.relays,
    other.srcPort = relay.srcPort →
    other.registration ≠ some (s.generation + 1)

instance (s : Channel ε) (label : Label ε) : Decidable (NoReuse s label) :=
  inferInstanceAs (Decidable (∀ r ∈ label.registers?, _))

/-- The registrations of a port have generations of their own. -/
def Distinct (relays : List Relay) : Prop :=
  ∀ (i j : Nat) (a b : Relay), relays[i]? = some a → relays[j]? = some b →
    a.srcPort = b.srcPort → a.registration ≠ none →
    a.registration = b.registration → i = j

section Distinct

variable {l : List Relay} {r : Nat} {relay relay' : Relay}

/-- A relay that keeps its registration or gives it up. -/
theorem Distinct.set (h : Distinct l) (hr : l[r]? = some relay)
    (hport : relay'.srcPort = relay.srcPort)
    (hreg : relay'.registration = relay.registration
      ∨ relay'.registration = none) : Distinct (l.set r relay') := by
  have hback : ∀ (i : Nat) (a : Relay), (l.set r relay')[i]? = some a →
      a.registration ≠ none → ∃ old : Relay, l[i]? = some old
        ∧ old.srcPort = a.srcPort ∧ old.registration = a.registration := by
    intro i a hi hsome
    rw [getElem?_set_relay hr] at hi
    by_cases hri : r = i
    · subst hri
      rw [if_pos rfl] at hi
      cases hi
      rcases hreg with hkept | hnone
      · exact ⟨relay, hr, hport.symm, hkept.symm⟩
      · exact absurd hnone hsome
    · rw [if_neg hri] at hi
      exact ⟨a, hi, rfl, rfl⟩
  intro i j a b hi hj hsame hsome heq
  obtain ⟨olda, holda, hporta, hrega⟩ := hback i a hi hsome
  obtain ⟨oldb, holdb, hportb, hregb⟩ := hback j b hj (heq ▸ hsome)
  apply h i j olda oldb holda holdb
  · rw [hporta, hsame, hportb]
  · rw [hrega]
    exact hsome
  · rw [hrega, heq, hregb]

/-- A relay that registers with a generation no other of its port holds. -/
theorem Distinct.register (h : Distinct l) (hr : l[r]? = some relay)
    {generation : UInt64} (hport : relay'.srcPort = relay.srcPort)
    (hreg : relay'.registration = some generation)
    (hnew : ∀ other ∈ l, other.srcPort = relay.srcPort →
      other.registration ≠ some generation) :
    Distinct (l.set r relay') := by
  intro i j a b hi hj hsame hsome heq
  rw [getElem?_set_relay hr] at hi hj
  by_cases hri : r = i
  · rw [if_pos hri] at hi
    cases hi
    by_cases hrj : r = j
    · exact hri.symm.trans hrj
    · rw [if_neg hrj] at hj
      exact absurd (heq.symm.trans hreg) (hnew b (List.mem_of_getElem? hj)
        (hsame.symm.trans hport))
  · rw [if_neg hri] at hi
    by_cases hrj : r = j
    · rw [if_pos hrj] at hj
      cases hj
      exact absurd (heq.trans hreg) (hnew a (List.mem_of_getElem? hi)
        (hsame.trans hport))
    · rw [if_neg hrj] at hj
      exact h i j a b hi hj hsame hsome heq

/-- A relay without a registration. -/
theorem Distinct.start (h : Distinct l) (hnone : relay.registration = none) :
    Distinct (l ++ [relay]) := by
  have hback : ∀ (i : Nat) (a : Relay), (l ++ [relay])[i]? = some a →
      a.registration ≠ none → l[i]? = some a := by
    intro i a hi hsome
    rw [List.getElem?_append] at hi
    split at hi
    case isTrue => exact hi
    case isFalse =>
      have ha := List.mem_singleton.mp (List.mem_of_getElem? hi)
      rw [ha] at hsome
      exact absurd hnone hsome
  intro i j a b hi hj hsame hsome heq
  exact h i j a b (hback i a hi hsome) (hback j b hj (heq ▸ hsome)) hsame
    hsome heq

end Distinct

/-- Generations are given once, as long as none is given again. -/
theorem distinct_step {s t : Channel ε} {label : Label ε}
    (h : Distinct s.relays) (hreuse : NoReuse s label)
    (hstep : Steps s label t) : Distinct t.relays := by
  cases hstep with
  | same => exact h
  | start srcPort hphase => exact h.start rfl
  | register hr hphase hfree =>
      exact h.register hr rfl rfl (hreuse _ rfl _ hr)
  | count d hr hphase => exact h.set hr rfl (.inl rfl)
  | ends reason hr hphase => exact h.set hr rfl (.inl rfl)
  | drop hr hphase hcan => exact h.set hr rfl (.inr rfl)
  | abort hr hphase hcan => exact h.set hr rfl (.inr rfl)
  | finish hr hphase => exact h.set hr rfl (.inl rfl)
  | send event =>
      rw [send_relays]
      exact h
  | disconnect | close | deliverHead | due | lockEmpty | lock | loadC2s
  | loadS2c | unlock | deliver => exact h

/-- A drop leaves the entries of other relays. -/
theorem get?_afterDrop {s : Channel ε} (h : Sound s)
    (hdistinct : Distinct s.relays) {r : Nat} {relay : Relay}
    (hr : s.relays[r]? = some relay) {srcPort : UInt16}
    {entry : RegisteredRelay} (hget : s.registry.get? srcPort = some entry)
    (hother : entry.relay ≠ r) :
    Table.get? (s.afterDrop relay) srcPort = some entry := by
  unfold Channel.afterDrop
  split
  case h_2 => exact hget
  case h_1 generation hgeneration =>
    unfold dropRegistration
    by_cases hport : srcPort = relay.srcPort
    · subst hport
      obtain ⟨owner, howner, hport, hreg⟩ :=
        h.registered relay.srcPort entry (Table.mem_of_get? hget)
      have hne : entry.generation ≠ generation := by
        intro heq
        apply hother
        apply hdistinct entry.relay r owner relay howner hr hport
        · simp [hreg]
        · rw [hreg, heq, hgeneration]
      rw [if_neg (by simp [hget, hne]), hget]
    · split
      case isTrue => rw [Table.get?_remove_ne hport, hget]
      case isFalse => exact hget

-- ================================================================= every run

/-- The invariant of every interleaving. -/
structure Inv (s : Channel ε) : Prop where
  fifo : Fifo s
  sound : Sound s
  timely : Timely s

/-- All three invariants at once. -/
theorem inv_next {s : Channel ε} {label : Label ε} (h : Inv s) :
    Inv (s.next label) := by
  have hstep := steps_next s label
  exact ⟨fifo_step h.fifo hstep, sound_step h.sound hstep,
    timely_step h.timely h.fifo h.sound hstep⟩

/-- They hold at the start. -/
theorem inv_proxyEventChannel (progressEnabled : Bool) (now : Nat) :
    Inv (proxyEventChannel progressEnabled now : Channel ε) where
  fifo := ⟨List.prefix_rfl, fun _ => rfl⟩
  sound := {
    relays := nofun
    nodup := List.nodup_nil
    registered := nofun
    finished := nofun
    locked := nofun }
  timely := ⟨List.Pairwise.nil, nofun⟩

/-- And in every run. -/
theorem inv_run (progressEnabled : Bool) (now : Nat)
    (labels : List (Label ε)) : Inv (run progressEnabled now labels) :=
  foldl_invariant inv_next (inv_proxyEventChannel progressEnabled now)

/-- The samples of a counter are non-decreasing and no more than the total
of its relay's end. -/
structure Increasing (s : Channel ε) (r : Nat) (d : Direction) : Prop where
  samples : (shown s.delivered r d).Pairwise (· ≤ ·)
  total : ∀ srcPort result, .relayFinished r srcPort result ∈ s.sent →
    ∀ bytes ∈ shown s.delivered r d, bytes ≤ result.bytes d

/-- What was read is what was delivered. -/
theorem Growing.increasing {s : Channel ε} {r : Nat} {d : Direction}
    (h : Growing r d s) (hsound : Sound s) : Increasing s r d := by
  obtain ⟨hloads, -, hle⟩ := List.pairwise_append.mp h
  refine ⟨(List.pairwise_append.mp hloads).1, ?_⟩
  intro srcPort result hsent bytes hbytes
  obtain ⟨relay, hrelay, -, htotal⟩ := hsound.finished r srcPort result hsent
  rw [htotal d, ← counters_of_getElem? hrelay]
  exact hle bytes (List.mem_append_left _ hbytes) _ List.mem_cons_self

/-- Over a whole run. -/
theorem increasing_run {progressEnabled : Bool} {now : Nat}
    {labels : List (Label ε)} {r : Nat} {d : Direction}
    (h : Along Channel.next (NoWrap r d) (proxyEventChannel progressEnabled now)
      labels) : Increasing (run progressEnabled now labels) r d := by
  have hgrowing : Growing r d (run progressEnabled now labels) :=
    along_invariant (P := Growing r d)
      (fun hs hwrap => growing_step hs hwrap (steps_next _ _))
      (List.pairwise_singleton _ _) h
  exact hgrowing.increasing (inv_run progressEnabled now labels).sound

/-- Likewise. -/
theorem distinct_run {progressEnabled : Bool} {now : Nat}
    {labels : List (Label ε)}
    (h : Along Channel.next NoReuse (proxyEventChannel progressEnabled now)
      labels) : Distinct (run progressEnabled now labels).relays :=
  along_invariant (P := fun s => Distinct s.relays)
    (fun hs hreuse => distinct_step hs hreuse (steps_next _ _))
    (by simp [Distinct, proxyEventChannel]) h

/-- The label drops the registration of a relay. -/
def Label.Drops (label : Label ε) (r : Nat) : Prop :=
  label = .drop r ∨ label = .abort r

/-- A drop leaves the entry of another relay alone. -/
theorem keeps_others {s : Channel ε} (h : Sound s)
    (hdistinct : Distinct s.relays) {r : Nat} {label : Label ε}
    (hlabel : label.Drops r) {srcPort : UInt16} {entry : RegisteredRelay}
    (hget : s.registry.get? srcPort = some entry)
    (hother : entry.relay ≠ r) :
    (s.next label).registry.get? srcPort = some entry := by
  have hstep := steps_next s label
  generalize s.next label = t at hstep ⊢
  cases hstep with
  | same => exact hget
  | @drop j _ _ hr hphase hcan =>
      have hj : j = r := by simpa [Label.Drops] using hlabel
      subst hj
      exact get?_afterDrop h hdistinct hr hget hother
  | @abort j _ hr hphase hcan =>
      have hj : j = r := by simpa [Label.Drops] using hlabel
      subst hj
      exact get?_afterDrop h hdistinct hr hget hother
  | deliverHead => exact hget
  | start | register | count | ends | finish | send | disconnect | due
  | lockEmpty | lock | loadC2s | loadS2c | unlock | deliver | close =>
      simp [Label.Drops] at hlabel

/-- In every interleaving, lifecycle events are delivered in the order they
were sent, none lost or twice, and no batch that comes after a relay's
`RelayFinished` has a sample of it. The samples of a counter whose total
does not pass 2^64 are non-decreasing and no more than the total of
`RelayFinished`. Where no registration gets the generation of an older one
of its port that is still held, dropping a registration removes no other. -/
theorem progress_and_lifecycle_agree (progressEnabled : Bool) (now : Nat)
    (labels : List (Label ε)) :
    let channel := proxyEventChannel progressEnabled now
    let s := run progressEnabled now labels
    Fifo s
      ∧ s.delivered.Pairwise NotLate
      ∧ (∀ r d, Along Channel.next (NoWrap r d) channel labels →
          Increasing s r d)
      ∧ (Along Channel.next NoReuse channel labels →
          ∀ label r, label.Drops r → ∀ srcPort entry,
            s.registry.get? srcPort = some entry → entry.relay ≠ r →
            (s.next label).registry.get? srcPort = some entry) := by
  intro channel s
  have hinv : Inv s := inv_run progressEnabled now labels
  refine ⟨hinv.fifo, hinv.timely.order, fun r d => increasing_run, ?_⟩
  intro hreuse label r hlabel srcPort entry hget hother
  exact keeps_others hinv.sound (distinct_run hreuse) hlabel hget hother

/-- One call of `try_recv` that returns a batch of one relay. -/
def sampleOne (now : Nat) : List (Label ε) :=
  [.tryRecv now, .lock, .loadC2s 0, .loadS2c, .unlock, .deliver]

/-- A relay on a port whose old relay is still registered. -/
def portShared : List (Label Unit) :=
  [.start 1, .register 0, .count 0 .c2s 10, .start 1, .register 1,
    .count 1 .c2s 99] ++ sampleOne progressInterval
    ++ [.ends 0 .completed]

/-- Two relays on one port: dropping the first leaves the entry of the
second. -/
theorem port_shared_agrees :
    let s := run true 0 portShared
    shown s.delivered 1 .c2s = [99]
      ∧ Increasing s 1 .c2s
      ∧ (s.next (.drop 0)).registry.get? 1 = some ⟨2, 1⟩ := by
  obtain ⟨-, -, hincreasing, hkeeps⟩ :=
    progress_and_lifecycle_agree true 0 portShared
  refine ⟨by decide, hincreasing 1 .c2s (by decide), ?_⟩
  exact hkeeps (by decide) (.drop 0) 0 (.inl rfl) 1 ⟨2, 1⟩
    (by decide) (by decide)

-- ============================================================ where it wraps

section Wrapping

variable {s : Channel Unit}

/-- A relay begins and registers at once. -/
theorem start_register (srcPort : UInt16) (hconnected : s.connected = true)
    (hopen : s.isClosed = false) (hprogress : s.progress = true)
    (hfree : s.receiver.holdsLock = false) :
    (s.next (.start srcPort)).next (.register s.relays.length)
      = { s with
          generation := s.generation + 1
          registry := s.registry.insert srcPort
            ⟨s.generation + 1, s.relays.length⟩
          relays := s.relays
            ++ [⟨srcPort, some (s.generation + 1), .default,
              .relaying⟩] } := by
  have hstart : s.next (.start srcPort)
      = { s with
          relays := s.relays
            ++ [⟨srcPort, none, .default, .registering⟩] } := by
    simp [Channel.next, Channel.step, Channel.start, hconnected, hopen,
      hprogress]
  rw [hstart]
  simp [Channel.next, Channel.step, Channel.register, hfree]

/-- Relays on another port, one after the other. -/
def passing (n : Nat) : List (Label Unit) :=
  (List.range n).flatMap fun i =>
    [.start 2, .register (i + 1), .abort (i + 1)]

/-- One of them leaves nothing but its generation. -/
theorem pass_one (hconnected : s.connected = true)
    (hopen : s.isClosed = false) (hprogress : s.progress = true)
    (hfree : s.receiver.holdsLock = false)
    (hport : s.registry.get? 2 = none) :
    [.start 2, .register s.relays.length, .abort s.relays.length].foldl
        Channel.next s
      = { s with
          generation := s.generation + 1
          relays := s.relays ++ [⟨2, none, .default, .aborted⟩] } := by
  have hregistry : dropRegistration
      (s.registry.insert 2 ⟨s.generation + 1, s.relays.length⟩) 2
      (s.generation + 1) = s.registry := by
    simp [dropRegistration, Table.remove_insert_self,
      Table.remove_eq_self hport]
  rw [List.foldl_cons, List.foldl_cons,
    start_register 2 hconnected hopen hprogress hfree]
  simp [Channel.next, Channel.step, Channel.abort, Channel.canDrop,
    Channel.afterDrop, hfree, hregistry]

/-- A relay on port 1, and what `n` others leave. -/
def afterPassing (n : Nat) : Channel Unit :=
  { proxyEventChannel true 0 with
    generation := 1 + UInt64.ofNat n
    registry := [(1, ⟨1, 0⟩)]
    relays := ⟨1, some 1, .default, .relaying⟩
      :: List.replicate n ⟨2, none, .default, .aborted⟩ }

/-- The relays of that state. -/
theorem length_afterPassing (n : Nat) :
    (afterPassing n).relays.length = n + 1 := by
  simp [afterPassing]

/-- The run that leads to it. -/
theorem run_passing (n : Nat) :
    run true 0 ([.start 1, .register 0] ++ passing n) = afterPassing n := by
  induction n with
  | zero => decide
  | succ n ih =>
      unfold run at ih ⊢
      rw [passing, List.range_succ, List.flatMap_append, ← passing,
        ← List.append_assoc, List.foldl_append, ih, List.flatMap_singleton,
        ← length_afterPassing n, pass_one rfl rfl rfl rfl rfl]
      simp [afterPassing, List.replicate_succ', UInt64.ofNat_add,
        UInt64.add_assoc]

/-- An old relay on port 1, `n` others, and a new one on port 1. -/
def portReused (n : Nat) : List (Label Unit) :=
  [.start 1, .register 0] ++ passing n
    ++ [.start 1, .register (n + 1), .ends 0 .completed]

/-- The new relay has the next generation, and the old relay's drop asks
for the first. -/
theorem run_portReused (n : Nat) :
    let s := run true 0 (portReused n)
    s.registry.get? 1 = some ⟨1 + UInt64.ofNat n + 1, n + 1⟩
      ∧ (s.next (.drop 0)).registry
        = dropRegistration s.registry 1 1 := by
  have hrun : run true 0 (portReused n)
      = [Label.start 1, .register (n + 1), .ends 0 .completed].foldl
        Channel.next (afterPassing n) := by
    rw [← run_passing, portReused, run, List.foldl_append]
    rfl
  rw [hrun, ← length_afterPassing n, List.foldl_cons, List.foldl_cons,
    start_register 1 rfl rfl rfl rfl]
  refine ⟨rfl, rfl⟩

/-- A relay that has copied `n` full buffers, and a sample after the first
and after the last. -/
def totalWrapped (n : Nat) : List (Label Unit) :=
  [.start 1, .register 0, .count 0 .c2s bufLen] ++ sampleOne progressInterval
    ++ List.replicate n (.count 0 .c2s bufLen)
    ++ sampleOne (2 * progressInterval)

/-- A relay that has copied `n` more buffers from its client. -/
def Relay.copied (relay : Relay) (n : Nat) : Relay :=
  { relay with
    counters := { relay.counters with
      c2s := relay.counters.c2s + UInt64.ofNat (n * bufLen) } }

/-- A buffer's worth, again and again. -/
theorem count_replicate (n : Nat) {relay : Relay}
    (hrelays : s.relays = [relay]) (hphase : relay.phase = .relaying) :
    (List.replicate n (Label.count 0 .c2s bufLen)).foldl Channel.next s
      = { s with relays := [relay.copied n] } := by
  induction n generalizing s relay with
  | zero => simp [Relay.copied, ← hrelays]
  | succ n ih =>
      have hcount : s.next (.count 0 .c2s bufLen)
          = { s with relays := [relay.copied 1] } := by
        simp [Channel.next, Channel.step, Channel.count, hrelays, hphase,
          RelayCounters.store, RelayCounters.load, Relay.copied, bufLen]
      have hcopied : (relay.copied 1).copied n = relay.copied (n + 1) := by
        simp [Relay.copied, Nat.succ_mul, UInt64.ofNat_add, UInt64.add_assoc,
          UInt64.add_comm]
      have hrelaying : (relay.copied 1).phase = .relaying := by
        simp [Relay.copied, hphase]
      have hrest := @ih { s with relays := [relay.copied 1] }
        (relay.copied 1) rfl hrelaying
      rw [List.replicate_succ, List.foldl_cons, hcount, hrest, hcopied]

end Wrapping

/-- With 2^64 - 1 registrations in between, a new relay of the port gets
the old one's generation and the old one's drop removes it. With 2^64 bytes
copied, a sample is less than the one before. -/
theorem reused_generation_and_wrapped_total :
    (run true 0 (portReused (2 ^ 64 - 1))).registry.get? 1
        = some ⟨1, 2 ^ 64⟩
      ∧ ((run true 0 (portReused (2 ^ 64 - 1))).next
        (.drop 0)).registry.get? 1 = none
      ∧ shown (run true 0 (totalWrapped (2 ^ 48 - 1))).delivered 0 .c2s
        = [65536, 0] := by
  obtain ⟨hget, hdrop⟩ := run_portReused (2 ^ 64 - 1)
  have hwrap : (1 : UInt64) + UInt64.ofNat (2 ^ 64 - 1) + 1 = 1 := by decide
  rw [hwrap] at hget
  refine ⟨hget, ?_, ?_⟩
  · rw [hdrop, dropRegistration, hget]
    simp
  · rw [totalWrapped, run, List.foldl_append, List.foldl_append,
      @count_replicate _ (2 ^ 48 - 1)
        ⟨1, some 1, ⟨65536, 0⟩, .relaying⟩ (by decide) rfl]
    decide

end ZeroDpi.RelayEvents
