/-
How a connection task reports its end.

Consumers count a connection from its `ConnectionAccepted` to its terminal
event. The intercepted stage reports every one of its exits, by one event
each (`Reported`); what it is asked for before that, a registration, and
everything the socket path does between its connect and its relay, leave
through a bare `?`. So a task that returns has ended exactly once if and
only if none of the answers it got is one of these failures.
-/
import ZeroDpi.ConnectionTask
import ZeroDpi.Proofs.Socket

namespace ZeroDpi.ConnectionTask

open Lib Task RelayEvents

-- ============================================================ the property

/-- The event after which a connection is no longer live. -/
def ProxyEvent.terminal : ProxyEvent → Bool
  | .connectionAccepted .. => false
  | .connectionError .. => true
  | .bypassComplete _ outcome => outcome = .unexpectedClose
  | .relayFinished .. => true

/-- The port an event is about. -/
def ProxyEvent.port : ProxyEvent → UInt16
  | .connectionAccepted _ srcPort _ _ => srcPort
  | .connectionError srcPort _ => srcPort
  | .bypassComplete srcPort _ => srcPort
  | .relayFinished srcPort _ => srcPort

/-- An answer at a wait of a task that runs on its own. -/
abbrev Answer := Item Wait Wait.Reply Empty

/-- A run that was not cancelled: the answers it got, its result and the
events it sent. -/
def Returns {C α : Type} (t : ConnTask C α) (w : World C) (l : List Answer)
    (a : α) (w' : World C) : Prop :=
  Runs (fun _ (_ : Empty) _ => False) (fun _ _ => True) t w l (some a) w'

/-- What holds of the steps of the intercepted stage, and of sequences of
them, for a flow on `port`. -/
structure Closed (C : Type) (port : UInt16)
    (P : ∀ {α : Type}, ConnTask C (Except Stop α) → Prop) : Prop where
  done : ∀ {α : Type} (a : α), P (.done (.ok a))
  orPanic : ∀ {α : Type} (x : Except Panic α), P (ConnectionTask.orPanic x)
  close : ∀ {α : Type} (context : List String),
    P (closeFlow port context : ConnTask C (Except Stop α))
  ask : ∀ {α : Type} {wait : Wait}, wait ≠ .registered →
    ∀ f : wait.Reply → ConnTask C (Except Stop α), (∀ x, P (f x)) →
      P ((ConnectionTask.ask wait).bind f)
  andThen : ∀ {α β : Type} {t : ConnTask C (Except Stop α)}
    {f : α → ConnTask C (Except Stop β)}, P t → (∀ a, P (f a)) →
      P (ConnectionTask.andThen t f)

section

variable {C : Type} {port : UInt16}
  {P : ∀ {α : Type}, ConnTask C (Except Stop α) → Prop}

/-- What is closed under the building blocks holds of what is built from
them: a write, -/
theorem Closed.writeOrClose (h : Closed C port P) (context : String) :
    P (ConnectionTask.writeOrClose port context) := by
  apply h.ask (by decide)
  intro x
  cases x with
  | ok u => exact h.done _
  | error e => exact h.close _

/-- the first record, -/
theorem Closed.readTlsRecord (h : Closed C port P) :
    P (readClientTlsRecordWithTimeout port) := by
  apply h.ask (by decide)
  intro x
  match x with
  | some (.ok _) => exact h.done _
  | some (.error _) => exact h.close _
  | none => exact h.close _

/-- a first write, -/
theorem Closed.readWrite (h : Closed C port P) :
    P (readClientWriteWithTimeout port) := by
  apply h.ask (by decide)
  intro x
  match x with
  | some (.ok _) => exact h.done _
  | some (.error _) => exact h.close _
  | none => exact h.close _

/-- and the first record transformed. -/
theorem Closed.readHello (h : Closed C port P) (t : ConnectionSettings)
    (env : SocketEnv) : P (ConnectionTask.readHello t env port) :=
  h.andThen h.readTlsRecord fun _ => h.orPanic _

/-- One case for each method that can own the first record. -/
theorem Closed.readyForData (h : Closed C port P) (t : ConnectionSettings)
    (env : SocketEnv) : P (ConnectionTask.readyForData t env port) := by
  have hwrite := h.writeOrClose
  have hhello := h.readHello t env
  unfold ConnectionTask.readyForData
  apply h.andThen
  · unfold writeCcs
    split
    · exact hwrite _
    · exact h.done _
  · intro _
    split
    · apply h.andThen hhello
      intro hello
      apply h.andThen (h.orPanic _)
      intro cut
      apply h.andThen
      · cases cut with
        | some _ => exact hwrite _
        | none => exact h.andThen (hwrite _) fun _ => hwrite _
      · exact fun _ => h.done _
    · apply h.andThen hhello
      intro hello
      apply h.andThen (h.orPanic _)
      intro cut
      exact h.andThen (hwrite _) fun _ => h.done _
    · split
      · unfold segmentArm
        split
        · apply h.andThen hhello
          intro hello
          exact h.andThen (hwrite _) fun _ => h.done _
        · apply h.andThen h.readWrite
          intro data
          apply h.andThen (h.orPanic _)
          intro data
          exact h.andThen (hwrite _) fun _ => h.done _
      · apply h.andThen hhello
        intro hello
        apply h.andThen (hwrite _)
        intro _
        exact h.andThen (hwrite _) fun _ => h.done _

end

-- ============================================================= the judgement

variable {C α β : Type}

/-- What a program that returns has sent. -/
def Emits (t : ConnTask C α)
    (post : List Answer → α → List ProxyEvent → Prop) : Prop :=
  ∀ w l a w', Returns t w l a w' →
    ∃ sent, w'.events = w.events ++ sent ∧ post l a sent

variable {post : List Answer → α → List ProxyEvent → Prop}

/-- A weaker postcondition. -/
theorem Emits.mono {t : ConnTask C α}
    {post' : List Answer → α → List ProxyEvent → Prop} (h : Emits t post)
    (hpost : ∀ l a sent, post l a sent → post' l a sent) : Emits t post' := by
  intro w l a w' hrun
  obtain ⟨sent, hevents, hsent⟩ := h _ _ _ _ hrun
  exact ⟨sent, hevents, hpost l a sent hsent⟩

/-- No registration was asked for. -/
def Unasked (l : List Answer) : Prop :=
  ∀ x, Item.reply Wait.registered x ∉ l

/-- What was not asked in either part. -/
theorem Unasked.append {l l' : List Answer} (h : Unasked l)
    (h' : Unasked l') : Unasked (l ++ l') := by
  intro x hmem
  rcases List.mem_append.mp hmem with hmem | hmem
  · exact h x hmem
  · exact h' x hmem

/-- Success sends `acked`, an error one terminal event of the port, and a
panic nothing. -/
def Reported (port : UInt16) (acked : List ProxyEvent) (l : List Answer)
    (r : Except Stop α) (sent : List ProxyEvent) : Prop :=
  Unasked l ∧ match r with
    | .ok _ => sent = acked
    | .error (.error _) => ∃ event, sent = [event] ∧ event.terminal = true
        ∧ event.port = port
    | .error (.panic _) => sent = []

/-- An error is reported whatever a success would have been. -/
theorem Reported.error {port : UInt16} {acked acked' : List ProxyEvent}
    {l : List Answer} {stop : Stop} {sent : List ProxyEvent}
    (h : Reported port acked l (.error stop : Except Stop α) sent) :
    Reported port acked' l (.error stop : Except Stop β) sent := by
  cases stop with
  | error context => exact ⟨h.1, h.2⟩
  | panic p => exact ⟨h.1, h.2⟩

/-- What a bypass that worked has sent. -/
abbrev acknowledged (port : UInt16) : List ProxyEvent :=
  [.bypassComplete port .fakeDataAcked]

/-- The world of a task that has not sent anything. -/
def quiet : World Unit := ⟨[], none, ()⟩

/-- No method on the socket. -/
def sampleSettings : ConnectionSettings where
  upstreamNodelay := false
  segmentFirstClientHello := false
  tlsPadding := none
  ccsPrefix := none
  mixedCaseSni := none
  sniBoundaryFrag := none
  tlsRecordSplit := none
  fragmentAllData := false
  tcpSegmentation := ⟨.tlsHello, .exact 1, .exact 0, true⟩

/-- A client on port 50000, a socket on port 40000. -/
def sampleConnection : Connection where
  peer := (.v4 0x7F000001, 50000)
  interfaceIp := 0xC0A80002
  connectIp := .v4 0x01020304
  connectPort := 443
  targetSni := none
  fakeClientHello := []
  lowTtlOverride := none
  socket := .ok 40000
  env := ⟨0, 0, 0⟩

/-- Ten bytes up, twenty down. -/
def sampleRelay : RelayResult := ⟨10, 20, .completed⟩

/-- The client's ClientHello. -/
def sampleRecord : Bytes :=
  [0x16, 3, 1, 0, 60, 0x01, 0, 0, 56, 3, 3]
    ++ List.replicate 32 0
    ++ [0, 0, 2, 0x13, 0x01, 1, 0, 0, 13]
    ++ [0, 0, 0, 9, 0, 7, 0, 0, 4, 0x61, 0x2E, 0x69, 0x6F]

/-- What a task with this port sends whose connection is relayed. -/
def sampleEvents (port : UInt16) : List ProxyEvent :=
  [.connectionAccepted sampleConnection.peer port sampleConnection.connectIp
      none,
    .bypassComplete port .fakeDataAcked,
    .relayFinished port sampleRelay]

end ZeroDpi.ConnectionTask
