/-
The socket path passes the client's stream on.

`handle_tcp_seg_connection_with_ip` takes the first record off the stream
when a method needs it, writes what the methods make of it, and leaves the
rest to the relay. `forwards_tcpSegPrefix` says what the part before the
relay does to the stream, arm by arm; with `forwards_relay` behind it
nothing is lost, doubled or reordered, whatever the reads return.

The exception is the walk to the SNI: a handshake record that ends inside
the header of its ClientHello message (`StubHello`) panics the walker
instead of making it fail open, and with it the task. `Fails` is the
triple for a run that stops; a `StubHello` behind a method that walks it
leaves nothing upstream but the ChangeCipherSpec prefix.
-/
import ZeroDpi.Proofs.Connection

namespace ZeroDpi

open Lib ProxyM

variable {α β : Type}

-- ======================================================= runs that stop

/-- On a client with `stream` to send, `x` writes `out` and stops. -/
def Fails (x : ProxyM α) (stream : Bytes) (e : Stop) (out : Bytes) : Prop :=
  ∀ c : Conn, c.arrivals.flatten = stream →
    ∃ c', x c = .error e c'
      ∧ c'.written.flatten = c.written.flatten ++ out

theorem Fails.bind {x : ProxyM α} {stream out : Bytes} {e : Stop}
    (h : Fails x stream e out) (f : α → ProxyM β) :
    Fails (x >>= f) stream e out := by
  intro c hc
  obtain ⟨c', hrun, hwritten⟩ := h c hc
  exact ⟨c', run_bind_error hrun, hwritten⟩

theorem Forwards.fails {x : ProxyM α} {f : α → ProxyM β}
    {stream mid out out' : Bytes} {Q : α → Prop} {e : Stop}
    (hx : Forwards x stream Q out mid)
    (hf : ∀ a, Q a → Fails (f a) mid e out') :
    Fails (x >>= f) stream e (out ++ out') := by
  intro c hc
  obtain ⟨a, c₁, hrun, hQ, hwritten, hleft⟩ := hx c hc
  obtain ⟨c₂, hrun', hwritten'⟩ := hf a hQ c₁ hleft
  refine ⟨c₂, ?_, ?_⟩
  · rw [run_bind_ok hrun]
    exact hrun'
  · rw [hwritten', hwritten, List.append_assoc]

/-- A step that writes nothing before the one that stops. -/
theorem Forwards.silent_fails {x : ProxyM α} {f : α → ProxyM β}
    {stream mid out : Bytes} {Q : α → Prop} {e : Stop}
    (hx : Forwards x stream Q [] mid)
    (hf : ∀ a, Q a → Fails (f a) mid e out) :
    Fails (x >>= f) stream e out :=
  hx.fails hf

theorem fails_orPanic {x : Except Panic α} {p : Panic} (h : x = .error p)
    (stream : Bytes) : Fails (orPanic x) stream (.panic p) [] := by
  intro c _
  refine ⟨c, ?_, (List.append_nil _).symm⟩
  unfold orPanic
  rw [h]

-- ============================================================== the walk

/-- A handshake record that ends inside the header of a ClientHello. -/
def StubHello (record : Bytes) : Prop :=
  record.head? = some 0x16 ∧ record.getD 5 0 = 0x01
    ∧ 6 ≤ record.length ∧ record.length < 9

/-- A record is a header and a body of the length it gives. -/
theorem TlsRecord.shape {record : Bytes} (h : TlsRecord record) :
    ∃ ty v0 v1 l0 l1 body, record = ty :: v0 :: v1 :: l0 :: l1 :: body
      ∧ body.length = be16 l0 l1 := by
  obtain ⟨hheader, hwhole, -⟩ := h
  rcases record with _ | ⟨ty, _ | ⟨v0, _ | ⟨v1, _ | ⟨l0, _ | ⟨l1, body⟩⟩⟩⟩⟩
  iterate 5 simp at hheader
  refine ⟨ty, v0, v1, l0, l1, body, rfl, ?_⟩
  have hwhole : body.length + 1 + 1 + 1 + 1 + 1 = 5 + be16 l0 l1 := hwhole
  omega

/-- The walk, once the record layer is off. -/
theorem findSniBoundary_record {v0 v1 l0 l1 : UInt8} {body : Bytes}
    (hbody : body.length = be16 l0 l1) :
    findSniBoundary (0x16 :: v0 :: v1 :: l0 :: l1 :: body)
      = if body.head? ≠ some 0x01 then .ok none
        else if body.length < 4 then .error .indexOutOfBounds
        else .ok ((slice? body 4 (4 + be24 (body.getD 1 0) (body.getD 2 0)
          (body.getD 3 0))).bind sniInHello) := by
  have hslice : slice? (0x16 :: v0 :: v1 :: l0 :: l1 :: body) 5
      (5 + be16 l0 l1) = some body := by
    rw [slice?, if_pos ⟨by omega, by simp only [List.length_cons]; omega⟩,
      Nat.add_sub_cancel_left, ← hbody]
    exact congrArg some List.take_length
  unfold findSniBoundary
  simp only [hslice, ne_eq, not_true_eq_false, if_false]
  by_cases hfirst : body.head? = some 0x01
  · rw [if_neg (not_not_intro hfirst), if_neg (not_not_intro hfirst)]
    rcases body with _ | ⟨x, _ | ⟨a, _ | ⟨b, _ | ⟨c, rest⟩⟩⟩⟩
    · cases hfirst
    · rfl
    · rfl
    · rfl
    · rw [if_neg (by simp only [List.length_cons]; omega)]
      rfl
  · rw [if_pos hfirst, if_pos hfirst]

/-- The walker panics on a stub. -/
theorem findSniBoundary_stub {record : Bytes} (h : TlsRecord record)
    (hstub : StubHello record) :
    findSniBoundary record = .error .indexOutOfBounds := by
  obtain ⟨ty, v0, v1, l0, l1, body, rfl, hbody⟩ := h.shape
  obtain ⟨hty, hfirst, hlow, hhigh⟩ := hstub
  obtain rfl : ty = 0x16 := by simpa using hty
  simp only [List.length_cons] at hlow hhigh
  obtain ⟨x, body, rfl⟩ := List.exists_cons_of_length_pos
    (show 0 < body.length by omega)
  obtain rfl : x = 0x01 := hfirst
  have hhead : (0x01 :: body : Bytes).head? = some 0x01 := rfl
  rw [findSniBoundary_record hbody, if_neg (not_not_intro hhead),
    if_pos (by omega)]

/-- Every other record is walked; one without room for a handshake header
is nothing the methods parse. -/
theorem findSniBoundary_record_ok {record : Bytes} (h : TlsRecord record)
    (hstub : ¬ StubHello record) :
    HelloHead record ∨
      (parseClientHello record = none
        ∧ findSniBoundary record = .ok none) := by
  have hparse : record.length < 9 ∨ record.getD 0 0 ≠ 0x16 →
      parseClientHello record = none := by
    intro hbad
    cases hlayout : parseClientHello record with
    | none => rfl
    | some layout =>
        obtain ⟨hlen, hty⟩ := parseClientHello_head hlayout
        rcases hbad with hshort | hother
        · omega
        · exact absurd hty hother
  obtain ⟨ty, v0, v1, l0, l1, body, rfl, hbody⟩ := h.shape
  by_cases hty : ty = 0x16
  · subst hty
    by_cases hroom : 4 ≤ be16 l0 l1
    · exact .inl ⟨rfl, .inr hroom⟩
    · have hshort : (0x16 :: v0 :: v1 :: l0 :: l1 :: body).length < 9 := by
        simp only [List.length_cons]
        omega
      refine .inr ⟨hparse (.inl hshort), ?_⟩
      rw [findSniBoundary_record hbody, if_pos]
      intro hfirst
      obtain ⟨rest, rfl⟩ := List.head?_eq_some_iff.mp hfirst
      refine hstub ⟨rfl, rfl, ?_, hshort⟩
      simp only [List.length_cons]
      omega
  · refine .inr ⟨hparse (.inr hty), ?_⟩
    unfold findSniBoundary
    simp only [ne_eq, hty, not_false_eq_true, if_true]

/-- Once the walk is through, the record is split or left whole. -/
theorem TlsRecordSplit.split_of_walk (t : TlsRecordSplit) {hello : Bytes}
    {b : Option SniBoundary} (hb : findSniBoundary hello = .ok b) :
    ∃ r, t.split hello = .ok r := by
  unfold TlsRecordSplit.split
  rw [hb]
  cases b with
  | none => exact ⟨_, rfl⟩
  | some b =>
      by_cases hcut : 5 + be16 (hello.getD 3 0) (hello.getD 4 0)
            > hello.length
          ∨ t.splitPoint.resolve b ≤ 5
          ∨ t.splitPoint.resolve b
            ≥ 5 + be16 (hello.getD 3 0) (hello.getD 4 0)
      · exact ⟨_, if_pos hcut⟩
      · exact ⟨_, if_neg hcut⟩

-- ======================================================== the first record

namespace ConnectionSettings

/-- The socket path takes the first record off the stream. -/
def takesFirstRecord (t : ConnectionSettings) : Bool :=
  t.tlsPadding.isSome || t.mixedCaseSni.isSome || t.sniBoundaryFrag.isSome
    || t.tlsRecordSplit.isSome
    || (t.segmentFirstClientHello && t.tcpSegmentation.packets == .tlsHello)

/-- A method looks for the SNI in the first record. -/
def walksHello (t : ConnectionSettings) : Bool :=
  t.mixedCaseSni.isSome || t.sniBoundaryFrag.isSome
    || t.tlsRecordSplit.isSome

/-- The re-framing step, falling back to its input. -/
def reframed (t : ConnectionSettings) (hello : Bytes) : Except Panic Bytes :=
  match t.tlsRecordSplit with
  | some recordSplit => recordSplit.onWire hello
  | none => .ok hello

/-- The bytes that take the place of the first record: `tls_padding`, then
`mixed_case_sni`, then `tls_record_split`. -/
def firstRecordOnWire (t : ConnectionSettings) (env : SocketEnv)
    (record : Bytes) : Except Panic Bytes :=
  t.applySocketTransforms env record >>= t.reframed

/-- No method stops at the first record. -/
structure Cleared (t : ConnectionSettings) (env : SocketEnv)
    (record hello wire : Bytes) : Prop where
  transformed : t.applySocketTransforms env record = .ok hello
  offset : ∀ boundary, t.sniBoundaryFrag = some boundary →
    ∃ o, boundary.splitOffset hello = .ok o
  onWire : t.reframed hello = .ok wire

variable {cfg : Config} {t : ConnectionSettings} {env : SocketEnv}

theorem padRecord_of_parse_none {record : Bytes}
    (h : parseClientHello record = none) : t.padRecord env record = record := by
  unfold padRecord
  cases t.tlsPadding with
  | none => rfl
  | some padding =>
      have happly : padding.apply env.paddingRng record = none := by
        unfold TlsPadding.apply
        rw [h]
        rfl
      simp only [happly]
      rfl

theorem applySocketTransforms_of_parse_none {record : Bytes}
    (h : parseClientHello record = none)
    (hwalk : t.mixedCaseSni.isSome = true →
      findSniBoundary record = .ok none) :
    t.applySocketTransforms env record = .ok record := by
  unfold applySocketTransforms
  rw [padRecord_of_parse_none h]
  cases hmixed : t.mixedCaseSni with
  | none => rfl
  | some mixed =>
      have hrange : findSniRange record = .ok none := by
        unfold findSniRange
        rw [hwalk (by rw [hmixed]; rfl)]
        rfl
      simp only [MixedCaseSni.apply, hrange]
      rfl

/-- A transformed record the walker gets through clears every method. -/
theorem cleared_of_walk {record hello : Bytes} {b : Option SniBoundary}
    (htransformed : t.applySocketTransforms env record = .ok hello)
    (hwalk : t.walksHello = true → findSniBoundary hello = .ok b) :
    ∃ wire, t.Cleared env record hello wire := by
  have hoffset : ∀ boundary, t.sniBoundaryFrag = some boundary →
      ∃ o, boundary.splitOffset hello = .ok o := by
    intro boundary hboundary
    have hb := hwalk (by unfold walksHello; rw [hboundary]; simp)
    unfold SniBoundaryFrag.splitOffset
    rw [hb]
    cases b with
    | none => exact ⟨_, rfl⟩
    | some b => exact ⟨_, rfl⟩
  cases hsplit : t.tlsRecordSplit with
  | none =>
      refine ⟨hello, htransformed, hoffset, ?_⟩
      unfold reframed
      rw [hsplit]
  | some recordSplit =>
      have hb := hwalk (by unfold walksHello; rw [hsplit]; simp)
      obtain ⟨r, hr⟩ := recordSplit.split_of_walk hb
      obtain ⟨wire, hwire⟩ : ∃ wire, recordSplit.onWire hello = .ok wire := by
        unfold TlsRecordSplit.onWire
        rw [hr]
        cases r with
        | none => exact ⟨_, rfl⟩
        | some pair => exact ⟨_, rfl⟩
      refine ⟨wire, htransformed, hoffset, ?_⟩
      unfold reframed
      rw [hsplit]
      exact hwire

/-- Only a stub stops a method, and only one that walks it. -/
theorem cleared_of_not_stub (t : ConnectionSettings) (env : SocketEnv)
    {record : Bytes} (h : TlsRecord record)
    (hok : ¬ (t.walksHello = true ∧ StubHello record)) :
    ∃ hello wire, t.Cleared env record hello wire := by
  by_cases hstub : StubHello record
  · have hwalks : t.walksHello = false := by simpa [hstub] using hok
    have hmixed : t.mixedCaseSni.isSome = false := by
      unfold walksHello at hwalks
      simp only [Bool.or_eq_false_iff] at hwalks
      exact hwalks.1.1
    have hparse : parseClientHello record = none := by
      cases hlayout : parseClientHello record with
      | none => rfl
      | some layout =>
          have := (parseClientHello_head hlayout).1
          have := hstub.2.2.2
          omega
    have htransformed : t.applySocketTransforms env record = .ok record := by
      refine applySocketTransforms_of_parse_none hparse ?_
      intro hsome
      rw [hmixed] at hsome
      cases hsome
    obtain ⟨wire, hcleared⟩ := cleared_of_walk (b := none) htransformed (by
      intro htrue
      rw [hwalks] at htrue
      cases htrue)
    exact ⟨record, wire, hcleared⟩
  · rcases findSniBoundary_record_ok h hstub with hhead | ⟨hparse, hnone⟩
    · obtain ⟨hello, htransformed, hhead⟩ :=
        t.applySocketTransforms_head env hhead
      obtain ⟨b, hb⟩ := findSniBoundary_ok hhead
      obtain ⟨wire, hcleared⟩ := cleared_of_walk htransformed fun _ => hb
      exact ⟨hello, wire, hcleared⟩
    · have htransformed : t.applySocketTransforms env record = .ok record :=
        applySocketTransforms_of_parse_none hparse fun _ => hnone
      obtain ⟨wire, hcleared⟩ := cleared_of_walk htransformed fun _ => hnone
      exact ⟨record, wire, hcleared⟩

theorem takesFirstRecord_of_walksHello (h : t.walksHello = true) :
    t.takesFirstRecord = true := by
  unfold walksHello at h
  simp only [Bool.or_eq_true] at h
  unfold takesFirstRecord
  rcases h with (hsome | hsome) | hsome <;> simp [hsome]

/-- What the socket path may find at the front of the stream. -/
def StartsWith (t : ConnectionSettings) (record : Bytes) : Prop :=
  if t.takesFirstRecord then TlsRecord record else record = []

/-- Without a transform the record stays as it is. -/
theorem applySocketTransforms_none {record : Bytes}
    (hpadding : t.tlsPadding = none) (hmixed : t.mixedCaseSni = none) :
    t.applySocketTransforms env record = .ok record := by
  unfold applySocketTransforms padRecord
  rw [hpadding, hmixed]
  rfl

/-- The transforms take the first record off the stream. -/
theorem Reads.forwards_transformed (h : t.Reads cfg)
    (hlisted : (t.tlsPadding.isSome || t.mixedCaseSni.isSome) = true)
    {record hello : Bytes} (hrecord : TlsRecord record)
    (hhello : t.applySocketTransforms env record = .ok hello)
    (rest : Bytes) :
    Forwards (readTransformedPrefix cfg env) (record ++ rest)
      (· = some hello) [] rest := by
  unfold readTransformedPrefix
  rw [h.contains_tlsPadding, h.contains_mixedCaseSni, if_pos hlisted]
  refine Forwards.silent
    (forwards_withContext _ (forwards_readOneTlsRecord hrecord rest)) ?_
  intro record' hval
  subst hval
  have hhello := (h.socketTransforms_eq env record').trans hhello
  refine Forwards.silent (forwards_orPanic hhello rest) ?_
  intro hello' hval
  subst hval
  exact forwards_pure _ rest

theorem Reads.forwards_untransformed (h : t.Reads cfg)
    (hlisted : (t.tlsPadding.isSome || t.mixedCaseSni.isSome) = false)
    (stream : Bytes) :
    Forwards (readTransformedPrefix cfg env) stream (· = none) [] stream := by
  unfold readTransformedPrefix
  rw [h.contains_tlsPadding, h.contains_mixedCaseSni, hlisted]
  exact forwards_pure none stream

theorem readFirstRecord_some (needed : Bool) (record : Bytes) :
    readFirstRecord needed (some record) = pure (some record) := by
  cases needed with
  | true => rfl
  | false => rfl

/-- One of the later arms needs the first record. -/
def needsFirstRecord (t : ConnectionSettings) : Bool :=
  t.sniBoundaryFrag.isSome || t.tlsRecordSplit.isSome
    || (t.segmentFirstClientHello && t.tcpSegmentation.packets == .tlsHello)

/-- Both reads of the socket path together: the first record, transformed,
if a method takes it. -/
theorem Reads.forwards_firstRecord (h : t.Reads cfg)
    {record hello : Bytes}
    (hhello : t.applySocketTransforms env record = .ok hello)
    (hstart : t.StartsWith record) (rest : Bytes) :
    Forwards
      (readTransformedPrefix cfg env >>= readFirstRecord t.needsFirstRecord)
      (record ++ rest)
      (· = if t.takesFirstRecord then some hello else none) [] rest := by
  have htakes : t.takesFirstRecord
      = (t.tlsPadding.isSome || t.mixedCaseSni.isSome
        || t.needsFirstRecord) := by
    simp only [takesFirstRecord, needsFirstRecord, Bool.or_assoc]
  unfold StartsWith at hstart
  rw [htakes] at hstart ⊢
  cases hlisted : t.tlsPadding.isSome || t.mixedCaseSni.isSome with
  | true =>
      rw [hlisted] at hstart
      refine Forwards.silent
        (h.forwards_transformed hlisted hstart hhello rest) ?_
      intro transformed hval
      subst hval
      rw [readFirstRecord_some]
      exact forwards_pure _ rest
  | false =>
      rw [hlisted] at hstart
      simp only [Bool.or_eq_false_iff, Option.isSome_eq_false_iff,
        Option.isNone_iff_eq_none] at hlisted
      obtain rfl : record = hello :=
        Except.ok.inj ((applySocketTransforms_none hlisted.1
          hlisted.2).symm.trans hhello)
      refine Forwards.silent (h.forwards_untransformed ?_ _) ?_
      · rw [hlisted.1, hlisted.2]
        rfl
      intro transformed hval
      subst hval
      cases hneeded : t.needsFirstRecord with
      | true =>
          rw [hneeded] at hstart
          refine Forwards.silent
            (forwards_withContext _ (forwards_readOneTlsRecord hstart rest)) ?_
          intro record' hval
          subst hval
          exact forwards_pure _ rest
      | false =>
          rw [hneeded] at hstart
          obtain rfl : record = [] := hstart
          exact forwards_pure none rest

/-- The relay is handed the segmentation of the settings, or none. -/
def HandsOver (t : ConnectionSettings)
    (clientFragmentation : Option (TcpSegmentation × UInt32)) : Prop :=
  ∀ seg i, clientFragmentation = some (seg, i) → seg = t.tcpSegmentation

theorem handsOver_none (t : ConnectionSettings) : t.HandsOver none := by
  intro seg i h
  cases h

theorem handsOver_later (t : ConnectionSettings) (writeIndex : UInt32) :
    t.HandsOver (t.later writeIndex) := by
  intro seg i h
  unfold later at h
  split at h
  · cases h
    rfl
  · cases h

/-- A writer of the first record, then what it hands over. -/
theorem forwards_handsOver {x : ProxyM Unit} {stream out : Bytes}
    {f : Option (TcpSegmentation × UInt32)} (hf : t.HandsOver f)
    (hx : Forwards x stream (fun _ => True) out stream) :
    Forwards (x >>= fun _ => pure f) stream t.HandsOver out stream := by
  have h := hx.bind fun _ _ =>
    (forwards_pure f stream).weaken fun f' hval => hval ▸ hf
  rw [List.append_nil] at h
  exact h

theorem Valid.segmentation (h : t.Valid cfg) : t.tcpSegmentation.Valid :=
  ⟨h.length, h.interval⟩

/-- The arm of each method writes the first record as the methods leave
it. -/
theorem Reads.forwards_writeFirstRecord (h : t.Reads cfg)
    (hvalid : t.Valid cfg) {record hello wire : Bytes}
    (hcleared : t.Cleared env record hello wire) (stream : Bytes) :
    Forwards (writeFirstRecord cfg t.tcpSegmentation (some hello)) stream
      t.HandsOver wire stream := by
  have hwire := hcleared.onWire
  unfold reframed at hwire
  cases hsplit : t.tlsRecordSplit with
  | some recordSplit =>
      rw [hsplit] at hwire
      rw [h.writeFirstRecord_split hsplit]
      exact forwards_handsOver (t.handsOver_later 1)
        (forwards_writeSplitRecords (hvalid.splitDelay _ hsplit) hwire stream)
  | none =>
      rw [hsplit] at hwire
      obtain rfl : hello = wire := Except.ok.inj hwire
      cases hboundary : t.sniBoundaryFrag with
      | some boundary =>
          obtain ⟨o, ho⟩ := hcleared.offset boundary hboundary
          rw [h.writeFirstRecord_boundary hsplit hboundary]
          exact forwards_handsOver (t.handsOver_later 1)
            (forwards_writeBoundary (hvalid.boundaryDelay _ hboundary) ho
              stream)
      | none =>
          rw [h.writeFirstRecord_unsplit hsplit hboundary]
          split
          · exact forwards_handsOver t.handsOver_none
              (forwards_writeFragments hvalid.segmentation hello stream)
          · exact forwards_handsOver (t.handsOver_later 0)
              (forwards_writeWhole hello stream)

/-- A list that takes no first record has no method with an arm for it. -/
theorem untaken_eq_none (h : t.takesFirstRecord = false) :
    t.tlsPadding = none ∧ t.mixedCaseSni = none ∧ t.sniBoundaryFrag = none
      ∧ t.tlsRecordSplit = none := by
  simp only [takesFirstRecord, Bool.or_eq_false_iff,
    Option.isSome_eq_false_iff, Option.isNone_iff_eq_none] at h
  exact ⟨h.1.1.1.1, h.1.1.1.2, h.1.1.2, h.1.2⟩

theorem StartsWith.cleared {record : Bytes} (h : t.StartsWith record)
    (env : SocketEnv) (hok : ¬ (t.walksHello = true ∧ StubHello record)) :
    ∃ hello wire, t.Cleared env record hello wire := by
  unfold StartsWith at h
  cases htakes : t.takesFirstRecord with
  | true =>
      rw [if_pos htakes] at h
      exact t.cleared_of_not_stub env h hok
  | false =>
      obtain ⟨hpadding, hmixed, hboundary, hsplit⟩ := untaken_eq_none htakes
      refine ⟨record, record, applySocketTransforms_none hpadding hmixed,
        ?_, ?_⟩
      · intro boundary hsome
        rw [hboundary] at hsome
        cases hsome
      · unfold reframed
        rw [hsplit]

/-- The part before the relay is the prefix, the first record read, and
the first record written. -/
theorem Reads.tcpSegPrefix_bind (h : t.Reads cfg) :
    tcpSegPrefix cfg env
      = writeCcsPrefix t.ccsPrefix >>= fun _ =>
        (readTransformedPrefix cfg env >>= readFirstRecord t.needsFirstRecord)
          >>= writeFirstRecord cfg t.tcpSegmentation := by
  have hpure : ∀ {α : Type} (a : α), orPanic (.ok a) = pure a :=
    fun _ => rfl
  simp only [tcpSegPrefix, h.segmentation, h.ccs, hpure, pure_bind,
    h.contains_sniBoundaryFrag, h.contains_tlsRecordSplit, ← h.segments,
    bind_assoc]
  rfl

/-- The socket path before its relay: the prefix, and what becomes of the
first record. -/
theorem Reads.forwards_tcpSegPrefix (h : t.Reads cfg)
    (hvalid : t.Valid cfg) {record hello wire : Bytes}
    (hcleared : t.Cleared env record hello wire)
    (hstart : t.StartsWith record) (rest : Bytes) :
    Forwards (tcpSegPrefix cfg env) (record ++ rest) t.HandsOver
      (t.ccsBytes ++ wire) rest := by
  rw [h.tcpSegPrefix_bind]
  refine Forwards.bind (forwards_writeCcsPrefix t _) ?_
  intro _ _
  refine Forwards.silent
    (h.forwards_firstRecord hcleared.transformed hstart rest) ?_
  intro firstRecord hval
  subst hval
  unfold StartsWith at hstart
  cases htakes : t.takesFirstRecord with
  | true => exact h.forwards_writeFirstRecord hvalid hcleared rest
  | false =>
      rw [htakes] at hstart
      obtain ⟨hpadding, hmixed, hboundary, hsplit⟩ := untaken_eq_none htakes
      have hhello := hcleared.transformed
      have hwire := hcleared.onWire
      rw [applySocketTransforms_none hpadding hmixed] at hhello
      unfold reframed at hwire
      rw [hsplit] at hwire
      obtain rfl : record = [] := hstart
      obtain rfl := Except.ok.inj hhello
      obtain rfl : [] = wire := Except.ok.inj hwire
      show Forwards (writeFirstRecord cfg t.tcpSegmentation none) _ _ _ _
      rw [h.writeFirstRecord_none hboundary]
      exact (forwards_pure _ rest).weaken fun f hval =>
        hval ▸ t.handsOver_later 0

-- ==================================================== a stub on the path

theorem parseClientHello_stub {record : Bytes} (h : StubHello record) :
    parseClientHello record = none := by
  cases hlayout : parseClientHello record with
  | none => rfl
  | some layout =>
      have := (parseClientHello_head hlayout).1
      have := h.2.2.2
      omega

theorem applySocketTransforms_stub {record : Bytes} (h : TlsRecord record)
    (hstub : StubHello record) {mixed : MixedCaseSni}
    (hmixed : t.mixedCaseSni = some mixed) :
    t.applySocketTransforms env record = .error .indexOutOfBounds := by
  have hrange : findSniRange record = .error .indexOutOfBounds := by
    unfold findSniRange
    rw [findSniBoundary_stub h hstub]
    rfl
  unfold applySocketTransforms
  rw [padRecord_of_parse_none (parseClientHello_stub hstub), hmixed]
  simp only [MixedCaseSni.apply, hrange]
  rfl

/-- The splitting arms walk the record before they write any of it. -/
theorem Reads.fails_writeFirstRecord (h : t.Reads cfg) {record : Bytes}
    (hrecord : TlsRecord record) (hstub : StubHello record)
    (hwalks : t.walksHello = true) (hmixed : t.mixedCaseSni = none)
    (stream : Bytes) :
    Fails (writeFirstRecord cfg t.tcpSegmentation (some record)) stream
      (.panic .indexOutOfBounds) [] := by
  have hwalk := findSniBoundary_stub hrecord hstub
  cases hsplit : t.tlsRecordSplit with
  | some recordSplit =>
      have herror : recordSplit.split record = .error .indexOutOfBounds := by
        unfold TlsRecordSplit.split
        rw [hwalk]
        rfl
      rw [h.writeFirstRecord_split hsplit]
      exact Fails.bind (Fails.bind (fails_orPanic herror stream) _) _
  | none =>
      cases hboundary : t.sniBoundaryFrag with
      | some boundary =>
          have herror : boundary.splitOffset record
              = .error .indexOutOfBounds := by
            unfold SniBoundaryFrag.splitOffset
            rw [hwalk]
            rfl
          rw [h.writeFirstRecord_boundary hsplit hboundary]
          exact Fails.bind (Fails.bind (fails_orPanic herror stream) _) _
      | none =>
          unfold walksHello at hwalks
          rw [hmixed, hsplit, hboundary] at hwalks
          cases hwalks

/-- A stub behind a method that walks it ends the task; the prefix is all
that was written. -/
theorem Reads.fails_tcpSegPrefix (h : t.Reads cfg) {record : Bytes}
    (hrecord : TlsRecord record) (hstub : StubHello record)
    (hwalks : t.walksHello = true) (rest : Bytes) :
    Fails (tcpSegPrefix cfg env) (record ++ rest)
      (.panic .indexOutOfBounds) t.ccsBytes := by
  have htakes := takesFirstRecord_of_walksHello hwalks
  have hread : Fails
      (readTransformedPrefix cfg env >>= readFirstRecord t.needsFirstRecord
        >>= writeFirstRecord cfg t.tcpSegmentation)
      (record ++ rest) (.panic .indexOutOfBounds) [] := by
    cases hmixed : t.mixedCaseSni with
    | some mixed =>
        have herror := (h.socketTransforms_eq env record).trans
          (applySocketTransforms_stub hrecord hstub hmixed)
        refine Fails.bind (Fails.bind ?_ _) _
        unfold readTransformedPrefix
        rw [h.contains_mixedCaseSni, hmixed, if_pos (by simp)]
        refine Forwards.silent_fails (forwards_withContext _
          (forwards_readOneTlsRecord hrecord rest)) ?_
        intro record' hval
        subst hval
        exact Fails.bind (fails_orPanic herror rest) _
    | none =>
        have hhello : t.applySocketTransforms env record = .ok record := by
          refine applySocketTransforms_of_parse_none
            (parseClientHello_stub hstub) ?_
          intro hsome
          rw [hmixed] at hsome
          cases hsome
        have hstart : t.StartsWith record := by
          unfold StartsWith
          rw [if_pos htakes]
          exact hrecord
        refine Forwards.silent_fails
          (h.forwards_firstRecord hhello hstart rest) ?_
        intro firstRecord hval
        rw [if_pos htakes] at hval
        subst hval
        exact h.fails_writeFirstRecord hrecord hstub hwalks hmixed rest
  rw [← List.append_nil t.ccsBytes, h.tcpSegPrefix_bind]
  refine Forwards.fails (forwards_writeCcsPrefix t _) ?_
  intro _ _
  exact hread

end ConnectionSettings

-- ============================================================ the stream

/-- Everything the client sends goes upstream, behind the prefix and with
the first record as the methods leave it. -/
theorem ConnectionSettings.Reads.forwards_socketPath {cfg : Config}
    {t : ConnectionSettings} {env : SocketEnv} (h : t.Reads cfg)
    (hvalid : t.Valid cfg) {record hello wire : Bytes}
    (hcleared : t.Cleared env record hello wire)
    (hstart : t.StartsWith record) (rest : Bytes) :
    Forwards (handleTcpSegConnectionWithIp cfg env) (record ++ rest)
      (fun _ => True) (t.ccsBytes ++ wire ++ rest) [] := by
  refine Forwards.bind
    (h.forwards_tcpSegPrefix hvalid hcleared hstart rest) ?_
  intro clientFragmentation hhands
  refine forwards_relay ?_ rest
  intro seg i hsome
  rw [hhands seg i hsome]
  exact hvalid.segmentation

/-- For every validated list, every client stream and every way it is cut
into reads, the bytes written upstream are the prefix, the first record as
the methods leave it, and the rest of the stream, exactly unless a method
that walks to the SNI is handed a record that ends inside the header of
its ClientHello. -/
theorem socket_stream_integrity_iff (cfg : Config)
    (hv : cfg.validate = .ok ()) (t : ConnectionSettings)
    (ht : ConnectionSettings.fromConfig cfg = .ok t) (env : ConnEnv)
    (client : List Bytes) (record rest : Bytes)
    (hclient : client.flatten = record ++ rest)
    (hstart : t.StartsWith record) :
    (∃ copied c wire,
        handleTcpSegConnectionWithIp cfg env.toSocketEnv
            (.established client env) = .ok copied c
          ∧ t.firstRecordOnWire env.toSocketEnv record = .ok wire
          ∧ c.written.flatten = t.ccsBytes ++ wire ++ rest)
      ↔ ¬ (t.walksHello = true ∧ StubHello record) := by
  obtain ⟨t', ht', hvalid⟩ := ConnectionSettings.fromConfig_ok hv
  obtain rfl : t' = t := Except.ok.inj (ht'.symm.trans ht)
  have hreads := ConnectionSettings.reads_of_fromConfig ht
  constructor
  · intro hruns hbad
    obtain ⟨copied, c, wire, hrun, -, -⟩ := hruns
    obtain ⟨hwalks, hstub⟩ := hbad
    have hrecord : TlsRecord record := by
      unfold ConnectionSettings.StartsWith at hstart
      rw [if_pos (ConnectionSettings.takesFirstRecord_of_walksHello hwalks)]
        at hstart
      exact hstart
    obtain ⟨c', hfails, -⟩ := Fails.bind
      (hreads.fails_tcpSegPrefix hrecord hstub hwalks rest)
      copyCountingClientToServer (.established client env) hclient
    have hrun : (tcpSegPrefix cfg env.toSocketEnv
      >>= copyCountingClientToServer) (.established client env)
        = .ok copied c := hrun
    rw [hfails] at hrun
    cases hrun
  · intro hok
    obtain ⟨hello, wire, hcleared⟩ := hstart.cleared env.toSocketEnv hok
    obtain ⟨copied, c, hrun, -, hwritten, -⟩ :=
      hreads.forwards_socketPath hvalid hcleared hstart rest
        (.established client env) hclient
    exact ⟨copied, c, wire, hrun,
      bind_eq_ok.mpr ⟨hello, hcleared.transformed, hcleared.onWire⟩, hwritten⟩

/-- Every method that touches the first record but `sni_boundary_frag`. -/
def sampleSocketConfig : Config :=
  { bypassMethod := [.ccsPrefix, .tlsPadding, .mixedCaseSni,
      .tlsRecordSplit, .tlsFrag] }

/-- Seeds that are all zero. -/
def sampleConnEnv : ConnEnv where
  paddingRng := 0
  mixedCaseRng := 0
  fragmentRng := 0
  laterRngs _ := 0

theorem sampleHello_tlsRecord : TlsRecord sampleHello where
  header := by decide
  whole := by decide
  limit := by decide

/-- The sample ClientHello in two reads, with three bytes behind it. -/
theorem sample_socket_stream_integrity :
    ∃ t copied c wire,
      ConnectionSettings.fromConfig sampleSocketConfig = .ok t
      ∧ handleTcpSegConnectionWithIp sampleSocketConfig
          sampleConnEnv.toSocketEnv
          (.established [sampleHello.take 3, sampleHello.drop 3 ++ [1, 2], [3]]
            sampleConnEnv) = .ok copied c
      ∧ t.firstRecordOnWire sampleConnEnv.toSocketEnv sampleHello = .ok wire
      ∧ c.written.flatten = t.ccsBytes ++ wire ++ [1, 2, 3] := by
  obtain ⟨copied, c, wire, hrun, hwire, hwritten⟩ :=
    (socket_stream_integrity_iff sampleSocketConfig rfl _ rfl sampleConnEnv
      [sampleHello.take 3, sampleHello.drop 3 ++ [1, 2], [3]] sampleHello
      [1, 2, 3] rfl sampleHello_tlsRecord).mpr (by
        intro hbad
        exact absurd hbad.2.2.2.2 (by decide))
  exact ⟨_, copied, c, wire, rfl, hrun, hwire, hwritten⟩

/-- `["mixed_case_sni"]` and a client that sends a one-byte handshake
record: the task panics and the record is lost. -/
theorem stub_hello_ends_task :
    ∃ t, Config.validate { bypassMethod := [.mixedCaseSni] } = .ok ()
      ∧ ConnectionSettings.fromConfig { bypassMethod := [.mixedCaseSni] }
          = .ok t
      ∧ TlsRecord [0x16, 3, 1, 0, 1, 1]
      ∧ t.StartsWith [0x16, 3, 1, 0, 1, 1]
      ∧ (∃ c, handleTcpSegConnectionWithIp
          { bypassMethod := [.mixedCaseSni] } sampleConnEnv.toSocketEnv
          (.established [[0x16, 3, 1, 0, 1, 1]] sampleConnEnv)
            = .error (.panic .indexOutOfBounds) c ∧ c.written = [])
      ∧ ¬ ∃ copied c wire, handleTcpSegConnectionWithIp
          { bypassMethod := [.mixedCaseSni] } sampleConnEnv.toSocketEnv
          (.established [[0x16, 3, 1, 0, 1, 1]] sampleConnEnv)
            = .ok copied c
          ∧ t.firstRecordOnWire sampleConnEnv.toSocketEnv
              [0x16, 3, 1, 0, 1, 1] = .ok wire
          ∧ c.written.flatten = t.ccsBytes ++ wire ++ [] := by
  refine ⟨_, rfl, rfl, ⟨by decide, by decide, by decide⟩,
    ⟨by decide, by decide, by decide⟩, ⟨_, rfl, rfl⟩, ?_⟩
  intro hruns
  obtain ⟨copied, c, wire, hrun, -⟩ := hruns
  cases hrun

end ZeroDpi
