/-
The first data packet of a flow that waits for data.

The proxy decides what it writes first (`readyForDataWrites`), the
handler decides which packet gets the data stage (`DataPacket`). This
module composes the two. `helloOnWire` says what the socket-side methods
make of the ClientHello, however it is cut into writes; the writes of the
branch concatenate to it, behind the ChangeCipherSpec prefix when there
is one.

TCP hands the handler a segmentation of that stream that neither side
chooses, so the first data packet is any non-empty initial run of it.
-/
import ZeroDpi.Proofs.Socket
import ZeroDpi.Proofs.Composed
import ZeroDpi.Proofs.DataStage

namespace ZeroDpi

open Lib Handler

-- ============================================================ the client

/-- A TLS record that holds exactly one ClientHello message. -/
structure CompleteHello (record : Bytes) : Prop where
  handshake : record.head? = some 0x16
  whole : record.length
    = 5 + be16 (record.getD 3 0) (record.getD 4 0)
  clientHello : record.getD 5 0 = 0x01
  message : be16 (record.getD 3 0) (record.getD 4 0)
    = 4 + be24 (record.getD 6 0) (record.getD 7 0) (record.getD 8 0)

/-- The client sends `record` first: it is the record the proxy assembles,
and one `read` returns an initial run of it and whatever follows. -/
structure SendsFirst (record : Bytes)
    (input : ConnectionSettings.ClientInput) : Prop where
  firstRecord : input.firstRecord = record
  nonempty : input.firstWrite ≠ []
  firstWrite : ∃ more, input.firstWrite <+: record ++ more

theorem CompleteHello.length {record : Bytes} (h : CompleteHello record) :
    9 ≤ record.length := by
  have := h.whole
  have := h.message
  omega

theorem CompleteHello.helloHead {record : Bytes} (h : CompleteHello record) :
    HelloHead record where
  head := h.handshake
  room := by
    have := h.message
    exact .inr (by omega)

/-- What one `read` returns starts like the record. -/
theorem SendsFirst.helloHead {record : Bytes}
    {input : ConnectionSettings.ClientInput} (h : SendsFirst record input)
    (hello : CompleteHello record) : HelloHead input.firstWrite := by
  have hlen := hello.length
  obtain ⟨more, rest, hrest⟩ := h.firstWrite
  refine hello.helloHead.of_agree (by omega) h.nonempty fun i hi hlt => ?_
  calc input.firstWrite[i]?
      = (input.firstWrite ++ rest)[i]? :=
        (List.getElem?_append_left hlt).symm
    _ = (record ++ more)[i]? := by rw [hrest]
    _ = record[i]? := List.getElem?_append_left (by omega)

-- ======================================================= what is written

namespace ConnectionSettings

/-- The client bytes the branch transforms: one `read` under a `tls_frag`
write range, the first record otherwise. -/
def helloSource (t : ConnectionSettings) (input : ClientInput) : Bytes :=
  match t.sniBoundaryFrag, t.tlsRecordSplit, t.tcpSegmentation.packets with
  | none, none, .writeRange _ _ =>
      if t.segmentFirstClientHello then input.firstWrite
      else input.firstRecord
  | _, _, _ => input.firstRecord

/-- The ClientHello re-framed as two records where `tls_record_split` is
the writer and finds its cut. -/
def reframe (t : ConnectionSettings) (hello : Bytes) : Except Panic Bytes :=
  match t.sniBoundaryFrag, t.tlsRecordSplit with
  | none, some recordSplit => do
      match ← recordSplit.split hello with
      | some (first, second) => return first ++ second
      | none => return hello
  | _, _ => return hello

/-- The ClientHello as it goes out: padded, re-cased, re-framed. -/
def helloOnWire (t : ConnectionSettings) (env : SocketEnv)
    (input : ClientInput) : Except Panic Bytes :=
  t.applySocketTransforms env (t.helloSource input) >>= t.reframe

/-- The writer of the branch, on the transformed ClientHello. -/
def cutWrites (t : ConnectionSettings) (env : SocketEnv) (hello : Bytes) :
    Except Panic (List Bytes) :=
  match t.sniBoundaryFrag, t.tlsRecordSplit with
  | some boundary, _ => do
      match ← boundary.splitOffset hello with
      | some split => writeBoundarySplit hello split boundary.delayMs
      | none => return [hello]
  | none, some recordSplit => do
      match ← recordSplit.split hello with
      | some (first, second) =>
          writeRecordSplit first second recordSplit.delayMs
      | none => return [hello]
  | none, none =>
      let seg := t.tcpSegmentation
      if t.segmentFirstClientHello
          && (seg.packets == .tlsHello || seg.fragmentsWrite 1) then
        writeFragmented hello seg.length seg.intervalMs env.fragmentRng
      else return [hello]

/-- The branch transforms its source and hands it to the writer. -/
theorem helloWrites_eq (t : ConnectionSettings) (env : SocketEnv)
    (input : ClientInput) :
    t.helloWrites env input
      = t.applySocketTransforms env (t.helloSource input)
          >>= t.cutWrites env := by
  unfold helloWrites helloSource cutWrites
  cases t.sniBoundaryFrag with
  | some boundary => rfl
  | none =>
      cases t.tlsRecordSplit with
      | some recordSplit => rfl
      | none =>
          simp only
          cases t.segmentFirstClientHello with
          | false => cases t.tcpSegmentation.packets <;> rfl
          | true =>
              cases t.tcpSegmentation.packets with
              | tlsHello => rfl
              | writeRange start stop => rfl

theorem helloSource_head (t : ConnectionSettings) {record : Bytes}
    {input : ClientInput} (hello : CompleteHello record)
    (hsends : SendsFirst record input) :
    HelloHead (t.helloSource input) := by
  have hrecord : HelloHead input.firstRecord := by
    rw [hsends.firstRecord]
    exact hello.helloHead
  unfold helloSource
  split
  · split
    · exact hsends.helloHead hello
    · exact hrecord
  · exact hrecord

/-- The writes are the re-framed ClientHello, cut up. -/
theorem cutWrites_spec {cfg : Config} {t : ConnectionSettings}
    (ht : t.Valid cfg) (env : SocketEnv) {hello : Bytes}
    (hhead : HelloHead hello) :
    ∃ ws, t.cutWrites env hello = .ok ws
      ∧ t.reframe hello = .ok ws.flatten
      ∧ ws.flatten.head? = some 0x16 := by
  have hwhole : [hello].flatten = hello := by simp
  unfold cutWrites reframe
  cases hboundary : t.sniBoundaryFrag with
  | some boundary =>
      obtain ⟨o, ho, hrange⟩ := boundary.splitOffset_spec hhead
      cases o with
      | none =>
          refine ⟨[hello], bind_eq_ok.mpr ⟨none, ho, rfl⟩, ?_⟩
          rw [hwhole]
          exact ⟨rfl, hhead.head⟩
      | some split =>
          refine ⟨[hello.take split, hello.drop split],
            bind_eq_ok.mpr ⟨some split, ho, ?_⟩, ?_⟩
          · simp only [writeBoundarySplit]
            rw [if_neg (not_not_intro (hrange split rfl)),
              if_neg (ht.boundaryDelay boundary hboundary)]
          · rw [List.flatten_cons, List.flatten_singleton,
              List.take_append_drop]
            exact ⟨rfl, hhead.head⟩
  | none =>
      cases hsplit : t.tlsRecordSplit with
      | some recordSplit =>
          obtain ⟨r, hr, hfirst⟩ := recordSplit.split_spec hhead
          cases r with
          | none =>
              refine ⟨[hello], bind_eq_ok.mpr ⟨none, hr, rfl⟩, ?_⟩
              rw [hwhole]
              exact ⟨bind_eq_ok.mpr ⟨none, hr, rfl⟩, hhead.head⟩
          | some pair =>
              obtain ⟨first, second⟩ := pair
              refine ⟨[first, second], bind_eq_ok.mpr ⟨_, hr, ?_⟩, ?_⟩
              · exact if_neg (ht.splitDelay recordSplit hsplit)
              · rw [List.flatten_cons, List.flatten_singleton]
                refine ⟨bind_eq_ok.mpr ⟨_, hr, rfl⟩, ?_⟩
                rw [List.head?_append, hfirst first second rfl]
                rfl
      | none =>
          simp only
          split
          · obtain ⟨ws, hws, rfl⟩ :=
              ht.writeFragmented_flatten env.fragmentRng hello
            exact ⟨ws, hws, rfl, hhead.head⟩
          · refine ⟨[hello], rfl, ?_⟩
            rw [hwhole]
            exact ⟨rfl, hhead.head⟩

/-- The ClientHello writes are `helloOnWire`, cut up. -/
theorem helloWrites_spec {cfg : Config} {t : ConnectionSettings}
    (ht : t.Valid cfg) (env : SocketEnv) {record : Bytes}
    {input : ClientInput} (hello : CompleteHello record)
    (hsends : SendsFirst record input) :
    ∃ ws, t.helloWrites env input = .ok ws
      ∧ t.helloOnWire env input = .ok ws.flatten
      ∧ ws.flatten.head? = some 0x16 := by
  obtain ⟨out, hout, hhead⟩ :=
    t.applySocketTransforms_head env (t.helloSource_head hello hsends)
  obtain ⟨ws, hws, hframe, hfirst⟩ := cutWrites_spec ht env hhead
  refine ⟨ws, ?_, bind_eq_ok.mpr ⟨out, hout, hframe⟩, hfirst⟩
  rw [helloWrites_eq]
  exact bind_eq_ok.mpr ⟨out, hout, hws⟩

end ConnectionSettings

-- ================================================ the two sides composed

/-- The payload of a first data packet on the stream the writes make. -/
def FirstSegment (ws : List Bytes) (payload : Bytes) : Prop :=
  payload ≠ [] ∧ payload <+: ws.flatten

/-- The ChangeCipherSpec record and the ClientHello disagree in their
first byte. -/
theorem not_prefix_of_head {a : UInt8} {p l l' : Bytes} (hp : p ≠ [])
    (h : p <+: a :: l) (hl' : l'.head? ≠ some a) : ¬ p <+: l' := by
  intro h'
  obtain ⟨b, q, rfl⟩ := List.exists_cons_of_ne_nil hp
  obtain ⟨rest, hrest⟩ := h
  obtain ⟨rest', rfl⟩ := h'
  cases hrest
  exact hl' rfl

/-- A flow that is ready for data takes the next outbound payload into
the data stage. -/
theorem dataPacket_of_ready {s : FlowState} (h : FlowInv s)
    (hready : s.progress = some .readyForData) {pkt : CapturedPacket}
    (hout : pkt.direction = .outbound) (hpos : 0 < pkt.payloadLen) :
    DataPacket s pkt := by
  have hopen : s.outcome = none ∧ s.waitingForData = true := by
    unfold FlowState.progress at hready
    split at hready
    · cases hready
    case h_2 ho =>
      refine ⟨ho, ?_⟩
      cases hw : s.waitingForData with
      | true => rfl
      | false => simp [hw] at hready
  exact ⟨h.openMonitored hopen.1, hout, hpos,
    .inl ⟨hopen.2, h.fresh hopen.2⟩⟩

/-- For every validated list with a data-stage method, in every run that
is ready for data, the first data packet the branch causes is the one the
data stage gets, and it carries the beginning of the ClientHello exactly
when the list has no `ccs_prefix`. -/
theorem data_stage_lands_on_hello_iff (cfg : Config)
    (hv : cfg.validate = .ok ())
    (hstage : ∃ n ∈ cfg.bypassMethod, n.isDataStage = true)
    (freshSeed : MethodName → UInt64) (m : CompositeMethod Member)
    (hm : buildMethod cfg freshSeed = some m) (fakeData : Bytes)
    (ttl : Option UInt8) (pre : List (HookEnv × CapturedPacket))
    (s : FlowState) (hpre : feedAll m (.new fakeData ttl) pre = .ok s)
    (hready : s.progress = some .readyForData) (record : Bytes)
    (hello : CompleteHello record) (input : ConnectionSettings.ClientInput)
    (hsends : SendsFirst record input) (env : SocketEnv) :
    m.dataMethods ≠ [] ∧
    ∃ t ws wire, ConnectionSettings.fromConfig cfg = .ok t
      ∧ t.readyForDataWrites env input = .ok ws
      ∧ t.helloOnWire env input = .ok wire
      ∧ wire.head? = some 0x16
      ∧ ∀ pkt : CapturedPacket, pkt.direction = .outbound →
        FirstSegment ws pkt.payload →
          DataPacket s pkt
            ∧ (pkt.payload <+: wire ↔ .ccsPrefix ∉ cfg.bypassMethod) := by
  have hinv : FlowInv s := feedAll_flowInv hpre (flowInv_new fakeData ttl)
  obtain ⟨t, ht, hvalid⟩ := ConnectionSettings.fromConfig_ok hv
  obtain ⟨ws, hws, hwire, hhead⟩ :=
    ConnectionSettings.helloWrites_spec hvalid env hello hsends
  refine ⟨?_, t, _, ws.flatten, ht, bind_eq_ok.mpr ⟨ws, hws, rfl⟩, hwire,
    hhead, ?_⟩
  · exact (build_spec hm).dataMethods_ne_nil_iff.mpr hstage
  · intro pkt hout hseg
    have hpos : 0 < pkt.payloadLen := List.length_pos_iff.mpr hseg.1
    refine ⟨dataPacket_of_ready hinv hready hout hpos, ?_⟩
    have hccs := hvalid.ccsPrefix
    cases hc : t.ccsPrefix with
    | none =>
        rw [hc] at hccs hseg
        have hnot : .ccsPrefix ∉ cfg.bypassMethod := by
          simpa using hccs.symm
        exact iff_of_true hseg.2 hnot
    | some c =>
        rw [hc] at hccs hseg
        have hmem : .ccsPrefix ∈ cfg.bypassMethod := by
          simpa using hccs.symm
        refine iff_of_false ?_ (not_not_intro hmem)
        refine not_prefix_of_head hseg.1 hseg.2 ?_
        rw [hhead]
        decide

/-- `["fake_tls", "tls_padding", "tls_frag"]` on the sample connection:
the flow is ready for data after the ACK, and any first data packet of
the writes starts the padded ClientHello. -/
theorem sample_data_stage_lands_on_hello :
    ∃ m s t ws wire, buildMethod
        { bypassMethod := [.fakeTls, .tlsPadding, .tlsFrag] } (fun _ => 0)
        = some m
      ∧ feedAll m (.new [0x16] none)
          (sampleOpening ++ [(sampleEnv, sampleAck)]) = .ok s
      ∧ ConnectionSettings.fromConfig
          { bypassMethod := [.fakeTls, .tlsPadding, .tlsFrag] } = .ok t
      ∧ t.readyForDataWrites ⟨0, 0, 0⟩ ⟨sampleHello, sampleHello⟩ = .ok ws
      ∧ t.helloOnWire ⟨0, 0, 0⟩ ⟨sampleHello, sampleHello⟩ = .ok wire
      ∧ ∀ pkt : CapturedPacket, pkt.direction = .outbound →
        FirstSegment ws pkt.payload →
          DataPacket s pkt ∧ pkt.payload <+: wire := by
  obtain ⟨-, t, ws, wire, ht, hws, hwire, -, hfirst⟩ :=
    data_stage_lands_on_hello_iff
      { bypassMethod := [.fakeTls, .tlsPadding, .tlsFrag] } rfl
      ⟨.fakeTls, by decide, rfl⟩ (fun _ => 0) _ rfl [0x16] none
      (sampleOpening ++ [(sampleEnv, sampleAck)]) _ rfl rfl sampleHello
      ⟨rfl, rfl, rfl, rfl⟩ ⟨sampleHello, sampleHello⟩
      ⟨rfl, by decide, [], by simp⟩ ⟨0, 0, 0⟩
  refine ⟨_, _, t, ws, wire, rfl, rfl, ht, hws, hwire, ?_⟩
  intro pkt hout hseg
  obtain ⟨hdata, hiff⟩ := hfirst pkt hout hseg
  exact ⟨hdata, hiff.mpr (by decide)⟩

/-- `["fake_tls", "ccs_prefix"]`: the record the proxy flushes first is a
packet of its own, the data stage takes it for the ClientHello and spends
its decoy on it, and it shares no byte with the ClientHello. -/
theorem ccs_prefix_takes_data_stage :
    Config.validate { bypassMethod := [.fakeTls, .ccsPrefix] } = .ok () ∧
    CompleteHello sampleHello ∧
    ∃ m s t ws wire r, buildMethod
        { bypassMethod := [.fakeTls, .ccsPrefix] } (fun _ => 0) = some m
      ∧ feedAll m (.new [0x16] none)
          (sampleOpening ++ [(sampleEnv, sampleAck)]) = .ok s
      ∧ s.progress = some .readyForData
      ∧ ConnectionSettings.fromConfig
          { bypassMethod := [.fakeTls, .ccsPrefix] } = .ok t
      ∧ t.readyForDataWrites ⟨0, 0, 0⟩ ⟨sampleHello, sampleHello⟩ = .ok ws
      ∧ t.helloOnWire ⟨0, 0, 0⟩ ⟨sampleHello, sampleHello⟩ = .ok wire
      ∧ FirstSegment ws [0x14, 3, 3, 0, 1, 1]
      ∧ onPacket m sampleEnv s (sampleData [0x14, 3, 3, 0, 1, 1]).view
          = .ok r
      ∧ r.verdict = .acceptModified
      ∧ r.state.progress = some (.complete .fakeDataAcked)
      ∧ ¬ [0x14, 3, 3, 0, 1, 1] <+: wire := by
  refine ⟨rfl, ⟨rfl, rfl, rfl, rfl⟩, _, _, _, _, _, _, rfl, rfl, rfl, rfl,
    rfl, rfl, ⟨nofun, ?_⟩, rfl, rfl, rfl, ?_⟩
  · exact ⟨_, rfl⟩
  · decide

end ZeroDpi
