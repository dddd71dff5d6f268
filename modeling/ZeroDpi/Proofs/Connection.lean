/-
What a connection task does to the client's stream.

`Forwards x stream Q out rest` is the triple of this layer: on a client
that still has `stream` to send, however it is cut into pieces and
whatever the seeds, the program `x` succeeds with a value in `Q`, its
writes concatenate to `out`, and `rest` is left. It composes along `bind`
(`Forwards.bind`), and every read, writer and loop of the model has one.

The two paths read the same settings from the configuration.
`ConnectionSettings.Reads` collects what the socket path looks up in the
method list one by one, so that both can be compared over one record.
-/
import ZeroDpi.Connection
import ZeroDpi.Proofs.FirstWrite

namespace ZeroDpi

open Lib ProxyM

variable {α β : Type}

-- ============================================================ the triple

/-- On a client with `stream` to send, `x` writes `out` and leaves
`rest`. -/
def Forwards (x : ProxyM α) (stream : Bytes) (Q : α → Prop)
    (out rest : Bytes) : Prop :=
  ∀ c : Conn, c.arrivals.flatten = stream →
    ∃ a c', x c = .ok a c' ∧ Q a
      ∧ c'.written.flatten = c.written.flatten ++ out
      ∧ c'.arrivals.flatten = rest

/-- The rules of `Forwards`: code in sequence. -/
theorem Forwards.bind {x : ProxyM α} {f : α → ProxyM β}
    {stream mid rest out out' : Bytes} {Q : α → Prop} {R : β → Prop}
    (hx : Forwards x stream Q out mid)
    (hf : ∀ a, Q a → Forwards (f a) mid R out' rest) :
    Forwards (x >>= f) stream R (out ++ out') rest := by
  intro c hc
  obtain ⟨a, c₁, hrun, hQ, hwritten, hleft⟩ := hx c hc
  obtain ⟨b, c₂, hrun', hR, hwritten', hleft'⟩ := hf a hQ c₁ hleft
  refine ⟨b, c₂, ?_, hR, ?_, hleft'⟩
  · rw [run_bind_ok hrun]
    exact hrun'
  · rw [hwritten', hwritten, List.append_assoc]

/-- A step that writes nothing. -/
theorem Forwards.silent {x : ProxyM α} {f : α → ProxyM β}
    {stream mid rest out : Bytes} {Q : α → Prop} {R : β → Prop}
    (hx : Forwards x stream Q [] mid)
    (hf : ∀ a, Q a → Forwards (f a) mid R out rest) :
    Forwards (x >>= f) stream R out rest :=
  hx.bind hf

/-- A weaker condition on the result. -/
theorem Forwards.weaken {x : ProxyM α} {stream out rest : Bytes}
    {Q R : α → Prop} (h : Forwards x stream Q out rest)
    (hQR : ∀ a, Q a → R a) : Forwards x stream R out rest := by
  intro c hc
  obtain ⟨a, c', hrun, hQ, hrest⟩ := h c hc
  exact ⟨a, c', hrun, hQR a hQ, hrest⟩

/-- Code that touches neither side. -/
theorem forwards_pure (a : α) (stream : Bytes) :
    Forwards (pure a) stream (· = a) [] stream := by
  intro c hc
  exact ⟨a, c, rfl, rfl, (List.append_nil _).symm, hc⟩

/-- Code that does not panic. -/
theorem forwards_orPanic {x : Except Panic α} {a : α} (h : x = .ok a)
    (stream : Bytes) : Forwards (orPanic x) stream (· = a) [] stream := by
  intro c hc
  refine ⟨a, c, ?_, rfl, (List.append_nil _).symm, hc⟩
  unfold orPanic
  rw [h]

/-- A context only changes errors. -/
theorem forwards_withContext {x : ProxyM α} {stream out rest : Bytes}
    {Q : α → Prop} (text : String) (h : Forwards x stream Q out rest) :
    Forwards (withContext text x) stream Q out rest := by
  intro c hc
  obtain ⟨a, c', hrun, hrest⟩ := h c hc
  refine ⟨a, c', ?_, hrest⟩
  unfold withContext
  rw [hrun]

/-- Writes. -/
theorem forwards_writeEach (ws : List Bytes) (stream : Bytes) :
    Forwards (writeEach ws) stream (fun _ => True) ws.flatten stream := by
  intro c hc
  exact ⟨(), _, rfl, trivial, List.flatten_append, hc⟩

/-- A seed is no input. -/
theorem forwards_freshFragmentRng (stream : Bytes) :
    Forwards freshFragmentRng stream (fun _ => True) [] stream := by
  intro c hc
  exact ⟨_, _, rfl, trivial, (List.append_nil _).symm, hc⟩

/-- `read_exact` takes the front of the stream. -/
theorem forwards_readExact {n : Nat} {front : Bytes} (h : front.length = n)
    (rest : Bytes) :
    Forwards (readExact n) (front ++ rest) (· = front) [] rest := by
  intro c hc
  have hn : n ≤ c.arrivals.flatten.length := by
    rw [hc, List.length_append]
    omega
  obtain ⟨left, hread, hleft⟩ := readFull_spec c.arrivals n hn
  rw [hc, List.take_left' h] at hread
  rw [hc, List.drop_left' h] at hleft
  refine ⟨front, { c with arrivals := left }, ?_, rfl,
    (List.append_nil _).symm, hleft⟩
  unfold readExact
  rw [hread]

-- ============================================================= the reads

/-- A complete TLS record that `read_one_tls_record` accepts. -/
structure TlsRecord (record : Bytes) : Prop where
  header : 5 ≤ record.length
  whole : record.length
    = 5 + be16 (record.getD 3 0) (record.getD 4 0)
  limit : be16 (record.getD 3 0) (record.getD 4 0) ≤ maxReadBody

/-- The header holds the bytes the record has there. -/
theorem header_getD (record : Bytes) {i : Nat} (hi : i < 5) :
    (record.take 5).getD i 0 = record.getD i 0 := by
  rw [List.getD_eq_getElem?_getD, List.getD_eq_getElem?_getD,
    List.getElem?_take_of_lt hi]

/-- The length in the header. -/
theorem TlsRecord.body {record : Bytes} (h : TlsRecord record) :
    (record.drop 5).length
      = be16 (record.getD 3 0) (record.getD 4 0) := by
  rw [List.length_drop, h.whole]
  omega

/-- The first record of the stream is read whole, wherever the pieces
end. -/
theorem forwards_readOneTlsRecord {record : Bytes} (h : TlsRecord record)
    (rest : Bytes) :
    Forwards readOneTlsRecord (record ++ rest) (· = record) [] rest := by
  have hheader := h.header
  have hhead : (record.take 5).length = 5 := by
    rw [List.length_take]
    omega
  have hcut : record ++ rest = record.take 5 ++ (record.drop 5 ++ rest) := by
    rw [← List.append_assoc, List.take_append_drop]
  rw [hcut]
  refine Forwards.silent
    (forwards_withContext _ (forwards_readExact hhead _)) ?_
  intro header hval
  subst hval
  simp only [header_getD record (show 3 < 5 by omega),
    header_getD record (show 4 < 5 by omega)]
  rw [if_neg (Nat.not_lt.mpr h.limit)]
  refine Forwards.silent
    (forwards_withContext _ (forwards_readExact h.body _)) ?_
  intro body hval
  subst hval
  rw [List.take_append_drop]
  exact forwards_pure record rest

-- =========================================================== the writers

/-- The writer's assertions hold of the settings. -/
structure TcpSegmentation.Valid (seg : TcpSegmentation) : Prop where
  length : ¬ seg.length.min < 1
  interval : ¬ seg.intervalMs.min < 0

/-- Fragments make up the data. -/
theorem TcpSegmentation.Valid.writeFragmented_flatten {seg : TcpSegmentation}
    (h : seg.Valid) (rng : UInt64) (data : Bytes) :
    ∃ ws, writeFragmented data seg.length seg.intervalMs rng = .ok ws
      ∧ ws.flatten = data := by
  have hmin : 1 ≤ seg.length.min.toInt :=
    Int32.le_iff_toInt_le.mp (Int32.not_lt.mp h.length)
  rw [writeFragmented, if_neg h.length, if_neg h.interval]
  exact ⟨_, rfl, fragmentWrites_flatten hmin _ _ _ (Nat.le_refl _)⟩

/-- So they forward it. -/
theorem forwards_writeFragments {seg : TcpSegmentation} (h : seg.Valid)
    (data stream : Bytes) :
    Forwards (writeFragments seg data) stream (fun _ => True) data stream := by
  refine Forwards.silent (forwards_freshFragmentRng stream) ?_
  intro rng _
  obtain ⟨ws, hws, hflat⟩ := h.writeFragmented_flatten rng data
  refine Forwards.silent (forwards_orPanic hws stream) ?_
  intro ws' hval
  subst hval
  rw [← hflat]
  exact forwards_writeEach ws' stream

/-- Data as it is. -/
theorem forwards_writeWhole (data stream : Bytes) :
    Forwards (writeEach [data]) stream (fun _ => True) data stream := by
  have h := forwards_writeEach [data] stream
  rw [List.flatten_singleton] at h
  exact h

/-- Either way. -/
theorem forwards_writeClientData {seg : TcpSegmentation} (h : seg.Valid)
    (writeIndex : UInt32) (data stream : Bytes) :
    Forwards (writeClientData data seg writeIndex) stream (fun _ => True)
      data stream := by
  unfold writeClientData
  by_cases hfragments : seg.fragmentsWrite writeIndex = true
  · rw [if_pos hfragments]
    exact forwards_writeFragments h data stream
  · rw [if_neg hfragments]
    exact forwards_writeWhole data stream

/-- The bytes of the ChangeCipherSpec prefix, if there is one. -/
def ConnectionSettings.ccsBytes (t : ConnectionSettings) : Bytes :=
  (t.ccsPrefix.map CcsPrefix.record).getD []

/-- The prefix is extra output. -/
theorem forwards_writeCcsPrefix (t : ConnectionSettings) (stream : Bytes) :
    Forwards (writeCcsPrefix t.ccsPrefix) stream (fun _ => True) t.ccsBytes
      stream := by
  unfold ConnectionSettings.ccsBytes writeCcsPrefix
  cases t.ccsPrefix with
  | none => exact (forwards_pure () stream).weaken fun _ _ => trivial
  | some ccs => exact forwards_writeWhole ccs.record stream

/-- A split has two parts. -/
theorem SniBoundaryFrag.splitOffset_range {t : SniBoundaryFrag}
    {hello : Bytes} {split : Nat} (h : t.splitOffset hello = .ok (some split)) :
    0 < split ∧ split < hello.length := by
  obtain ⟨b, -, h⟩ := bind_eq_ok.mp h
  cases b with
  | none => cases h
  | some b =>
      have h := Except.ok.inj h
      simp only [Option.ite_none_right_eq_some, Option.some.injEq] at h
      obtain ⟨hrange, rfl⟩ := h
      exact hrange

/-- Both are written. -/
theorem forwards_writeBoundary {boundary : SniBoundaryFrag}
    (hdelay : ¬ boundary.delayMs.min < 0) {hello : Bytes} {o : Option Nat}
    (ho : boundary.splitOffset hello = .ok o) (stream : Bytes) :
    Forwards (writeBoundary boundary hello) stream (fun _ => True) hello
      stream := by
  refine Forwards.silent (forwards_orPanic ho stream) ?_
  intro o' hval
  subst hval
  cases o' with
  | none => exact forwards_writeWhole hello stream
  | some split =>
      have hrange : 0 < split ∧ split < hello.length :=
        SniBoundaryFrag.splitOffset_range ho
      have hws : writeBoundarySplit hello split boundary.delayMs
          = .ok [hello.take split, hello.drop split] := by
        rw [writeBoundarySplit, if_neg (not_not_intro hrange),
          if_neg hdelay]
      refine Forwards.silent (forwards_freshFragmentRng stream) ?_
      intro _ _
      refine Forwards.silent (forwards_orPanic hws stream) ?_
      intro ws hval
      subst hval
      have h := forwards_writeEach [hello.take split, hello.drop split] stream
      rw [List.flatten_cons, List.flatten_singleton,
        List.take_append_drop] at h
      exact h

/-- The bytes `tls_record_split` puts in the place of the record. -/
def TlsRecordSplit.onWire (t : TlsRecordSplit) (hello : Bytes) :
    Except Panic Bytes := do
  match ← t.split hello with
  | some (first, second) => return first ++ second
  | none => return hello

/-- Or both records. -/
theorem forwards_writeSplitRecords {recordSplit : TlsRecordSplit}
    (hdelay : ¬ recordSplit.delayMs.min < 0) {hello wire : Bytes}
    (hwire : recordSplit.onWire hello = .ok wire) (stream : Bytes) :
    Forwards (writeSplitRecords recordSplit hello) stream (fun _ => True)
      wire stream := by
  obtain ⟨r, hr, hwire⟩ := bind_eq_ok.mp hwire
  refine Forwards.silent (forwards_orPanic hr stream) ?_
  intro r' hval
  subst hval
  cases r' with
  | none =>
      cases hwire
      exact forwards_writeWhole hello stream
  | some pair =>
      obtain ⟨first, second⟩ := pair
      cases hwire
      have hws : writeRecordSplit first second recordSplit.delayMs
          = .ok [first, second] := if_neg hdelay
      refine Forwards.silent (forwards_freshFragmentRng stream) ?_
      intro _ _
      refine Forwards.silent (forwards_orPanic hws stream) ?_
      intro ws hval
      subst hval
      have h := forwards_writeEach [first, second] stream
      rw [List.flatten_cons, List.flatten_singleton] at h
      exact h

-- ============================================================= the relay

/-- A later write of the client. -/
theorem forwards_relayWrite {segmentation : Option TcpSegmentation}
    (hseg : ∀ seg, segmentation = some seg → seg.Valid) (data : Bytes)
    (writeIndex : UInt32) (stream : Bytes) :
    Forwards (relayWrite segmentation data writeIndex) stream
      (fun _ => True) data stream := by
  cases segmentation with
  | none => exact forwards_writeWhole data stream
  | some seg =>
      exact forwards_writeClientData (hseg seg rfl) writeIndex data stream

/-- The copy loop forwards what is left of the stream, one read after the
other. -/
theorem forwards_copyLoop {segmentation : Option TcpSegmentation}
    (hseg : ∀ seg, segmentation = some seg → seg.Valid) :
    ∀ (fuel : Nat) (done : Copied) (stream : Bytes), stream.length < fuel →
      Forwards (copyLoop segmentation fuel done) stream (fun _ => True)
        stream [] := by
  intro fuel
  induction fuel with
  | zero =>
      intro done stream hfuel
      omega
  | succ fuel ih =>
      intro done stream hfuel c hc
      have happend := readSome_append relayBuffer c.arrivals
      rw [hc] at happend
      have hread : ProxyM.read relayBuffer c = .ok _ _ := rfl
      unfold copyLoop
      rw [run_bind_ok hread]
      generalize hdata : (readSome relayBuffer c.arrivals).1 = data at *
      generalize hleft : (readSome relayBuffer c.arrivals).2 = left at *
      by_cases hend : data = []
      · have hstream : stream = [] := by
          rw [← hc]
          exact readSome_eq_nil (by decide) (hdata.trans hend)
        rw [hend, List.nil_append, hstream] at happend
        rw [hend, hstream]
        exact ⟨done, _, rfl, trivial, (List.append_nil _).symm, happend⟩
      · have hpos : 0 < data.length := List.length_pos_iff.mpr hend
        have hlen : data.length + left.flatten.length = stream.length := by
          rw [← List.length_append, happend]
        rw [if_neg (by simpa using hend), ← happend]
        have hturn := forwards_relayWrite hseg data
          (saturatingSucc done.writeIndex) left.flatten
        exact hturn.bind (fun _ _ => ih _ _ (by omega))
          { c with arrivals := left } rfl

/-- The relay forwards everything the client still sends. -/
theorem forwards_relay
    {clientFragmentation : Option (TcpSegmentation × UInt32)}
    (hseg : ∀ seg i, clientFragmentation = some (seg, i) → seg.Valid)
    (stream : Bytes) :
    Forwards (copyCountingClientToServer clientFragmentation) stream
      (fun _ => True) stream [] := by
  intro c hc
  refine forwards_copyLoop ?_ _ _ stream (by rw [hc]; omega) c hc
  intro seg h
  obtain ⟨⟨seg', i⟩, hsome, rfl⟩ := Option.map_eq_some_iff.mp h
  exact hseg _ i hsome

-- =========================================================== the settings

namespace ConnectionSettings

/-- `t` holds what the method list of `cfg` and its parameters say. -/
structure Reads (cfg : Config) (t : ConnectionSettings) : Prop where
  segmentation : TcpSegmentation.new cfg = .ok t.tcpSegmentation
  segments : t.segmentFirstClientHello = cfg.bypassMethod.contains .tlsFrag
  padding : whenListed (cfg.bypassMethod.contains .tlsPadding)
    (TlsPadding.new cfg) = .ok t.tlsPadding
  ccs : whenListed (cfg.bypassMethod.contains .ccsPrefix)
    (CcsPrefix.new cfg) = .ok t.ccsPrefix
  mixedCase : t.mixedCaseSni
    = if cfg.bypassMethod.contains .mixedCaseSni then some (.new cfg) else none
  boundary : t.sniBoundaryFrag
    = if cfg.bypassMethod.contains .sniBoundaryFrag then some (.new cfg)
      else none
  recordSplit : t.tlsRecordSplit
    = if cfg.bypassMethod.contains .tlsRecordSplit then some (.new cfg)
      else none

/-- The settings say what the config lists. -/
theorem reads_of_fromConfig {cfg : Config} {t : ConnectionSettings}
    (h : fromConfig cfg = .ok t) : t.Reads cfg := by
  obtain ⟨segmentation, hsegmentation, h⟩ := bind_eq_ok.mp h
  obtain ⟨padding, hpadding, h⟩ := bind_eq_ok.mp h
  obtain ⟨ccs, hccs, h⟩ := bind_eq_ok.mp h
  obtain rfl := Except.ok.inj h
  exact ⟨hsegmentation, rfl, hpadding, hccs, rfl, rfl, rfl⟩

/-- A method is built if it is listed. -/
theorem whenListed_isSome {α : Type} {listed : Bool} {build : Except Panic α}
    {o : Option α} (h : whenListed listed build = .ok o) :
    o.isSome = listed := by
  cases listed with
  | false =>
      obtain rfl := Except.ok.inj h
      rfl
  | true =>
      cases hbuild : build with
      | error p =>
          rw [hbuild] at h
          cases h
      | ok a =>
          rw [hbuild] at h
          obtain rfl := Except.ok.inj h
          rfl

variable {cfg : Config} {t : ConnectionSettings}

/-- For each of the four methods. -/
theorem Reads.contains_tlsPadding (h : t.Reads cfg) :
    cfg.bypassMethod.contains .tlsPadding = t.tlsPadding.isSome :=
  (whenListed_isSome h.padding).symm

theorem Reads.contains_mixedCaseSni (h : t.Reads cfg) :
    cfg.bypassMethod.contains .mixedCaseSni = t.mixedCaseSni.isSome := by
  rw [h.mixedCase]
  cases cfg.bypassMethod.contains .mixedCaseSni <;> rfl

theorem Reads.contains_sniBoundaryFrag (h : t.Reads cfg) :
    cfg.bypassMethod.contains .sniBoundaryFrag
      = t.sniBoundaryFrag.isSome := by
  rw [h.boundary]
  cases cfg.bypassMethod.contains .sniBoundaryFrag <;> rfl

theorem Reads.contains_tlsRecordSplit (h : t.Reads cfg) :
    cfg.bypassMethod.contains .tlsRecordSplit = t.tlsRecordSplit.isSome := by
  rw [h.recordSplit]
  cases cfg.bypassMethod.contains .tlsRecordSplit <;> rfl

/-- Both paths pad alike. -/
theorem Reads.socketPadding_eq (h : t.Reads cfg) (env : SocketEnv)
    (record : Bytes) :
    socketPadding cfg env record = .ok (t.padRecord env record) := by
  have hpadding := h.padding
  unfold socketPadding padRecord
  cases hlisted : cfg.bypassMethod.contains .tlsPadding with
  | false =>
      rw [hlisted] at hpadding
      rw [← Except.ok.inj hpadding]
      rfl
  | true =>
      rw [hlisted] at hpadding
      cases hnew : TlsPadding.new cfg with
      | error p =>
          rw [hnew] at hpadding
          cases hpadding
      | ok padding =>
          rw [hnew] at hpadding
          rw [← Except.ok.inj hpadding]
          rfl

/-- The socket path transforms the record as `apply_socket_transforms`
does. -/
theorem Reads.socketTransforms_eq (h : t.Reads cfg) (env : SocketEnv)
    (record : Bytes) :
    socketTransforms cfg env record = t.applySocketTransforms env record := by
  have hmixed := h.mixedCase
  unfold socketTransforms applySocketTransforms
  rw [h.socketPadding_eq env record]
  show socketMixedCase cfg env _ = _
  unfold socketMixedCase
  by_cases hlisted : cfg.bypassMethod.contains .mixedCaseSni = true
  · rw [if_pos hlisted] at hmixed ⊢
    rw [hmixed]
  · rw [if_neg hlisted] at hmixed ⊢
    rw [hmixed]

-- ================================================ the arms of the socket path

/-- What the relay does when `tls_frag` is listed and the last client
write had this index. -/
def later (t : ConnectionSettings) (writeIndex : UInt32) :
    Option (TcpSegmentation × UInt32) :=
  if t.segmentFirstClientHello then some (t.tcpSegmentation, writeIndex)
  else none

theorem eq_of_some_eq_ite {α : Type} {listed : Bool} {a b : α}
    (h : some a = if listed then some b else none) : a = b := by
  cases listed with
  | true => exact Option.some.inj h
  | false => cases h

/-- Both split the records alike, -/
theorem Reads.writeFirstRecord_split (h : t.Reads cfg)
    {recordSplit : TlsRecordSplit} (hsplit : t.tlsRecordSplit = some recordSplit)
    (hello : Bytes) :
    writeFirstRecord cfg t.tcpSegmentation (some hello)
      = writeSplitRecords recordSplit hello >>= fun _ => pure (t.later 1) := by
  have hnew := h.recordSplit
  rw [hsplit] at hnew
  obtain rfl := eq_of_some_eq_ite hnew
  simp only [writeFirstRecord, h.contains_tlsRecordSplit, hsplit, later,
    h.segments]
  rfl

/-- both cut at the boundary alike, -/
theorem Reads.writeFirstRecord_boundary (h : t.Reads cfg)
    (hsplit : t.tlsRecordSplit = none) {boundary : SniBoundaryFrag}
    (hboundary : t.sniBoundaryFrag = some boundary) (hello : Bytes) :
    writeFirstRecord cfg t.tcpSegmentation (some hello)
      = writeBoundary boundary hello >>= fun _ => pure (t.later 1) := by
  have hnew := h.boundary
  rw [hboundary] at hnew
  obtain rfl := eq_of_some_eq_ite hnew
  simp only [writeFirstRecord, h.contains_tlsRecordSplit, hsplit,
    h.contains_sniBoundaryFrag, hboundary, later, h.segments]
  rfl

/-- The arms for a list without a splitting method. -/
theorem Reads.writeFirstRecord_unsplit (h : t.Reads cfg)
    (hsplit : t.tlsRecordSplit = none) (hboundary : t.sniBoundaryFrag = none)
    (hello : Bytes) :
    writeFirstRecord cfg t.tcpSegmentation (some hello)
      = if t.segmentFirstClientHello
            && t.tcpSegmentation.packets == .tlsHello then
          writeFragments t.tcpSegmentation hello >>= fun _ => pure none
        else writeEach [hello] >>= fun _ => pure (t.later 0) := by
  simp only [writeFirstRecord, h.contains_tlsRecordSplit, hsplit,
    h.contains_sniBoundaryFrag, hboundary, later, h.segments]
  rfl

/-- and without a first record there is nothing to write. -/
theorem Reads.writeFirstRecord_none (h : t.Reads cfg)
    (hboundary : t.sniBoundaryFrag = none) :
    writeFirstRecord cfg t.tcpSegmentation none = pure (t.later 0) := by
  simp only [writeFirstRecord, Option.isSome_none, Bool.and_false,
    h.contains_sniBoundaryFrag, hboundary, later, h.segments]
  rfl

end ConnectionSettings
end ZeroDpi
