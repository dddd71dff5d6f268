/-
The socket path and the intercept path, on the same client.

Both take the ClientHello of a client whose first write is exactly that
record, transform it, cut it (`writeHello`) and hand the later writes to
the relay. Over one record of settings the two case trees reduce to the
same program (`readyForData_run`, `tcpSegPrefix_run`), except in two
arms of the socket path that leave the numbering of the client's writes
to the relay. Without a transform the relay reads the ClientHello itself,
as write 1, and one turn of its loop is what the intercept path does
beforehand. With a transform the record has been read and written when
the relay starts, and the relay still counts from 0.

Runs are compared by `shapeOf`: the writes, and the index the relay has
reached.
-/
import ZeroDpi.Proofs.StreamIntegrity

namespace ZeroDpi

open Lib ProxyM

-- ========================================================= what is compared

/-- What a run shows: the index of the last client write, unless it stopped
early, and the writes made upstream. -/
def shapeOf : EStateM.Result Stop Conn Copied → Option UInt32 × List Bytes
  | .ok copied c => (some copied.writeIndex, c.written)
  | .error _ c => (none, c.written)

/-- The writes a path makes for a client that sends `client`. -/
def upstreamWrites (path : SocketEnv → ProxyM Copied) (env : ConnEnv)
    (client : List Bytes) : List Bytes :=
  (shapeOf (path env.toSocketEnv (.established client env))).2

/-- The index the next write of the client would have. -/
def nextWriteIndex (path : SocketEnv → ProxyM Copied) (env : ConnEnv)
    (client : List Bytes) : Option UInt32 :=
  (shapeOf (path env.toSocketEnv (.established client env))).1.map
    saturatingSucc

/-- A ClientHello record within the limit of the record layer. -/
structure HelloRecord (record : Bytes) : Prop
    extends CompleteHello record where
  limit : be16 (record.getD 3 0) (record.getD 4 0) ≤ maxReadBody

theorem HelloRecord.tlsRecord {record : Bytes} (h : HelloRecord record) :
    TlsRecord record where
  header := by
    have := h.toCompleteHello.length
    omega
  whole := h.whole
  limit := h.limit

-- ========================================================== reads in one go

theorem readExact_run {n : Nat} {data : Bytes} {left : List Bytes} {c : Conn}
    (h : readFull n c.arrivals = some (data, left)) (text : String) :
    withContext text (readExact n) c
      = .ok data { c with arrivals := left } := by
  unfold withContext readExact
  rw [h]

/-- A record that arrives in one piece is read without touching the
next. -/
theorem readOneTlsRecord_piece {record : Bytes} (h : TlsRecord record)
    {later : List Bytes} {c : Conn} (hc : c.arrivals = record :: later) :
    readOneTlsRecord c = .ok record { c with arrivals := later } := by
  have hhead : readFull 5 c.arrivals
      = some (record.take 5, putBack (record.drop 5) later) := by
    rw [hc]
    exact readFull_piece (by omega) h.header later
  have hbody : readFull (be16 (record.getD 3 0) (record.getD 4 0))
      (putBack (record.drop 5) later) = some (record.drop 5, later) := by
    rw [← h.body]
    exact readFull_putBack _ later
  unfold readOneTlsRecord
  rw [run_bind_ok (readExact_run hhead _)]
  simp only [header_getD record (show 3 < 5 by omega),
    header_getD record (show 4 < 5 by omega)]
  rw [if_neg (Nat.not_lt.mpr h.limit), run_bind_ok (readExact_run hbody _),
    List.take_append_drop]
  rfl

/-- A piece that fits the buffer is one client write. -/
theorem readOneClientWrite_piece {data : Bytes} (hne : data ≠ [])
    (hfits : data.length ≤ relayBuffer) {later : List Bytes} {c : Conn}
    (hc : c.arrivals = data :: later) :
    readOneClientWrite c = .ok data { c with arrivals := later } := by
  have hread : ProxyM.read relayBuffer c
      = .ok data { c with arrivals := later } := by
    unfold ProxyM.read
    rw [hc, readSome_piece hne hfits]
  unfold readOneClientWrite
  rw [run_bind_ok hread, if_neg (by simpa using hne)]
  rfl

-- ============================================================= the writers

/-- The state after a writer: more writes, perhaps fewer seeds. -/
def Conn.wrote (c : Conn) (ws : List Bytes) (fragmentRngs : Nat → UInt64) :
    Conn :=
  { c with written := c.written ++ ws, fragmentRngs := fragmentRngs }

theorem writeFragments_run {seg : TcpSegmentation} {data : Bytes}
    {ws : List Bytes} {c : Conn}
    (h : writeFragmented data seg.length seg.intervalMs (c.fragmentRngs 0)
      = .ok ws) :
    writeFragments seg data c
      = .ok () (c.wrote ws fun i => c.fragmentRngs (i + 1)) := by
  have hfresh : freshFragmentRng c = .ok _ _ := rfl
  have hok : orPanic (writeFragmented data seg.length seg.intervalMs
      (c.fragmentRngs 0)) = pure ws := by
    rw [h]
    rfl
  unfold writeFragments
  rw [run_bind_ok hfresh, hok]
  rfl

theorem relayWrite_run {segmentation : Option TcpSegmentation}
    (hseg : ∀ seg, segmentation = some seg → seg.Valid) (data : Bytes)
    (writeIndex : UInt32) (c : Conn) :
    ∃ ws rngs, relayWrite segmentation data writeIndex c
      = .ok () (c.wrote ws rngs) := by
  cases segmentation with
  | none => exact ⟨[data], c.fragmentRngs, rfl⟩
  | some seg =>
      show ∃ ws rngs, writeClientData data seg writeIndex c = _
      unfold writeClientData
      by_cases hfragments : seg.fragmentsWrite writeIndex = true
      · obtain ⟨ws, hws, -⟩ :=
          (hseg seg rfl).writeFragmented_flatten (c.fragmentRngs 0) data
        rw [if_pos hfragments]
        exact ⟨ws, _, writeFragments_run hws⟩
      · rw [if_neg hfragments]
        exact ⟨[data], c.fragmentRngs, rfl⟩

-- ============================================================= the relay

/-- One turn of the relay on a piece that fits its buffer. -/
theorem copyLoop_piece (segmentation : Option TcpSegmentation) (fuel : Nat)
    (done : Copied) {data : Bytes} (hne : data ≠ [])
    (hfits : data.length ≤ relayBuffer) {later : List Bytes} {c : Conn}
    (hc : c.arrivals = data :: later) :
    copyLoop segmentation (fuel + 1) done c
      = (relayWrite segmentation data (saturatingSucc done.writeIndex)
          >>= fun _ => copyLoop segmentation fuel
            ⟨done.total + data.length, saturatingSucc done.writeIndex⟩)
        { c with arrivals := later } := by
  have hread : ProxyM.read relayBuffer c
      = .ok data { c with arrivals := later } := by
    unfold ProxyM.read
    rw [hc, readSome_piece hne hfits]
  rw [copyLoop, run_bind_ok hread, if_neg (by simpa using hne)]

/-- Neither the bound on the turns nor the byte count shows: a relay that
has reached the same index writes the same. -/
theorem shapeOf_copyLoop {segmentation : Option TcpSegmentation}
    (hseg : ∀ seg, segmentation = some seg → seg.Valid) :
    ∀ (fuel fuel' : Nat) (done done' : Copied) (c : Conn),
      c.arrivals.flatten.length < fuel →
      c.arrivals.flatten.length < fuel' →
      done.writeIndex = done'.writeIndex →
        shapeOf (copyLoop segmentation fuel done c)
          = shapeOf (copyLoop segmentation fuel' done' c) := by
  intro fuel
  induction fuel with
  | zero =>
      intro fuel' done done' c hfuel
      omega
  | succ fuel ih =>
      intro fuel' done done' c hfuel hfuel' hindex
      obtain ⟨fuel', rfl⟩ : ∃ k, fuel' = k + 1 := ⟨fuel' - 1, by omega⟩
      have happend := readSome_append relayBuffer c.arrivals
      have hread : ProxyM.read relayBuffer c = .ok _ _ := rfl
      unfold copyLoop
      rw [run_bind_ok hread, run_bind_ok hread]
      generalize (readSome relayBuffer c.arrivals).1 = data at *
      generalize (readSome relayBuffer c.arrivals).2 = left at *
      by_cases hend : data = []
      · rw [if_pos (by rw [hend]; rfl), if_pos (by rw [hend]; rfl)]
        show (some done.writeIndex, c.written)
          = (some done'.writeIndex, c.written)
        rw [hindex]
      · have hpos : 0 < data.length := List.length_pos_iff.mpr hend
        have hlen : data.length + left.flatten.length
            = c.arrivals.flatten.length := by
          rw [← List.length_append, happend]
        rw [if_neg (by simpa using hend), if_neg (by simpa using hend)]
        simp only [hindex]
        obtain ⟨ws, rngs, hrun⟩ := relayWrite_run hseg data
          (saturatingSucc done'.writeIndex) { c with arrivals := left }
        rw [run_bind_ok hrun, run_bind_ok hrun]
        refine ih _ _ _ _ ?_ ?_ rfl
        · show left.flatten.length < fuel
          omega
        · show left.flatten.length < fuel'
          omega

-- ===================================================== the two prefixes

namespace ConnectionSettings

variable {cfg : Config} {t : ConnectionSettings} {env : SocketEnv}

/-- The writes of the ChangeCipherSpec prefix. -/
def ccsWrites (t : ConnectionSettings) : List Bytes :=
  (t.ccsPrefix.map CcsPrefix.record).toList

/-- The connection once the prefix is out and `later` is left to read. -/
def afterPrefix (t : ConnectionSettings) (c : Conn) (later : List Bytes) :
    Conn :=
  { c with arrivals := later, written := c.written ++ t.ccsWrites }

/-- The writer of the ClientHello as client write 1, by settings. -/
def writeHello (t : ConnectionSettings) (hello : Bytes) : ProxyM Unit :=
  match t.sniBoundaryFrag, t.tlsRecordSplit with
  | some boundary, _ => writeBoundary boundary hello
  | none, some recordSplit => writeSplitRecords recordSplit hello
  | none, none =>
      if t.segmentFirstClientHello
          && (t.tcpSegmentation.packets == .tlsHello
            || t.tcpSegmentation.fragmentsWrite 1) then
        writeFragments t.tcpSegmentation hello
      else writeEach [hello]

/-- What the relay is handed once the ClientHello is out as write 1. -/
def afterHello (t : ConnectionSettings) :
    Option (TcpSegmentation × UInt32) :=
  if t.sniBoundaryFrag.isNone && t.tlsRecordSplit.isNone
      && t.tcpSegmentation.packets == .tlsHello then none
  else t.later 1

theorem later_of_listed (h : t.segmentFirstClientHello = true) (i : UInt32) :
    t.later i = some (t.tcpSegmentation, i) := by
  unfold later
  rw [if_pos h]

theorem writeCcsPrefix_run (t : ConnectionSettings) (c : Conn) :
    writeCcsPrefix t.ccsPrefix c = .ok () (t.afterPrefix c c.arrivals) := by
  unfold writeCcsPrefix afterPrefix ccsWrites
  cases t.ccsPrefix with
  | some ccs => rfl
  | none =>
      show EStateM.Result.ok () c = _
      rw [Option.map_none, Option.toList_none, List.append_nil]

theorem withContext_run {α : Type} {x : ProxyM α} {c c' : Conn} {a : α}
    (h : x c = .ok a c') (text : String) :
    withContext text x c = .ok a c' := by
  unfold withContext
  rw [h]

theorem orPanic_run {α : Type} {x : Except Panic α} {a : α} (h : x = .ok a)
    (c : Conn) : orPanic x c = .ok a c := by
  unfold orPanic
  rw [h]

/-- Reading the ClientHello that arrives in one piece, and transforming
it. -/
theorem readHello_run {hello shaped : Bytes} (h : HelloRecord hello)
    (hshaped : t.applySocketTransforms env hello = .ok shaped)
    {later : List Bytes} {c : Conn} (hc : c.arrivals = hello :: later)
    (text : String) :
    (withContext text readOneTlsRecord
        >>= fun record => orPanic (t.applySocketTransforms env record)) c
      = .ok shaped { c with arrivals := later } := by
  have hread := withContext_run (readOneTlsRecord_piece h.tlsRecord hc) text
  rw [run_bind_ok hread]
  exact orPanic_run hshaped _

theorem HelloRecord.fits {record : Bytes} (h : HelloRecord record) :
    record ≠ [] ∧ record.length ≤ relayBuffer := by
  have hlen := h.toCompleteHello.length
  have hwhole := h.whole
  have hlimit : be16 (record.getD 3 0) (record.getD 4 0) ≤ 16384 := h.limit
  refine ⟨?_, ?_⟩
  · intro hnil
    rw [hnil] at hlen
    cases hlen
  · show record.length ≤ 65536
    omega

/-- The `ReadyForData` branch writes the ClientHello and hands over. -/
theorem readyForData_run {hello shaped : Bytes} (h : HelloRecord hello)
    (hshaped : t.applySocketTransforms env hello = .ok shaped)
    {later : List Bytes} {c : Conn} (hc : c.arrivals = hello :: later)
    (hfrag : t.segmentFirstClientHello = true) :
    t.readyForData env c
      = (t.writeHello shaped >>= fun _ => pure t.afterHello)
        (t.afterPrefix c later) := by
  have hread := readHello_run h hshaped
    (show (t.afterPrefix c c.arrivals).arrivals = hello :: later from hc)
    "reading ClientHello from client"
  unfold readyForData writeHello afterHello
  rw [run_bind_ok (t.writeCcsPrefix_run c)]
  cases hboundary : t.sniBoundaryFrag with
  | some boundary => exact run_bind_ok hread
  | none =>
      cases hsplit : t.tlsRecordSplit with
      | some recordSplit => exact run_bind_ok hread
      | none =>
          rw [hfrag]
          cases hpackets : t.tcpSegmentation.packets with
          | tlsHello => exact run_bind_ok hread
          | writeRange start stop =>
              have hwrite := withContext_run (readOneClientWrite_piece
                (HelloRecord.fits h).1 (HelloRecord.fits h).2
                (show (t.afterPrefix c c.arrivals).arrivals = hello :: later
                  from hc)) "reading client data from client"
              refine (run_bind_ok hwrite).trans ?_
              refine (run_bind_ok (orPanic_run hshaped _)).trans ?_
              rw [later_of_listed hfrag]
              rfl

/-- The socket path reads the same record and hands it on transformed. -/
theorem Reads.firstRecord_run (h : t.Reads cfg) {hello shaped : Bytes}
    (hrecord : HelloRecord hello)
    (hshaped : t.applySocketTransforms env hello = .ok shaped)
    (htakes : t.takesFirstRecord = true) {later : List Bytes} {c : Conn}
    (hc : c.arrivals = hello :: later) :
    (readTransformedPrefix cfg env >>= readFirstRecord t.needsFirstRecord) c
      = .ok (some shaped) { c with arrivals := later } := by
  have hread := readOneTlsRecord_piece hrecord.tlsRecord hc
  cases hlisted : t.tlsPadding.isSome || t.mixedCaseSni.isSome with
  | true =>
      have htransformed : readTransformedPrefix cfg env c
          = .ok (some shaped) { c with arrivals := later } := by
        have hsame := (h.socketTransforms_eq env hello).trans hshaped
        unfold readTransformedPrefix
        rw [h.contains_tlsPadding, h.contains_mixedCaseSni, if_pos hlisted]
        refine (run_bind_ok (withContext_run hread _)).trans ?_
        exact run_bind_ok (orPanic_run hsame _)
      rw [run_bind_ok htransformed, readFirstRecord_some]
      rfl
  | false =>
      have hneeds : t.needsFirstRecord = true := by
        simp only [takesFirstRecord, Bool.or_assoc] at htakes
        simp only [Bool.or_eq_false_iff] at hlisted
        rw [hlisted.1, hlisted.2] at htakes
        simpa only [needsFirstRecord, Bool.or_assoc, Bool.false_or]
          using htakes
      have huntransformed : readTransformedPrefix cfg env c
          = .ok none c := by
        unfold readTransformedPrefix
        rw [h.contains_tlsPadding, h.contains_mixedCaseSni, hlisted]
        rfl
      simp only [Bool.or_eq_false_iff, Option.isSome_eq_false_iff,
        Option.isNone_iff_eq_none] at hlisted
      obtain rfl : hello = shaped :=
        Except.ok.inj ((applySocketTransforms_none hlisted.1
          hlisted.2).symm.trans hshaped)
      rw [run_bind_ok huntransformed, hneeds]
      exact run_bind_ok (withContext_run hread _)

/-- The part of the socket path after the prefix. -/
theorem Reads.tcpSegPrefix_eq (h : t.Reads cfg) (c : Conn) :
    tcpSegPrefix cfg env c
      = (readTransformedPrefix cfg env >>= readFirstRecord t.needsFirstRecord
          >>= writeFirstRecord cfg t.tcpSegmentation)
        (t.afterPrefix c c.arrivals) := by
  rw [h.tcpSegPrefix_bind]
  exact run_bind_ok (t.writeCcsPrefix_run c)

/-- The socket path counts the ClientHello it has read as a write only
where a method other than a transform asked for it. -/
theorem Reads.tcpSegPrefix_run (h : t.Reads cfg) {hello shaped : Bytes}
    (hrecord : HelloRecord hello)
    (hshaped : t.applySocketTransforms env hello = .ok shaped)
    {later : List Bytes} {c : Conn} (hc : c.arrivals = hello :: later)
    (hfrag : t.segmentFirstClientHello = true)
    (hone : t.sniBoundaryFrag = none ∨ t.tlsRecordSplit = none)
    (hneeds : t.needsFirstRecord = true) :
    tcpSegPrefix cfg env c
      = (t.writeHello shaped >>= fun _ => pure t.afterHello)
        (t.afterPrefix c later) := by
  have htakes : t.takesFirstRecord = true := by
    simp only [takesFirstRecord, Bool.or_assoc]
    simp only [needsFirstRecord, Bool.or_assoc] at hneeds
    rw [hneeds, Bool.or_true, Bool.or_true]
  rw [h.tcpSegPrefix_eq, run_bind_ok (h.firstRecord_run hrecord hshaped htakes
    (show (t.afterPrefix c c.arrivals).arrivals = hello :: later from hc))]
  show writeFirstRecord cfg t.tcpSegmentation (some shaped)
    (t.afterPrefix c later) = _
  unfold writeHello afterHello
  cases hsplit : t.tlsRecordSplit with
  | some recordSplit =>
      rcases hone with hboundary | hnone
      · rw [h.writeFirstRecord_split hsplit, hboundary]
        rfl
      · rw [hsplit] at hnone
        cases hnone
  | none =>
      cases hboundary : t.sniBoundaryFrag with
      | some boundary =>
          rw [h.writeFirstRecord_boundary hsplit hboundary]
          rfl
      | none =>
          have hhello : (t.tcpSegmentation.packets == .tlsHello) = true := by
            unfold needsFirstRecord at hneeds
            rw [hsplit, hboundary, hfrag] at hneeds
            simpa using hneeds
          rw [h.writeFirstRecord_unsplit hsplit hboundary, hfrag, hhello]
          rfl

/-- Without a first record the socket path leaves everything to the
relay. -/
theorem Reads.tcpSegPrefix_untaken (h : t.Reads cfg)
    (htakes : t.takesFirstRecord = false) (c : Conn) :
    tcpSegPrefix cfg env c
      = .ok (t.later 0) (t.afterPrefix c c.arrivals) := by
  obtain ⟨hpadding, hmixed, hboundary, hsplit⟩ := untaken_eq_none htakes
  have hread : (readTransformedPrefix cfg env
      >>= readFirstRecord t.needsFirstRecord) (t.afterPrefix c c.arrivals)
        = .ok none (t.afterPrefix c c.arrivals) := by
    have hneeds : t.needsFirstRecord = false := by
      simp only [takesFirstRecord, Bool.or_assoc,
        Bool.or_eq_false_iff] at htakes
      simp only [needsFirstRecord, Bool.or_assoc, Bool.or_eq_false_iff]
      exact htakes.2.2
    unfold readTransformedPrefix
    rw [h.contains_tlsPadding, h.contains_mixedCaseSni, hpadding, hmixed,
      hneeds]
    rfl
  rw [h.tcpSegPrefix_eq, run_bind_ok hread, h.writeFirstRecord_none hboundary]
  rfl

/-- A record read for a transform only is written whole, and the relay
starts at 0. -/
theorem Reads.tcpSegPrefix_transformed (h : t.Reads cfg)
    {hello shaped : Bytes} (hrecord : HelloRecord hello)
    (hshaped : t.applySocketTransforms env hello = .ok shaped)
    {later : List Bytes} {c : Conn} (hc : c.arrivals = hello :: later)
    (htakes : t.takesFirstRecord = true)
    (hneeds : t.needsFirstRecord = false) :
    tcpSegPrefix cfg env c
      = (writeEach [shaped] >>= fun _ => pure (t.later 0))
        (t.afterPrefix c later) := by
  have hnone := hneeds
  simp only [needsFirstRecord, Bool.or_eq_false_iff,
    Option.isSome_eq_false_iff, Option.isNone_iff_eq_none] at hnone
  rw [h.tcpSegPrefix_eq, run_bind_ok (h.firstRecord_run hrecord hshaped htakes
    (show (t.afterPrefix c c.arrivals).arrivals = hello :: later from hc)),
    h.writeFirstRecord_unsplit hnone.1.2 hnone.1.1, hnone.2]
  rfl

/-- The monadic writer makes the writes of `cutWrites`. -/
theorem writeHello_run {shaped : Bytes} {ws : List Bytes}
    (hws : t.cutWrites env shaped = .ok ws) {c : Conn}
    (hrng : c.fragmentRngs 0 = env.fragmentRng) :
    ∃ rngs, t.writeHello shaped c = .ok () (c.wrote ws rngs) := by
  unfold cutWrites at hws
  unfold writeHello
  cases hboundary : t.sniBoundaryFrag with
  | some boundary =>
      rw [hboundary] at hws
      obtain ⟨o, ho, hws⟩ := bind_eq_ok.mp hws
      cases o with
      | none =>
          cases hws
          exact ⟨c.fragmentRngs, run_bind_ok (orPanic_run ho c)⟩
      | some split =>
          refine ⟨fun i => c.fragmentRngs (i + 1), ?_⟩
          refine (run_bind_ok (orPanic_run ho c)).trans ?_
          exact run_bind_ok (orPanic_run hws _)
  | none =>
      rw [hboundary] at hws
      cases hsplit : t.tlsRecordSplit with
      | some recordSplit =>
          rw [hsplit] at hws
          obtain ⟨r, hr, hws⟩ := bind_eq_ok.mp hws
          cases r with
          | none =>
              cases hws
              exact ⟨c.fragmentRngs, run_bind_ok (orPanic_run hr c)⟩
          | some pair =>
              refine ⟨fun i => c.fragmentRngs (i + 1), ?_⟩
              refine (run_bind_ok (orPanic_run hr c)).trans ?_
              exact run_bind_ok (orPanic_run hws _)
      | none =>
          rw [hsplit] at hws
          by_cases hcut : (t.segmentFirstClientHello
              && (t.tcpSegmentation.packets == .tlsHello
                || t.tcpSegmentation.fragmentsWrite 1)) = true
          · have hws := (if_pos hcut).symm.trans hws
            rw [← hrng] at hws
            exact ⟨_, (congrFun (if_pos hcut) c).trans
              (writeFragments_run hws)⟩
          · have hws := (if_neg hcut).symm.trans hws
            cases hws
            exact ⟨c.fragmentRngs, congrFun (if_neg hcut) c⟩

-- ======================================================= the two paths

/-- What two programs do next depends on where they are only. -/
theorem run_bind_congr {α β : Type} {x y : ProxyM α} {c d : Conn}
    (h : x c = y d) (f : α → ProxyM β) : (x >>= f) c = (y >>= f) d := by
  cases hx : x c with
  | ok a c' => rw [run_bind_ok hx, run_bind_ok (h.symm.trans hx)]
  | error e c' => rw [run_bind_error hx, run_bind_error (h.symm.trans hx)]

/-- Where the relay numbers the client's writes right, the paths agree. -/
theorem Reads.shapeOf_paths (h : t.Reads cfg)
    (hvalid : t.tcpSegmentation.Valid) {hello shaped : Bytes}
    (hrecord : HelloRecord hello)
    (hshaped : t.applySocketTransforms env hello = .ok shaped)
    {later : List Bytes} {c : Conn} (hc : c.arrivals = hello :: later)
    (hfrag : t.segmentFirstClientHello = true)
    (hone : t.sniBoundaryFrag = none ∨ t.tlsRecordSplit = none)
    (hcounts : t.needsFirstRecord = true ∨ t.takesFirstRecord = false) :
    shapeOf (handleTcpSegConnectionWithIp cfg env c)
      = shapeOf (handleInterceptReadyForData t env c) := by
  have hbranch := readyForData_run hrecord hshaped hc hfrag
  rcases hcounts with hneeds | htakes
  · have hbefore := h.tcpSegPrefix_run hrecord hshaped hc hfrag hone hneeds
    exact congrArg shapeOf
      (run_bind_congr (hbefore.trans hbranch.symm) copyCountingClientToServer)
  · obtain ⟨hpadding, hmixed, hboundary, hsplit⟩ := untaken_eq_none htakes
    obtain rfl : hello = shaped :=
      Except.ok.inj ((applySocketTransforms_none hpadding hmixed).symm.trans
        hshaped)
    have hpackets : (t.tcpSegmentation.packets == .tlsHello) = false := by
      unfold takesFirstRecord at htakes
      rw [hfrag] at htakes
      simp only [Bool.or_eq_false_iff, Bool.true_and] at htakes
      exact htakes.2
    -- one turn of the relay is what the branch did beforehand
    have hwriter : t.writeHello hello
        = relayWrite (some t.tcpSegmentation) hello 1 := by
      unfold writeHello
      rw [hboundary, hsplit, hfrag, hpackets]
      rfl
    have hafter : t.afterHello = some (t.tcpSegmentation, 1) := by
      unfold afterHello
      rw [hpackets, Bool.and_false, ← later_of_listed hfrag]
      rfl
    have hseg : ∀ seg, some t.tcpSegmentation = some seg → seg.Valid := by
      intro seg hsome
      cases hsome
      exact hvalid
    obtain ⟨ws, rngs, hrun⟩ :=
      relayWrite_run hseg hello 1 (t.afterPrefix c later)
    have hsocket : handleTcpSegConnectionWithIp cfg env c
        = copyLoop (some t.tcpSegmentation) c.arrivals.flatten.length
          ⟨0 + hello.length, 1⟩ ((t.afterPrefix c later).wrote ws rngs) := by
      refine (run_bind_ok (h.tcpSegPrefix_untaken htakes c)).trans ?_
      rw [later_of_listed hfrag]
      refine (copyLoop_piece _ _ _ (HelloRecord.fits hrecord).1
        (HelloRecord.fits hrecord).2
        (show (t.afterPrefix c c.arrivals).arrivals = hello :: later
          from hc)).trans ?_
      exact run_bind_ok hrun
    have hintercept : handleInterceptReadyForData t env c
        = copyLoop (some t.tcpSegmentation) (later.flatten.length + 1) ⟨0, 1⟩
          ((t.afterPrefix c later).wrote ws rngs) := by
      have hok : t.readyForData env c
          = .ok (some (t.tcpSegmentation, 1))
            ((t.afterPrefix c later).wrote ws rngs) := by
        rw [hbranch, hwriter, hafter, run_bind_ok hrun]
        rfl
      exact run_bind_ok hok
    have hlen : later.flatten.length < c.arrivals.flatten.length := by
      have := hrecord.toCompleteHello.length
      rw [hc, List.flatten_cons, List.length_append]
      omega
    rw [hsocket, hintercept]
    exact shapeOf_copyLoop hseg _ _ _ _ _ hlen (Nat.lt_succ_self _) rfl

/-- A relay with nothing to read keeps the index it was handed. -/
theorem shapeOf_relay_end (f : Option (TcpSegmentation × UInt32)) {c : Conn}
    (hc : c.arrivals = []) :
    shapeOf (copyCountingClientToServer f c)
      = (some ((f.map (·.2)).getD 0), c.written) := by
  obtain ⟨arrivals, written, rngs⟩ := c
  obtain rfl : arrivals = [] := hc
  rfl

/-- The intercept path on a client that sends the ClientHello only. -/
theorem shapeOf_intercept_hello {env : ConnEnv} {hello shaped : Bytes}
    {ws : List Bytes} (hrecord : HelloRecord hello)
    (hshaped : t.applySocketTransforms env.toSocketEnv hello = .ok shaped)
    (hws : t.cutWrites env.toSocketEnv shaped = .ok ws)
    (hfrag : t.segmentFirstClientHello = true) :
    shapeOf (handleInterceptReadyForData t env.toSocketEnv
        (.established [hello] env))
      = (some ((t.afterHello.map (·.2)).getD 0), t.ccsWrites ++ ws) := by
  have hbranch := readyForData_run hrecord hshaped
    (show (Conn.established [hello] env).arrivals = [hello] from rfl) hfrag
  obtain ⟨rngs, hrun⟩ := writeHello_run hws
    (show (t.afterPrefix (.established [hello] env) []).fragmentRngs 0
      = env.fragmentRng from rfl)
  have hok := hbranch.trans (run_bind_ok hrun)
  refine (congrArg shapeOf (run_bind_ok hok)).trans ?_
  exact shapeOf_relay_end _ rfl

/-- The socket path with a transform under a write range, on the same
client. -/
theorem Reads.shapeOf_transformed_hello (h : t.Reads cfg) {env : ConnEnv}
    {hello shaped : Bytes} (hrecord : HelloRecord hello)
    (hshaped : t.applySocketTransforms env.toSocketEnv hello = .ok shaped)
    (htakes : t.takesFirstRecord = true)
    (hneeds : t.needsFirstRecord = false) :
    shapeOf (handleTcpSegConnectionWithIp cfg env.toSocketEnv
        (.established [hello] env))
      = (some (((t.later 0).map (·.2)).getD 0), t.ccsWrites ++ [shaped]) := by
  have hok := h.tcpSegPrefix_transformed hrecord hshaped
    (show (Conn.established [hello] env).arrivals = [hello] from rfl)
    htakes hneeds
  refine (congrArg shapeOf (run_bind_ok hok)).trans ?_
  exact shapeOf_relay_end _ rfl

end ConnectionSettings

-- =============================================== the paths shape alike or not

/-- `combined` is the list of `cfg` with interceptor methods added. -/
structure Combines (cfg : Config) (combined : BypassMethodList) : Prop where
  same : ∀ m, m.isSocketSide = true →
    combined.contains m = cfg.bypassMethod.contains m
  interceptor : ∃ m ∈ combined, m.isSocketSide = false

/-- The paths shape a client alike that writes `hello` first: they make the
same writes, they cut the ClientHello as client write 1, and the next
write is number 2 where a range of writes is selected. -/
structure ShapedAlike (socket intercept : SocketEnv → ProxyM Copied)
    (t : ConnectionSettings) (env : ConnEnv) (hello : Bytes)
    (later : List Bytes) : Prop where
  sameWrites : upstreamWrites socket env (hello :: later)
    = upstreamWrites intercept env (hello :: later)
  helloFirst : ∃ shaped ws,
    t.applySocketTransforms env.toSocketEnv hello = .ok shaped
      ∧ t.cutWrites env.toSocketEnv shaped = .ok ws
      ∧ ∀ path ∈ [socket, intercept],
        upstreamWrites path env [hello] = t.ccsWrites ++ ws
  nextIsSecond : t.tcpSegmentation.packets ≠ .tlsHello →
    ∀ path ∈ [socket, intercept], nextWriteIndex path env [hello] = some 2

/-- A transform makes the socket path read the first record while
`tls_frag` selects client writes by number, and no method that splits the
ClientHello is listed. -/
def Config.TransformsUnderRange (cfg : Config) : Prop :=
  cfg.parsedTlsFragPackets ≠ .ok .tlsHello
    ∧ (.tlsPadding ∈ cfg.bypassMethod ∨ .mixedCaseSni ∈ cfg.bypassMethod)
    ∧ .sniBoundaryFrag ∉ cfg.bypassMethod
    ∧ .tlsRecordSplit ∉ cfg.bypassMethod

/-- `validate` admits at most one of the two methods that cut at the
SNI. -/
theorem Config.one_splitter {cfg : Config} (h : cfg.validate = .ok ()) :
    (cfg.bypassMethod.contains .tlsRecordSplit
      && cfg.bypassMethod.contains .sniBoundaryFrag) = false := by
  have h := (Config.validate_parts h).2.1
  simp only [Config.validateMethodList, Config.bailIf_bind] at h
  obtain ⟨-, h⟩ := h
  obtain ⟨⟨⟩, -, h⟩ := bind_eq_ok.mp h
  simp only [Config.bailIf_bind] at h
  exact h.1

namespace ConnectionSettings

variable {cfg : Config} {t : ConnectionSettings}

theorem Reads.of_combined {combined : BypassMethodList}
    (h : t.Reads { cfg with bypassMethod := combined })
    (hcombines : Combines cfg combined) : t.Reads cfg := by
  obtain ⟨hsegmentation, hsegments, hpadding, hccs, hmixed, hboundary,
    hsplit⟩ := h
  have hsame := hcombines.same
  simp only [hsame .tlsFrag rfl, hsame .tlsPadding rfl,
    hsame .ccsPrefix rfl, hsame .mixedCaseSni rfl,
    hsame .sniBoundaryFrag rfl, hsame .tlsRecordSplit rfl]
    at hsegments hpadding hccs hmixed hboundary hsplit
  exact ⟨hsegmentation, hsegments, hpadding, hccs, hmixed, hboundary, hsplit⟩

theorem Reads.packets (h : t.Reads cfg) :
    cfg.parsedTlsFragPackets = .ok t.tcpSegmentation.packets := by
  have hnew := h.segmentation
  unfold TcpSegmentation.new at hnew
  split at hnew
  · cases hnew
  · cases hnew
  case h_3 packets length hpackets hlength =>
    rw [hpackets, ← Except.ok.inj hnew]

/-- The socket path reads the record for a transform only. -/
theorem Reads.transformsUnderRange_iff (h : t.Reads cfg)
    (hfrag : t.segmentFirstClientHello = true) :
    cfg.TransformsUnderRange
      ↔ t.takesFirstRecord = true ∧ t.needsFirstRecord = false := by
  have hcontains : ∀ m, m ∈ cfg.bypassMethod
      ↔ cfg.bypassMethod.contains m = true := by
    intro m
    simp
  unfold Config.TransformsUnderRange takesFirstRecord needsFirstRecord
  rw [h.packets, hcontains .tlsPadding, hcontains .mixedCaseSni,
    hcontains .sniBoundaryFrag, hcontains .tlsRecordSplit,
    h.contains_tlsPadding, h.contains_mixedCaseSni,
    h.contains_sniBoundaryFrag, h.contains_tlsRecordSplit, hfrag]
  have hrange : (Except.ok t.tcpSegmentation.packets
        : Except String TlsFragPackets) ≠ .ok .tlsHello
      ↔ (t.tcpSegmentation.packets == .tlsHello) = false := by
    rw [beq_eq_false_iff_ne, ne_eq, Except.ok.injEq]
  rw [hrange]
  simp only [Bool.or_eq_true, Bool.or_eq_false_iff, Bool.true_and,
    Bool.not_eq_true]
  constructor
  · intro hgiven
    obtain ⟨hpackets, htransform, hsni, hsplit⟩ := hgiven
    exact ⟨.inl (.inl (.inl htransform)), ⟨hsni, hsplit⟩, hpackets⟩
  · intro hgiven
    obtain ⟨htakes, ⟨hsni, hsplit⟩, hpackets⟩ := hgiven
    rw [hsni, hsplit, hpackets] at htakes
    refine ⟨hpackets, ?_, hsni, hsplit⟩
    simpa using htakes

theorem Reads.one_splitter (h : t.Reads cfg) (hv : cfg.validate = .ok ()) :
    t.sniBoundaryFrag = none ∨ t.tlsRecordSplit = none := by
  have hone := Config.one_splitter hv
  rw [h.contains_sniBoundaryFrag, h.contains_tlsRecordSplit,
    Bool.and_eq_false_iff] at hone
  simp only [Option.isSome_eq_false_iff, Option.isNone_iff_eq_none] at hone
  exact hone.symm

/-- With `tls_frag` listed, only a range of client writes does without the
record. -/
theorem range_of_unneeded (hfrag : t.segmentFirstClientHello = true)
    (hneeds : t.needsFirstRecord = false) :
    t.tcpSegmentation.packets ≠ .tlsHello := by
  intro hpackets
  unfold needsFirstRecord at hneeds
  rw [hfrag, hpackets] at hneeds
  simp at hneeds

theorem afterHello_of_range (hfrag : t.segmentFirstClientHello = true)
    (hrange : t.tcpSegmentation.packets ≠ .tlsHello) :
    t.afterHello = some (t.tcpSegmentation, 1) := by
  unfold afterHello
  rw [beq_false_of_ne hrange, Bool.and_false, ← later_of_listed hfrag 1]
  rfl

end ConnectionSettings

/-- For every validated list with `tls_frag`, combined with any interceptor
methods, every client whose first write is one ClientHello
record and every seeding, the two paths shape the client alike exactly if
no transform takes the ClientHello away from a range of client writes. -/
theorem paths_shape_hello_alike_iff (cfg : Config)
    (hv : cfg.validate = .ok ())
    (hlisted : .tlsFrag ∈ cfg.bypassMethod) (combined : BypassMethodList)
    (hcombines : Combines cfg combined)
    (hv' : Config.validate { cfg with bypassMethod := combined } = .ok ())
    (env : ConnEnv) (hello : Bytes) (hhello : HelloRecord hello)
    (later : List Bytes) :
    ∃ t, ConnectionSettings.fromConfig { cfg with bypassMethod := combined }
        = .ok t
      ∧ (ShapedAlike (handleTcpSegConnectionWithIp cfg)
          (handleInterceptReadyForData t) t env hello later
        ↔ ¬ cfg.TransformsUnderRange) := by
  obtain ⟨t, ht, hvalid⟩ := ConnectionSettings.fromConfig_ok hv'
  have hreads : t.Reads cfg :=
    (ConnectionSettings.reads_of_fromConfig ht).of_combined hcombines
  have hfrag : t.segmentFirstClientHello = true := by
    rw [hreads.segments]
    simpa using hlisted
  obtain ⟨shaped, hshaped, hhead⟩ := t.applySocketTransforms_head
    env.toSocketEnv hhello.toCompleteHello.helloHead
  obtain ⟨ws, hws, -, -⟩ :=
    ConnectionSettings.cutWrites_spec hvalid env.toSocketEnv hhead
  have hintercept := ConnectionSettings.shapeOf_intercept_hello hhello hshaped
    hws hfrag
  refine ⟨t, ht, ?_⟩
  rw [hreads.transformsUnderRange_iff hfrag]
  constructor
  · -- the relay of the socket path starts at 0 with the record gone
    intro halike hlate
    obtain ⟨htakes, hneeds⟩ := hlate
    have hsocket := hreads.shapeOf_transformed_hello hhello hshaped htakes
      hneeds
    have hnext := halike.nextIsSecond
      (ConnectionSettings.range_of_unneeded hfrag hneeds) _
      List.mem_cons_self
    unfold nextWriteIndex at hnext
    rw [hsocket, ConnectionSettings.later_of_listed hfrag 0] at hnext
    cases hnext
  · intro hok
    have hcounts : t.needsFirstRecord = true ∨ t.takesFirstRecord = false := by
      cases hneeds : t.needsFirstRecord with
      | true => exact .inl rfl
      | false =>
          refine .inr ?_
          cases htakes : t.takesFirstRecord with
          | false => rfl
          | true => exact absurd ⟨htakes, hneeds⟩ hok
    have hagree : ∀ rest, shapeOf (handleTcpSegConnectionWithIp cfg
          env.toSocketEnv (.established (hello :: rest) env))
        = shapeOf (handleInterceptReadyForData t env.toSocketEnv
          (.established (hello :: rest) env)) := fun rest =>
      hreads.shapeOf_paths hvalid.segmentation hhello hshaped rfl hfrag
        (hreads.one_splitter hv) hcounts
    have hboth : ∀ path ∈ [handleTcpSegConnectionWithIp cfg,
        handleInterceptReadyForData t],
          shapeOf (path env.toSocketEnv (.established [hello] env))
            = (some ((t.afterHello.map (·.2)).getD 0), t.ccsWrites ++ ws) := by
      intro path hpath
      simp only [List.mem_cons, List.not_mem_nil, or_false] at hpath
      rcases hpath with rfl | rfl
      · exact (hagree []).trans hintercept
      · exact hintercept
    refine ⟨congrArg Prod.snd (hagree later),
      ⟨shaped, ws, hshaped, hws, ?_⟩, ?_⟩
    · intro path hpath
      exact congrArg Prod.snd (hboth path hpath)
    · intro hrange path hpath
      unfold nextWriteIndex
      rw [hboth path hpath,
        ConnectionSettings.afterHello_of_range hfrag hrange]
      rfl

theorem sampleHello_helloRecord : HelloRecord sampleHello where
  handshake := rfl
  whole := rfl
  clientHello := rfl
  message := rfl
  limit := by decide

/-- Client write 1 in pieces of 40 bytes. -/
def firstWriteConfig (list : BypassMethodList) : Config where
  bypassMethod := list
  tlsFragPackets := "1"
  tlsFragLength := some (.exact 40)

/-- `["tls_frag", "ccs_prefix"]` on client write 1, and the same behind
`wrong_seq`. -/
theorem sample_paths_shape_alike :
    ∃ t, ConnectionSettings.fromConfig
        (firstWriteConfig [.wrongSeq, .tlsFrag, .ccsPrefix]) = .ok t
      ∧ ShapedAlike
          (handleTcpSegConnectionWithIp
            (firstWriteConfig [.tlsFrag, .ccsPrefix]))
          (handleInterceptReadyForData t) t sampleConnEnv sampleHello
          [List.replicate 60 0] := by
  have hcombines : Combines (firstWriteConfig [.tlsFrag, .ccsPrefix])
      [.wrongSeq, .tlsFrag, .ccsPrefix] := by
    refine ⟨?_, .wrongSeq, by decide, rfl⟩
    intro m hm
    cases m <;> first | rfl | cases hm
  obtain ⟨t, ht, hiff⟩ := paths_shape_hello_alike_iff
    (firstWriteConfig [.tlsFrag, .ccsPrefix]) rfl (by decide)
    [.wrongSeq, .tlsFrag, .ccsPrefix] hcombines rfl sampleConnEnv sampleHello
    sampleHello_helloRecord [List.replicate 60 0]
  refine ⟨t, ht, hiff.mpr ?_⟩
  intro hlate
  exact absurd hlate.2.1 (by decide)

/-- `["tls_frag", "mixed_case_sni"]` on client write 1: the intercept path
cuts the ClientHello and leaves the next write whole, the socket path does
it the other way round. -/
theorem transform_moves_the_range :
    ∃ t, (firstWriteConfig [.tlsFrag, .mixedCaseSni]).validate = .ok ()
      ∧ (firstWriteConfig [.wrongSeq, .tlsFrag, .mixedCaseSni]).validate
          = .ok ()
      ∧ ConnectionSettings.fromConfig
          (firstWriteConfig [.wrongSeq, .tlsFrag, .mixedCaseSni]) = .ok t
      ∧ HelloRecord sampleHello
      ∧ (upstreamWrites (handleTcpSegConnectionWithIp
            (firstWriteConfig [.tlsFrag, .mixedCaseSni])) sampleConnEnv
          [sampleHello, List.replicate 60 0]).map List.length = [65, 40, 20]
      ∧ (upstreamWrites (handleInterceptReadyForData t) sampleConnEnv
          [sampleHello, List.replicate 60 0]).map List.length = [40, 25, 60]
      ∧ ¬ ShapedAlike (handleTcpSegConnectionWithIp
            (firstWriteConfig [.tlsFrag, .mixedCaseSni]))
          (handleInterceptReadyForData t) t sampleConnEnv sampleHello
          [List.replicate 60 0] := by
  have hsocket : (upstreamWrites (handleTcpSegConnectionWithIp
        (firstWriteConfig [.tlsFrag, .mixedCaseSni])) sampleConnEnv
      [sampleHello, List.replicate 60 0]).map List.length = [65, 40, 20] := by
    decide +kernel
  refine ⟨_, rfl, rfl, rfl, sampleHello_helloRecord, hsocket, ?_, ?_⟩
  · decide +kernel
  · intro halike
    have hsame := halike.sameWrites
    have hlengths := congrArg (List.map List.length) hsame
    rw [hsocket] at hlengths
    revert hlengths
    decide +kernel

end ZeroDpi
