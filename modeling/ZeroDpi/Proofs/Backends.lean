/-
The two packet backends put the same packets on the wire.

# Where they differ

`linux.rs` corrupts the TCP checksum while it rebuilds a packet, whatever
happens to it then; `windows.rs` rebuilds valid packets and patches the
checksum of one that is sent whole. The two come to the same because a
corrupted checksum is staged at the handshake only, where nothing is cut,
and fragments, segments and decoys are staged in the data stage only.

The rest is branch structure: a list of one fragment is the packet itself,
and an original behind a decoy is accepted on one side and sent again on
the other.
-/
import ZeroDpi.Platform.Windows
import ZeroDpi.Proofs.Feedback

namespace ZeroDpi

open Lib Handler

-- ============================================================== the wire

/-- The IPv4 packets of what goes out as one unit. -/
def Linux.Emitted.packets : Linux.Emitted → List Bytes
  | .packet b => [b]
  | .fragments parts => parts

/-- What the NFQUEUE backend puts on the wire, in order. -/
def Linux.Emission.wire (e : Linux.Emission) : List Bytes :=
  e.decoys ++ e.inPlace.flatMap Linux.Emitted.packets

/-- Packets sent one by one. -/
theorem flatMap_packet (bs : List Bytes) :
    (bs.map Linux.Emitted.packet).flatMap Linux.Emitted.packets = bs := by
  rw [List.flatMap_map]
  exact List.flatMap_singleton' bs

-- ======================================================== one staged view

/-- No data hook stages a checksum corruption. -/
theorem dataHook_corrupt {x : Member} {env : HookEnv} {s : FlowState}
    {pkt v : PacketView} {action : MethodAction}
    (hhook : BypassMethod.onFirstDataPacket x env s pkt = .ok (action, v)) :
    v.corruptTcpChecksumDelta = pkt.corruptTcpChecksumDelta := by
  have hsegments : ∀ spec : DisorderSpec,
      (pkt.stageSegments spec).corruptTcpChecksumDelta
        = pkt.corruptTcpChecksumDelta := by
    intro spec
    unfold PacketView.stageSegments
    split <;> rfl
  cases x with
  | fakeTls f =>
      have hhook : f.onFirstDataPacket env s pkt = _ := hhook
      unfold FakeTls.onFirstDataPacket at hhook
      split at hhook
      · cases hhook
        rfl
      · split at hhook
        · cases hhook
        · simp only at hhook
          split at hhook
          · cases hhook
            rfl
          · cases hhook
            rfl
  | tlsRecordFrag f =>
      obtain ⟨out, -, hhook⟩ := bind_eq_ok.mp hhook
      cases out <;> cases hhook <;> rfl
  | urgSniSplit f =>
      obtain ⟨out, -, hhook⟩ := bind_eq_ok.mp hhook
      cases out <;> cases hhook <;> rfl
  | ipFrag f =>
      cases hhook
      split <;> rfl
  | disorder f =>
      cases hhook
      exact hsegments f.spec
  | seqovl f =>
      cases hhook
      exact hsegments f.spec
  | _ =>
      cases hhook
      rfl

/-- Of what a chain leaves staged, a packet whose checksum is corrupted is
sent whole and alone. -/
theorem valid_or_unrequested {m : CompositeMethod Member} {env : HookEnv}
    {s : FlowState} {pkt : CapturedPacket} {r : Handled}
    (hr : onPacket m env s pkt.view = .ok r)
    (hmod : r.verdict = .acceptModified) :
    r.pkt.corruptTcpChecksumDelta = none ∨ Unrequested r.pkt := by
  obtain ⟨l, hl, hr⟩ := bind_eq_ok.mp hr
  cases hr
  rcases modified_cases hl hmod with hnone | ⟨action, v, -, hhook, rfl⟩
  · exact .inr hnone
  · have hclean : v.corruptTcpChecksumDelta = none := by
      have hhook : m.onFirstDataPacket env s pkt.view = _ := hhook
      unfold CompositeMethod.onFirstDataPacket at hhook
      split at hhook
      · cases hhook
        rfl
      · exact CompositeMethod.dataLoop_invariant
          (P := fun w => w.corruptTcpChecksumDelta = none)
          (fun _ _ _ _ _ hp hx => (dataHook_corrupt hx).trans hp) hhook rfl
    left
    show (onDataAction s action v).pkt.corruptTcpChecksumDelta = none
    rw [onDataAction_pkt]
    exact hclean

-- ================================================== the rebuilt packets

section Rebuilt

variable {E : Etherparse} {buf : Bytes} {layout : Linux.PacketLayout}

/-- The corruption as a patch of a whole packet. -/
def patched (layout : Linux.PacketLayout) (delta : Option UInt16)
    (b : Bytes) : Bytes :=
  match delta with
  | some delta => (Windows.corruptTcpChecksum b layout delta).getD b
  | none => b

/-- A word that was written is read back. -/
theorem be16_overwrite_append {front l back : Bytes} {i : Nat}
    (word : UInt16) (h : i + 2 ≤ l.length) :
    (be16 ((front ++ overwrite l i (toBe16 word.toNat) ++ back).getD
        (front.length + i) 0)
      ((front ++ overwrite l i (toBe16 word.toNat) ++ back).getD
        (front.length + i + 1) 0)).toUInt16 = word := by
  rw [← overwrite_append front l back _ h,
    be16_overwrite _ (by simp only [List.length_append]; omega)]
  apply UInt16.toNat.inj
  have hword := word.toNat_lt
  rw [Nat.toUInt16_eq, UInt16.toNat_ofNat']
  omega

/-- The patch of a written packet is the packet written with the corrupted
checksum. -/
theorem patched_written (hE : E.Lawful) (hC : E.KeepsChecksum)
    {ip : Ipv4Header} {tcp : TcpHeader} (payload : Bytes)
    (checksum delta : UInt16) (hip : OptionArea ip.options)
    (htcp : OptionArea tcp.options) (hlayout : layout.ipHdrLen = ip.headerLen) :
    patched layout (some delta) (E.ipv4Bytes ip
        ++ E.tcpBytes { tcp with checksum := checksum } ++ payload)
      = E.ipv4Bytes ip ++ E.tcpBytes { tcp with checksum := checksum + delta }
        ++ payload := by
  have hfront : layout.ipHdrLen = (E.ipv4Bytes ip).length :=
    hlayout.trans (hE.ipv4Length hip).symm
  have hroom : 16 + 2 ≤ (E.tcpBytes tcp).length := by
    rw [hE.tcpLength htcp, TcpHeader.headerLen]
    omega
  rw [hC.writeChecksum checksum htcp, hC.writeChecksum (checksum + delta) htcp]
  have hlong : layout.ipHdrLen + 16 + 2 ≤ (E.ipv4Bytes ip
      ++ overwrite (E.tcpBytes tcp) 16 (toBe16 checksum.toNat)
      ++ payload).length := by
    rw [List.length_append, List.length_append, length_overwrite hroom, hfront]
    omega
  simp only [patched, Windows.corruptTcpChecksum]
  have hsame : (toBe16 (checksum + delta).toNat).length
      = (toBe16 checksum.toNat).length := rfl
  rw [if_neg (by omega), Option.getD_some, hfront,
    be16_overwrite_append checksum hroom, overwrite_append _ _ _ _
      (by rw [length_overwrite hroom]; exact hroom),
    overwrite_overwrite hroom hsame]

theorem writePacket_eq_patched (hE : E.Lawful) (hC : E.KeepsChecksum)
    (view : PacketView) {ip : Ipv4Header} {tcp : TcpHeader}
    (payload : Bytes) (hip : OptionArea ip.options)
    (htcp : OptionArea tcp.options)
    (hlayout : layout.ipHdrLen = ip.headerLen) :
    Linux.writePacket E view ip tcp payload
      = (Windows.writePacket E ip tcp payload).map
          (patched layout view.corruptTcpChecksumDelta) := by
  simp only [Linux.writePacket, Windows.writePacket]
  cases E.totalLenFor ip (tcp.headerLen + payload.length) with
  | none => rfl
  | some totalLen =>
      simp only [Option.bind_eq_bind, Option.bind_some]
      cases E.tcpChecksum _ tcp payload with
      | none => rfl
      | some checksum =>
          cases view.corruptTcpChecksumDelta with
          | none => rfl
          | some delta =>
              symm
              exact congrArg some (patched_written hE hC payload checksum
                delta (by exact hip) htcp (by exact hlayout))

/-- What `parse_view` read of a packet, with or without a payload. -/
theorem parseView_headers {direction : Direction} {pkt : CapturedPacket}
    (hparse : Linux.parseView E direction buf = .ok (some (pkt, layout))) :
    ∃ ip tcp, E.ipv4FromSlice buf = some ip
      ∧ E.tcpFromSlice (buf.drop ip.headerLen) = some tcp
      ∧ layout = ⟨ip.headerLen, tcp.headerLen, ip.headerLen + tcp.headerLen,
        ip.totalLen.toNat⟩ := by
  unfold Linux.parseView at hparse
  split at hparse
  · cases hparse
  case h_2 ip hip =>
    split at hparse
    · cases hparse
    · split at hparse
      · cases hparse
      case h_2 tcp htcp =>
        simp only at hparse
        split at hparse
        · cases hparse
        · cases hparse
          exact ⟨ip, tcp, hip, htcp, rfl⟩

/-- `build_modified` of one backend is that of the other with the staged
corruption patched in. -/
theorem buildModified_eq_patched (hE : E.Lawful) (hC : E.KeepsChecksum)
    {direction : Direction} {pkt : CapturedPacket}
    (hparse : Linux.parseView E direction buf = .ok (some (pkt, layout)))
    (view : PacketView) :
    Linux.buildModified E buf layout view
      = (Windows.buildModified E buf layout view).map
          (·.map (patched layout view.corruptTcpChecksumDelta)) := by
  obtain ⟨ip₀, tcp₀, hip₀, -, hlayout⟩ := parseView_headers hparse
  have hihl₀ : layout.ipHdrLen = ip₀.headerLen := by rw [hlayout]
  have hmin : 20 ≤ ip₀.headerLen := by simp [Ipv4Header.headerLen]
  simp only [Linux.buildModified, Windows.buildModified]
  cases hip : E.ipv4FromSlice (buf.take layout.ipHdrLen) with
  | none => rfl
  | some ip =>
      have hihl : layout.ipHdrLen = ip.headerLen := by
        rw [← hE.ipv4Ihl hip, getD_take (by omega), hE.ipv4Ihl hip₀, hihl₀]
      have hipArea : OptionArea ip.options := hE.ipv4Options hip
      cases htcp : E.tcpFromSlice
          ((buf.drop layout.ipHdrLen).take layout.tcpHdrLen) with
      | none => rfl
      | some tcp =>
          cases view.newPayload.or
              (slice? buf layout.payloadOff layout.totalLen) with
          | none => rfl
          | some payload =>
              show Except.ok (Option.bind (Linux.rewriteTcp E view tcp) _)
                = Except.ok (Option.map _
                    (Option.bind (Linux.rewriteTcp E view tcp) _))
              cases hrewrite : Linux.rewriteTcp E view tcp with
              | none => rfl
              | some tcp' =>
                  have harea : OptionArea tcp'.options :=
                    (Linux.rewriteTcp_spec hE hrewrite
                      (hE.tcpOptions htcp)).1
                  exact congrArg Except.ok (writePacket_eq_patched hE hC
                    view payload (show OptionArea
                      (Linux.rewriteIpv4 view ip).options from hipArea)
                    harea hihl)

/-- A packet that is whole is rebuilt without a panic. -/
theorem buildModified_total (hE : E.Lawful) {direction : Direction}
    {pkt : CapturedPacket}
    (hparse : Linux.parseView E direction buf = .ok (some (pkt, layout)))
    (hwhole : layout.totalLen = buf.length) (view : PacketView) :
    ∃ built, Windows.buildModified E buf layout view = .ok built := by
  obtain ⟨ip, tcp, hip, htcp, hlayout⟩ := parseView_headers hparse
  have hroom := hE.tcpPresent htcp
  rw [List.length_drop] at hroom
  have hipRoom := hE.ipv4Present hip
  have hoff : layout.payloadOff = ip.headerLen + tcp.headerLen := by
    rw [hlayout]
  unfold Windows.buildModified
  split
  · rw [slice?, if_pos ⟨by omega, by omega⟩]
    cases view.newPayload <;> exact ⟨_, rfl⟩
  · exact ⟨none, rfl⟩

theorem emitDecoys_total (hE : E.Lawful) {direction : Direction}
    {pkt : CapturedPacket}
    (hparse : Linux.parseView E direction buf = .ok (some (pkt, layout)))
    (hwhole : layout.totalLen = buf.length) (view : PacketView)
    (divert : Windows.DivertIo) :
    ∃ decoys, Windows.emitDecoys E divert buf layout view = .ok decoys := by
  unfold Windows.emitDecoys
  cases view.decoy with
  | none => exact ⟨[], rfl⟩
  | some decoy =>
      obtain ⟨built, hbuilt⟩ :=
        buildModified_total hE hparse hwhole (view.decoyView decoy)
      simp only [hbuilt]
      cases built <;> exact ⟨_, rfl⟩

end Rebuilt

-- ============================================================ the emission

section Emission

/-- A raw socket that is open and takes everything. -/
structure Linux.RawIo.Takes (io : Linux.RawIo) : Prop where
  socket : io.socket = true
  sends : ∀ i, io.sends i = true

/-- A divert handle that takes everything. -/
structure Windows.DivertIo.Takes (io : Windows.DivertIo) : Prop where
  sends : ∀ i, io.sends i = true
  delayedHandle : io.delayedHandle = true

theorem Windows.DivertIo.Takes.send {io : Windows.DivertIo}
    (h : io.Takes) (i : Nat) (b : Bytes) : io.send i b = [b] :=
  if_pos (h.sends i)

theorem Windows.DivertIo.Takes.sendAll {io : Windows.DivertIo}
    (h : io.Takes) (i : Nat) (bs : List Bytes) : io.sendAll i bs = bs := by
  induction bs generalizing i with
  | nil => rfl
  | cons b rest ih => rw [Windows.DivertIo.sendAll, if_pos (h.sends i), ih]

theorem Windows.DivertIo.Takes.sendEach {io : Windows.DivertIo}
    (h : io.Takes) (i : Nat) (bs : List Bytes) : io.sendEach i bs = bs := by
  induction bs generalizing i with
  | nil => rfl
  | cons b rest ih =>
      rw [Windows.DivertIo.sendEach, h.send, ih, List.singleton_append]

theorem Windows.DivertIo.Takes.sendRemaining {io : Windows.DivertIo}
    (h : io.Takes) (spec : DisorderSpec) (bs : List Bytes) :
    Windows.sendRemaining io spec bs = bs := by
  rw [Windows.sendRemaining, if_neg (by simp [h.delayedHandle]), h.sendAll]

/-- A packet is its only fragment, or it is cut. -/
theorem fragmentIpv4Packet_uncut_or (b : Bytes) (size : Nat) :
    fragmentIpv4Packet b size = [b]
      ∨ 1 < (fragmentIpv4Packet b size).length := by
  unfold fragmentIpv4Packet
  split
  · exact .inl rfl
  · simp only
    split
    · exact .inl rfl
    · split
      · exact .inl rfl
      · -- the payload is longer than one chunk, so there are two
        rename_i hcut
        rw [not_or, Nat.not_le] at hcut
        have hn : 0 < size / 8 * 8 := Nat.pos_of_ne_zero hcut.1
        right
        rw [length_buildFragments,
          chunks_of_ne_nil hn (List.ne_nil_of_length_pos (by omega)),
          chunks_of_ne_nil hn (List.ne_nil_of_length_pos
            (by rw [List.length_drop]; omega))]
        simp

variable {buf newBytes : Bytes} {layout : Linux.PacketLayout}
  {view : PacketView} {raw : Linux.RawIo} {divert : Windows.DivertIo}
  {recalculateChecksums : Bytes → Bytes}

/-- Once rebuilt, a packet leaves both backends in the same pieces. -/
theorem emitShaped_alike (hraw : raw.Takes) (hdivert : divert.Takes)
    (hsep : view.corruptTcpChecksumDelta = none ∨ Unrequested view)
    (hrecalc : recalculateChecksums newBytes = newBytes) :
    (Linux.emitShaped raw buf view
        (patched layout view.corruptTcpChecksumDelta newBytes)).flatMap
          Linux.Emitted.packets
      = Windows.emitShaped recalculateChecksums divert buf layout view
          newBytes := by
  have hcut : view.ipFragPayloadSize ≠ none ∨ view.disorderSpec ≠ none →
      view.corruptTcpChecksumDelta = none := by
    intro hcut
    rcases hsep with hnone | hwhole
    · exact hnone
    · rcases hcut with hfrag | hsegments
      · exact absurd hwhole.whole hfrag
      · exact absurd hwhole.unsegmented hsegments
  unfold Linux.emitShaped Windows.emitShaped
  cases hfrag : view.ipFragPayloadSize with
  | some size =>
      rw [hcut (.inl (by rw [hfrag]; nofun))]
      simp only [patched, hdivert.sendEach, hraw.socket, true_and,
        Linux.RawIo.sendAll_of_sends hraw.sends, if_true]
      rcases fragmentIpv4Packet_uncut_or newBytes size with hone | hmany
      · rw [hone]
        rfl
      · rw [if_pos hmany]
        exact List.flatMap_singleton _ _
  | none =>
      cases hspec : view.disorderSpec with
      | some spec =>
          rw [hcut (.inr (by rw [hspec]; nofun))]
          simp only [patched, hraw.socket, true_and, hraw.sends, and_true,
            Linux.RawIo.sendAll_of_sends hraw.sends, hdivert.sends, if_true,
            hdivert.sendRemaining, hdivert.send, hrecalc]
          cases hsegs : splitTcpPayload newBytes spec with
          | nil => rfl
          | cons first rest =>
              cases rest with
              | nil => rfl
              | cons second rest =>
                  rw [if_pos (by simp)]
                  exact flatMap_packet (first :: second :: rest)
      | none =>
          simp only [hraw.socket, hraw.sends, and_true, hrecalc,
            hdivert.send]
          by_cases horiginal : view.emitOriginalAfter = true
          · rw [if_pos horiginal, if_pos horiginal]
            rfl
          · rw [if_neg horiginal, if_neg horiginal]
            rfl

theorem emitDecoys_alike {E : Etherparse} (hE : E.Lawful)
    (hC : E.KeepsChecksum) {direction : Direction} {pkt : CapturedPacket}
    (hparse : Linux.parseView E direction buf = .ok (some (pkt, layout)))
    (hraw : raw.Takes) (hdivert : divert.Takes) :
    Linux.emitDecoys E raw buf layout view
      = Windows.emitDecoys E divert buf layout view := by
  unfold Linux.emitDecoys Windows.emitDecoys
  cases view.decoy with
  | none => rfl
  | some decoy =>
      have hbuild : Linux.buildModified E buf layout (view.decoyView decoy)
          = Windows.buildModified E buf layout (view.decoyView decoy) := by
        have hpatch := buildModified_eq_patched hE hC hparse
          (view.decoyView decoy)
        -- a decoy view has no staged corruption
        have hid : (fun built : Option Bytes =>
            built.map (patched layout none)) = id := by
          funext built
          cases built <;> rfl
        rw [hpatch]
        show Except.map (fun built : Option Bytes =>
          built.map (patched layout none)) _ = _
        rw [hid, Except.map_id]
        rfl
      dsimp only
      rw [hbuild]
      cases Windows.buildModified E buf layout (view.decoyView decoy) with
      | error e => rfl
      | ok built =>
          cases built with
          | none => rfl
          | some wire =>
              show Except.ok _ = Except.ok _
              rw [if_pos hraw.socket,
                Linux.RawIo.sendAll_of_sends hraw.sends, hdivert.sendAll]

end Emission

/-- With every send taken and checksums recalculated to what they are, both
backends put the same packets on the wire, in the same order, for every
captured packet and every view a chain leaves staged. -/
theorem backends_emit_alike (E : Etherparse) (hE : E.Lawful)
    (hC : E.KeepsChecksum) (m : CompositeMethod Member)
    (direction : Direction) (buf : Bytes) (pkt : CapturedPacket)
    (layout : Linux.PacketLayout)
    (hparse : Linux.parseView E direction buf = .ok (some (pkt, layout)))
    (hwhole : layout.totalLen = buf.length) (env : HookEnv) (s : FlowState)
    (r : Handled) (hr : onPacket m env s pkt.view = .ok r)
    (hmod : r.verdict = .acceptModified)
    (recalculateChecksums : Bytes → Bytes)
    (hrecalc : ∀ b, Windows.buildModified E buf layout r.pkt = .ok (some b) →
      recalculateChecksums b = b)
    (rawDecoy raw : Linux.RawIo) (hrawDecoy : rawDecoy.Takes)
    (hraw : raw.Takes) (divertDecoy divert : Windows.DivertIo)
    (hdivertDecoy : divertDecoy.Takes) (hdivert : divert.Takes) :
    Windows.parseView E direction buf = .ok (some (pkt, layout))
      ∧ ∃ emission, Linux.emit E rawDecoy raw buf layout r = .ok emission
        ∧ Windows.emit E recalculateChecksums divertDecoy divert buf layout r
          = .ok emission.wire := by
  refine ⟨hparse, ?_⟩
  obtain ⟨decoys, hdecoys⟩ :=
    emitDecoys_total hE hparse hwhole r.pkt divertDecoy
  obtain ⟨built, hbuilt⟩ := buildModified_total hE hparse hwhole r.pkt
  have hlinux := buildModified_eq_patched hE hC hparse r.pkt
  simp only [Linux.emit, Windows.emit, hmod]
  rw [emitDecoys_alike hE hC hparse hrawDecoy hdivertDecoy, hdecoys, hlinux,
    hbuilt]
  cases built with
  | none =>
      -- rebuilding failed: the original goes out
      refine ⟨_, rfl, congrArg Except.ok ?_⟩
      rw [hdivert.send]
      rfl
  | some newBytes =>
      refine ⟨_, rfl, congrArg Except.ok ?_⟩
      rw [← emitShaped_alike hraw hdivert (valid_or_unrequested hr hmod)
        (hrecalc newBytes hbuilt)]
      rfl

/-- Checksums computed anew from the headers and the payload of a packet. -/
def recalculated (b : Bytes) : Bytes :=
  match Wire.ipv4FromSlice b with
  | none => b
  | some ip =>
      match Wire.tcpFromSlice (b.drop ip.headerLen) with
      | none => b
      | some tcp =>
          let payload := b.drop (ip.headerLen + tcp.headerLen)
          let ip :=
            { ip with headerChecksum := Wire.etherparse.headerChecksum ip }
          match Wire.etherparse.tcpChecksum ip tcp payload with
          | none => b
          | some checksum => Wire.ipv4Bytes ip
              ++ Wire.tcpBytes { tcp with checksum := checksum } ++ payload

/-- A divert handle that takes everything. -/
def openDivert : Windows.DivertIo where
  sends _ := true
  delayedHandle := true

/-- The ACK that completes the sample handshake, on the wire: the sample
packet without PSH. -/
def sampleAckBytes : Bytes := overwrite (sampleBytes []) 33 [0x10]

/-- `["wrong_checksum"]`: the fake goes out with a corrupted checksum. -/
theorem sample_backends_alike :
    ∃ m s r,
      buildMethod { bypassMethod := [.wrongChecksum] } (fun _ => 0) = some m
      ∧ feedAll m (.new [0x16, 3, 1] none) sampleOpening = .ok s
      ∧ onPacket m sampleEnv s sampleAck.view = .ok r
      ∧ r.pkt.corruptTcpChecksumDelta.isSome
      ∧ ∃ emission, Linux.emit Wire.etherparse openIo openIo sampleAckBytes
          ⟨20, 20, 40, 40⟩ r = .ok emission
        ∧ Windows.emit Wire.etherparse recalculated openDivert openDivert
          sampleAckBytes ⟨20, 20, 40, 40⟩ r = .ok emission.wire := by
  have hrun : ∃ m s r,
      buildMethod { bypassMethod := [.wrongChecksum] } (fun _ => 0) = some m
      ∧ feedAll m (.new [0x16, 3, 1] none) sampleOpening = .ok s
      ∧ onPacket m sampleEnv s sampleAck.view = .ok r
      ∧ r.pkt.corruptTcpChecksumDelta.isSome
      ∧ r.verdict = .acceptModified
      ∧ ∀ b, Windows.buildModified Wire.etherparse sampleAckBytes
          ⟨20, 20, 40, 40⟩ r.pkt = .ok (some b) → recalculated b = b := by
    refine ⟨_, _, _, rfl, rfl, rfl, rfl, rfl, ?_⟩
    intro b hb
    obtain rfl := Option.some.inj (Except.ok.inj hb)
    decide
  obtain ⟨m, s, r, hm, hs, hr, hdelta, hmod, hrecalc⟩ := hrun
  exact ⟨m, s, r, hm, hs, hr, hdelta, (backends_emit_alike Wire.etherparse
    Wire.etherparse_lawful Wire.etherparse_keepsChecksum m .outbound
    sampleAckBytes sampleAck ⟨20, 20, 40, 40⟩ rfl rfl sampleEnv s r hr hmod
    recalculated hrecalc openIo openIo ⟨rfl, fun _ => rfl⟩
    ⟨rfl, fun _ => rfl⟩ openDivert openDivert ⟨fun _ => rfl, rfl⟩
    ⟨fun _ => rfl, rfl⟩).2⟩

end ZeroDpi
