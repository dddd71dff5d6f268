/-
When `build_modified` has a packet to give.

It gives none where the rewritten options do not fit into their area, or
the whole packet not into the total length; everything else `etherparse`
lets through (`Etherparse.Accepts`). So for a parsed packet this is a
matter of lengths (`buildModified_iff`), and a packet that keeps its
payload and its options always fits (`Parsed.rebuilt`).
-/
import ZeroDpi.Proofs.Md5Option

namespace ZeroDpi

open Lib

/-- The functions refuse nothing that fits. -/
structure Etherparse.Accepts (E : Etherparse) : Prop where
  totalLenFor : ∀ {h n}, h.headerLen + n < 65536 →
    ∃ len, E.totalLenFor h n = some len
  padOptions : ∀ {raw}, raw.length ≤ 40 →
    ∃ padded, E.padOptions raw = some padded
  tcpChecksum : ∀ {ip tcp payload}, tcp.headerLen + payload.length < 65536 →
    ∃ checksum, E.tcpChecksum ip tcp payload = some checksum

/-- Where the FIN flag is written. -/
structure Etherparse.KeepsFin (E : Etherparse) : Prop where
  writeFin : ∀ {h}, OptionArea h.options →
    readFin (E.tcpBytes h) = h.flags.fin

theorem Wire.etherparse_accepts : Wire.etherparse.Accepts where
  totalLenFor h := ⟨_, if_pos h⟩
  padOptions h := ⟨_, if_pos h⟩
  tcpChecksum h := ⟨_, if_pos h⟩

/-- The lowest bit of a byte. -/
theorem lowestBit (n : Nat) (bit : Bool) :
    decide ((2 * n + bit.toNat).toUInt8 &&& 0x01 ≠ 0) = bit := by
  have hbit : ((2 * n + bit.toNat).toUInt8 &&& 0x01).toNat = bit.toNat := by
    rw [UInt8.toNat_and, show (0x01 : UInt8).toNat = 1 from rfl,
      Nat.and_one_is_mod, Nat.toUInt8_eq, UInt8.toNat_ofNat']
    have := bit.toNat_lt
    omega
  have hzero : (2 * n + bit.toNat).toUInt8 &&& 0x01 = 0 ↔ bit = false := by
    rw [← UInt8.toNat_inj, hbit]
    cases bit <;> decide
  cases bit with
  | false => exact decide_eq_false (not_not_intro (hzero.mpr rfl))
  | true => exact decide_eq_true fun h => Bool.noConfusion (hzero.mp h)

theorem Wire.etherparse_keepsFin : Wire.etherparse.KeepsFin where
  writeFin := fun {h} _ => lowestBit _ h.flags.fin

namespace Linux

variable {E : Etherparse} {direction : Direction} {buf : Bytes}
  {pkt : CapturedPacket} {layout : PacketLayout} {view : PacketView}

/-- The length of an option area of `n` bytes with more options, where they
fit. -/
def appendedLen (n : Nat) (append : Bytes) : Option Nat :=
  if append.isEmpty then some n
  else if 40 < (n + append.length + 3) / 4 * 4 then none
  else some ((n + append.length + 3) / 4 * 4)

-- ============================================================ the options

theorem appendTcpOptions_iff (hO : E.KeepsOptions) (hA : E.Accepts)
    (tcp : TcpHeader) (append : Bytes) :
    (appendTcpOptions E tcp append).map (·.options.length)
      = appendedLen tcp.options.length append := by
  unfold appendTcpOptions appendedLen
  split
  · rfl
  case isFalse hne =>
    simp only
    split
    · rfl
    case isFalse hfits =>
      obtain ⟨padded, hpad⟩ := @hA.padOptions (tcp.options ++ append) (by
        rw [List.length_append]
        omega)
      rw [hpad, Option.map_some, Option.map_some, hO.padOptions hpad]
      simp only [List.length_append, List.length_replicate]
      congr 1
      omega

/-- The rewritten header is as long as the options say. -/
theorem rewriteTcp_iff (hO : E.KeepsOptions) (hA : E.Accepts)
    {tcp : TcpHeader} (harea : OptionArea tcp.options)
    (hreplace : ∀ options, view.replaceTcpOptions = some options →
      options.length = tcp.options.length) :
    (rewriteTcp E view tcp).map (·.options.length)
      = appendedLen tcp.options.length view.appendTcpOptions := by
  unfold rewriteTcp
  cases hoptions : view.replaceTcpOptions with
  | none => exact appendTcpOptions_iff hO hA _ _
  | some options =>
      have hlen := hreplace options hoptions
      obtain ⟨padded, hpad⟩ := @hA.padOptions options (hlen ▸ harea.room)
      have hwords : options.length % 4 = 0 := hlen ▸ harea.words
      obtain rfl := padOptions_words hO hwords hpad
      simp only [hpad, Option.map_some, Option.bind_eq_bind,
        Option.bind_some]
      rw [← hlen]
      exact appendTcpOptions_iff hO hA _ _

-- ============================================================= the packet

theorem writePacket_iff (hE : E.Lawful) (hA : E.Accepts) (ip : Ipv4Header)
    (tcp : TcpHeader) (payload : Bytes) :
    (∃ b, writePacket E view ip tcp payload = some b)
      ↔ ip.headerLen + (tcp.headerLen + payload.length) < 65536 := by
  constructor
  · intro hgiven
    obtain ⟨b, hb⟩ := hgiven
    obtain ⟨total, htotal, -⟩ := Option.bind_eq_some_iff.mp hb
    rw [← hE.totalLenFor htotal]
    exact total.toNat_lt
  · intro hfits
    obtain ⟨total, htotal⟩ := hA.totalLenFor hfits
    have hseg : tcp.headerLen + payload.length < 65536 := by omega
    obtain ⟨checksum, hchecksum⟩ := @hA.tcpChecksum
      { ip with
        totalLen := total
        headerChecksum := E.headerChecksum { ip with totalLen := total } }
      tcp payload hseg
    exact ⟨_, Option.bind_eq_some_iff.mpr ⟨total, htotal,
      Option.bind_eq_some_iff.mpr ⟨checksum, hchecksum, rfl⟩⟩⟩

/-- The headers that `build_modified` starts from. -/
structure Rereads (E : Etherparse) (buf : Bytes) (layout : PacketLayout)
    (ip : Ipv4Header) (tcp : TcpHeader) : Prop where
  ipv4 : E.ipv4FromSlice (buf.take layout.ipHdrLen) = some ip
  tcp : E.tcpFromSlice ((buf.drop layout.ipHdrLen).take layout.tcpHdrLen)
    = some tcp

/-- They are the ones that the parser found. -/
theorem rereads (hE : E.Lawful) (hP : E.HeadersPresent)
    (hparse : parseView E direction buf = .ok (some (pkt, layout))) :
    ∃ ip tcp, Rereads E buf layout ip tcp ∧ layout.ipHdrLen = ip.headerLen
      ∧ OptionArea tcp.options ∧ tcp.sequenceNumber = pkt.seq
      ∧ tcp.flags = pkt.flags ∧ tcp.options = pkt.tcpOptions := by
  obtain ⟨ip, tcp, hip, htcp, hlayout, hfields⟩ := parseView_fields hparse
  refine ⟨ip, tcp, ⟨?_, ?_⟩, ?_, hE.tcpOptions htcp, hfields⟩
  · rw [hlayout]
    exact (hP.ipv4 hip).2
  · rw [hlayout]
    exact (hP.tcp htcp).2
  · rw [hlayout]

theorem Rereads.buildModified_eq {ip : Ipv4Header} {tcp : TcpHeader}
    (h : Rereads E buf layout ip tcp) {payload : Bytes}
    (hpayload : view.newPayload.or
      (slice? buf layout.payloadOff layout.totalLen) = some payload) :
    buildModified E buf layout view = .ok ((rewriteTcp E view tcp).bind
      fun tcp' => writePacket E view (rewriteIpv4 view ip) tcp' payload) := by
  unfold buildModified
  simp only [h.ipv4, h.tcp, hpayload]
  rfl

/-- A parsed packet can be rebuilt around a payload exactly if the options
fit into their area and all of it into the total length. -/
theorem buildModified_iff (hE : E.Lawful) (hP : E.HeadersPresent)
    (hO : E.KeepsOptions) (hA : E.Accepts)
    (hparse : parseView E direction buf = .ok (some (pkt, layout)))
    {payload : Bytes}
    (hpayload : view.newPayload.or
      (slice? buf layout.payloadOff layout.totalLen) = some payload)
    (hreplace : ∀ options, view.replaceTcpOptions = some options →
      options.length = pkt.tcpOptions.length) :
    (∃ b, buildModified E buf layout view = .ok (some b))
      ↔ ∃ n, appendedLen pkt.tcpOptions.length view.appendTcpOptions = some n
        ∧ layout.ipHdrLen + (20 + n + payload.length) < 65536 := by
  obtain ⟨ip, tcp, hread, hihl, harea, -, -, hoptions⟩ :=
    rereads hE hP hparse
  have hlen : (rewriteTcp E view tcp).map _ = _ :=
    rewriteTcp_iff hO hA harea (by rwa [hoptions])
  rw [hread.buildModified_eq hpayload, ← hoptions, ← hlen, hihl]
  simp only [Except.ok.injEq]
  cases hrewrite : rewriteTcp E view tcp with
  | none => simp
  | some tcp' =>
      rw [Option.bind_some, writePacket_iff hE hA]
      simp only [Option.map_some, Option.some.injEq, exists_eq_left']
      show (rewriteIpv4 view ip).headerLen + _ < _ ↔ _
      rfl

theorem appendTcpOptions_flags {append : Bytes} {tcp tcp' : TcpHeader}
    (h : appendTcpOptions E tcp append = some tcp') :
    tcp'.flags = tcp.flags := by
  unfold appendTcpOptions at h
  split at h
  · cases h
    rfl
  · simp only at h
    split at h
    · cases h
    · obtain ⟨padded, -, rfl⟩ := Option.map_eq_some_iff.mp h
      rfl

theorem rewriteTcp_flags {tcp tcp' : TcpHeader}
    (h : rewriteTcp E view tcp = some tcp') :
    tcp'.flags = view.newFlags.getD tcp.flags := by
  unfold rewriteTcp at h
  cases hreplace : view.replaceTcpOptions with
  | none =>
      rw [hreplace] at h
      exact appendTcpOptions_flags h
  | some options =>
      rw [hreplace] at h
      obtain ⟨mid, hmid, hend⟩ := Option.bind_eq_some_iff.mp h
      obtain ⟨padded, -, rfl⟩ := Option.map_eq_some_iff.mp hmid
      exact appendTcpOptions_flags hend

theorem readFin_written (hE : E.Lawful) (hF : E.KeepsFin) {ip : Ipv4Header}
    {tcp : TcpHeader} {ihl : Nat} (hihl : ip.headerLen = ihl)
    (hip : OptionArea ip.options) (htcp : OptionArea tcp.options)
    (payload : Bytes) :
    readFin ((E.ipv4Bytes ip ++ E.tcpBytes tcp ++ payload).drop ihl)
      = tcp.flags.fin := by
  have hlen := hE.tcpLength htcp
  rw [List.append_assoc, ← hihl, List.drop_left' (hE.ipv4Length hip), readFin,
    getD_append_left (by rw [hlen, TcpHeader.headerLen]; omega)]
  exact hF.writeFin htcp

theorem writePacket_fin (hE : E.Lawful) (hF : E.KeepsFin) {ip : Ipv4Header}
    {tcp : TcpHeader} {payload b : Bytes} (hip : OptionArea ip.options)
    (htcp : OptionArea tcp.options)
    (h : writePacket E view ip tcp payload = some b) :
    readFin (b.drop ip.headerLen) = tcp.flags.fin := by
  obtain ⟨total, -, h⟩ := Option.bind_eq_some_iff.mp h
  obtain ⟨checksum, -, h⟩ := Option.bind_eq_some_iff.mp h
  cases h
  refine readFin_written hE hF ?_ ?_ ?_ payload
  · rfl
  · exact hip
  · exact htcp

/-- What a rebuilt packet is written from. -/
theorem buildModified_writes (hE : E.Lawful) (hP : E.HeadersPresent)
    (hparse : parseView E direction buf = .ok (some (pkt, layout)))
    {payload : Bytes}
    (hpayload : view.newPayload.or
      (slice? buf layout.payloadOff layout.totalLen) = some payload)
    {b : Bytes} (hbuilt : buildModified E buf layout view = .ok (some b)) :
    ∃ ip tcp, OptionArea ip.options ∧ OptionArea tcp.options
      ∧ tcp.sequenceNumber = view.newSeq.getD pkt.seq
      ∧ tcp.flags = view.newFlags.getD pkt.flags
      ∧ writePacket E view ip tcp payload = some b := by
  obtain ⟨ip, tcp, hread, -, harea, hseq, hflags, -⟩ :=
    rereads hE hP hparse
  rw [hread.buildModified_eq hpayload] at hbuilt
  obtain ⟨tcp', htcp', hwrite⟩ :=
    Option.bind_eq_some_iff.mp (Except.ok.inj hbuilt)
  obtain ⟨harea', hseq', -⟩ := rewriteTcp_spec hE htcp' harea
  have hip : OptionArea ip.options := hE.ipv4Options hread.ipv4
  refine ⟨rewriteIpv4 view ip, tcp', hip, harea', ?_, ?_, hwrite⟩
  · rw [hseq', hseq]
  · rw [rewriteTcp_flags htcp', hflags]

/-- A rebuilt packet reads as one with the staged sequence number and
payload. -/
theorem buildModified_isPacket (hE : E.Lawful) (hP : E.HeadersPresent)
    (hparse : parseView E direction buf = .ok (some (pkt, layout)))
    {payload : Bytes}
    (hpayload : view.newPayload.or
      (slice? buf layout.payloadOff layout.totalLen) = some payload)
    {b : Bytes} (hbuilt : buildModified E buf layout view = .ok (some b)) :
    ∃ ihl tcpLen,
      IsPacket b ihl tcpLen ⟨view.newSeq.getD pkt.seq, payload⟩ := by
  obtain ⟨ip, tcp, hip, htcp, hseq, -, hwrite⟩ :=
    buildModified_writes hE hP hparse hpayload hbuilt
  have hpacket := writePacket_spec hE hip htcp hwrite
  rw [hseq] at hpacket
  exact ⟨_, _, hpacket⟩

/-- A packet without a decoy is replaced by the shaped rebuild. -/
theorem emit_undecoyed {decoyIo io : RawIo} {r : Handler.Handled}
    {bytes : Bytes} (hmod : r.verdict = .acceptModified)
    (hdecoy : r.pkt.decoy = none)
    (hbuilt : buildModified E buf layout r.pkt = .ok (some bytes)) :
    emit E decoyIo io buf layout r = .ok {
      decoys := []
      inPlace := emitShaped io buf r.pkt bytes } := by
  simp only [emit, hmod, emitDecoys, hdecoy]
  exact bind_eq_ok.mpr ⟨[], rfl, bind_eq_ok.mpr ⟨_, hbuilt, rfl⟩⟩

/-- Around its own payload, and without more options, a packet can always
be rebuilt, and keeps its FIN flag. -/
theorem Parsed.rebuilt (hE : E.Lawful) (hP : E.HeadersPresent)
    (hO : E.KeepsOptions) (hA : E.Accepts) (hF : E.KeepsFin)
    (hparse : parseView E direction buf = .ok (some (pkt, layout)))
    (hpos : 0 < pkt.payloadLen) (hpayload : view.newPayload = none)
    (hseq : view.newSeq = none) (hflags : view.newFlags = none)
    (happend : view.appendTcpOptions = [])
    (hreplace : view.replaceTcpOptions = none) :
    ∃ b ihl tcpLen, buildModified E buf layout view = .ok (some b)
      ∧ IsPacket b ihl tcpLen ⟨pkt.seq, pkt.payload⟩
      ∧ readFin (b.drop ihl) = pkt.flags.fin := by
  have hparsed := parseView_spec hparse hpos
  have hroom := hparsed.room
  have hown : view.newPayload.or
      (slice? buf layout.payloadOff layout.totalLen) = some pkt.payload := by
    rw [hpayload, slice?, if_pos ⟨by omega, hparsed.whole⟩, hparsed.payload]
    rfl
  obtain ⟨b, hb⟩ : ∃ b, buildModified E buf layout view = .ok (some b) := by
    refine (buildModified_iff hE hP hO hA hparse hown (by
      intro options hsome
      rw [hreplace] at hsome
      cases hsome)).mpr ?_
    obtain ⟨ip, tcp, -, -, hlayout, -, -, hoptions⟩ := parseView_fields hparse
    have hlen := congrArg List.length hparsed.payload
    rw [List.length_take] at hlen
    have htotal := ip.totalLen.toNat_lt
    rw [happend]
    refine ⟨_, rfl, ?_⟩
    rw [hlayout] at hlen hroom ⊢
    simp only [TcpHeader.headerLen, hoptions] at hlen hroom ⊢
    omega
  obtain ⟨ip, tcp, hip, htcp, hseq', hflags', hwrite⟩ :=
    buildModified_writes hE hP hparse hown hb
  have hpacket := writePacket_spec hE hip htcp hwrite
  have hfin := writePacket_fin hE hF hip htcp hwrite
  rw [hseq', hseq] at hpacket
  rw [hflags', hflags] at hfin
  exact ⟨b, _, _, hb, hpacket, hfin⟩

end Linux

end ZeroDpi
