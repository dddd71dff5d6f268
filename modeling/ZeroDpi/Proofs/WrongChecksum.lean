/-
What the receiver makes of a corrupted TCP checksum.

Two checksums that differ by `delta` modulo 2^16 verify the same sum only
if they are all zeros and all ones, which one's-complement arithmetic does
not tell apart. So one delta of the ones that `validate` lets through does
nothing for some packets: the one that turns a checksum of zero into all
ones.
-/
import ZeroDpi.Proofs.Backends

namespace ZeroDpi

open Lib Handler

variable {E : Etherparse}

-- ================================================= the packet as it is sent

/-- The addresses of a header are eight of its bytes. -/
theorem addresses_eq {b : Bytes} (h : 20 ≤ b.length) :
    (b.drop 12).take 8 = toBe32 (be32At b 12) ++ toBe32 (be32At b 16) := by
  rw [be32At, be32At, toBe32_be32, toBe32_be32]
  have hlen : ((b.drop 12).take 8).length = 8 := by
    rw [List.length_take, List.length_drop]
    omega
  refine List.ext_getElem? fun j => ?_
  by_cases hj : j < 8
  · rw [List.getElem?_take_of_lt hj, List.getElem?_drop,
      List.getElem?_eq_getElem (show 12 + j < b.length by omega)]
    have hat : ∀ i, i < b.length → b[i]? = some (b.getD i 0) := by
      intro i hi
      rw [List.getElem?_eq_getElem hi, List.getD_eq_getElem?_getD,
        List.getElem?_eq_getElem hi, Option.getD_some]
    rw [← List.getElem?_eq_getElem, hat (12 + j) (by omega)]
    have hcases : j = 0 ∨ j = 1 ∨ j = 2 ∨ j = 3 ∨ j = 4 ∨ j = 5 ∨ j = 6
        ∨ j = 7 := by omega
    rcases hcases with rfl | rfl | rfl | rfl | rfl | rfl | rfl | rfl <;> rfl
  · rw [List.getElem?_eq_none (by omega), List.getElem?_eq_none]
    simp only [List.length_append, List.length_cons, List.length_nil]
    omega

/-- The sum over a packet that was written: its own words, and the
checksum it carries. -/
theorem tcpSum_written (hE : E.Lawful) (hA : E.KeepsAddresses)
    (hC : E.KeepsChecksum) {ip : Ipv4Header} {tcp : TcpHeader}
    (payload : Bytes) (checksum : UInt16) (hip : OptionArea ip.options)
    (htcp : OptionArea tcp.options) :
    tcpSum (E.ipv4Bytes ip ++ E.tcpBytes { tcp with checksum := checksum }
        ++ payload) ip.headerLen
      = segmentSum E ip tcp payload + checksum.toNat := by
  have hipLen := hE.ipv4Length hip
  have htcpLen := hE.tcpLength htcp
  have hipMin : 20 ≤ ip.headerLen := by simp [Ipv4Header.headerLen]
  have htcpMin : 20 ≤ tcp.headerLen := by simp [TcpHeader.headerLen]
  have hfits : 16 + 2 ≤ (E.tcpBytes tcp).length := by omega
  have hzero : E.tcpBytes { tcp with checksum := 0 }
      = overwrite (E.tcpBytes tcp) 16 [0, 0] := hC.writeChecksum 0 htcp
  rw [hC.writeChecksum checksum htcp, List.append_assoc]
  have hwords : ∀ c : Bytes, c.length = 2 →
      overwrite (E.tcpBytes tcp) 16 c ++ payload
        = overwrite (E.tcpBytes tcp ++ payload) 16 c := by
    intro c hc
    have happend := overwrite_append [] (E.tcpBytes tcp) payload c
      (i := 16) (by omega)
    simpa using happend.symm
  have haddr : ((E.ipv4Bytes ip ++ (overwrite (E.tcpBytes tcp) 16
      (toBe16 checksum.toNat) ++ payload)).drop 12).take 8
      = toBe32 ip.source ++ toBe32 ip.destination := by
    rw [List.drop_append_of_le_length (by omega),
      List.take_append_of_le_length (by rw [List.length_drop]; omega),
      addresses_eq (by omega), hA.writeSource hip, hA.writeDestination hip]
  have hlen : (E.ipv4Bytes ip ++ (overwrite (E.tcpBytes tcp) 16
      (toBe16 checksum.toNat) ++ payload)).length - ip.headerLen
      = tcp.headerLen + payload.length := by
    rw [List.length_append, List.length_append, length_overwrite hfits]
    omega
  have hchecksum := checksum.toNat_lt
  rw [tcpSum, haddr, hlen, List.drop_left' hipLen,
    hwords (toBe16 checksum.toNat) rfl,
    wordSum_overwrite rfl (by rw [List.length_append]; omega),
    Nat.mod_eq_of_lt hchecksum, segmentSum, hzero, hwords [0, 0] rfl]
  omega

/-- The sum over the headers and payload of a packet that fits. -/
theorem segmentSum_lt {ip : Ipv4Header} {tcp : TcpHeader}
    {payload : Bytes} (hE : E.Lawful) (htcp : OptionArea tcp.options)
    (hfits : tcp.headerLen + payload.length < 65536) :
    0 < segmentSum E ip tcp payload
      ∧ segmentSum E ip tcp payload + 65536 < 2 ^ 32 := by
  have haddr := wordSum_le (toBe32 ip.source ++ toBe32 ip.destination)
  have hbody := wordSum_le (E.tcpBytes { tcp with checksum := 0 } ++ payload)
  have hlen : (E.tcpBytes { tcp with checksum := 0 }).length
      = tcp.headerLen := hE.tcpLength htcp
  rw [List.length_append, hlen] at hbody
  rw [List.length_append, length_toBe32, length_toBe32] at haddr
  rw [segmentSum]
  omega

/-- A packet written with a corrupted checksum. -/
theorem writePacket_verifies_iff (hE : E.Lawful) (hA : E.KeepsAddresses)
    (hC : E.KeepsChecksum) (hS : E.Checksums) {view : PacketView}
    {ip : Ipv4Header} {tcp : TcpHeader} {payload b : Bytes}
    (hip : OptionArea ip.options) (htcp : OptionArea tcp.options)
    {delta : UInt16} (hview : view.corruptTcpChecksumDelta = some delta)
    (hdelta : delta ≠ 0)
    (h : Linux.writePacket E view ip tcp payload = some b) :
    Verifies (tcpSum b ip.headerLen)
      ↔ delta = 0xFFFF ∧ segmentSum E ip tcp payload % 65535 = 0 := by
  unfold Linux.writePacket at h
  obtain ⟨total, htotal, h⟩ := Option.bind_eq_some_iff.mp h
  obtain ⟨checksum, hchecksum, h⟩ := Option.bind_eq_some_iff.mp h
  rw [hview] at h
  cases h
  have hfits := hE.totalLenFor htotal
  have htotalLt := total.toNat_lt
  obtain ⟨hpos, hlt⟩ : 0 < segmentSum E ip tcp payload
      ∧ segmentSum E ip tcp payload + 65536 < 2 ^ 32 :=
    segmentSum_lt hE htcp (by omega)
  have hsum := @tcpSum_written _ hE hA hC { ip with
    totalLen := total
    headerChecksum := E.headerChecksum { ip with totalLen := total } }
    tcp payload (checksum + delta) hip htcp
  have hwritten := hS.tcp htcp hchecksum
  have hcheck : checksum = onesComplement (segmentSum E ip tcp payload) :=
    hwritten
  have hsame : tcpSum _ ip.headerLen
      = segmentSum E ip tcp payload + (checksum + delta).toNat := hsum
  rw [hsame, hcheck]
  exact verifies_shifted hpos hlt hdelta

-- ======================================================= build_modified

/-- The words of the TCP segment that a staged view asks for, with those
of its pseudo-header and without a checksum. -/
def stagedSum (E : Etherparse) (buf : Bytes) (layout : Linux.PacketLayout)
    (view : PacketView) : Option Nat := do
  let ip ← E.ipv4FromSlice (buf.take layout.ipHdrLen)
  let tcp ← E.tcpFromSlice ((buf.drop layout.ipHdrLen).take layout.tcpHdrLen)
  let payload ← view.newPayload.or
    (slice? buf layout.payloadOff layout.totalLen)
  let tcp ← Linux.rewriteTcp E view tcp
  return segmentSum E (Linux.rewriteIpv4 view ip) tcp payload

/-- The words of the segment fold to all ones without a checksum. -/
def SumsToOnes (E : Etherparse) (buf : Bytes) (layout : Linux.PacketLayout)
    (view : PacketView) : Prop :=
  ∃ sum, stagedSum E buf layout view = some sum ∧ sum % 65535 = 0

/-- What `build_modified` builds with a corrupted checksum. -/
theorem buildModified_verifies_iff (hE : E.Lawful) (hA : E.KeepsAddresses)
    (hC : E.KeepsChecksum) (hS : E.Checksums) {direction : Direction}
    {buf : Bytes} {pkt : CapturedPacket} {layout : Linux.PacketLayout}
    (hparse : Linux.parseView E direction buf = .ok (some (pkt, layout)))
    {view : PacketView} {delta : UInt16}
    (hview : view.corruptTcpChecksumDelta = some delta)
    (hdelta : delta ≠ 0) {b : Bytes}
    (hb : Linux.buildModified E buf layout view = .ok (some b)) :
    Verifies (tcpSum b layout.ipHdrLen)
      ↔ delta = 0xFFFF ∧ SumsToOnes E buf layout view := by
  obtain ⟨ip₀, tcp₀, hip₀, -, hlayout⟩ := parseView_headers hparse
  have hihl₀ : layout.ipHdrLen = ip₀.headerLen := by rw [hlayout]
  have hmin : 20 ≤ ip₀.headerLen := by simp [Ipv4Header.headerLen]
  unfold Linux.buildModified at hb
  split at hb
  case h_2 => cases hb
  case h_1 ip tcp hip htcp =>
    split at hb
    · cases hb
    case h_2 payload hpayload =>
      obtain ⟨tcp', hrewrite, hwrite⟩ :=
        Option.bind_eq_some_iff.mp (Except.ok.inj hb)
      have hihl : layout.ipHdrLen = ip.headerLen := by
        rw [← hE.ipv4Ihl hip, getD_take (by omega), hE.ipv4Ihl hip₀, hihl₀]
      have hipArea : OptionArea ip.options := hE.ipv4Options hip
      have hsum : stagedSum E buf layout view
          = some (segmentSum E (Linux.rewriteIpv4 view ip) tcp' payload) := by
        simp only [stagedSum, hip, htcp, hpayload, hrewrite,
          Option.bind_eq_bind, Option.bind_some]
        rfl
      have hiff := writePacket_verifies_iff hE hA hC hS
        (show OptionArea (Linux.rewriteIpv4 view ip).options from hipArea)
        (Linux.rewriteTcp_spec hE hrewrite (hE.tcpOptions htcp)).1 hview
        hdelta hwrite
      rw [hihl, SumsToOnes, hsum]
      refine hiff.trans (and_congr_right fun _ => ?_)
      simp only [Option.some.injEq, exists_eq_left']

/-- A fake with a corrupted checksum is rejected, except for one delta and
the segments whose checksum is zero. On Windows the corruption is patched
into the finished packet. -/
theorem corrupted_rejected_iff {E : Etherparse} (hE : E.Lawful)
    (hA : E.KeepsAddresses) (hC : E.KeepsChecksum) (hS : E.Checksums)
    (cfg : Config) (hcfg : cfg.validate = .ok ()) (direction : Direction)
    (buf : Bytes) (pkt : CapturedPacket) (layout : Linux.PacketLayout)
    (hparse : Linux.parseView E direction buf = .ok (some (pkt, layout)))
    (view : PacketView)
    (hview : view.corruptTcpChecksumDelta = some cfg.wrongChecksumDelta)
    (recalculateChecksums : Bytes → Bytes)
    (hrecalc : ∀ b, Windows.buildModified E buf layout view = .ok (some b) →
      recalculateChecksums b = b) :
    (∀ b, Linux.buildModified E buf layout view = .ok (some b) →
      (¬ Verifies (tcpSum b layout.ipHdrLen)
        ↔ ¬ (cfg.wrongChecksumDelta = 0xFFFF
          ∧ SumsToOnes E buf layout view)))
      ∧ ∀ b, Windows.buildModified E buf layout view = .ok (some b) →
        (¬ Verifies (tcpSum (patched layout (some cfg.wrongChecksumDelta)
            (recalculateChecksums b)) layout.ipHdrLen)
          ↔ ¬ (cfg.wrongChecksumDelta = 0xFFFF
            ∧ SumsToOnes E buf layout view)) := by
  have hdelta := (Config.validParams hcfg).checksumDelta
  have hlinux : ∀ b, Linux.buildModified E buf layout view = .ok (some b) →
      (¬ Verifies (tcpSum b layout.ipHdrLen)
        ↔ ¬ (cfg.wrongChecksumDelta = 0xFFFF
          ∧ SumsToOnes E buf layout view)) := fun b hb =>
    not_congr (buildModified_verifies_iff hE hA hC hS hparse hview hdelta hb)
  refine ⟨hlinux, fun b hb => ?_⟩
  have hpatch := buildModified_eq_patched hE hC hparse view
  rw [hb, hview] at hpatch
  rw [hrecalc b hb]
  exact hlinux _ hpatch

/-- What a chain of `wrong_checksum` alone stages on the sample handshake's
ACK for the fake payload `fake`. -/
def Stages (cfg : Config) (fake : Bytes) (view : PacketView) : Prop :=
  ∃ m s r, buildMethod cfg (fun _ => 0) = some m
    ∧ feedAll m (.new fake none) sampleOpening = .ok s
    ∧ onPacket m sampleEnv s sampleAck.view = .ok r
    ∧ r.verdict = .acceptModified ∧ view = r.pkt

/-- The default delta is rejected. -/
theorem corrupted_rejected_sample :
    ∃ view b, Stages { bypassMethod := [.wrongChecksum] } [1, 0x7D] view
      ∧ Linux.buildModified Wire.etherparse sampleAckBytes ⟨20, 20, 40, 40⟩
          view = .ok (some b)
      ∧ ¬ Verifies (tcpSum b 20) := by
  have hrun : ∃ view b,
      Stages { bypassMethod := [.wrongChecksum] } [1, 0x7D] view
      ∧ Linux.buildModified Wire.etherparse sampleAckBytes ⟨20, 20, 40, 40⟩
          view = .ok (some b)
      ∧ view.corruptTcpChecksumDelta = some 1
      ∧ ∀ b, Windows.buildModified Wire.etherparse sampleAckBytes
          ⟨20, 20, 40, 40⟩ view = .ok (some b) → recalculated b = b := by
    refine ⟨_, _, ⟨_, _, _, rfl, rfl, rfl, rfl, rfl⟩, rfl, rfl, ?_⟩
    intro b hb
    obtain rfl := Option.some.inj (Except.ok.inj hb)
    decide
  obtain ⟨view, b, hstages, hb, hview, hrecalc⟩ := hrun
  exact ⟨view, b, hstages, hb, ((corrupted_rejected_iff
    Wire.etherparse_lawful Wire.etherparse_keepsAddresses
    Wire.etherparse_keepsChecksum Wire.etherparse_checksums
    { bypassMethod := [.wrongChecksum] } rfl .outbound sampleAckBytes
    sampleAck ⟨20, 20, 40, 40⟩ rfl view hview recalculated hrecalc).1 b
    hb).mpr fun h => absurd h.1 (by decide)⟩

/-- The largest delta turns the checksum of some fakes from zero into all
ones. -/
theorem corrupted_accepted :
    let cfg : Config :=
      { bypassMethod := [.wrongChecksum], wrongChecksumDelta := 0xFFFF }
    cfg.validate = .ok ()
      ∧ ∃ view b, Stages cfg [1, 0x7D] view
        ∧ Linux.buildModified Wire.etherparse sampleAckBytes
            ⟨20, 20, 40, 40⟩ view = .ok (some b)
        ∧ Verifies (tcpSum b 20) := by
  refine ⟨rfl, _, _, ⟨_, _, _, rfl, rfl, rfl, rfl, rfl⟩, rfl, ?_⟩
  decide

end ZeroDpi
