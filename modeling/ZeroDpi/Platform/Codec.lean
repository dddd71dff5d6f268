/-
The two headers by their wire formats (IPv4, TCP): a codec that
is `Lawful`, so the laws the backends rely on are consistent, and what the
samples of an emission are evaluated with.
-/
import ZeroDpi.Platform.Headers

namespace ZeroDpi

open Lib

namespace Wire

-- ================================================================= IPv4

/-- The flags and offset word: don't fragment, more fragments, offset. -/
def fragmentWord (h : Ipv4Header) : Nat :=
  (if h.dontFragment then 0x4000 else 0)
    + (if h.moreFragments then 0x2000 else 0) + h.fragmentOffset.toNat % 8192

/-- A header as it is written. -/
def ipv4Bytes (h : Ipv4Header) : Bytes :=
  [(0x45 + h.options.length / 4).toUInt8, h.dscp <<< 2 ||| h.ecn]
    ++ toBe16 h.totalLen.toNat ++ toBe16 h.identification.toNat
    ++ toBe16 (fragmentWord h) ++ [h.timeToLive, h.protocol]
    ++ toBe16 h.headerChecksum.toNat ++ toBe32 h.source
    ++ toBe32 h.destination ++ h.options

/-- `from_slice`: a header with all of its options. -/
def ipv4FromSlice (b : Bytes) : Option Ipv4Header :=
  let ihl := ipv4HeaderLen (b.getD 0 0)
  let word := be16 (b.getD 6 0) (b.getD 7 0)
  if b.getD 0 0 >>> 4 = 4 ∧ 20 ≤ ihl ∧ ihl ≤ b.length then
    some {
      dscp := b.getD 1 0 >>> 2
      ecn := b.getD 1 0 &&& 3
      totalLen := (be16 (b.getD 2 0) (b.getD 3 0)).toUInt16
      identification := (be16 (b.getD 4 0) (b.getD 5 0)).toUInt16
      dontFragment := word / 0x4000 % 2 = 1
      moreFragments := word / 0x2000 % 2 = 1
      fragmentOffset := (word % 8192).toUInt16
      timeToLive := b.getD 8 0
      protocol := b.getD 9 0
      headerChecksum := (be16 (b.getD 10 0) (b.getD 11 0)).toUInt16
      source := be32At b 12
      destination := be32At b 16
      options := (b.drop 20).take (ihl - 20) }
  else none

-- ================================================================== TCP

/-- The control bits, FIN lowest. -/
def flagsByte (h : TcpHeader) : UInt8 :=
  let bits := [h.flags.fin, h.flags.syn, h.flags.rst, h.flags.psh,
    h.flags.ack, h.flags.urg, h.ece, h.cwr]
  (bits.foldr (fun (bit : Bool) n => 2 * n + bit.toNat) 0).toUInt8

/-- A header as it is written. -/
def tcpBytes (h : TcpHeader) : Bytes :=
  toBe16 h.sourcePort.toNat ++ toBe16 h.destinationPort.toNat
    ++ toBe32 h.sequenceNumber ++ toBe32 h.acknowledgmentNumber
    ++ [((5 + h.options.length / 4) * 16 + h.ns.toNat).toUInt8,
        flagsByte h]
    ++ toBe16 h.windowSize.toNat ++ toBe16 h.checksum.toNat
    ++ toBe16 h.urgentPointer.toNat ++ h.options

/-- Likewise. -/
def tcpFromSlice (b : Bytes) : Option TcpHeader :=
  let len := tcpHeaderLen (b.getD 12 0)
  let bit := (b.getD 13 0).toNat.testBit
  if 20 ≤ len ∧ len ≤ b.length then
    some {
      sourcePort := (be16 (b.getD 0 0) (b.getD 1 0)).toUInt16
      destinationPort := (be16 (b.getD 2 0) (b.getD 3 0)).toUInt16
      sequenceNumber := be32At b 4
      acknowledgmentNumber := be32At b 8
      flags := {
        syn := bit 1, ack := bit 4, psh := bit 3
        rst := bit 2, fin := bit 0, urg := bit 5 }
      ns := (b.getD 12 0).toNat % 2 = 1
      ece := bit 6
      cwr := bit 7
      windowSize := (be16 (b.getD 14 0) (b.getD 15 0)).toUInt16
      checksum := (be16 (b.getD 16 0) (b.getD 17 0)).toUInt16
      urgentPointer := (be16 (b.getD 18 0) (b.getD 19 0)).toUInt16
      options := (b.drop 20).take (len - 20) }
  else none

-- ============================================================ the record

/-- The codec. Lengths that do not fit are refused, options are padded
with zeros to whole words. -/
def etherparse : Etherparse where
  ipv4FromSlice := ipv4FromSlice
  tcpFromSlice := tcpFromSlice
  totalLenFor h n :=
    if h.headerLen + n < 65536 then some (h.headerLen + n).toUInt16
    else none
  padOptions raw :=
    if raw.length ≤ 40 then
      some (raw ++ List.replicate ((4 - raw.length % 4) % 4) 0)
    else none
  headerChecksum h :=
    onesComplement (wordSum (ipv4Bytes { h with headerChecksum := 0 }))
  tcpChecksum ip tcp payload :=
    let len := tcp.headerLen + payload.length
    if len < 65536 then
      some (onesComplement (wordSum (toBe32 ip.source)
        + wordSum (toBe32 ip.destination) + 6 + len
        + wordSum (tcpBytes { tcp with checksum := 0 }) + wordSum payload))
    else none
  ipv4Bytes := ipv4Bytes
  tcpBytes := tcpBytes

-- ============================================================== its laws

/-- The options between the fixed header and a length read off four
bits. -/
theorem optionArea_slice {b : Bytes} {words : Nat} (hw : words ≤ 15)
    (hmin : 20 ≤ words * 4) (hlen : words * 4 ≤ b.length) :
    OptionArea ((b.drop 20).take (words * 4 - 20))
      ∧ 20 + ((b.drop 20).take (words * 4 - 20)).length = words * 4 := by
  have htake : ((b.drop 20).take (words * 4 - 20)).length
      = words * 4 - 20 := by
    rw [List.length_take, List.length_drop]
    omega
  refine ⟨⟨?_, ?_⟩, ?_⟩
  all_goals
    rw [htake]
    omega

theorem ipv4Words_le (b : UInt8) : (b &&& 0x0F).toNat ≤ 15 := by
  rw [UInt8.toNat_and]
  exact Nat.and_le_right

theorem tcpWords_le (b : UInt8) : (b >>> 4).toNat ≤ 15 := by
  have := b.toNat_lt
  rw [UInt8.toNat_shiftRight]
  show b.toNat >>> 4 ≤ 15
  rw [Nat.shiftRight_eq_div_pow]
  omega

/-- The written header length reads back. -/
theorem ipv4HeaderLen_written {n : Nat} (hwords : n % 4 = 0)
    (hroom : n ≤ 40) :
    ipv4HeaderLen (0x45 + n / 4).toUInt8 = 20 + n := by
  have hall : ∀ k, k ≤ 10 →
      ipv4HeaderLen (0x45 + k).toUInt8 = 20 + k * 4 := by decide
  rw [hall (n / 4) (by omega)]
  omega

theorem tcpHeaderLen_written {n : Nat} (ns : Bool) (hwords : n % 4 = 0)
    (hroom : n ≤ 40) :
    tcpHeaderLen ((5 + n / 4) * 16 + ns.toNat).toUInt8 = 20 + n := by
  have hall : ∀ ns : Bool, ∀ k, k ≤ 10 →
      tcpHeaderLen ((5 + k) * 16 + ns.toNat).toUInt8 = 20 + k * 4 := by
    decide
  rw [hall ns (n / 4) (by omega)]
  omega

theorem ipv4FromSlice_spec {b : Bytes} {h : Ipv4Header}
    (hb : ipv4FromSlice b = some h) :
    OptionArea h.options ∧ h.headerLen = ipv4HeaderLen (b.getD 0 0)
      ∧ h.headerLen ≤ b.length
      ∧ h.totalLen.toNat = be16 (b.getD 2 0) (b.getD 3 0) := by
  simp only [ipv4FromSlice] at hb
  split at hb
  case isFalse => cases hb
  case isTrue hrange =>
    cases hb
    obtain ⟨harea, hlen⟩ :=
      optionArea_slice (ipv4Words_le (b.getD 0 0)) hrange.2.1 hrange.2.2
    refine ⟨harea, hlen, Nat.le_trans (Nat.le_of_eq hlen) hrange.2.2, ?_⟩
    exact Nat.mod_eq_of_lt (be16_lt _ _)

theorem tcpFromSlice_spec {b : Bytes} {h : TcpHeader}
    (hb : tcpFromSlice b = some h) :
    OptionArea h.options ∧ h.headerLen = tcpHeaderLen (b.getD 12 0)
      ∧ h.headerLen ≤ b.length ∧ h.sequenceNumber = be32At b 4 := by
  simp only [tcpFromSlice] at hb
  split at hb
  case isFalse => cases hb
  case isTrue hrange =>
    cases hb
    obtain ⟨harea, hlen⟩ :=
      optionArea_slice (tcpWords_le (b.getD 12 0)) hrange.1 hrange.2
    exact ⟨harea, hlen, Nat.le_trans (Nat.le_of_eq hlen) hrange.2, rfl⟩

theorem etherparse_lawful : etherparse.Lawful where
  ipv4Options hb := (ipv4FromSlice_spec hb).1
  ipv4Ihl hb := (ipv4FromSlice_spec hb).2.1.symm
  ipv4Present hb := (ipv4FromSlice_spec hb).2.2.1
  ipv4TotalLen hb := (ipv4FromSlice_spec hb).2.2.2
  tcpOptions hb := (tcpFromSlice_spec hb).1
  tcpDataOffset hb := (tcpFromSlice_spec hb).2.1.symm
  tcpPresent hb := (tcpFromSlice_spec hb).2.2.1
  tcpSequence hb := (tcpFromSlice_spec hb).2.2.2
  totalLenFor h := by
    simp only [etherparse] at h
    split at h
    case isFalse => cases h
    case isTrue hfits =>
      cases h
      exact Nat.mod_eq_of_lt hfits
  padOptions h := by
    simp only [etherparse] at h
    split at h
    case isFalse => cases h
    case isTrue hfits =>
      cases h
      refine ⟨?_, ?_⟩
      · rw [List.length_append, List.length_replicate]
        omega
      · rw [List.length_append, List.length_replicate]
        omega
  ipv4Length {h} _ := by
    show (ipv4Bytes h).length = h.headerLen
    simp only [ipv4Bytes, List.length_append, length_toBe16, length_toBe32,
      List.length_cons, List.length_nil, Ipv4Header.headerLen]
  ipv4WriteIhl h := ipv4HeaderLen_written h.words h.room
  ipv4WriteTotalLen {h} _ := by
    have hlt := h.totalLen.toNat_lt
    have hread := be16_toBe16 h.totalLen.toNat
    rw [Nat.mod_eq_of_lt hlt] at hread
    exact hread
  tcpLength {h} _ := by
    show (tcpBytes h).length = h.headerLen
    simp only [tcpBytes, List.length_append, length_toBe16, length_toBe32,
      List.length_cons, List.length_nil, TcpHeader.headerLen]
  tcpWriteDataOffset {h} harea :=
    tcpHeaderLen_written h.ns harea.words harea.room
  tcpWriteSequence {h} _ := be32_toBe32 h.sequenceNumber

/-- A port written and read back. -/
theorem be16_port (port : UInt16) :
    be16 (port.toNat / 256).toUInt8 port.toNat.toUInt8 = port.toNat := by
  rw [be16_toBe16]
  exact Nat.mod_eq_of_lt port.toNat_lt

theorem etherparse_keepsAddresses : etherparse.KeepsAddresses where
  source hb := by
    simp only [etherparse, ipv4FromSlice] at hb
    split at hb
    · cases hb
      rfl
    · cases hb
  destination hb := by
    simp only [etherparse, ipv4FromSlice] at hb
    split at hb
    · cases hb
      rfl
    · cases hb
  sourcePort hb := by
    simp only [etherparse, tcpFromSlice] at hb
    split at hb
    · cases hb
      exact Nat.mod_eq_of_lt (be16_lt _ _)
    · cases hb
  destinationPort hb := by
    simp only [etherparse, tcpFromSlice] at hb
    split at hb
    · cases hb
      exact Nat.mod_eq_of_lt (be16_lt _ _)
    · cases hb
  writeSource {h} _ := be32_toBe32 h.source
  writeDestination {h} _ := be32_toBe32 h.destination
  writeSourcePort {h} _ := be16_port h.sourcePort
  writeDestinationPort {h} _ := be16_port h.destinationPort

theorem etherparse_checksums : etherparse.Checksums where
  tcp {ip tcp payload checksum} harea h := by
    simp only [etherparse] at h
    split at h
    case isFalse => cases h
    case isTrue =>
      cases h
      have hwords := harea.words
      have hlen : (tcpBytes { tcp with checksum := 0 }).length
          = 20 + tcp.options.length := by
        simp only [tcpBytes, List.length_append, length_toBe16,
          length_toBe32, List.length_cons, List.length_nil]
      have hsum : segmentSum etherparse ip tcp payload
          = wordSum (toBe32 ip.source) + wordSum (toBe32 ip.destination) + 6
            + (tcp.headerLen + payload.length)
            + wordSum (tcpBytes { tcp with checksum := 0 })
            + wordSum payload := by
        have happend : wordSum (tcpBytes { tcp with checksum := 0 } ++ payload)
            = wordSum (tcpBytes { tcp with checksum := 0 })
              + wordSum payload := wordSum_append (by omega)
        rw [segmentSum, wordSum_append (by rw [length_toBe32])]
        show _ + wordSum (tcpBytes { tcp with checksum := 0 } ++ payload) = _
        rw [happend, Nat.add_assoc _ _ (wordSum payload)]
      rw [hsum]

theorem etherparse_keepsOptions : etherparse.KeepsOptions where
  writeOptions _ := rfl
  padOptions h := by
    simp only [etherparse] at h
    split at h
    case isFalse => cases h
    case isTrue =>
      cases h
      rfl

theorem etherparse_keepsChecksum : etherparse.KeepsChecksum where
  writeChecksum _ _ := rfl

end Wire

end ZeroDpi
