/-
Whether a receiver gets to the option that `wrong_md5` appends.

`append_tcp_options` puts the option behind the whole option area. Where
the options fill the area that is behind the last of them; where the area
ends in an end of the list with padding, it is behind that, and the walk
of a receiver stops before it. The captured options stay in front either
way, the timestamp with its TSval moved back.
-/
import Mathlib.Data.List.Forall2
import ZeroDpi.Proofs.BuildPanics
import ZeroDpi.Proofs.Timestamp

namespace ZeroDpi

open Lib TcpOption

variable {E : Etherparse} {direction : Direction} {buf bytes : Bytes}
  {pkt : CapturedPacket} {layout : Linux.PacketLayout} {view : PacketView}

-- ======================================================= the staged view

/-- The options a chain with `wrong_md5` leaves staged for a packet: the
signature to append, and the captured options or their backdated form in
front of it. -/
structure Md5Staged (pkt : CapturedPacket) (view : PacketView) : Prop where
  append : view.appendTcpOptions = tcpMd5SignatureOption
  replace : view.replaceTcpOptions = none
    ∨ ∃ offset options, backdateTcpTimestamp pkt.tcpOptions offset
        = some options
      ∧ view.replaceTcpOptions = some options

/-- `wrong_md5` alone. -/
theorem md5Staged_alone (m : WrongMd5) {flow : FlowState}
    {action : MethodAction}
    (h : m.onHandshakeCompleteAck flow pkt.view = .ok (action, view)) :
    Md5Staged pkt view := by
  cases h
  exact ⟨rfl, .inl rfl⟩

/-- `wrong_md5` behind a `wrong_timestamp` that did not abort. -/
theorem md5Staged_behind_timestamp (t : WrongTimestamp) (m : WrongMd5)
    {flow : FlowState} {action action' : MethodAction} {mid : PacketView}
    (ht : t.onHandshakeCompleteAck flow pkt.view = .ok (action, mid))
    (hdone : action ≠ .abortAndAccept)
    (hm : m.onHandshakeCompleteAck flow mid = .ok (action', view)) :
    Md5Staged pkt view := by
  cases hm
  refine ⟨rfl, .inr ?_⟩
  unfold WrongTimestamp.onHandshakeCompleteAck at ht
  have hview : pkt.view.tcpOptions = pkt.tcpOptions := rfl
  rw [hview] at ht
  cases hoptions : backdateTcpTimestamp pkt.tcpOptions t.offset with
  | none =>
      rw [hoptions] at ht
      cases ht
      exact absurd rfl hdone
  | some options =>
      rw [hoptions] at ht
      cases ht
      exact ⟨t.offset, options, hoptions, rfl⟩

-- ==================================================== the rebuilt header

/-- The options of a packet that is written out read back. -/
theorem readOptions_written (hE : E.Lawful) (hO : E.KeepsOptions)
    {ip : Ipv4Header} {tcp : TcpHeader} {payload : Bytes}
    (hip : OptionArea ip.options) (htcp : OptionArea tcp.options)
    (htotal : ip.totalLen.toNat
      = ip.headerLen + (tcp.headerLen + payload.length)) :
    readOptions (ipPayload (E.ipv4Bytes ip ++ E.tcpBytes tcp ++ payload))
      = tcp.options := by
  have hpacket := Linux.isPacket_written hE hip htcp htotal
  have hlen := hE.tcpLength htcp
  rw [hpacket.ipPayload_eq, List.append_assoc,
    List.drop_left' (hE.ipv4Length hip), readOptions,
    getD_append_left (by rw [hlen, TcpHeader.headerLen]; omega),
    hE.tcpWriteDataOffset htcp, List.take_left' hlen, hO.writeOptions htcp]

/-- The header that the parser found has the fields of the view. -/
theorem parseView_fields
    (hparse : Linux.parseView E direction buf = .ok (some (pkt, layout))) :
    ∃ ip tcp, E.ipv4FromSlice buf = some ip
      ∧ E.tcpFromSlice (buf.drop ip.headerLen) = some tcp
      ∧ layout = ⟨ip.headerLen, tcp.headerLen, ip.headerLen + tcp.headerLen,
        ip.totalLen.toNat⟩
      ∧ tcp.sequenceNumber = pkt.seq ∧ tcp.flags = pkt.flags
      ∧ tcp.options = pkt.tcpOptions := by
  obtain ⟨ip, tcp, hip, htcp, hlayout⟩ := parseView_headers hparse
  refine ⟨ip, tcp, hip, htcp, hlayout, ?_⟩
  simp only [Linux.parseView, hip, htcp] at hparse
  by_cases hprotocol : ip.protocol = Linux.ipNumberTcp
  · rw [if_neg (not_not_intro hprotocol)] at hparse
    split at hparse
    · cases hparse
    · cases hparse
      exact ⟨rfl, rfl, rfl⟩
  · rw [if_pos hprotocol] at hparse
    cases hparse

/-- Both backends write the rewritten options. -/
theorem readOptions_built (hE : E.Lawful) (hP : E.HeadersPresent)
    (hO : E.KeepsOptions)
    (hparse : Linux.parseView E direction buf = .ok (some (pkt, layout)))
    (hbuilt : Linux.buildModified E buf layout view = .ok (some bytes)
      ∨ Windows.buildModified E buf layout view = .ok (some bytes)) :
    ∃ tcp tcp', tcp.options = pkt.tcpOptions ∧ OptionArea tcp.options
      ∧ Linux.rewriteTcp E view tcp = some tcp'
      ∧ readOptions (ipPayload bytes) = tcp'.options := by
  obtain ⟨ip₀, tcp, hip₀, htcp, hlayout, -, -, hoptions⟩ :=
    parseView_fields hparse
  have harea := hE.tcpOptions htcp
  -- the headers are read again from their own bytes
  have hagain : E.tcpFromSlice ((buf.drop layout.ipHdrLen).take
      layout.tcpHdrLen) = some tcp := by
    rw [hlayout]
    exact (hP.tcp htcp).2
  have hagainIp : E.ipv4FromSlice (buf.take layout.ipHdrLen) = some ip₀ := by
    rw [hlayout]
    exact (hP.ipv4 hip₀).2
  have hipArea := hE.ipv4Options hip₀
  rcases hbuilt with hlinux | hwindows
  · unfold Linux.buildModified at hlinux
    simp only [hagain, hagainIp] at hlinux
    split at hlinux
    · cases hlinux
    · obtain ⟨tcp', htcp', hwrite⟩ :=
        Option.bind_eq_some_iff.mp (Except.ok.inj hlinux)
      refine ⟨tcp, tcp', hoptions, harea, htcp', ?_⟩
      obtain ⟨total, htotal, hwrite⟩ := Option.bind_eq_some_iff.mp hwrite
      obtain ⟨checksum, -, hwrite⟩ := Option.bind_eq_some_iff.mp hwrite
      cases hwrite
      have hlen := hE.totalLenFor htotal
      exact readOptions_written hE hO hipArea
        (Linux.rewriteTcp_spec hE htcp' harea).1 hlen
  · unfold Windows.buildModified at hwindows
    simp only [hagain, hagainIp] at hwindows
    split at hwindows
    · cases hwindows
    · obtain ⟨tcp', htcp', hwrite⟩ :=
        Option.bind_eq_some_iff.mp (Except.ok.inj hwindows)
      refine ⟨tcp, tcp', hoptions, harea, htcp', ?_⟩
      obtain ⟨total, htotal, hwrite⟩ := Option.bind_eq_some_iff.mp hwrite
      obtain ⟨checksum, -, hwrite⟩ := Option.bind_eq_some_iff.mp hwrite
      cases hwrite
      have hlen := hE.totalLenFor htotal
      exact readOptions_written hE hO hipArea
        (Linux.rewriteTcp_spec hE htcp' harea).1 hlen

/-- The signature goes behind the area, and two bytes of padding behind
it. -/
theorem appendTcpOptions_md5 (hO : E.KeepsOptions) {tcp tcp' : TcpHeader}
    (harea : OptionArea tcp.options)
    (h : Linux.appendTcpOptions E tcp tcpMd5SignatureOption = some tcp') :
    tcp'.options = tcp.options ++ (tcpMd5SignatureOption ++ [0, 0]) := by
  unfold Linux.appendTcpOptions at h
  rw [if_neg (by decide)] at h
  simp only at h
  split at h
  · cases h
  · obtain ⟨padded, hpad, rfl⟩ := Option.map_eq_some_iff.mp h
    have hwords := harea.words
    have hlen : (tcp.options ++ tcpMd5SignatureOption).length % 4 = 2 := by
      rw [List.length_append]
      show (tcp.options.length + 18) % 4 = 2
      omega
    show padded = _
    rw [hO.padOptions hpad, hlen, List.append_assoc]
    rfl

/-- An area of whole words is not padded. -/
theorem padOptions_words (hO : E.KeepsOptions) {raw padded : Bytes}
    (hwords : raw.length % 4 = 0) (h : E.padOptions raw = some padded) :
    padded = raw := by
  rw [hO.padOptions h, hwords]
  exact List.append_nil raw

-- ============================================================ the options

/-- An MD5 signature: kind 19, length 18. -/
def IsMd5 (o : TcpOption) : Prop :=
  o.kind = 19 ∧ o.content.length = 16

/-- The option `wrong_md5` appends. -/
def md5Option : TcpOption :=
  .sized 19 (List.replicate 16 0) (by decide) (by decide)

/-- An option is kept, or a timestamp with its TSval changed. -/
def Kept (o o' : TcpOption) : Prop :=
  o' = o ∨ ∃ tsval tsval' tsecr, o = timestampOption tsval tsecr
    ∧ o' = timestampOption tsval' tsecr

/-- A walk over the area passes the captured options and comes to a
signature. -/
structure Md5Visible (captured : List TcpOption) (area : Bytes) : Prop where
  signature : ∃ o, IsMd5 o ∧ Reaches area o
  kept : ∃ os rest, List.Forall₂ Kept captured os
    ∧ area = encodeAll os ++ rest

/-- Backdating keeps the options of an area, and its padding. -/
theorem kept_of_backdate {os : List TcpOption} {pad out : Bytes}
    {offset : UInt32} (hpad : Ends pad)
    (h : backdateTcpTimestamp (encodeAll os ++ pad) offset = some out) :
    ∃ os', List.Forall₂ Kept os os' ∧ out = encodeAll os' ++ pad
      ∧ out.length = (encodeAll os ++ pad).length := by
  obtain ⟨before, tsval, tsecr, behind, -, hreads, hout⟩ :=
    @read_of_backdateFrom out offset ((encodeAll os ++ pad).length + 1) []
      (encodeAll os ++ pad) h
  have hfilled : encodeAll os ++ pad
      = encodeAll (before ++ [timestampOption tsval tsecr]) ++ behind := by
    rw [hreads, encodeAll_append, encodeAll_cons, encodeAll_nil,
      List.append_nil, List.append_assoc]
  obtain ⟨later, rfl, rfl⟩ := prefix_of_filled hpad hfilled
  have hsame : ∀ os : List TcpOption, List.Forall₂ Kept os os :=
    fun os => List.forall₂_same.mpr fun _ _ => .inl rfl
  refine ⟨before ++ timestampOption (tsval - offset) tsecr :: later,
    ?_, ?_, ?_⟩
  · rw [List.append_assoc]
    refine List.rel_append (hsame before) (.cons ?_ (hsame later))
    exact .inr ⟨tsval, tsval - offset, tsecr, rfl, rfl⟩
  · rw [hout, encodeAll_append, encodeAll_cons, List.nil_append,
      List.append_assoc, List.append_assoc]
  · rw [hreads, hout]
    simp only [List.nil_append, List.length_append]
    rfl

/-- Kept options are no signatures that were none. -/
theorem isMd5_of_kept {os os' : List TcpOption}
    (h : List.Forall₂ Kept os os') :
    (∃ o ∈ os', IsMd5 o) ↔ ∃ o ∈ os, IsMd5 o := by
  induction h with
  | nil => exact .rfl
  | @cons o o' os os' hkept _ ih =>
      have hsame : IsMd5 o' ↔ IsMd5 o := by
        rcases hkept with rfl | ⟨tsval, tsval', tsecr, rfl, rfl⟩
        · exact .rfl
        · have hno : ∀ v, ¬ IsMd5 (timestampOption v tsecr) :=
            fun v h => absurd h.1 (show (8 : UInt8) ≠ 19 by decide)
          exact ⟨fun h => absurd h (hno _), fun h => absurd h (hno _)⟩
      simp only [List.mem_cons, exists_eq_or_imp, hsame, ih]

/-- The area with the signature behind it. -/
theorem md5Visible_append {captured os : List TcpOption} {pad : Bytes}
    (hpad : Ends pad) (hkept : List.Forall₂ Kept captured os) :
    Md5Visible captured (encodeAll os ++ pad
        ++ (tcpMd5SignatureOption ++ [0, 0]))
      ↔ pad = [] ∨ ∃ o ∈ captured, IsMd5 o := by
  have hstays : ∃ os' rest, List.Forall₂ Kept captured os'
      ∧ encodeAll os ++ pad ++ (tcpMd5SignatureOption ++ [0, 0])
        = encodeAll os' ++ rest :=
    ⟨os, _, hkept, List.append_assoc _ _ _⟩
  constructor
  · rintro ⟨⟨o, hmd5, hreach⟩, -⟩
    rcases hpad with rfl | hzero
    · exact .inl rfl
    · right
      -- the list ends before the signature
      have hends : Ends (pad ++ (tcpMd5SignatureOption ++ [0, 0])) := by
        right
        obtain ⟨rest, rfl⟩ := List.head?_eq_some_iff.mp hzero
        rfl
      rw [List.append_assoc, reaches_iff_mem hends] at hreach
      exact (isMd5_of_kept hkept).mp ⟨o, hreach, hmd5⟩
  · rintro (rfl | hmd5)
    · refine ⟨⟨md5Option, ⟨rfl, rfl⟩, os, [0, 0], ?_⟩, hstays⟩
      rw [List.append_nil]
      rfl
    · obtain ⟨o, ho, hmd5⟩ := (isMd5_of_kept hkept).mpr hmd5
      refine ⟨⟨o, hmd5, ?_⟩, hstays⟩
      rw [List.append_assoc]
      exact reaches_of_mem ho _

/-- The appended signature is visible exactly when the captured options
fill their area, or hold a signature of their own. -/
theorem md5_visible_iff (hE : E.Lawful) (hP : E.HeadersPresent)
    (hO : E.KeepsOptions)
    (hparse : Linux.parseView E direction buf = .ok (some (pkt, layout)))
    {captured : List TcpOption} {pad : Bytes}
    (harea : pkt.tcpOptions = encodeAll captured ++ pad) (hpad : Ends pad)
    (hstaged : Md5Staged pkt view)
    (hbuilt : Linux.buildModified E buf layout view = .ok (some bytes)
      ∨ Windows.buildModified E buf layout view = .ok (some bytes)) :
    Md5Visible captured (readOptions (ipPayload bytes))
      ↔ pad = [] ∨ ∃ o ∈ captured, IsMd5 o := by
  obtain ⟨tcp, tcp', hoptions, hwhole, hrewrite, hread⟩ :=
    readOptions_built hE hP hO hparse hbuilt
  have hcaptured : tcp.options = encodeAll captured ++ pad :=
    hoptions.trans harea
  have hsame : List.Forall₂ Kept captured captured :=
    List.forall₂_same.mpr fun _ _ => .inl rfl
  unfold Linux.rewriteTcp at hrewrite
  simp only [hstaged.append] at hrewrite
  rcases hstaged.replace with hnone | ⟨offset, options, hback, hsome⟩
  · rw [hnone] at hrewrite
    have happend := appendTcpOptions_md5 hO (by exact hwhole) hrewrite
    rw [hread, happend]
    show Md5Visible _ (tcp.options ++ _) ↔ _
    rw [hcaptured]
    exact md5Visible_append hpad hsame
  · rw [hsome] at hrewrite
    rw [harea] at hback
    obtain ⟨os, hkept, hos, hlen⟩ := kept_of_backdate hpad hback
    have hwords : options.length % 4 = 0 := by
      rw [hlen, ← hcaptured]
      exact hwhole.words
    obtain ⟨mid, hmid, hend⟩ := Option.bind_eq_some_iff.mp hrewrite
    obtain ⟨padded, hpadded, rfl⟩ := Option.map_eq_some_iff.mp hmid
    obtain rfl := padOptions_words hO hwords hpadded
    have happend := appendTcpOptions_md5 hO
      (by exact ⟨hwords, by rw [hlen, ← hcaptured]; exact hwhole.room⟩) hend
    rw [hread, happend]
    show Md5Visible _ (padded ++ _) ↔ _
    rw [hos]
    exact md5Visible_append hpad hkept

-- ============================================================= samples

/-- The sample ACK with options. -/
def sampleAckWith (options : Bytes) : CapturedPacket :=
  { Handler.sampleAck with tcpOptions := options }

/-- That packet on the wire. -/
def sampleAckWithBytes (options : Bytes) : Bytes :=
  let pkt := sampleAckWith options
  Wire.ipv4Bytes {
      dscp := 0, ecn := 0, totalLen := (40 + options.length).toUInt16
      identification := 7, dontFragment := true, moreFragments := false
      fragmentOffset := 0, timeToLive := 64, protocol := 6
      headerChecksum := 0, source := pkt.srcIp, destination := pkt.dstIp
      options := [] }
    ++ Wire.tcpBytes {
      sourcePort := pkt.srcPort, destinationPort := pkt.dstPort
      sequenceNumber := pkt.seq, acknowledgmentNumber := pkt.ack
      flags := pkt.flags, ns := false, ece := false, cwr := false
      windowSize := 502, checksum := 0, urgentPointer := 0
      options := options }

/-- What `wrong_md5` stages for it. -/
def sampleMd5View (options : Bytes) : PacketView :=
  { (sampleAckWith options).view.stageFake [0x16] true true with
    appendTcpOptions := tcpMd5SignatureOption }

theorem sampleMd5View_staged (options : Bytes) :
    Md5Staged (sampleAckWith options) (sampleMd5View options) :=
  @md5Staged_alone (sampleAckWith options) _ ⟨true, true, true⟩
    (FlowState.new [0x16] none) .emitAndComplete rfl

/-- Two NOPs and a timestamp fill the area. -/
theorem md5_visible_sample :
    ∃ bytes, Linux.buildModified Wire.etherparse
        (sampleAckWithBytes ([1, 1] ++ (timestampOption 5 0).encode))
        ⟨20, 32, 52, 52⟩
        (sampleMd5View ([1, 1] ++ (timestampOption 5 0).encode))
        = .ok (some bytes)
      ∧ Md5Visible [.nop, .nop, timestampOption 5 0]
          (readOptions (ipPayload bytes)) := by
  have hparse : Linux.parseView Wire.etherparse .outbound
      (sampleAckWithBytes ([1, 1] ++ (timestampOption 5 0).encode))
      = .ok (some (sampleAckWith ([1, 1] ++ (timestampOption 5 0).encode),
        ⟨20, 32, 52, 52⟩)) := rfl
  have harea : (sampleAckWith ([1, 1]
      ++ (timestampOption 5 0).encode)).tcpOptions
      = encodeAll [.nop, .nop, timestampOption 5 0] ++ [] := rfl
  obtain ⟨bytes, hbuilt⟩ : ∃ bytes, Linux.buildModified Wire.etherparse
      (sampleAckWithBytes ([1, 1] ++ (timestampOption 5 0).encode))
      ⟨20, 32, 52, 52⟩
      (sampleMd5View ([1, 1] ++ (timestampOption 5 0).encode))
      = .ok (some bytes) := ⟨_, rfl⟩
  refine ⟨bytes, hbuilt, ?_⟩
  exact (md5_visible_iff Wire.etherparse_lawful
    Wire.etherparse_headersPresent Wire.etherparse_keepsOptions hparse harea
    (.inl rfl) (sampleMd5View_staged _) (.inl hbuilt)).mpr (.inl rfl)

/-- A timestamp and two bytes of padding: the signature is behind the end
of the list. -/
theorem md5_behind_padding_is_dead :
    Linux.parseView Wire.etherparse .outbound
        (sampleAckWithBytes ((timestampOption 5 0).encode ++ [0, 0]))
      = .ok (some (sampleAckWith ((timestampOption 5 0).encode ++ [0, 0]),
          ⟨20, 32, 52, 52⟩))
    ∧ WrongMd5.onHandshakeCompleteAck ⟨true, true, true⟩
        (FlowState.new [0x16] none)
        (sampleAckWith ((timestampOption 5 0).encode ++ [0, 0])).view
      = .ok (.emitAndComplete,
          sampleMd5View ((timestampOption 5 0).encode ++ [0, 0]))
    ∧ ∃ bytes, Linux.buildModified Wire.etherparse
        (sampleAckWithBytes ((timestampOption 5 0).encode ++ [0, 0]))
        ⟨20, 32, 52, 52⟩
        (sampleMd5View ((timestampOption 5 0).encode ++ [0, 0]))
        = .ok (some bytes)
      ∧ readOptions (ipPayload bytes) = (timestampOption 5 0).encode
        ++ ([0, 0] ++ (tcpMd5SignatureOption ++ [0, 0]))
      ∧ ∀ o, IsMd5 o → ¬ Reaches (readOptions (ipPayload bytes)) o := by
  have hread : ∀ o, IsMd5 o → ¬ Reaches ((timestampOption 5 0).encode
      ++ ([0, 0] ++ (tcpMd5SignatureOption ++ [0, 0]))) o := by
    intro o hmd5 hreach
    have hmem := (@reaches_iff_mem [timestampOption 5 0]
      ([0, 0] ++ (tcpMd5SignatureOption ++ [0, 0])) (.inr rfl) o).mp hreach
    rw [List.mem_singleton.mp hmem] at hmd5
    exact absurd hmd5.1 (show (8 : UInt8) ≠ 19 by decide)
  exact ⟨rfl, rfl, _, rfl, rfl, hread⟩

end ZeroDpi
