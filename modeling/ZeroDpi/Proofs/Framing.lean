/-
Frames on a stream.

`read_frame` undoes `write_frame` and stops where it ended
(`readFrame_of_writeFrame`), so frames written one after another are read
one after another. What `read_frame` returns has passed every check
(`readFrame_ok`), so `write_frame` takes it back whenever its encoding is
within the limit. That `serde_json` decodes what it has encoded is assumed
of the messages involved.
-/
import ZeroDpi.Proofs.FrameSize

namespace ZeroDpi.Helper

open Lib

/-- `from_slice` decodes what `to_vec` made of a message. -/
def Decodes (fromSlice : Bytes → Option Message) (m : Message) : Prop :=
  fromSlice m.toVec = some m

/-- `read_frame` called `n` times on a stream. -/
def readFrames (fromSlice : Bytes → Option Message) :
    Nat → Bytes → Except ProtocolError (List RawFrame × Bytes)
  | 0, stream => .ok ([], stream)
  | n + 1, stream => do
      let (frame, stream) ← readFrame fromSlice stream
      let (frames, stream) ← readFrames fromSlice n stream
      return (frame :: frames, stream)

-- ============================================================= the header

theorem MessageType.fromU16_toU16 (t : MessageType) :
    fromU16 t.toU16 = .ok t := by
  cases t <;> rfl

theorem MessageType.toU16_lt (t : MessageType) : t.toU16 < 65536 := by
  cases t <;> decide

/-- The type table names each type once. -/
theorem MessageType.toU16_of_fromU16 {n : Nat} {t : MessageType}
    (h : fromU16 n = .ok t) : n = t.toU16 := by
  unfold fromU16 at h
  split at h <;> first | (cases h; rfl) | cases h

variable {frame : RawFrame} {n : Nat}

theorem length_header (frame : RawFrame) (n : Nat) :
    (header frame n).length = headerLen := rfl

theorem take_header (frame : RawFrame) (n : Nat) :
    (header frame n).take 4 = magic := rfl

theorem major_header (frame : RawFrame) (n : Nat) :
    u16At (header frame n) 4 = protocolMajor.toNat :=
  (be16_toBe16 _).trans (Nat.mod_eq_of_lt protocolMajor.toNat_lt)

theorem minor_header (frame : RawFrame) (n : Nat) :
    u16At (header frame n) 6 = protocolMinor.toNat :=
  (be16_toBe16 _).trans (Nat.mod_eq_of_lt protocolMinor.toNat_lt)

theorem type_header (frame : RawFrame) (n : Nat) :
    u16At (header frame n) 8 = frame.message.messageType.toU16 :=
  (be16_toBe16 _).trans
    (Nat.mod_eq_of_lt frame.message.messageType.toU16_lt)

theorem flags_header (frame : RawFrame) (n : Nat) :
    u16At (header frame n) 10 = frame.flags.toNat :=
  (be16_toBe16 _).trans (Nat.mod_eq_of_lt frame.flags.toNat_lt)

theorem requestId_header (frame : RawFrame) (n : Nat) :
    u32At (header frame n) 12 = frame.requestId :=
  be32_toBe32 frame.requestId

theorem payloadLen_header (frame : RawFrame) {n : Nat}
    (hn : n ≤ maxFrameSize) : (u32At (header frame n) 16).toNat = n := by
  have hlen : u32At (header frame n) 16 = n.toUInt32 := be32_toBe32 n.toUInt32
  have hlt : n < 4294967296 := Nat.lt_of_le_of_lt hn (by decide)
  rw [hlen, Nat.toUInt32_eq, UInt32.toNat_ofNat']
  exact Nat.mod_eq_of_lt hlt

-- ================================================= reading what is written

theorem readExact_append (front rest : Bytes) :
    readExact front.length (front ++ rest) = .ok (front, rest) := by
  unfold readExact
  rw [if_pos (by rw [List.length_append]; exact Nat.le_add_right _ _),
    List.take_left, List.drop_left]

theorem rejectIf_bind_eq_ok {α : Type} {bad : Bool} {e : ProtocolError}
    {rest : Unit → Except ProtocolError α} {a : α} :
    (rejectIf bad e >>= rest) = .ok a ↔ bad = false ∧ rest () = .ok a :=
  check_bind_eq_ok ite_error_eq_ok

theorem check_eq_ok {m : Message} :
    m.check = .ok () ↔ m.validate = .ok () := by
  unfold Message.check
  cases m.validate with
  | error e =>
      constructor
      · intro h
        cases h
      · intro h
        cases h
  | ok _ => exact iff_of_true rfl rfl

/-- What `write_frame` writes, if it does. -/
theorem writeFrame_eq_ok {bytes : Bytes} :
    writeFrame frame = .ok bytes
      ↔ frame.flags = 0 ∧ frame.message.validate = .ok ()
        ∧ frame.message.toVec.length ≤ maxFrameSize
        ∧ bytes = header frame frame.message.toVec.length
          ++ frame.message.toVec := by
  unfold writeFrame
  constructor
  · intro h
    obtain ⟨hflags, h⟩ := rejectIf_bind_eq_ok.mp h
    obtain ⟨⟨⟩, hcheck, h⟩ := bind_eq_ok.mp h
    obtain ⟨hlen, h⟩ := rejectIf_bind_eq_ok.mp h
    cases h
    exact ⟨by simpa using hflags, check_eq_ok.mp hcheck,
      by simpa using hlen, rfl⟩
  · intro hgiven
    obtain ⟨hflags, hvalid, hlen, rfl⟩ := hgiven
    refine rejectIf_bind_eq_ok.mpr ⟨by simpa using hflags, ?_⟩
    refine bind_eq_ok.mpr ⟨(), check_eq_ok.mpr hvalid, ?_⟩
    exact rejectIf_bind_eq_ok.mpr ⟨by simpa using hlen, rfl⟩

/-- The header that `write_frame` writes. -/
theorem readHeader_header (hflags : frame.flags = 0)
    (hn : n ≤ maxFrameSize) :
    readHeader (header frame n) = .ok {
      messageType := frame.message.messageType
      flags := 0
      requestId := frame.requestId
      payloadLen := n } := by
  have hflag : u16At (header frame n) 10 = 0 := by
    rw [flags_header, hflags]
    rfl
  unfold readHeader
  simp only [take_header, major_header, minor_header, type_header, hflag,
    requestId_header, payloadLen_header frame hn]
  refine rejectIf_bind_eq_ok.mpr ⟨by simp, ?_⟩
  refine rejectIf_bind_eq_ok.mpr ⟨by simp, ?_⟩
  refine bind_eq_ok.mpr ⟨_, MessageType.fromU16_toU16 _, ?_⟩
  refine rejectIf_bind_eq_ok.mpr ⟨by simp, ?_⟩
  exact rejectIf_bind_eq_ok.mpr ⟨by simpa using hn, rfl⟩

theorem readFrame_of_writeFrame {fromSlice : Bytes → Option Message}
    {bytes : Bytes} (h : writeFrame frame = .ok bytes)
    (hserde : Decodes fromSlice frame.message) (rest : Bytes) :
    readFrame fromSlice (bytes ++ rest) = .ok (frame, rest) := by
  obtain ⟨hflags, hvalid, hlen, rfl⟩ := writeFrame_eq_ok.mp h
  have hhead := readExact_append
    (header frame frame.message.toVec.length)
    (frame.message.toVec ++ rest)
  rw [length_header, ← List.append_assoc] at hhead
  have hdecode : decodePayload fromSlice frame.message.toVec
      = .ok frame.message := by
    unfold decodePayload
    rw [hserde]
  refine bind_eq_ok.mpr ⟨_, hhead, ?_⟩
  refine bind_eq_ok.mpr ⟨_, readHeader_header hflags hlen, ?_⟩
  refine bind_eq_ok.mpr ⟨_, readExact_append _ rest, ?_⟩
  refine bind_eq_ok.mpr ⟨_, hdecode, ?_⟩
  refine rejectIf_bind_eq_ok.mpr ⟨by simp, ?_⟩
  refine bind_eq_ok.mpr ⟨(), check_eq_ok.mpr hvalid, ?_⟩
  obtain ⟨requestId, flags, message⟩ := frame
  have hflags : flags = 0 := hflags
  rw [hflags]
  rfl

/-- Frames written one after another are read one after another. -/
theorem readFrames_of_writeFrame {fromSlice : Bytes → Option Message}
    {frames : List RawFrame} {encodings : List Bytes}
    (h : frames.map writeFrame = encodings.map .ok)
    (hserde : ∀ f ∈ frames, Decodes fromSlice f.message) (rest : Bytes) :
    readFrames fromSlice frames.length (encodings.flatten ++ rest)
      = .ok (frames, rest) := by
  induction frames generalizing encodings with
  | nil =>
      cases encodings with
      | nil => rfl
      | cons b bs => cases h
  | cons f fs ih =>
      cases encodings with
      | nil => cases h
      | cons b bs =>
          obtain ⟨hf, hfs⟩ := List.cons.inj h
          have hread := readFrame_of_writeFrame hf
            (hserde f List.mem_cons_self) (bs.flatten ++ rest)
          have hmore := ih hfs fun g hg =>
            hserde g (List.mem_cons_of_mem f hg)
          rw [List.flatten_cons, List.append_assoc]
          exact bind_eq_ok.mpr ⟨_, hread, bind_eq_ok.mpr ⟨_, hmore, rfl⟩⟩

-- ==================================================== what is read is sound

theorem readExact_ok {k : Nat} {stream front rest : Bytes}
    (h : readExact k stream = .ok (front, rest)) :
    front = stream.take k ∧ rest = stream.drop k := by
  unfold readExact at h
  split at h
  · cases h
    exact ⟨rfl, rfl⟩
  · cases h

/-- What a header that was accepted says. -/
theorem readHeader_ok {head : Bytes} {h : Header}
    (hread : readHeader head = .ok h) :
    u16At head 8 = h.messageType.toU16 ∧ h.flags = 0 := by
  unfold readHeader at hread
  obtain ⟨-, hread⟩ := rejectIf_bind_eq_ok.mp hread
  obtain ⟨-, hread⟩ := rejectIf_bind_eq_ok.mp hread
  obtain ⟨messageType, htype, hread⟩ := bind_eq_ok.mp hread
  obtain ⟨hflags, hread⟩ := rejectIf_bind_eq_ok.mp hread
  obtain ⟨-, hread⟩ := rejectIf_bind_eq_ok.mp hread
  cases hread
  exact ⟨MessageType.toU16_of_fromU16 htype, by simpa using hflags⟩

/-- A field of the header is a field of the stream. -/
theorem u16At_take {stream : Bytes} {i : Nat} (hi : i + 1 < headerLen) :
    u16At (stream.take headerLen) i = u16At stream i := by
  have hget : ∀ j, j < headerLen →
      (stream.take headerLen).getD j 0 = stream.getD j 0 := by
    intro j hj
    rw [List.getD_eq_getElem?_getD, List.getD_eq_getElem?_getD,
      List.getElem?_take_of_lt hj]
  unfold u16At
  rw [hget i (Nat.lt_of_succ_lt hi), hget (i + 1) hi]

/-- A frame that was read has passed every check, and its header names
its type. -/
theorem readFrame_ok {fromSlice : Bytes → Option Message}
    {stream rest : Bytes}
    (h : readFrame fromSlice stream = .ok (frame, rest)) :
    frame.message.validate = .ok () ∧ frame.flags = 0
      ∧ u16At stream 8 = frame.message.messageType.toU16 := by
  unfold readFrame at h
  obtain ⟨⟨head, body⟩, hhead, h⟩ := bind_eq_ok.mp h
  obtain ⟨hdr, hhdr, h⟩ := bind_eq_ok.mp h
  obtain ⟨⟨payload, tail⟩, -, h⟩ := bind_eq_ok.mp h
  obtain ⟨message, -, h⟩ := bind_eq_ok.mp h
  obtain ⟨htype, h⟩ := rejectIf_bind_eq_ok.mp h
  obtain ⟨⟨⟩, hcheck, h⟩ := bind_eq_ok.mp h
  cases h
  obtain ⟨hnamed, hflags⟩ := readHeader_ok hhdr
  refine ⟨check_eq_ok.mp hcheck, ?_, ?_⟩
  · rw [hflags]
    rfl
  · have htype : message.messageType = hdr.messageType := by
      simpa using htype
    rw [htype, ← hnamed, (readExact_ok hhead).1]
    exact (u16At_take (by decide)).symm

/-- Streams of frames: what is written is read back, frame by frame, and
the rest of the stream is left alone; and what is read is valid, has no
flags and the type its header names, and can be written and read again as
long as it fits. -/
theorem frame_codec_round_trip (fromSlice : Bytes → Option Message) :
    (∀ (frames : List RawFrame) (encodings : List Bytes) (rest : Bytes),
      frames.map writeFrame = encodings.map .ok →
      (∀ f ∈ frames, Decodes fromSlice f.message) →
      readFrames fromSlice frames.length (encodings.flatten ++ rest)
        = .ok (frames, rest))
    ∧ ∀ (stream rest : Bytes) (frame : RawFrame),
      readFrame fromSlice stream = .ok (frame, rest) →
      frame.message.validate = .ok () ∧ frame.flags = 0
      ∧ MessageType.fromU16 (u16At stream 8)
        = .ok frame.message.messageType
      ∧ (frame.message.toVec.length ≤ maxFrameSize →
        Decodes fromSlice frame.message →
        ∃ bytes, writeFrame frame = .ok bytes
          ∧ ∀ rest', readFrame fromSlice (bytes ++ rest')
            = .ok (frame, rest')) := by
  constructor
  · intro frames encodings rest h hserde
    exact readFrames_of_writeFrame h hserde rest
  · intro stream rest frame h
    obtain ⟨hvalid, hflags, htype⟩ := readFrame_ok h
    refine ⟨hvalid, hflags, ?_, fun hlen hserde => ?_⟩
    · rw [htype]
      exact MessageType.fromU16_toU16 _
    · have hwrite := writeFrame_eq_ok.mpr ⟨hflags, hvalid, hlen, rfl⟩
      exact ⟨_, hwrite, readFrame_of_writeFrame hwrite hserde⟩

/-- `from_slice` on the two payloads of the sample stream. -/
def sampleFromSlice (payload : Bytes) : Option Message :=
  if payload = Message.ping.toVec then some .ping
  else if payload = (Message.removeFlow 7).toVec then some (.removeFlow 7)
  else none

/-- The frames of the sample stream. -/
def sampleFrames : List RawFrame := [⟨0, 0, .ping⟩, ⟨0, 0, .removeFlow 7⟩]

/-- A ping and a removal, and three bytes of the frame after them; and the
ping alone, written again. -/
theorem sample_stream_round_trip :
    (∃ encodings : List Bytes,
      sampleFrames.map writeFrame = encodings.map .ok
      ∧ readFrames sampleFromSlice 2
          (encodings.flatten ++ [0x5A, 0x44, 0x48])
        = .ok (sampleFrames, [0x5A, 0x44, 0x48]))
    ∧ ∃ stream, readFrame sampleFromSlice stream = .ok (⟨0, 0, .ping⟩, [])
      ∧ MessageType.fromU16 (u16At stream 8) = .ok .ping
      ∧ ∃ bytes, writeFrame ⟨0, 0, .ping⟩ = .ok bytes
        ∧ ∀ rest, readFrame sampleFromSlice (bytes ++ rest)
          = .ok (⟨0, 0, .ping⟩, rest) := by
  have hserde : ∀ f ∈ sampleFrames, Decodes sampleFromSlice f.message := by
    unfold Decodes
    decide
  have hround := frame_codec_round_trip sampleFromSlice
  constructor
  · have hwritten : ∃ encodings : List Bytes,
        sampleFrames.map writeFrame = encodings.map .ok := ⟨[_, _], rfl⟩
    obtain ⟨encodings, h⟩ := hwritten
    exact ⟨encodings, h, hround.1 sampleFrames encodings _ h hserde⟩
  · have hread : readFrame sampleFromSlice
        (header ⟨0, 0, .ping⟩ 15 ++ Message.ping.toVec)
          = .ok (⟨0, 0, .ping⟩, []) := rfl
    obtain ⟨-, -, htype, hagain⟩ := hround.2 _ _ _ hread
    exact ⟨_, hread, htype, hagain (by decide)
      (hserde _ List.mem_cons_self)⟩

end ZeroDpi.Helper
