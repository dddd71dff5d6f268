/-
Where `tls_record_split` and `sni_boundary_frag` cut, and what the cut
leaves in the first part.

The walker's offsets are relative to the payload, the split's to the body
of the first record. A payload with a name is a `Located`, so both are
lengths of its parts: the cut lies behind the extension's length field and
at most behind the name, which ends inside the record.
-/
import ZeroDpi.RecordLayer
import ZeroDpi.Proofs.SniBoundary

namespace ZeroDpi

open Lib ClientHello

-- ============================================================ the cut

namespace SniBoundarySplitPoint

variable (point : SniBoundarySplitPoint) {b : SniBoundary}

theorem resolve_bounds (h : b.extLenFieldEnd ≤ b.nameStart) :
    b.extLenFieldEnd ≤ point.resolve b
      ∧ point.resolve b ≤ b.nameStart + b.nameLen := by
  cases point with
  | extensionLength => exact ⟨Nat.le_refl _, Nat.le_add_right_of_le h⟩
  | middle =>
      simp only [resolve]
      omega
  | index n =>
      simp only [resolve]
      omega

/-- An index from the length of the name on, which both methods clamp to
the end of the name. -/
def ClearsName (nameLen : Nat) : Prop :=
  ∃ n, point = .index n ∧ nameLen ≤ n.toNat

/-- The cut leaves the end of the name out, unless the index clears it. -/
theorem resolve_lt_iff (h : b.extLenFieldEnd ≤ b.nameStart)
    (hpos : 0 < b.nameLen) :
    point.resolve b < b.nameStart + b.nameLen
      ↔ ¬ point.ClearsName b.nameLen := by
  cases point with
  | extensionLength =>
      refine ⟨fun _ => nofun, fun _ => ?_⟩
      simp only [resolve]
      omega
  | middle =>
      refine ⟨fun _ => nofun, fun _ => ?_⟩
      simp only [resolve]
      omega
  | index n =>
      have hclears : ClearsName (.index n) b.nameLen
          ↔ b.nameLen ≤ n.toNat := by
        constructor
        · rintro ⟨_, ⟨⟩, h⟩
          exact h
        · exact fun h => ⟨n, rfl, h⟩
      rw [hclears]
      simp only [resolve]
      omega

end SniBoundarySplitPoint

namespace ClientHello.Located

variable (l : Located)

theorem boundary_extLenFieldEnd :
    l.boundary.extLenFieldEnd + 5 = l.boundary.nameStart := rfl

/-- The first record of the payload. -/
def firstRecord : WireRecord where
  contentType := 0x16
  version := (l.recordVersion.getD 0 0, l.recordVersion.getD 1 0)
  body := l.body
  body_lt := l.body_lt

theorem encode_firstRecord :
    l.encode = l.firstRecord.encode ++ l.behindRecord := by
  have hversion : [l.recordVersion.getD 0 0, l.recordVersion.getD 1 0]
      = l.recordVersion := by
    obtain ⟨v0, v1, h⟩ := eq_pair_of_length l.recordVersion_length
    rw [h]
    rfl
  have hkind : l.firstRecord.kind = [0x16] ++ l.recordVersion := by
    rw [← hversion]
    rfl
  rw [LocatedParts.encode, WireRecord.encode, hkind]
  simp only [List.append_assoc]
  rfl

/-- The message ends inside the record, and the name inside the
message. -/
theorem nameEnd_le_message :
    l.boundary.nameStart + l.boundary.nameLen ≤ 9 + l.message.length
      ∧ 9 + l.message.length ≤ 5 + l.body.length := by
  have hblock := l.length_block
  simp only [boundary, extensionStart, LocatedParts.message,
    LocatedParts.body, List.length_append, length_vec,
    List.length_singleton]
  omega

theorem message_lt : l.message.length < 2 ^ 24 := by
  have hbody := l.body_lt
  have hmessage := l.nameEnd_le_message
  omega

/-- The cut is behind both headers and inside the record. -/
theorem resolve_bounds (point : SniBoundarySplitPoint) :
    9 < point.resolve l.boundary
      ∧ point.resolve l.boundary
        ≤ l.boundary.nameStart + l.boundary.nameLen
      ∧ l.boundary.nameStart + l.boundary.nameLen
        ≤ 5 + l.body.length := by
  have hfield : 9 < l.boundary.extLenFieldEnd := by
    simp only [boundary, extensionStart]
    omega
  obtain ⟨hlo, hhi⟩ := point.resolve_bounds
    (show l.boundary.extLenFieldEnd ≤ l.boundary.nameStart by
      rw [← l.boundary_extLenFieldEnd]
      exact Nat.le_add_right _ _)
  exact ⟨Nat.lt_of_lt_of_le hfield hlo, hhi, l.boundary_le.1⟩

theorem resolve_lt_iff (point : SniBoundarySplitPoint) :
    point.resolve l.boundary < l.boundary.nameStart + l.boundary.nameLen
      ↔ ¬ point.ClearsName l.boundary.nameLen :=
  point.resolve_lt_iff
    (by rw [← l.boundary_extLenFieldEnd]; exact Nat.le_add_right _ _)
    l.nameLen_pos

end ClientHello.Located

-- ============================================================ the split

theorem buildRecord_eq (r : WireRecord) :
    buildRecord r.kind r.body = r.encode := by
  rw [buildRecord, WireRecord.encode, vec, beBytes_two, List.append_assoc]

/-- The split of a payload with a name: nothing at the end of the body,
else the first record in two. -/
theorem TlsRecordSplit.split_located (t : TlsRecordSplit) (l : Located) :
    t.split l.encode
      = .ok (if t.splitPoint.resolve l.boundary < 5 + l.body.length then
          some ((l.firstRecord.take (t.splitPoint.resolve l.boundary - 5)).encode,
            (l.firstRecord.drop (t.splitPoint.resolve l.boundary - 5)).encode
              ++ l.behindRecord)
        else none) := by
  obtain ⟨hlo, hhi, hend⟩ := l.resolve_bounds t.splitPoint
  have hcut : t.splitPoint.resolve l.boundary
      ≤ 5 + l.firstRecord.body.length := Nat.le_trans hhi hend
  have hroom := l.boundary_le.2
  have hbodyLen := l.firstRecord.bodyLen_append l.behindRecord
  unfold split
  rw [findSniBoundary_located l]
  simp only [pure, Except.pure, bind, Except.bind]
  rw [l.encode_firstRecord] at hroom ⊢
  rw [hbodyLen]
  by_cases hinside : t.splitPoint.resolve l.boundary < 5 + l.body.length
  · have hin : ¬ (5 + l.firstRecord.body.length
          > (l.firstRecord.encode ++ l.behindRecord).length
        ∨ t.splitPoint.resolve l.boundary ≤ 5
        ∨ t.splitPoint.resolve l.boundary
          ≥ 5 + l.firstRecord.body.length) := by
      show ¬ (5 + l.body.length > _ ∨ _ ∨ _ ≥ 5 + l.body.length)
      omega
    rw [if_neg hin, if_pos hinside,
      l.firstRecord.kind_append, l.firstRecord.front_append _ (by omega) hcut,
      l.firstRecord.back_append _ (by omega) hcut,
      l.firstRecord.behind_append]
    exact congrArg (fun p => Except.ok (some p))
      (Prod.ext (buildRecord_eq (l.firstRecord.take _))
        (congrArg (· ++ l.behindRecord)
          (buildRecord_eq (l.firstRecord.drop _))))
  · rw [if_neg hinside, if_pos (.inr (.inr (Nat.not_lt.mp hinside)))]

theorem SniBoundaryFrag.splitOffset_located (t : SniBoundaryFrag)
    (l : Located) :
    t.splitOffset l.encode
      = .ok (if t.splitPoint.resolve l.boundary < l.encode.length then
          some (t.splitPoint.resolve l.boundary)
        else none) := by
  have hlo := (l.resolve_bounds t.splitPoint).1
  unfold splitOffset
  rw [findSniBoundary_located l]
  simp only [pure, Except.pure, bind, Except.bind]
  by_cases hinside : t.splitPoint.resolve l.boundary < l.encode.length
  · rw [if_pos hinside, if_pos ⟨by omega, hinside⟩]
  · rw [if_neg hinside, if_neg fun h => hinside h.2]

theorem TlsRecordSplit.cutOffset_located (t : TlsRecordSplit)
    (l : Located) :
    t.cutOffset l.encode = .ok (some (t.splitPoint.resolve l.boundary)) := by
  rw [cutOffset, findSniBoundary_located l]
  rfl

/-- What is split has a name. -/
theorem TlsRecordSplit.located_of_split {t : TlsRecordSplit} {data : Bytes}
    {parts : Bytes × Bytes} (h : t.split data = .ok (some parts)) :
    ∃ l : Located, data = l.encode := by
  unfold split at h
  cases hwalk : findSniBoundary data with
  | error p =>
      rw [hwalk] at h
      cases h
  | ok b =>
      cases b with
      | none =>
          rw [hwalk] at h
          cases h
      | some b =>
          obtain ⟨l, hl, -⟩ := exists_located hwalk
          exact ⟨l, hl⟩

/-- A record body of four bytes is enough for the walker. -/
theorem findSniBoundary_of_room {data : Bytes}
    (h : 4 ≤ be16 (data.getD 3 0) (data.getD 4 0)) :
    ∃ b, findSniBoundary data = .ok b := by
  cases hwalk : findSniBoundary data with
  | ok b => exact ⟨b, rfl⟩
  | error p =>
      exfalso
      obtain ⟨version, body, behind, ⟨hdata, hversion, hlt⟩, -, hshort⟩ :=
        (findSniBoundary_error_iff data).mp ⟨p, hwalk⟩
      obtain ⟨v0, v1, rfl⟩ := eq_pair_of_length hversion
      have hencode : data
          = (WireRecord.mk 0x16 (v0, v1) body hlt).encode ++ behind := by
        rw [hdata, WireRecord.encode, WireRecord.kind]
        simp only [List.cons_append, List.nil_append]
      rw [hencode, WireRecord.bodyLen_append] at h
      exact absurd h (Nat.not_le.mpr hshort)

/-- The split re-frames the first record and changes nothing else. Where
it splits, the parts are two records of the first record's content type
and version with non-empty bodies that make up its body, and what follows
it follows the second; the cut is inside the body and is the offset at
which `sni_boundary_frag` splits. Given a body of four bytes it declines
only without a name or with the cut at the end of the body. An offset of
`sni_boundary_frag` splits every payload in two non-empty parts. -/
theorem TlsRecordSplit.split_reframes (t : TlsRecordSplit) (data : Bytes) :
    (∀ first second, t.split data = .ok (some (first, second)) →
      ∃ (r r₁ r₂ : WireRecord) (behind : Bytes) (cut : Nat),
        data = r.encode ++ behind
        ∧ first = r₁.encode ∧ second = r₂.encode ++ behind
        ∧ r₁.contentType = r.contentType ∧ r₁.version = r.version
        ∧ r₂.contentType = r.contentType ∧ r₂.version = r.version
        ∧ r₁.body ≠ [] ∧ r₂.body ≠ [] ∧ r₁.body ++ r₂.body = r.body
        ∧ t.cutOffset data = .ok (some cut)
        ∧ 5 < cut ∧ cut < 5 + r.body.length ∧ r₁.body.length = cut - 5
        ∧ ∀ delayMs, (SniBoundaryFrag.mk t.splitPoint delayMs).splitOffset data
            = .ok (some cut))
    ∧ (4 ≤ be16 (data.getD 3 0) (data.getD 4 0) →
        (t.split data = .ok none
          ↔ findSniBoundary data = .ok none
            ∨ t.cutOffset data
              = .ok (some (5 + be16 (data.getD 3 0) (data.getD 4 0)))))
    ∧ ∀ (s : SniBoundaryFrag) (offset : Nat),
        s.splitOffset data = .ok (some offset) →
          0 < offset ∧ offset < data.length
          ∧ ∀ delayMs, writeBoundarySplit data offset delayMs
            ≠ .error (.assertFailed
                "split must produce two non-empty parts") := by
  refine ⟨?_, ?_, ?_⟩
  · intro first second h
    obtain ⟨l, rfl⟩ := located_of_split h
    obtain ⟨hlo, hhi, hend⟩ := l.resolve_bounds t.splitPoint
    rw [t.split_located l] at h
    by_cases hinside : t.splitPoint.resolve l.boundary < 5 + l.body.length
    · rw [if_pos hinside] at h
      cases h
      have hfirst : (l.firstRecord.take
          (t.splitPoint.resolve l.boundary - 5)).body.length
            = t.splitPoint.resolve l.boundary - 5 := by
        show (l.body.take _).length = _
        rw [List.length_take]
        omega
      have hsecond : 0 < (l.firstRecord.drop
          (t.splitPoint.resolve l.boundary - 5)).body.length := by
        show 0 < (l.body.drop _).length
        rw [List.length_drop]
        omega
      refine ⟨l.firstRecord, _, _, l.behindRecord, _, l.encode_firstRecord,
        rfl, rfl, rfl, rfl, rfl, rfl, ?_, List.length_pos_iff.mp hsecond,
        List.take_append_drop _ _, t.cutOffset_located l, by omega, hinside,
        hfirst, fun delayMs => ?_⟩
      · rw [← List.length_pos_iff, hfirst]
        omega
      · rw [SniBoundaryFrag.splitOffset_located]
        exact congrArg Except.ok
          (if_pos (Nat.lt_of_lt_of_le hinside l.boundary_le.2))
    · rw [if_neg hinside] at h
      cases h
  · intro hroom
    obtain ⟨b, hwalk⟩ := findSniBoundary_of_room hroom
    cases b with
    | none =>
        refine ⟨fun _ => .inl hwalk, fun _ => ?_⟩
        unfold split
        rw [hwalk]
        rfl
    | some b =>
        obtain ⟨l, rfl, rfl⟩ := exists_located hwalk
        have hlen : be16 (l.encode.getD 3 0) (l.encode.getD 4 0)
            = l.body.length := by
          rw [l.encode_firstRecord]
          exact l.firstRecord.bodyLen_append _
        obtain ⟨-, hhi, hend⟩ := l.resolve_bounds t.splitPoint
        rw [hlen, t.split_located l, t.cutOffset_located l, hwalk]
        simp only [Except.ok.injEq, Option.some.injEq, reduceCtorEq,
          false_or, ite_eq_right_iff, imp_false]
        omega
  · intro s offset h
    obtain ⟨hpos, hlt⟩ := s.splitOffset_range h
    refine ⟨hpos, hlt, fun delayMs => ?_⟩
    unfold writeBoundarySplit
    rw [if_neg (not_not_intro ⟨hpos, hlt⟩)]
    by_cases hdelay : delayMs.min < 0
    · rw [if_pos hdelay]
      simp
    · rw [if_neg hdelay]
      simp

/-- A ClientHello for the host `a.io` with one more byte in its record. -/
def sampleRoomyHello : Bytes :=
  [0x16, 3, 1, 0, 61, 0x01, 0, 0, 56, 3, 3]
    ++ List.replicate 32 0
    ++ [0, 0, 2, 0x13, 0x01, 1, 0, 0, 13]
    ++ [0, 0, 0, 9, 0, 7, 0, 0, 4, 0x61, 0x2E, 0x69, 0x6F]
    ++ [0]

theorem sampleRoomyHello_sni :
    findSniBoundary sampleRoomyHello = .ok (some ⟨56, 61, 4⟩) := by
  decide

/-- The split in the middle of the name, two bytes of it on each side. -/
theorem TlsRecordSplit.split_reframes_middle :
    ∃ first second cut,
      TlsRecordSplit.split ⟨.middle, .exact 0⟩ sampleRoomyHello
        = .ok (some (first, second))
      ∧ TlsRecordSplit.cutOffset ⟨.middle, .exact 0⟩ sampleRoomyHello
        = .ok (some cut)
      ∧ 5 < cut := by
  have hsplit : TlsRecordSplit.split ⟨.middle, .exact 0⟩ sampleRoomyHello
      = .ok (some ([0x16, 3, 1, 0, 58] ++ (sampleRoomyHello.take 63).drop 5,
        [0x16, 3, 1, 0, 3, 0x69, 0x6F, 0])) := by decide
  obtain ⟨-, -, -, -, cut, -, -, -, -, -, -, -, -, -, -, hcut, hlo, -⟩ :=
    (split_reframes ⟨.middle, .exact 0⟩ sampleRoomyHello).1 _ _ hsplit
  exact ⟨_, _, cut, hsplit, hcut, hlo⟩

-- ========================================= what the first part shows

/-- The walk through the first `k` bytes of the body finds the name when
the whole message is among them. -/
theorem findSniBoundary_take (l : Located) {k : Nat} (hlo : 4 ≤ k)
    (hhi : k ≤ l.body.length) :
    findSniBoundary (l.firstRecord.take k).encode
      = .ok (if 4 + l.message.length ≤ k then some l.boundary else none) := by
  have hhead : (l.body.take k).head? = some 0x01 := by
    obtain ⟨k, rfl⟩ : ∃ j, k = j + 1 := ⟨k - 1, by omega⟩
    rfl
  have hlen : (l.body.take k).length = k := by
    rw [List.length_take]
    omega
  have hrecord : HandshakeRecord (l.firstRecord.take k).encode
      [l.recordVersion.getD 0 0, l.recordVersion.getD 1 0]
      (l.body.take k) [] := by
    refine ⟨?_, rfl, (l.firstRecord.take k).body_lt⟩
    rw [List.append_nil]
    rfl
  have hgetD : ∀ i, i < 4 → (l.body.take k).getD i 0 = l.body.getD i 0 := by
    intro i hi
    rw [List.getD_eq_getElem?_getD, List.getD_eq_getElem?_getD,
      List.getElem?_take_of_lt (by omega)]
  have hmessage := message_of_body l.message l.behindMessage l.message_lt
    (show l.body = _ from rfl)
  obtain ⟨hmessageLen, hroom⟩ := slice?_length hmessage
  have hfirst : l.body.head? = some 0x01 := rfl
  have hwalk : sniInHello l.message = some l.boundary := by
    have hfull := l.record.walk
    rw [findSniBoundary_located l, if_neg (not_not_intro hfirst),
      if_neg (by omega), hmessage] at hfull
    exact (Except.ok.inj hfull).symm
  rw [hrecord.walk, if_neg (not_not_intro hhead), if_neg (by omega),
    hgetD 1 (by omega), hgetD 2 (by omega), hgetD 3 (by omega)]
  by_cases hwhole : 4 + l.message.length ≤ k
  · have hslice : slice? (l.body.take k) 4 (4 + be24 (l.body.getD 1 0)
        (l.body.getD 2 0) (l.body.getD 3 0)) = some l.message := by
      have hpart := take_drop_of_slice hmessage
      rw [slice?, if_pos ⟨by omega, by omega⟩, ← hpart, ← List.drop_take,
        List.take_take, Nat.min_eq_left (by omega)]
    rw [if_pos hwhole, hslice, Option.bind_some, hwalk]
  · rw [if_neg hwhole, slice?, if_neg (by omega), Option.bind_none]

/-- The part of a payload shows the host name where the payload has it. -/
def ShowsName (b : SniBoundary) (data part : Bytes) : Prop :=
  slice? part b.nameStart (b.nameStart + b.nameLen)
    = slice? data b.nameStart (b.nameStart + b.nameLen)

/-- A part that agrees with the payload behind the length field shows the
name when it is long enough. -/
theorem ClientHello.Located.showsName_iff (l : Located) {part : Bytes} {cut : Nat}
    (hlen : part.length = cut)
    (hpart : part.drop 5 = (l.encode.take cut).drop 5) :
    ShowsName l.boundary l.encode part
      ↔ l.boundary.nameStart + l.boundary.nameLen ≤ cut := by
  have hstart : 5 ≤ l.boundary.nameStart := by
    simp only [Located.boundary, Located.extensionStart]
    omega
  unfold ShowsName
  rw [l.slice_hostName]
  constructor
  · intro h
    rw [← hlen]
    exact (slice?_length h).2
  · intro h
    have hname := take_drop_of_slice l.slice_hostName
    obtain ⟨n, hn⟩ : ∃ n, l.boundary.nameStart = 5 + n :=
      ⟨l.boundary.nameStart - 5, by omega⟩
    have hdrop : part.drop l.boundary.nameStart
        = (l.encode.take cut).drop l.boundary.nameStart := by
      rw [hn, ← List.drop_drop, hpart, List.drop_drop]
    rw [slice?, if_pos ⟨Nat.le_add_right _ _, by omega⟩, hdrop,
      ← List.drop_take, List.take_take, Nat.min_eq_left h, hname]

/-- The first part leaves the end of the name out, unless the split point
is an index that clears the name, which is clamped to its end: then both
first parts end with the whole name. The walker finds a name in the first
record only when moreover the message ends with the name. -/
theorem first_part_shows_name_iff {data : Bytes} {b : SniBoundary}
    (h : findSniBoundary data = .ok (some b))
    (point : SniBoundarySplitPoint) :
    (point.resolve b < b.nameStart + b.nameLen ↔ ¬ point.ClearsName b.nameLen)
    ∧ (point.ClearsName b.nameLen →
        point.resolve b = b.nameStart + b.nameLen)
    ∧ (∀ (t : TlsRecordSplit) first second, t.splitPoint = point →
        t.split data = .ok (some (first, second)) →
        first.length = point.resolve b
        ∧ (ShowsName b data first ↔ point.ClearsName b.nameLen)
        ∧ (findSniBoundary first = .ok none
          ↔ ¬ (point.ClearsName b.nameLen
            ∧ b.nameStart + b.nameLen
              = 9 + be24 (data.getD 6 0) (data.getD 7 0) (data.getD 8 0))))
    ∧ ∀ (s : SniBoundaryFrag) offset, s.splitPoint = point →
        s.splitOffset data = .ok (some offset) →
        offset = point.resolve b
        ∧ (ShowsName b data (data.take offset)
          ↔ point.ClearsName b.nameLen) := by
  obtain ⟨l, rfl, rfl⟩ := exists_located h
  have hclears := l.resolve_lt_iff point
  obtain ⟨hlo, hhi, hend⟩ := l.resolve_bounds point
  have hreach : l.boundary.nameStart + l.boundary.nameLen
        ≤ point.resolve l.boundary
      ↔ point.ClearsName l.boundary.nameLen := by
    rw [← Nat.not_lt, hclears, Classical.not_not]
  refine ⟨hclears, fun hc => Nat.le_antisymm hhi (hreach.mpr hc), ?_, ?_⟩
  · rintro t first second rfl hsplit
    rw [t.split_located l] at hsplit
    by_cases hinside : t.splitPoint.resolve l.boundary < 5 + l.body.length
    · rw [if_pos hinside] at hsplit
      cases hsplit
      have hlen : (l.firstRecord.take
          (t.splitPoint.resolve l.boundary - 5)).encode.length
            = t.splitPoint.resolve l.boundary := by
        rw [WireRecord.length_encode]
        show 5 + (l.body.take _).length = _
        rw [List.length_take]
        omega
      have hpart : (l.firstRecord.take
          (t.splitPoint.resolve l.boundary - 5)).encode.drop 5
            = (l.encode.take (t.splitPoint.resolve l.boundary)).drop 5 := by
        rw [l.encode_firstRecord, WireRecord.front_append _ _ (by omega)
          (Nat.le_of_lt hinside), ← List.append_nil (WireRecord.encode _),
          WireRecord.drop_five, List.append_nil]
      refine ⟨hlen, (l.showsName_iff hlen hpart).trans hreach, ?_⟩
      have hmessage : be24 (l.encode.getD 6 0) (l.encode.getD 7 0)
          (l.encode.getD 8 0) = l.message.length := by
        have hslice := message_of_body l.message l.behindMessage
          l.message_lt (show l.body = _ from rfl)
        have hbytes : ∀ i, i < 4 →
            l.encode.getD (5 + i) 0 = l.body.getD i 0 := by
          intro i hi
          have hroom := l.nameEnd_le_message
          have hstart := (l.resolve_bounds t.splitPoint).1
          rw [List.getD_eq_getElem?_getD, List.getD_eq_getElem?_getD,
            ← List.getElem?_drop, l.encode_firstRecord,
            WireRecord.drop_five]
          exact congrArg (Option.getD · 0)
            (List.getElem?_append_left (show i < l.body.length by omega))
        rw [hbytes 1 (by omega), hbytes 2 (by omega), hbytes 3 (by omega)]
        have := (slice?_length hslice).1
        omega
      have hname := l.nameEnd_le_message
      rw [findSniBoundary_take l (by omega) (by omega), hmessage]
      by_cases hwhole : 4 + l.message.length
          ≤ t.splitPoint.resolve l.boundary - 5
      · rw [if_pos hwhole]
        refine ⟨nofun, fun h => absurd ⟨hreach.mp ?_, ?_⟩ h⟩
        · omega
        · omega
      · rw [if_neg hwhole]
        refine ⟨fun _ => ?_, fun _ => rfl⟩
        rintro ⟨hc, hlast⟩
        have := hreach.mpr hc
        omega
    · rw [if_neg hinside] at hsplit
      cases hsplit
  · rintro s offset rfl hsplit
    rw [s.splitOffset_located l] at hsplit
    by_cases hinside : s.splitPoint.resolve l.boundary < l.encode.length
    · rw [if_pos hinside] at hsplit
      cases hsplit
      refine ⟨rfl, (l.showsName_iff ?_ rfl).trans hreach⟩
      rw [List.length_take]
      omega
    · rw [if_neg hinside] at hsplit
      cases hsplit

/-- The middle of `a.io` hides its second half. -/
theorem first_part_hides_middle :
    SniBoundaryFrag.splitOffset ⟨.middle, .exact 0⟩ sampleRoomyHello
        = .ok (some 63)
      ∧ ¬ ShowsName ⟨56, 61, 4⟩ sampleRoomyHello
        (sampleRoomyHello.take 63) := by
  have hoffset : SniBoundaryFrag.splitOffset ⟨.middle, .exact 0⟩
      sampleRoomyHello = .ok (some 63) := by decide
  refine ⟨hoffset, fun hshows => ?_⟩
  obtain ⟨-, -, -, hfrag⟩ :=
    first_part_shows_name_iff sampleRoomyHello_sni .middle
  obtain ⟨n, hn, -⟩ :=
    (hfrag ⟨.middle, .exact 0⟩ 63 rfl hoffset).2.mp hshows
  cases hn

/-- Index 4 into a name of four bytes: the first record is the whole
ClientHello, and `sni_boundary_frag` cuts behind the name as well. -/
theorem index_behind_name_shows_it :
    (∃ first second,
      TlsRecordSplit.split ⟨.index 4, .exact 0⟩ sampleRoomyHello
        = .ok (some (first, second))
      ∧ ShowsName ⟨56, 61, 4⟩ sampleRoomyHello first
      ∧ findSniBoundary first = .ok (some ⟨56, 61, 4⟩))
    ∧ SniBoundaryFrag.splitOffset ⟨.index 4, .exact 0⟩ sampleRoomyHello
      = .ok (some 65)
    ∧ ¬ 65 < 61 + 4 := by
  refine ⟨⟨sampleRoomyHello.take 4 ++ [60] ++ (sampleRoomyHello.take 65).drop 5,
    [0x16, 3, 1, 0, 1, 0], ?_, ?_, ?_⟩, ?_, by omega⟩
  · decide
  · unfold ShowsName
    decide
  · decide
  · decide

end ZeroDpi
