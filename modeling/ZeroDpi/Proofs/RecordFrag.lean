/-
`fragment_payload` cuts the records of a payload up and changes nothing
else.

The loop takes one record off the front at each turn. Forwards that reads
the payload as a sequence of records; backwards a sequence of records
drives the loop to the end of the payload. The inner loop's 16-bit length
is exact because a chunk is no longer than the body it is cut from.
-/
import ZeroDpi.RecordLayer
import ZeroDpi.Methods.Data

namespace ZeroDpi

open Lib

-- ========================================================== one record

/-- The chunks of a body behind a header each are the encoding of records
of one kind. -/
theorem encodeAll_chunks (r : WireRecord) {n : Nat} {chunked : List Bytes}
    (hsize : ∀ c ∈ chunked, c.length ≤ n ∧ c.length < 65536) :
    ∃ parts : List WireRecord,
      WireRecord.encodeAll parts
        = chunked.flatMap (fun chunk =>
            r.kind ++ toBe16 chunk.length ++ chunk)
      ∧ parts.map WireRecord.body = chunked
      ∧ ∀ p ∈ parts, p.contentType = r.contentType ∧ p.version = r.version
          ∧ p.body.length ≤ n := by
  induction chunked with
  | nil => exact ⟨[], rfl, rfl, nofun⟩
  | cons c chunked ih =>
      obtain ⟨parts, hencode, hbodies, hparts⟩ :=
        ih fun c' hc' => hsize c' (List.mem_cons_of_mem c hc')
      obtain ⟨hc, hlt⟩ := hsize c List.mem_cons_self
      refine ⟨⟨r.contentType, r.version, c, hlt⟩ :: parts, ?_, ?_, ?_⟩
      · rw [WireRecord.encodeAll_cons, hencode, List.flatMap_cons,
          WireRecord.encode, vec, beBytes_two, List.append_assoc r.kind]
        rfl
      · rw [List.map_cons, hbodies]
      · intro p hp
        rcases List.mem_cons.mp hp with rfl | hp
        · exact ⟨rfl, rfl, hc⟩
        · exact hparts p hp

/-- What the inner loop writes for a record is the record cut up. -/
theorem exists_cut {n : Nat} (hn : 0 < n) (r : WireRecord) :
    ∃ parts, WireRecord.CutInto n r parts
      ∧ WireRecord.encodeAll parts = reframe r.kind n r.body := by
  by_cases hempty : r.body = []
  · refine ⟨[r], ⟨?_, ?_, ?_, ?_, ?_, fun _ => rfl⟩, ?_⟩
    · exact fun p hp => by rw [List.mem_singleton.mp hp]
    · exact fun p hp => by rw [List.mem_singleton.mp hp]
    · intro p hp
      rw [List.mem_singleton.mp hp, hempty]
      exact Nat.zero_le n
    · exact List.flatMap_singleton _ _
    · exact List.cons_ne_nil r []
    · rw [reframe, hempty, WireRecord.encodeAll_cons, WireRecord.encode,
        hempty, WireRecord.encodeAll_nil, List.append_nil]
      rfl
  · have hflatten := chunks_flatten hn r.body
    have hsize : ∀ c ∈ chunks n r.body, c.length ≤ n ∧ c.length < 65536 := by
      intro c hc
      have hle : c.length ≤ r.body.length := by
        rw [← hflatten]
        exact List.Sublist.length_le (List.sublist_flatten_of_mem hc)
      exact ⟨(mem_chunks hn hc).2, Nat.lt_of_le_of_lt hle r.body_lt⟩
    obtain ⟨parts, hencode, hbodies, hparts⟩ := encodeAll_chunks r hsize
    have hjoin : parts.flatMap WireRecord.body = r.body := by
      rw [List.flatMap_def, hbodies, hflatten]
    refine ⟨parts, ⟨fun p hp => (hparts p hp).1, fun p hp => (hparts p hp).2.1,
      fun p hp => (hparts p hp).2.2, hjoin, ?_, ?_⟩, ?_⟩
    · rintro rfl
      exact hempty hjoin.symm
    · exact fun h => absurd h hempty
    · rw [hencode, reframe, if_neg]
      simpa using hempty

-- ============================================================ the loop

/-- A record in front of the payload takes one turn. -/
theorem fragmentRecords_record (n fuel : Nat) (r : WireRecord)
    (rest : Bytes) :
    fragmentRecords n (fuel + 1) (r.encode ++ rest)
      = (fragmentRecords n fuel rest).map (reframe r.kind n r.body ++ ·) := by
  have hlen : be16 (r.body.length / 256).toUInt8 r.body.length.toUInt8
      = r.body.length := by
    rw [be16_toBe16, Nat.mod_eq_of_lt r.body_lt]
  have hroom : ¬ (r.body ++ rest).length < r.body.length := by
    rw [List.length_append]
    omega
  rw [WireRecord.encode_eq]
  simp only [List.cons_append, fragmentRecords, hlen, if_neg hroom,
    List.take_left, List.drop_left, WireRecord.kind]

/-- A sequence of records is re-framed record for record. -/
theorem fragmentRecords_flatMap {n fuel : Nat} (rs : List WireRecord)
    (hfuel : rs.length ≤ fuel) :
    fragmentRecords n fuel (WireRecord.encodeAll rs)
      = some (rs.flatMap fun r => reframe r.kind n r.body) := by
  induction rs generalizing fuel with
  | nil =>
      rw [WireRecord.encodeAll_nil, fragmentRecords]
      rfl
  | cons r rs ih =>
      obtain ⟨fuel, rfl⟩ : ∃ k, fuel = k + 1 :=
        ⟨fuel - 1, by simp only [List.length_cons] at hfuel; omega⟩
      rw [WireRecord.encodeAll_cons, fragmentRecords_record,
        ih (Nat.le_of_succ_le_succ hfuel), Option.map_some,
        List.flatMap_cons]

/-- So it is cut up record for record. -/
theorem fragmentRecords_encodeAll {n fuel : Nat}
    {cut : WireRecord → List WireRecord}
    (hcut : ∀ r, WireRecord.encodeAll (cut r) = reframe r.kind n r.body)
    (rs : List WireRecord) (hfuel : rs.length ≤ fuel) :
    fragmentRecords n fuel (WireRecord.encodeAll rs)
      = some (WireRecord.encodeAll (rs.flatMap cut)) := by
  have hparts : WireRecord.encodeAll (rs.flatMap cut)
      = rs.flatMap fun r => reframe r.kind n r.body := by
    rw [WireRecord.encodeAll, List.flatMap_assoc]
    exact congrArg (List.flatMap · rs) (funext hcut)
  rw [fragmentRecords_flatMap rs hfuel, hparts]

/-- A payload that is cut up was a sequence of records. -/
theorem fragmentRecords_some {n fuel : Nat} {data out : Bytes}
    (h : fragmentRecords n fuel data = some out) :
    ∃ rs, data = WireRecord.encodeAll rs := by
  induction fuel generalizing data out with
  | zero =>
      cases data with
      | nil => exact ⟨[], rfl⟩
      | cons b data =>
          simp only [fragmentRecords] at h
          cases h
  | succ fuel ih =>
      rcases data with _ | ⟨t, _ | ⟨v0, _ | ⟨v1, _ | ⟨l0, _ | ⟨l1, rest⟩⟩⟩⟩⟩
      · exact ⟨[], rfl⟩
      iterate 4 cases h
      simp only [fragmentRecords] at h
      by_cases hshort : rest.length < be16 l0 l1
      · rw [if_pos hshort] at h
        cases h
      · rw [if_neg hshort] at h
        obtain ⟨tail, htail, -⟩ := Option.map_eq_some_iff.mp h
        obtain ⟨rs, hrs⟩ := ih htail
        obtain ⟨r, -, -, hr⟩ :=
          @WireRecord.exists_encode t v0 v1 l0 l1 rest (Nat.not_lt.mp hshort)
        exact ⟨r :: rs, by rw [WireRecord.encodeAll_cons, ← hrs, hr]⟩

-- ================================================== what a cut costs

/-- A record with a body of at most `n` bytes is kept. -/
theorem reframe_of_le {n : Nat} {r : WireRecord} (h : r.body.length ≤ n) :
    reframe r.kind n r.body = r.encode := by
  rw [reframe, WireRecord.encode, vec, beBytes_two, ← List.append_assoc]
  by_cases hempty : r.body = []
  · rw [hempty]
    rfl
  · have hpos := List.length_pos_iff.mpr hempty
    rw [if_neg (by simpa using hempty),
      chunks_of_ne_nil (Nat.lt_of_lt_of_le hpos h) hempty,
      List.take_of_length_le h, List.drop_eq_nil_of_le h, chunks_nil,
      List.flatMap_singleton]

/-- A longer one is longer afterwards. -/
theorem length_lt_reframe {n : Nat} (hn : 0 < n) {r : WireRecord}
    (h : n < r.body.length) :
    r.encode.length < (reframe r.kind n r.body).length := by
  obtain ⟨parts, hcut, hparts⟩ := exists_cut hn r
  have hlen := hcut.length_encodeAll
  have hseveral : parts.length ≠ 1 := by
    intro hone
    obtain ⟨p, rfl⟩ := List.length_eq_one_iff.mp hone
    have hbody := hcut.bodies
    have hsize := hcut.size p List.mem_cons_self
    rw [List.flatMap_singleton] at hbody
    rw [hbody] at hsize
    omega
  have hsome := List.length_pos_iff.mpr hcut.some_part
  rw [← hparts]
  omega

/-- No record is shorter afterwards. -/
theorem length_le_reframe {n : Nat} (hn : 0 < n) (r : WireRecord) :
    r.encode.length ≤ (reframe r.kind n r.body).length := by
  rcases Nat.lt_or_ge n r.body.length with hlong | hshort
  · exact Nat.le_of_lt (length_lt_reframe hn hlong)
  · rw [reframe_of_le hshort]

/-- A payload whose records are all short enough is kept. -/
theorem fragmentPayload_of_short {n : Nat} (hn : 0 < n)
    {rs : List WireRecord} (h : ∀ r ∈ rs, r.body.length ≤ n) :
    fragmentPayload (WireRecord.encodeAll rs) n
      = .ok (some (WireRecord.encodeAll rs)) := by
  have hsame : rs.flatMap (fun r => reframe r.kind n r.body)
      = WireRecord.encodeAll rs := by
    rw [WireRecord.encodeAll, List.flatMap_def, List.flatMap_def,
      List.map_congr_left fun r hr => reframe_of_le (h r hr)]
  have hfuel : rs.length ≤ (WireRecord.encodeAll rs).length := by
    rw [WireRecord.length_encodeAll]
    omega
  rw [fragmentPayload, if_neg (Nat.pos_iff_ne_zero.mp hn),
    fragmentRecords_flatMap rs hfuel, hsame]

/-- Any other sequence of records is longer afterwards. -/
theorem fragmentPayload_grows {n : Nat} (hn : 0 < n)
    {rs : List WireRecord} (h : ∃ r ∈ rs, n < r.body.length) :
    ∃ out, fragmentPayload (WireRecord.encodeAll rs) n = .ok (some out)
      ∧ (WireRecord.encodeAll rs).length < out.length := by
  have hfuel : rs.length ≤ (WireRecord.encodeAll rs).length := by
    rw [WireRecord.length_encodeAll]
    omega
  refine ⟨_, by rw [fragmentPayload, if_neg (Nat.pos_iff_ne_zero.mp hn),
    fragmentRecords_flatMap rs hfuel], ?_⟩
  clear hfuel
  have hle : ∀ rs : List WireRecord, (WireRecord.encodeAll rs).length
      ≤ (rs.flatMap fun r => reframe r.kind n r.body).length := by
    intro rs
    induction rs with
    | nil => exact Nat.le_refl 0
    | cons r rs ih =>
        have hr := length_le_reframe hn r
        rw [WireRecord.encodeAll_cons, List.flatMap_cons, List.length_append,
          List.length_append]
        omega
  obtain ⟨r, hr, hlong⟩ := h
  obtain ⟨before, after, rfl⟩ := List.append_of_mem hr
  have hbefore := hle before
  have hafter := hle after
  have hmore := length_lt_reframe hn hlong
  simp only [WireRecord.encodeAll_append, WireRecord.encodeAll_cons,
    List.flatMap_append, List.flatMap_cons, List.length_append]
  omega

-- ========================================================= the payload

/-- Fragmentation keeps the record stream. It accepts exactly the sequences
of complete records, and then writes, for each record in turn, records of
its content type and version whose bodies of at most `fragSize` bytes make
up its body; the result is longer by a header for each added record. -/
theorem fragmentPayload_keeps_records (data : Bytes) {fragSize : Nat}
    (hpos : 1 ≤ fragSize) :
    ∃ result, fragmentPayload data fragSize = .ok result
      ∧ (result.isSome = true ↔ ∃ rs, data = WireRecord.encodeAll rs)
      ∧ ∀ rs, data = WireRecord.encodeAll rs →
        ∃ out cut, result = some out
          ∧ out = WireRecord.encodeAll (rs.flatMap cut)
          ∧ (∀ rs', out = WireRecord.encodeAll rs' → rs' = rs.flatMap cut)
          ∧ (∀ r ∈ rs, WireRecord.CutInto fragSize r (cut r))
          ∧ out.length + 5 * rs.length
            = data.length + 5 * (rs.flatMap cut).length := by
  obtain ⟨cut, hcut⟩ := Classical.axiomOfChoice (exists_cut hpos)
  have hwhole : ∀ rs, data = WireRecord.encodeAll rs →
      fragmentRecords fragSize data.length data
        = some (WireRecord.encodeAll (rs.flatMap cut)) := by
    rintro rs rfl
    refine fragmentRecords_encodeAll (fun r => (hcut r).2) rs ?_
    rw [WireRecord.length_encodeAll]
    omega
  refine ⟨fragmentRecords fragSize data.length data, ?_, ?_, ?_⟩
  · rw [fragmentPayload, if_neg (Nat.ne_of_gt hpos)]
  · constructor
    · intro h
      obtain ⟨out, hout⟩ := Option.isSome_iff_exists.mp h
      exact fragmentRecords_some hout
    · rintro ⟨rs, hrs⟩
      rw [hwhole rs hrs]
      rfl
  · intro rs hrs
    refine ⟨_, cut, hwhole rs hrs, rfl, ?_, fun r _ => (hcut r).1, ?_⟩
    · exact fun rs' h => (WireRecord.encodeAll_inj h).symm
    · rw [hrs]
      exact WireRecord.length_cut fun r _ => (hcut r).1

/-- An alert of two bytes and an empty record behind it, one byte a
record. -/
theorem fragmentPayload_keeps_two_records :
    ∃ out, fragmentPayload [0x15, 3, 3, 0, 2, 1, 0, 0x17, 3, 3, 0, 0] 1
        = .ok (some out)
      ∧ out.length = 17 := by
  have hrecord : ([0x15, 3, 3, 0, 2, 1, 0, 0x17, 3, 3, 0, 0] : Bytes)
      = WireRecord.encodeAll [⟨0x15, (3, 3), [1, 0], by decide⟩,
        ⟨0x17, (3, 3), [], by decide⟩] := by decide
  obtain ⟨result, hresult, -, hkeeps⟩ := fragmentPayload_keeps_records
    [0x15, 3, 3, 0, 2, 1, 0, 0x17, 3, 3, 0, 0] (Nat.le_refl 1)
  obtain ⟨out, -, hout, -⟩ := hkeeps _ hrecord
  have hvalue : fragmentPayload [0x15, 3, 3, 0, 2, 1, 0, 0x17, 3, 3, 0, 0] 1
      = .ok (some [0x15, 3, 3, 0, 1, 1, 0x15, 3, 3, 0, 1, 0, 0x17, 3, 3, 0, 0])
    := by decide
  refine ⟨out, by rw [hresult, hout], ?_⟩
  rw [hout, hvalue] at hresult
  cases hresult
  rfl

end ZeroDpi
