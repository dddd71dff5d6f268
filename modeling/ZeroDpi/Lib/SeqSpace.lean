/-
Segments in a 32-bit sequence space.

Serial numbers compare modulo 2^32, half the circle each way. A receiver
at `seq` keeps the bytes from `seq` on; what lies before is old and
trimmed. `CoversExactly` says that what survives of some segments is the
range `[seq, seq + len)`, `Carries` that every byte of a payload is in
its place in one of them, and `Tiles` how a sender gets there: each
segment is a run of the payload behind a possibly empty lead of old bytes,
and every byte of the payload is in a run.
-/

namespace ZeroDpi.Lib

/-- A segment: the serial number of its first byte, and its bytes. -/
structure Segment where
  seq : UInt32
  payload : List UInt8
  deriving DecidableEq

/-- The whole segment lies at or below `mark`. -/
def Segment.Behind (mark : UInt32) (q : Segment) : Prop :=
  q.payload.length ≤ (mark - q.seq).toNat ∧ (mark - q.seq).toNat < 0x80000000

instance (mark : UInt32) (q : Segment) : Decidable (q.Behind mark) :=
  inferInstanceAs (Decidable (_ ∧ _))

/-- A byte of the segment lies at `p`. -/
def Segment.Holds (q : Segment) (p : UInt32) : Prop :=
  ∃ i, i < q.payload.length ∧ p = q.seq + i.toUInt32

/-- The segments that are not behind `mark` hold, from `seq` on, exactly
the bytes of `[seq, seq + len)`. -/
def CoversExactly (mark seq : UInt32) (len : Nat) (segs : List Segment) :
    Prop :=
  ∀ p : UInt32,
    ((p - seq).toNat < 0x80000000
        ∧ ∃ q ∈ segs, ¬ q.Behind mark ∧ q.Holds p)
      ↔ (p - seq).toNat < len

/-- A run of a payload at `offset`, behind a lead of old bytes. -/
def runAt (seq : UInt32) (offset : Nat) (lead part : List UInt8) :
    Segment where
  seq := seq + offset.toUInt32 - lead.length.toUInt32
  payload := lead ++ part

/-- Every byte of a payload that starts at `seq` is in its place in one
of the segments. -/
def Carries (seq : UInt32) (payload : List UInt8) (segs : List Segment) :
    Prop :=
  ∀ i, i < payload.length → ∃ q ∈ segs, ∃ j : Nat,
    q.payload[j]? = payload[i]?
      ∧ q.seq + j.toUInt32 = seq + i.toUInt32

/-- The segments are runs of a payload, and every byte of it is in a
run. -/
structure Tiles (seq : UInt32) (payload : List UInt8)
    (segs : List Segment) : Prop where
  placed : ∀ q ∈ segs, ∃ offset lead part, q = runAt seq offset lead part
    ∧ part ≠ [] ∧ part <+: payload.drop offset ∧ lead.length < 65536
  full : ∀ i, i < payload.length → ∃ offset lead part,
    runAt seq offset lead part ∈ segs ∧ part <+: payload.drop offset
      ∧ offset ≤ i ∧ i < offset + part.length

/-- The payload in one piece. -/
theorem Tiles.single {q : Segment} (h : q.payload ≠ []) :
    Tiles q.seq q.payload [q] := by
  have hrun : q = runAt q.seq 0 [] q.payload := by
    simp [runAt]
  refine ⟨fun r hr => ?_, fun i hi => ?_⟩
  · rw [List.mem_singleton.mp hr]
    exact ⟨0, [], q.payload, hrun, h, List.prefix_rfl, by decide⟩
  · exact ⟨0, [], q.payload, List.mem_singleton.mpr hrun.symm,
      List.prefix_rfl, by omega, by omega⟩

/-- A run that is not empty ends inside the payload. -/
theorem run_le {payload part : List UInt8} {offset : Nat}
    (hne : part ≠ []) (h : part <+: payload.drop offset) :
    offset + part.length ≤ payload.length := by
  have hpos : 0 < part.length := List.length_pos_iff.mpr hne
  have hlen := h.length_le
  rw [List.length_drop] at hlen
  omega

-- ======================================================== serial numbers

/-- The distance between two numbers, once it is known as a difference. -/
theorem toNat_sub_eq {a b : UInt32} {m n : Nat}
    (h : a - b = m.toUInt32 - n.toUInt32) (hm : m < 0x100000000)
    (hn : n < 0x100000000) : (a - b).toNat = (0x100000000 - n + m) % 0x100000000 := by
  have hm' : m.toUInt32.toNat = m := Nat.mod_eq_of_lt hm
  have hn' : n.toUInt32.toNat = n := Nat.mod_eq_of_lt hn
  rw [h, UInt32.toNat_sub, hm', hn']

variable {mark seq : UInt32} {len offset : Nat} {lead part : List UInt8}

/-- The `i`-th byte of a run, as a distance from the payload. -/
theorem runAt_byte (seq : UInt32) (offset : Nat) (lead part : List UInt8)
    (i : Nat) : (runAt seq offset lead part).seq + i.toUInt32 - seq
      = (offset + i).toUInt32 - lead.length.toUInt32 := by
  simp only [runAt, Nat.toUInt32_eq, UInt32.ofNat_add]
  grind

/-- A run of data from `mark` on is not behind it, lead and all. -/
theorem runAt_not_behind (hpart : part ≠ [])
    (hmark : (seq - mark).toNat + len < 0x80000000)
    (hoff : offset + part.length ≤ len) (hlead : lead.length < 65536) :
    ¬ (runAt seq offset lead part).Behind mark := by
  have hpos : 0 < part.length := List.length_pos_iff.mpr hpart
  have hdist : mark - (runAt seq offset lead part).seq
      = lead.length.toUInt32
        - ((seq - mark).toNat + offset).toUInt32 := by
    have hseq : (seq - mark).toNat.toUInt32 = seq - mark :=
      UInt32.ofNat_toNat
    simp only [Nat.toUInt32_eq] at hseq
    simp only [runAt, Nat.toUInt32_eq, UInt32.ofNat_add, hseq]
    grind
  have hnat := toNat_sub_eq hdist (by omega) (by omega)
  intro h
  obtain ⟨hlen, hhalf⟩ := h
  rw [hnat] at hlen hhalf
  simp only [runAt, List.length_append] at hlen
  omega

/-- A kept byte of a run lies in the payload. -/
theorem runAt_kept (hlen : len < 0x80000000)
    (hoff : offset + part.length ≤ len) (hlead : lead.length < 65536)
    {p : UInt32} (hkept : (p - seq).toNat < 0x80000000)
    (hp : (runAt seq offset lead part).Holds p) :
    (p - seq).toNat < len := by
  obtain ⟨i, hi, rfl⟩ := hp
  simp only [runAt, List.length_append] at hi
  have hnat := toNat_sub_eq (runAt_byte seq offset lead part i)
    (by omega) (by omega)
  rw [hnat] at hkept ⊢
  omega

/-- The byte of a run at `i` is behind the lead, at `i - offset`. -/
theorem runAt_at {i : Nat} (hlow : offset ≤ i) :
    (runAt seq offset lead part).seq
        + (lead.length + (i - offset)).toUInt32
      = seq + i.toUInt32 := by
  have hbyte := runAt_byte seq offset lead part (lead.length + (i - offset))
  have hsum : offset + (lead.length + (i - offset)) = i + lead.length := by
    omega
  simp only [Nat.toUInt32_eq] at hbyte ⊢
  rw [hsum, UInt32.ofNat_add i] at hbyte
  grind

namespace Tiles

variable {payload : List UInt8} {segs : List Segment}

/-- Tiling a payload covers its range. -/
theorem coversExactly (h : Tiles seq payload segs)
    (hmark : (seq - mark).toNat + payload.length < 0x80000000) :
    CoversExactly mark seq payload.length segs := by
  intro p
  constructor
  · intro hgiven
    obtain ⟨hkept, q, hq, -, hholds⟩ := hgiven
    obtain ⟨offset, lead, part, rfl, hne, hpart, hlead⟩ := h.placed q hq
    exact runAt_kept (by omega) (run_le hne hpart) hlead hkept hholds
  · intro hp
    obtain ⟨offset, lead, part, hq, -, hlow, hhigh⟩ := h.full _ hp
    obtain ⟨offset', lead', part', heq, hne, hpart, hlead⟩ :=
      h.placed _ hq
    refine ⟨by omega, _, hq, ?_, ?_⟩
    · rw [heq]
      exact runAt_not_behind hne hmark (run_le hne hpart) hlead
    · refine ⟨lead.length + ((p - seq).toNat - offset), ?_, ?_⟩
      · simp only [runAt, List.length_append]
        omega
      · have hdist : (p - seq).toNat.toUInt32 = p - seq :=
          UInt32.ofNat_toNat
        rw [runAt_at hlow, hdist]
        grind

/-- And carries it. -/
theorem carries (h : Tiles seq payload segs) : Carries seq payload segs := by
  intro i hi
  obtain ⟨offset, lead, part, hq, ⟨rest, hrest⟩, hlow, hhigh⟩ := h.full i hi
  refine ⟨_, hq, lead.length + (i - offset), ?_, runAt_at hlow⟩
  calc (lead ++ part)[lead.length + (i - offset)]?
      = part[i - offset]? := by
        rw [List.getElem?_append_right (by omega), Nat.add_sub_cancel_left]
    _ = (part ++ rest)[i - offset]? :=
        (List.getElem?_append_left (by omega)).symm
    _ = payload[i]? := by
        rw [hrest, List.getElem?_drop, Nat.add_sub_cancel' hlow]

end Tiles

/-- A segment that is behind the mark does not count. -/
theorem CoversExactly.cons_behind {q : Segment} {segs : List Segment}
    (h : CoversExactly mark seq len segs) (hq : q.Behind mark) :
    CoversExactly mark seq len (q :: segs) := by
  intro p
  rw [← h p]
  simp only [List.mem_cons, exists_eq_or_imp]
  constructor
  · intro hgiven
    rcases hgiven with ⟨hkept, ⟨hnot, -⟩ | hrest⟩
    · exact absurd hq hnot
    · exact ⟨hkept, hrest⟩
  · intro hgiven
    obtain ⟨hkept, hrest⟩ := hgiven
    exact ⟨hkept, .inr hrest⟩

/-- Nor does it get in the way. -/
theorem Carries.cons {payload : List UInt8} {segs : List Segment}
    (h : Carries seq payload segs) (q : Segment) :
    Carries seq payload (q :: segs) := by
  intro i hi
  obtain ⟨r, hr, hat⟩ := h i hi
  exact ⟨r, List.mem_cons_of_mem q hr, hat⟩

end ZeroDpi.Lib
