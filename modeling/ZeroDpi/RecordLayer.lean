/-
The TLS record layer as its format has it, apart from the code that cuts
records up.

A record carries the bound of its body, so that every value is the bytes
of a record. The encoding of a sequence of records can be read in one way
only (`encodeAll_inj`): what a rewriter does to the records is what it does
to the bytes.
-/
import ZeroDpi.Interceptor
import ZeroDpi.Lib.Vectors

namespace ZeroDpi

open Lib

/-- One record: a content type, a version, and a body of 16-bit length. -/
structure WireRecord where
  contentType : UInt8
  version : UInt8 × UInt8
  body : Bytes
  body_lt : body.length < 65536

namespace WireRecord

instance : DecidableEq WireRecord := fun r s =>
  decidable_of_iff (r.contentType = s.contentType ∧ r.version = s.version
      ∧ r.body = s.body) (by
    cases r
    cases s
    rw [WireRecord.mk.injEq])

/-- The header bytes in front of the length field. -/
def kind (r : WireRecord) : Bytes := [r.contentType, r.version.1, r.version.2]

/-- A record on the wire. -/
def encode (r : WireRecord) : Bytes := r.kind ++ vec 2 r.body

/-- The records one behind the other. -/
def encodeAll (rs : List WireRecord) : Bytes := rs.flatMap encode

@[simp] theorem length_encode (r : WireRecord) :
    r.encode.length = 5 + r.body.length := by
  rw [encode, List.length_append, length_vec, kind]
  simp only [List.length_cons, List.length_nil]
  omega

@[simp] theorem encodeAll_nil : encodeAll [] = [] := rfl

@[simp] theorem encodeAll_cons (r : WireRecord) (rs : List WireRecord) :
    encodeAll (r :: rs) = r.encode ++ encodeAll rs := List.flatMap_cons

@[simp] theorem encodeAll_append (rs rs' : List WireRecord) :
    encodeAll (rs ++ rs') = encodeAll rs ++ encodeAll rs' :=
  List.flatMap_append

/-- The five header bytes, the length among them, and the body. -/
theorem encode_eq (r : WireRecord) :
    r.encode = r.contentType :: r.version.1 :: r.version.2
      :: (r.body.length / 256).toUInt8 :: r.body.length.toUInt8 :: r.body := by
  rw [encode, vec, beBytes_two]
  rfl

/-- A record and what follows it can be told apart. -/
theorem encode_append_inj {r r' : WireRecord} {rest rest' : Bytes}
    (h : r.encode ++ rest = r'.encode ++ rest') : r = r' ∧ rest = rest' := by
  rcases r with ⟨ty, ⟨v0, v1⟩, body, hbody⟩
  rcases r' with ⟨ty', ⟨v0', v1'⟩, body', hbody'⟩
  simp only [encode, kind, List.append_assoc] at h
  obtain ⟨hkind, htail⟩ := List.append_inj h rfl
  obtain ⟨rfl, rfl⟩ := vec_append_inj htail hbody hbody'
  obtain ⟨rfl, rfl, rfl⟩ : ty = ty' ∧ v0 = v0' ∧ v1 = v1' := by
    simpa using hkind
  exact ⟨rfl, rfl⟩

/-- Bytes are the encoding of at most one sequence of records. -/
theorem encodeAll_inj {rs rs' : List WireRecord}
    (h : encodeAll rs = encodeAll rs') : rs = rs' := by
  induction rs generalizing rs' with
  | nil =>
      cases rs' with
      | nil => rfl
      | cons r' rs' =>
          have hlen := congrArg List.length h
          simp only [encodeAll_nil, encodeAll_cons, List.length_nil,
            List.length_append, length_encode] at hlen
          omega
  | cons r rs ih =>
      cases rs' with
      | nil =>
          have hlen := congrArg List.length h
          simp only [encodeAll_nil, encodeAll_cons, List.length_nil,
            List.length_append, length_encode] at hlen
          omega
      | cons r' rs' =>
          obtain ⟨rfl, hrest⟩ := encode_append_inj h
          rw [ih hrest]

/-- Five bytes with room behind them for what the length field announces
are the header of a record. -/
theorem exists_encode {t v0 v1 l0 l1 : UInt8} {rest : Bytes}
    (hroom : be16 l0 l1 ≤ rest.length) :
    ∃ r : WireRecord, r.kind = [t, v0, v1]
      ∧ r.body = rest.take (be16 l0 l1)
      ∧ t :: v0 :: v1 :: l0 :: l1 :: rest
        = r.encode ++ rest.drop (be16 l0 l1) := by
  have hlen : (rest.take (be16 l0 l1)).length = be16 l0 l1 := by
    rw [List.length_take]
    omega
  have hvec : vec 2 (rest.take (be16 l0 l1))
      = [l0, l1] ++ rest.take (be16 l0 l1) :=
    vec_eq rfl (by rw [hlen, beNat_pair])
  refine ⟨⟨t, (v0, v1), rest.take (be16 l0 l1), ?_⟩, rfl, rfl, ?_⟩
  · rw [hlen]
    exact be16_lt l0 l1
  · simp only [encode, kind, hvec, List.cons_append, List.nil_append,
      List.take_append_drop]

-- ================================================ a record and the rest

/-- The record with the first `k` bytes of its body. -/
def take (r : WireRecord) (k : Nat) : WireRecord where
  contentType := r.contentType
  version := r.version
  body := r.body.take k
  body_lt := Nat.lt_of_le_of_lt (List.length_take_le' _ _) r.body_lt

/-- The record without the first `k` bytes of its body. -/
def drop (r : WireRecord) (k : Nat) : WireRecord where
  contentType := r.contentType
  version := r.version
  body := r.body.drop k
  body_lt := by
    have hbody := r.body_lt
    rw [List.length_drop]
    omega

variable (r : WireRecord) (rest : Bytes)

/-- The length field of a payload that starts with a record. -/
theorem bodyLen_append :
    be16 ((r.encode ++ rest).getD 3 0) ((r.encode ++ rest).getD 4 0)
      = r.body.length := by
  rw [encode_eq]
  show be16 (r.body.length / 256).toUInt8 r.body.length.toUInt8 = _
  rw [be16_toBe16, Nat.mod_eq_of_lt r.body_lt]

theorem kind_append : (r.encode ++ rest).take 3 = r.kind := by
  rw [encode_eq]
  rfl

theorem drop_five : (r.encode ++ rest).drop 5 = r.body ++ rest := by
  rw [encode_eq]
  rfl

/-- The body up to an offset of the payload. -/
theorem front_append {cut : Nat} (hlo : 5 ≤ cut)
    (hhi : cut ≤ 5 + r.body.length) :
    ((r.encode ++ rest).take cut).drop 5 = (r.take (cut - 5)).body := by
  rw [List.drop_take, drop_five, List.take_append_of_le_length (by omega)]
  rfl

/-- The body from an offset of the payload on. -/
theorem back_append {cut : Nat} (hlo : 5 ≤ cut)
    (hhi : cut ≤ 5 + r.body.length) :
    ((r.encode ++ rest).take (5 + r.body.length)).drop cut
      = (r.drop (cut - 5)).body := by
  have hwhole : (r.encode ++ rest).take (5 + r.body.length) = r.encode := by
    rw [← length_encode]
    exact List.take_left
  obtain ⟨k, rfl⟩ : ∃ k, cut = 5 + k := ⟨cut - 5, by omega⟩
  rw [hwhole, ← List.drop_drop, ← List.append_nil r.encode, drop_five,
    List.append_nil, Nat.add_sub_cancel_left]
  rfl

theorem behind_append :
    (r.encode ++ rest).drop (5 + r.body.length) = rest := by
  rw [← length_encode]
  exact List.drop_left

-- ========================================================== cut in parts

/-- The record `r` cut up: consecutive records of its content type and
version whose bodies, none above `n` bytes, make up its body. An empty
record stays as it is. -/
structure CutInto (n : Nat) (r : WireRecord) (parts : List WireRecord) :
    Prop where
  contentType : ∀ p ∈ parts, p.contentType = r.contentType
  version : ∀ p ∈ parts, p.version = r.version
  size : ∀ p ∈ parts, p.body.length ≤ n
  bodies : parts.flatMap body = r.body
  some_part : parts ≠ []
  empty : r.body = [] → parts = [r]

theorem length_encodeAll (parts : List WireRecord) :
    (encodeAll parts).length
      = 5 * parts.length + (parts.flatMap body).length := by
  induction parts with
  | nil => rfl
  | cons p parts ih =>
      rw [encodeAll_cons, List.length_append, length_encode, ih,
        List.length_cons, List.flatMap_cons, List.length_append]
      omega

/-- A cut costs a header for each record it adds. -/
theorem CutInto.length_encodeAll {n : Nat} {r : WireRecord}
    {parts : List WireRecord} (h : CutInto n r parts) :
    (encodeAll parts).length + 5 = r.encode.length + 5 * parts.length := by
  rw [WireRecord.length_encodeAll, h.bodies, length_encode]
  omega

/-- The same for every record of a sequence. -/
theorem length_cut {n : Nat} {cut : WireRecord → List WireRecord}
    {rs : List WireRecord} (h : ∀ r ∈ rs, CutInto n r (cut r)) :
    (encodeAll (rs.flatMap cut)).length + 5 * rs.length
      = (encodeAll rs).length + 5 * (rs.flatMap cut).length := by
  induction rs with
  | nil => rfl
  | cons r rs ih =>
      have hhead := (h r List.mem_cons_self).length_encodeAll
      have htail := ih fun r' hr' => h r' (List.mem_cons_of_mem r hr')
      simp only [List.flatMap_cons, encodeAll_append, encodeAll_cons,
        List.length_append, List.length_cons]
      omega

end WireRecord

end ZeroDpi
