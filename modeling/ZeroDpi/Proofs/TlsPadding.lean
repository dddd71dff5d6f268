/-
What `tls_padding` makes of a ClientHello.

# The strict parser

`parse_client_hello` takes the records whose lengths are exact at every
level, a `Record`, and reports offsets of its parts. `build_padded` copies
the parts and bumps the three lengths around them, which is the `Record`
with one extension more.

# Two walkers

The other walker stops at the first `server_name` and ignores what is
behind it, this one looks for the last; on a list with one of them they
agree, and the name moves by the extension that was put before it.

# Legality

The extension that is put in has a type that the list may have already,
and it goes to the end unless it goes before a `server_name`. So the list
stays legal exactly when it is not padded already and, with a
`pre_shared_key`, the extension does not go to the end.
-/
import ZeroDpi.Proofs.SniBoundary
import ZeroDpi.Proofs.TlsTemplate
import ZeroDpi.Proofs.Transcript

namespace ZeroDpi.ClientHello

open Lib

-- ================================================== the extension list

/-- The offset of the last `server_name` extension of a list that starts at
`q`, or what was found before. -/
def lastServerName : Nat → Option Nat → List Extension → Option Nat
  | _, found, [] => found
  | q, found, e :: es =>
      lastServerName (q + e.encode.length)
        (if e.type = serverNameType then some q else found) es

/-- Without a server name the last one stays. -/
theorem lastServerName_none {es : List Extension}
    (h : ∀ e ∈ es, e.type ≠ serverNameType) (q : Nat) (found : Option Nat) :
    lastServerName q found es = found := by
  induction es generalizing q with
  | nil => rfl
  | cons e es ih =>
      have he : e.type ≠ serverNameType := h e List.mem_cons_self
      rw [lastServerName, if_neg he]
      exact ih (fun x hx => h x (List.mem_cons_of_mem e hx)) _

/-- Before the last of its type there may be more, behind it there are
none. -/
theorem lastServerName_of_last {x : Extension} (hx : x.type = serverNameType)
    {back : List Extension} (hback : ∀ e ∈ back, e.type ≠ serverNameType)
    (front : List Extension) (q : Nat) (found : Option Nat) :
    lastServerName q found (front ++ x :: back)
      = some (q + (encodeAll front).length) := by
  induction front generalizing q found with
  | nil =>
      rw [List.nil_append, lastServerName, if_pos hx,
        lastServerName_none hback]
      rfl
  | cons e front ih =>
      rw [List.cons_append, lastServerName, ih, encodeAll_cons,
        List.length_append, Nat.add_assoc]

/-- A list has a last extension of a type, or none. -/
theorem last_or_none (type : Nat) (es : List Extension) :
    (∃ front x back, es = front ++ x :: back ∧ x.type = type
        ∧ ∀ e ∈ back, e.type ≠ type)
      ∨ ∀ e ∈ es, e.type ≠ type := by
  induction es with
  | nil => exact .inr (by simp)
  | cons e es ih =>
      rcases ih with ⟨front, x, back, rfl, hx, hback⟩ | hnone
      · exact .inl ⟨e :: front, x, back, rfl, hx, hback⟩
      · by_cases he : e.type = type
        · exact .inl ⟨[], e, es, rfl, he, hnone⟩
        · refine .inr ?_
          intro y hy
          rcases List.mem_cons.mp hy with rfl | hy
          · exact he
          · exact hnone y hy

/-- The scan of the strict parser reads the extensions to the end. -/
theorem scanForSni_encode (es : List Extension) (front : Bytes)
    {fuel q : Nat} (found : Option Nat) (hfuel : es.length < fuel)
    (hq : q = front.length) :
    scanForSni (front ++ encodeAll es) fuel q found
      = some (lastServerName q found es) := by
  subst hq
  induction es generalizing front fuel found with
  | nil =>
      obtain ⟨fuel, rfl⟩ : ∃ k, fuel = k + 1 :=
        ⟨fuel - 1, by simp only [List.length_nil] at hfuel; omega⟩
      rw [encodeAll_nil, List.append_nil, scanForSni,
        if_pos (Nat.le_refl _)]
      rfl
  | cons x es ih =>
      obtain ⟨fuel, rfl⟩ : ∃ k, fuel = k + 1 :=
        ⟨fuel - 1, by simp only [List.length_cons] at hfuel; omega⟩
      obtain ⟨htype, hlen, -⟩ := x.reads front (encodeAll es)
      have hrest := ih (front ++ x.encode)
        (if x.type = serverNameType then some front.length else found)
        (Nat.lt_of_succ_lt_succ hfuel)
      have htotal : (front ++ (x.encode ++ encodeAll es)).length
          = front.length + 4 + x.data.length + (encodeAll es).length := by
        simp only [List.length_append, Extension.length_encode]
        omega
      have hnext : front.length + 4 + x.data.length
          = (front ++ x.encode).length := by
        rw [List.length_append, Extension.length_encode]
        omega
      rw [encodeAll_cons, scanForSni, if_neg (by omega), if_neg (by omega)]
      simp only [htype, hlen]
      rw [if_neg (by omega), lastServerName, ← List.length_append, ← hrest,
        List.append_assoc, hnext]
      rfl

/-- The scan reads a list of extensions. -/
theorem scanForSni_sound {body front tail : Bytes} {fuel q : Nat}
    {found result : Option Nat} (hbody : body = front ++ tail)
    (hq : front.length = q) (h : scanForSni body fuel q found = some result) :
    ∃ es, tail = encodeAll es ∧ result = lastServerName q found es := by
  induction fuel generalizing front tail q found with
  | zero => cases h
  | succ fuel ih =>
      rw [scanForSni] at h
      by_cases hend : body.length ≤ q
      · rw [if_pos hend] at h
        obtain rfl : tail = [] := by
          rw [hbody, List.length_append] at hend
          exact List.length_eq_zero_iff.mp (by omega)
        exact ⟨[], rfl, (Option.some.inj h).symm⟩
      · rw [if_neg hend] at h
        by_cases hhead : body.length < q + 4
        · rw [if_pos hhead] at h
          cases h
        · rw [if_neg hhead] at h
          simp only at h
          by_cases hroom : body.length < q + 4
              + be16 (body.getD (q + 2) 0) (body.getD (q + 3) 0)
          · rw [if_pos hroom] at h
            cases h
          · rw [if_neg hroom] at h
            obtain ⟨extData, hdata⟩ := slice?_of_le (Nat.le_add_right _ _)
              (Nat.le_of_not_lt hroom)
            obtain ⟨x, tail, rfl, hx, rfl⟩ := extension_of_walk hbody hq
              (by omega) hdata
            have hlen := (slice?_length hdata).1
            rw [← List.append_assoc] at hbody
            obtain ⟨es, rfl, hresult⟩ := ih hbody
              (by rw [List.length_append, Extension.length_encode]; omega) h
            refine ⟨x :: es, rfl, ?_⟩
            rw [hresult, lastServerName, hx, Extension.length_encode]
            congr 1
            omega

-- ==================================================== the strict parser

namespace Record

variable (r : Record)

/-- The offsets that the strict parser reports. -/
def layout : ClientHelloLayout where
  extLenOff := 9 + r.fields.encode.length
  extStart := 11 + r.fields.encode.length
  sniOff := (lastServerName (r.fields.encode.length + 2) none
    r.extensions).map (· + 9)

/-- How long the parts are. -/
theorem length_message : r.message.length
    = r.fields.encode.length + 2 + (encodeAll r.extensions).length := by
  rw [RecordParts.message, List.length_append, length_vec]
  omega

theorem length_body : r.body.length = 4 + r.message.length := by
  rw [RecordParts.body, List.length_append, length_vec]
  simp only [List.length_singleton]
  omega

theorem length_encode : r.encode.length = 5 + r.body.length := by
  rw [RecordParts.encode, List.length_append, List.length_append, length_vec,
    r.recordVersion_length]
  simp only [List.length_singleton]
  omega

/-- The nine bytes of the two headers, and the message. -/
theorem encode_eq : ∃ v0 v1 l0 l1 a b c, r.recordVersion = [v0, v1]
    ∧ r.encode = 0x16 :: v0 :: v1 :: l0 :: l1 :: 0x01 :: a :: b :: c
      :: r.message
    ∧ be16 l0 l1 = r.body.length ∧ be24 a b c = r.message.length := by
  have hlen := r.length_body
  have hlt := r.body_lt
  obtain ⟨v0, v1, hversion⟩ := eq_pair_of_length r.recordVersion_length
  obtain ⟨l0, l1, hl⟩ := eq_pair_of_length (length_beBytes 2 r.body.length)
  obtain ⟨a, b, c, habc⟩ :=
    eq_triple_of_length (length_beBytes 3 r.message.length)
  refine ⟨v0, v1, l0, l1, a, b, c, hversion, ?_, ?_, ?_⟩
  · rw [RecordParts.encode, hversion, vec, hl, RecordParts.body, vec, habc]
    rfl
  · rw [← beNat_pair, ← hl]
    exact beNat_beBytes hlt
  · rw [← beNat_triple, ← habc]
    exact beNat_beBytes (show r.message.length < 16777216 by omega)

end Record

/-- The length fields in front of the extension block, as the strict parser
reads them. -/
theorem Fields.reads_getD (fields : Fields) (tail : Bytes) :
    ((fields.encode ++ tail).getD 34 0).toNat = fields.sessionId.length
    ∧ be16 ((fields.encode ++ tail).getD (35 + fields.sessionId.length) 0)
        ((fields.encode ++ tail).getD (35 + fields.sessionId.length + 1) 0)
      = fields.cipherSuites.length
    ∧ ((fields.encode ++ tail).getD (35 + fields.sessionId.length
        + (2 + fields.cipherSuites.length)) 0).toNat
      = fields.compressionMethods.length := by
  obtain ⟨hsid, hcs, hcm⟩ := fields.reads tail
  refine ⟨?_, be16_of_slice hcs fields.cipherSuites_lt, ?_⟩
  · rw [List.getD_eq_getElem?_getD, hsid]
    exact toNat_toUInt8 fields.sessionId_lt
  · rw [List.getD_eq_getElem?_getD, hcm]
    exact toNat_toUInt8 fields.compressionMethods_lt

/-- A record is parsed to its layout. -/
theorem parseClientHello_encode (r : Record) :
    parseClientHello r.encode = some r.layout := by
  have hlenMessage := r.length_message
  have hlenBody := r.length_body
  have hlenFields := r.fields.length_encode
  have hlt := r.body_lt
  obtain ⟨v0, v1, l0, l1, a, b, c, -, hencode, hbody, hmessage⟩ := r.encode_eq
  have hlen : r.encode.length = 5 + r.body.length := r.length_encode
  have hdrop : r.encode.drop 9 = r.message := by
    rw [hencode]
    rfl
  obtain ⟨hsid, hcs, hcm⟩ := r.fields.reads_getD (vec 2 (encodeAll r.extensions))
  have hshape : r.fields.encode ++ vec 2 (encodeAll r.extensions)
      = r.message := rfl
  rw [hshape] at hsid hcs hcm
  have hcm' : (r.message.getD (34 + 1 + r.fields.sessionId.length + 2
      + r.fields.cipherSuites.length) 0).toNat
        = r.fields.compressionMethods.length := by
    rw [← hcm]
    congr 2
    omega
  unfold parseClientHello
  rw [hdrop, hlen, hencode]
  simp only [List.getD_cons_zero, List.getD_cons_succ, hbody, hmessage, hsid,
    hcs, hcm']
  rw [if_neg (not_or.mpr ⟨by omega, not_not_intro rfl⟩),
    if_neg (not_not_intro rfl), if_neg (not_not_intro rfl),
    if_neg (by omega), if_neg (by omega), if_neg (by omega),
    if_neg (by omega), if_neg (by omega), if_neg (by omega),
    if_neg (by omega), if_neg (by omega)]
  have hoff : 34 + 1 + r.fields.sessionId.length + 2
      + r.fields.cipherSuites.length + 1
      + r.fields.compressionMethods.length = r.fields.encode.length := by
    omega
  have hext : be16 (r.message.getD r.fields.encode.length 0)
      (r.message.getD (r.fields.encode.length + 1) 0)
        = (encodeAll r.extensions).length := by
    have hfield := @slice?_field 2 r.fields.encode (encodeAll r.extensions) []
      r.fields.encode.length _ rfl rfl
    rw [List.append_nil, hshape] at hfield
    exact be16_of_slice hfield (by omega)
  have hscan : scanForSni r.message (r.message.length + 1)
      (r.fields.encode.length + 2) none
        = some (lastServerName (r.fields.encode.length + 2) none
          r.extensions) := by
    have hes := length_le_encodeAll r.extensions
    rw [← hshape, vec, ← List.append_assoc]
    refine scanForSni_encode _ _ _ ?_ ?_
    · simp only [List.length_append, length_beBytes]
      omega
    · rw [List.length_append, length_beBytes]
  simp only [hoff, hext, hscan]
  rw [if_neg (by omega), if_neg (not_not_intro hlenMessage.symm)]
  refine congrArg some ?_
  unfold Record.layout
  congr 1
  omega

theorem getElem?_eq_getD {l : Bytes} {i : Nat} (h : i < l.length) :
    l[i]? = some (l.getD i 0) := by
  rw [List.getD_eq_getElem?_getD, List.getElem?_eq_getElem h]
  rfl

/-- The nine bytes of the two headers. -/
theorem headers_of_length {record : Bytes} (h : 9 ≤ record.length) :
    ∃ ty v0 v1 l0 l1 x a b c message,
      record = ty :: v0 :: v1 :: l0 :: l1 :: x :: a :: b :: c :: message := by
  rcases record with _ | ⟨ty, _ | ⟨v0, _ | ⟨v1, _ | ⟨l0, _ | ⟨l1, _ | ⟨x,
    _ | ⟨a, _ | ⟨b, _ | ⟨c, message⟩⟩⟩⟩⟩⟩⟩⟩⟩
  iterate 9 exact absurd h (by simp)
  exact ⟨ty, v0, v1, l0, l1, x, a, b, c, message, rfl⟩

/-- Whatever is parsed is a record. -/
theorem parseClientHello_sound {record : Bytes} {layout : ClientHelloLayout}
    (h : parseClientHello record = some layout) :
    ∃ r : Record, record = r.encode := by
  obtain ⟨hlen, htype⟩ := parseClientHello_head h
  unfold parseClientHello at h
  extract_lets byteAt recordLen hsLen message p0 sidLen p1 p2 cipherLen p3 p4
    compLen p5 p6 extLen p7 at h
  obtain ⟨-, h⟩ := pass_check h
  obtain ⟨hwhole, h⟩ := pass_check h
  obtain ⟨hhello, h⟩ := pass_check h
  obtain ⟨hmessage, h⟩ := pass_check h
  obtain ⟨-, h⟩ := pass_check h
  obtain ⟨hsid, h⟩ := pass_check h
  obtain ⟨-, h⟩ := pass_check h
  obtain ⟨hcs, h⟩ := pass_check h
  obtain ⟨-, h⟩ := pass_check h
  obtain ⟨hcm, h⟩ := pass_check h
  obtain ⟨hcmRoom, h⟩ := pass_check h
  obtain ⟨hext, h⟩ := pass_check h
  obtain ⟨hend, h⟩ := pass_check h
  obtain ⟨sniOff, hscan, -⟩ := Option.bind_eq_some_iff.mp h
  -- the fields, the block, and the extensions of the block
  have hp4 : 35 + sidLen + (2 + cipherLen) = p4 := by omega
  have hcmAt : message[35 + sidLen + (2 + cipherLen)]?
      = some (message.getD p4 0) := by
    rw [hp4]
    exact getElem?_eq_getD (by omega)
  obtain ⟨fields, tail, hfields, hoff⟩ := fields_of_walk
    (getElem?_eq_getD (show 34 < message.length by omega))
    (slice?_pair (show 35 + sidLen + 2 ≤ message.length by omega)) hcmAt
    (show 35 + sidLen + (2 + cipherLen) + (1 + compLen) ≤ message.length
      by omega)
  have hoff : fields.encode.length = p6 := by
    rw [hoff]
    show 35 + sidLen + (2 + cipherLen) + (1 + compLen) = p6
    omega
  obtain ⟨block, hblock⟩ := @slice?_of_le _ message (p6 + 2)
    (p6 + 2 + extLen) (by omega) (by omega)
  obtain ⟨back, rfl, hblockLen, -⟩ := content_of_walk hfields hoff
    (slice?_pair (by omega)) hblock
  have hblockLen : block.length = extLen := hblockLen
  obtain rfl : back = [] := by
    have := congrArg List.length hfields
    simp only [List.length_append, length_vec] at this
    exact List.length_eq_zero_iff.mp (by omega)
  rw [List.append_nil] at hfields
  obtain ⟨es, rfl, -⟩ := scanForSni_sound
    (show message = (fields.encode ++ beBytes 2 block.length) ++ block by
      rw [hfields, vec, List.append_assoc])
    (show _ = p7 by rw [List.length_append, length_beBytes, hoff]) hscan
  -- the headers around them
  obtain ⟨ty, v0, v1, l0, l1, x, a, b, c, rest, rfl⟩ :=
    headers_of_length hlen
  obtain rfl : ty = 0x16 := htype
  obtain rfl : x = 0x01 := Decidable.not_not.mp hhello
  have hwhole := Decidable.not_not.mp hwhole
  have hmessage := Decidable.not_not.mp hmessage
  have hrest : message.length = rest.length := rfl
  have hhsLen : hsLen = be24 a b c := rfl
  have hrecordLen : recordLen = be16 l0 l1 := rfl
  have hlt := be16_lt l0 l1
  simp only [List.length_cons] at hwhole
  have hvec3 : vec 3 message = [a, b, c] ++ message :=
    vec_eq rfl (by rw [beNat_triple]; omega)
  have hlen2 : ([0x01] ++ vec 3 message).length = be16 l0 l1 := by
    rw [List.length_append, length_vec, List.length_singleton]
    omega
  have hvec2 : vec 2 ([0x01] ++ vec 3 message)
      = [l0, l1] ++ ([0x01] ++ vec 3 message) :=
    vec_eq rfl (by rw [beNat_pair]; exact hlen2)
  have hbody : [0x01] ++ vec 3 (fields.encode ++ vec 2 (encodeAll es))
      = [0x01] ++ vec 3 message := by rw [hfields]
  refine ⟨⟨⟨[v0, v1], fields, es, rfl⟩, ?_⟩, ?_⟩
  · show ([0x01] ++ vec 3 (fields.encode ++ vec 2 (encodeAll es))).length < _
    rw [hbody, hlen2]
    exact hlt
  · show _ = [0x16] ++ ([v0, v1] ++ vec 2 ([0x01]
      ++ vec 3 (fields.encode ++ vec 2 (encodeAll es))))
    rw [hbody, hvec2, hvec3]
    rfl

/-- The strict parser takes the records that are one ClientHello. -/
theorem parseClientHello_iff (record : Bytes) (layout : ClientHelloLayout) :
    parseClientHello record = some layout
      ↔ ∃ r : Record, record = r.encode ∧ layout = r.layout := by
  constructor
  · intro h
    obtain ⟨r, rfl⟩ := parseClientHello_sound h
    rw [parseClientHello_encode] at h
    exact ⟨r, rfl, (Option.some.inj h).symm⟩
  · rintro ⟨r, rfl, rfl⟩
    exact parseClientHello_encode r

-- ===================================================== the padded record

/-- Three bytes, in both spellings. -/
theorem beBytes_three (n : Nat) : beBytes 3 n = toBe24 n := by
  simp [beBytes, toBe24]

/-- The padding extension in bytes. -/
theorem padding_encode (k : Nat) (hk : k < 65536) :
    (padding k hk).encode
      = [0x00, 0x15] ++ (toBe16 k ++ List.replicate k 0) := by
  have htype : beBytes 2 paddingType = [0x00, 0x15] := by decide
  rw [Extension.encode, vec, ← beBytes_two]
  show beBytes 2 paddingType ++ (beBytes 2 (List.replicate k 0).length
    ++ List.replicate k 0) = _
  rw [List.length_replicate, htype]

/-- Its length. -/
theorem length_padding (k : Nat) (hk : k < 65536) :
    (padding k hk).encode.length = 4 + k := by
  rw [Extension.length_encode]
  exact congrArg (4 + ·) List.length_replicate

namespace Record

variable (r : Record)

/-- The record with one extension more. -/
def insert {front back : List Extension} (hes : r.extensions = front ++ back)
    (x : Extension) (hfits : r.body.length + x.encode.length < 65536) :
    Record where
  recordVersion := r.recordVersion
  fields := r.fields
  extensions := front ++ x :: back
  recordVersion_length := r.recordVersion_length
  body_lt := by
    have hbody := r.length_body
    have hmessage := r.length_message
    rw [hes] at hmessage
    simp only [RecordParts.body, RecordParts.message, List.length_append,
      length_vec, encodeAll_append, encodeAll_cons,
      List.length_singleton] at *
    omega

/-- Where the extension goes. -/
def insertAt (position : PaddingPosition) : Nat :=
  match position, r.layout.sniOff with
  | .before, some sniOff => sniOff
  | _, _ => r.encode.length

/-- What is built, piece by piece. -/
theorem buildPadded_eq (k : Nat) (position : PaddingPosition) :
    buildPadded r.encode r.layout k position
      = r.encode.take 3 ++ toBe16 (r.encode.length - 5 + (4 + k))
        ++ (r.encode.take 6).drop 5
        ++ toBe24 (be24 (r.encode.getD 6 0) (r.encode.getD 7 0)
          (r.encode.getD 8 0) + (4 + k))
        ++ (r.encode.take r.layout.extLenOff).drop 9
        ++ toBe16 (be16 (r.encode.getD r.layout.extLenOff 0)
          (r.encode.getD (r.layout.extLenOff + 1) 0) + (4 + k))
        ++ (r.encode.take (r.insertAt position)).drop r.layout.extStart
        ++ [0x00, 0x15] ++ toBe16 k ++ List.replicate k 0
        ++ r.encode.drop (r.insertAt position) := rfl

variable {r}
variable {front back : List Extension} (hes : r.extensions = front ++ back)

include hes in
/-- The record with its parts next to one another. -/
theorem encode_flat : r.encode = [0x16] ++ (r.recordVersion
    ++ (beBytes 2 r.body.length ++ ([0x01] ++ (beBytes 3 r.message.length
      ++ (r.fields.encode ++ (beBytes 2 (encodeAll r.extensions).length
        ++ (encodeAll front ++ encodeAll back))))))) := by
  have hblock : encodeAll front ++ encodeAll back
      = encodeAll r.extensions := by
    rw [hes, encodeAll_append]
  rw [hblock]
  simp only [RecordParts.encode, RecordParts.body, RecordParts.message, vec]

/-- A part of the record at its offset. -/
theorem slice?_part (before part behind : Bytes) {lo hi : Nat}
    (hsplit : r.encode = before ++ (part ++ behind))
    (hlo : before.length = lo) (hhi : lo + part.length = hi) :
    slice? r.encode lo hi = some part := by
  rw [hsplit]
  exact slice?_append _ _ _ hlo.symm (by omega)

include hes in
/-- The pieces that the padded record is copied from. -/
theorem pieces : r.encode.take 3 = [0x16] ++ r.recordVersion
    ∧ (r.encode.take 6).drop 5 = [0x01]
    ∧ (r.encode.take (9 + r.fields.encode.length)).drop 9 = r.fields.encode
    ∧ (r.encode.take (11 + r.fields.encode.length
        + (encodeAll front).length)).drop (11 + r.fields.encode.length)
      = encodeAll front
    ∧ r.encode.drop (11 + r.fields.encode.length + (encodeAll front).length)
      = encodeAll back
    ∧ be16 (r.encode.getD (9 + r.fields.encode.length) 0)
        (r.encode.getD (9 + r.fields.encode.length + 1) 0)
      = (encodeAll r.extensions).length := by
  have hversion := r.recordVersion_length
  have hlt := r.body_lt
  have hbody := r.length_body
  have hmessage := r.length_message
  have hflat := encode_flat hes
  have h3 := r.slice?_part [] ([0x16] ++ r.recordVersion) _
    (by rw [hflat, List.nil_append, List.append_assoc]) rfl
    (show 0 + _ = 3 by rw [List.length_append, hversion]; rfl)
  have h6 := r.slice?_part ([0x16] ++ (r.recordVersion
      ++ beBytes 2 r.body.length)) [0x01] _
    (by rw [hflat]; simp only [List.append_assoc]; rfl)
    (show _ = 5 by
      simp only [List.length_append, hversion, length_beBytes]
      rfl) (show _ = 6 from rfl)
  have hfields := r.slice?_part ([0x16] ++ (r.recordVersion
      ++ (beBytes 2 r.body.length ++ ([0x01]
        ++ beBytes 3 r.message.length)))) r.fields.encode _
    (by rw [hflat]; simp only [List.append_assoc]; rfl)
    (show _ = 9 by
      simp only [List.length_append, hversion, length_beBytes]
      rfl) rfl
  have hlen := r.slice?_part ([0x16] ++ (r.recordVersion
      ++ (beBytes 2 r.body.length ++ ([0x01]
        ++ (beBytes 3 r.message.length ++ r.fields.encode)))))
    (beBytes 2 (encodeAll r.extensions).length) _
    (by rw [hflat]; simp only [List.append_assoc]; rfl)
    (show _ = 9 + r.fields.encode.length by
      simp only [List.length_append, hversion, length_beBytes,
        List.length_singleton]
      omega) (by rw [length_beBytes])
  have hfront := r.slice?_part ([0x16] ++ (r.recordVersion
      ++ (beBytes 2 r.body.length ++ ([0x01] ++ (beBytes 3 r.message.length
        ++ (r.fields.encode ++ beBytes 2 (encodeAll r.extensions).length))))))
    (encodeAll front) _
    (by rw [hflat]; simp only [List.append_assoc]; rfl)
    (show _ = 11 + r.fields.encode.length by
      simp only [List.length_append, hversion, length_beBytes,
        List.length_singleton]
      omega) rfl
  refine ⟨take_drop_of_slice h3, take_drop_of_slice h6,
    take_drop_of_slice hfields, take_drop_of_slice hfront, ?_,
    be16_of_slice hlen (by omega)⟩
  have hcut : r.encode = ([0x16] ++ (r.recordVersion
      ++ (beBytes 2 r.body.length ++ ([0x01] ++ (beBytes 3 r.message.length
        ++ (r.fields.encode ++ (beBytes 2 (encodeAll r.extensions).length
          ++ encodeAll front))))))) ++ encodeAll back := by
    rw [hflat]
    simp only [List.append_assoc]
  rw [hcut]
  refine List.drop_left' ?_
  simp only [List.length_append, hversion, length_beBytes,
    List.length_singleton]
  omega

include hes in
/-- What is put in at an offset between two extensions is one extension. -/
theorem buildPadded_encode {k : Nat} (hk : k < 65536)
    (hfits : r.body.length + (padding k hk).encode.length < 65536)
    (position : PaddingPosition) (hat : r.insertAt position
      = 11 + r.fields.encode.length + (encodeAll front).length) :
    buildPadded r.encode r.layout k position
      = (r.insert hes (padding k hk) hfits).encode := by
  obtain ⟨h3, h6, hfields, hfront, hback, hext⟩ := pieces hes
  obtain ⟨v0, v1, l0, l1, a, b, c, -, hencode, -, hmsg⟩ := r.encode_eq
  have hlen := r.length_encode
  have hhsLen : be24 (r.encode.getD 6 0) (r.encode.getD 7 0)
      (r.encode.getD 8 0) = r.message.length := by
    rw [hencode]
    exact hmsg
  rw [buildPadded_eq, hat, h3, h6, hhsLen]
  show _ ++ (r.encode.take (9 + r.fields.encode.length)).drop 9
    ++ toBe16 (be16 (r.encode.getD (9 + r.fields.encode.length) 0)
      (r.encode.getD (9 + r.fields.encode.length + 1) 0) + (4 + k))
    ++ (r.encode.take (11 + r.fields.encode.length
      + (encodeAll front).length)).drop (11 + r.fields.encode.length)
    ++ _ ++ _ ++ _ ++ _ = _
  rw [hfields, hext, hfront, hback]
  have hnew := encode_flat
    (show (r.insert hes (padding k hk) hfits).extensions
      = front ++ padding k hk :: back from rfl)
  have hpad := length_padding k hk
  have hlenExts : (encodeAll (r.insert hes (padding k hk) hfits).extensions).length
      = (encodeAll r.extensions).length + (4 + k) := by
    rw [hes, ← hpad]
    simp only [insert, encodeAll_append, encodeAll_cons, List.length_append]
    omega
  have hlenMessage : (r.insert hes (padding k hk) hfits).message.length
      = r.message.length + (4 + k) := by
    rw [length_message, length_message, hlenExts]
    exact (Nat.add_assoc _ _ _).symm
  have hlenBody : (r.insert hes (padding k hk) hfits).body.length
      = r.encode.length - 5 + (4 + k) := by
    rw [length_body, hlenMessage, hlen, length_body]
    omega
  rw [hnew, hlenExts, hlenMessage, hlenBody, encodeAll_cons, padding_encode,
    beBytes_two, beBytes_two, beBytes_three]
  simp only [insert, List.append_assoc]

end Record

-- ======================================================== where it goes

/-- The insertion point is between two extensions, and it is the one the
position asks for. -/
theorem Record.exists_insertion (r : Record) (position : PaddingPosition) :
    ∃ front back, r.extensions = front ++ back
      ∧ r.insertAt position
        = 11 + r.fields.encode.length + (encodeAll front).length
      ∧ ∀ x, Inserted (position = .before) x r.extensions
          (front ++ x :: back) := by
  have hend : r.encode.length
      = 11 + r.fields.encode.length + (encodeAll r.extensions).length := by
    rw [r.length_encode, r.length_body, r.length_message]
    omega
  cases position with
  | after =>
      refine ⟨r.extensions, [], (List.append_nil _).symm, hend, fun x => ?_⟩
      refine .atEnd _ ?_
      intro hbefore
      cases hbefore
  | before =>
      rcases last_or_none serverNameType r.extensions with
        ⟨front, name, back, hes, hname, hback⟩ | hnone
      · refine ⟨front, name :: back, hes, ?_, ?_⟩
        · unfold insertAt layout
          rw [hes, lastServerName_of_last hname hback]
          show r.fields.encode.length + 2 + _ + 9 = _
          omega
        · intro x
          rw [hes]
          exact .before front name back rfl hname hback
      · refine ⟨r.extensions, [], (List.append_nil _).symm, ?_,
          fun x => .atEnd _ fun _ => hnone⟩
        unfold insertAt layout
        rw [lastServerName_none hnone]
        exact hend

-- ========================================================= the two walkers

/-- The lenient walker on a strict record: it goes to the first
`server_name`. -/
theorem findSniBoundary_first (r : Record) {front back : List Extension}
    {name : Extension} (hes : r.extensions = front ++ name :: back)
    (hfront : ∀ e ∈ front, e.type ≠ serverNameType)
    (hname : name.type = serverNameType) :
    findSniBoundary r.encode = .ok (serverName name.data
      (11 + r.fields.encode.length + (encodeAll front).length)) := by
  have hlt := r.body_lt
  have hbody := r.length_body
  have hmessage := r.length_message
  have hrecord : HandshakeRecord r.encode r.recordVersion r.body [] := by
    refine ⟨?_, r.recordVersion_length, r.body_lt⟩
    rw [RecordParts.encode, List.append_nil]
  have hhead : r.body.head? = some 0x01 := rfl
  have hslice := message_of_body r.message []
    (show r.message.length < 16777216 by omega)
    (show r.body = [0x01] ++ (vec 3 r.message ++ []) by
      rw [RecordParts.body, List.append_nil])
  have hwalk := sniInHello_encode r.fields
    (show (encodeAll r.extensions).length < 65536 by omega) []
  rw [List.append_nil] at hwalk
  have hscan := scanExtensions_encode front hfront name hname []
    (encodeAll back) (11 + r.fields.encode.length)
    (show front.length < (encodeAll r.extensions).length + 1 by
      have := length_le_encodeAll r.extensions
      rw [hes, List.length_append] at this
      rw [hes]
      omega) rfl
  have hblock : encodeAll front ++ (name.encode ++ encodeAll back)
      = encodeAll r.extensions := by
    rw [hes, encodeAll_append, encodeAll_cons]
  rw [List.nil_append, hblock, List.length_nil, Nat.add_zero] at hscan
  rw [hrecord.walk, if_neg (not_not_intro hhead), if_neg (by omega), hslice,
    Option.bind_some, RecordParts.message, hwalk, hscan]
  rfl

/-- The host name of an extension at its offset in the record. -/
theorem slice?_hostName (r : Record) {front back : List Extension}
    {name : Extension} (hes : r.extensions = front ++ name :: back)
    {names : ServerNames} (hdata : name.data = names.encode) :
    slice? r.encode (11 + r.fields.encode.length + (encodeAll front).length + 9)
        (11 + r.fields.encode.length + (encodeAll front).length + 9
          + names.hostName.length)
      = some names.hostName := by
  have hversion := r.recordVersion_length
  refine r.slice?_part ([0x16] ++ (r.recordVersion
      ++ (beBytes 2 r.body.length ++ ([0x01] ++ (beBytes 3 r.message.length
        ++ (r.fields.encode ++ (beBytes 2 (encodeAll r.extensions).length
          ++ (encodeAll front ++ (beBytes 2 name.type
            ++ (beBytes 2 names.encode.length
              ++ (beBytes 2 names.list.length ++ ([0x00]
                ++ beBytes 2 names.hostName.length))))))))))))
    names.hostName (names.moreNames ++ (names.behindList
      ++ encodeAll back)) ?_ ?_ rfl
  · rw [Record.encode_flat hes, encodeAll_cons, Extension.encode, hdata]
    simp only [ServerNames.encode, ServerNames.list, vec, List.append_assoc]
  · simp only [List.length_append, hversion, length_beBytes,
      List.length_singleton]
    omega

/-- The boundary of a name that moved by `n` bytes. -/
def shift (n : Nat) (b : SniBoundary) : SniBoundary where
  extLenFieldEnd := b.extLenFieldEnd + n
  nameStart := b.nameStart + n
  nameLen := b.nameLen

/-- A walk that finds a name in one record finds the same in another that
has the extension elsewhere. -/
theorem findSniBoundary_moved {r r' : Record} {front back front' back' :
    List Extension} {name : Extension}
    (hes : r.extensions = front ++ name :: back)
    (hes' : r'.extensions = front' ++ name :: back')
    (hfront : ∀ e ∈ front, e.type ≠ serverNameType)
    (hfront' : ∀ e ∈ front', e.type ≠ serverNameType)
    (hname : name.type = serverNameType) {n : Nat}
    (hfields : r'.fields = r.fields)
    (hmoved : (encodeAll front').length = (encodeAll front).length + n)
    {b : SniBoundary} (hb : findSniBoundary r.encode = .ok (some b)) :
    findSniBoundary r'.encode = .ok (some (shift n b))
      ∧ slice? r'.encode (shift n b).nameStart
          ((shift n b).nameStart + (shift n b).nameLen)
        = slice? r.encode b.nameStart (b.nameStart + b.nameLen) := by
  rw [findSniBoundary_first r hes hfront hname] at hb
  obtain ⟨names, hdata, rfl⟩ := serverName_sound (Except.ok.inj hb)
  have hlist : names.list.length < 65536 := by
    have := name.data_lt
    rw [hdata, ServerNames.encode, List.length_append, length_vec] at this
    omega
  have hold := slice?_hostName r hes hdata
  have hnew := slice?_hostName r' hes' hdata
  rw [hfields, hmoved] at hnew
  have hat : 11 + r.fields.encode.length + ((encodeAll front).length + n) + 9
      = 11 + r.fields.encode.length + (encodeAll front).length + 9 + n := by
    omega
  rw [hat] at hnew
  refine ⟨?_, hnew.trans hold.symm⟩
  rw [findSniBoundary_first r' hes' hfront' hname, hdata,
    serverName_encode names _ hlist, hfields, hmoved]
  simp only [shift, hat]
  congr 3
  omega

/-- A list in which a type occurs once, around it. -/
theorem split_of_count {es : List Extension} {type : Nat}
    (h : (es.map Extension.type).count type = 1) :
    ∃ front name back, es = front ++ name :: back ∧ name.type = type
      ∧ (∀ e ∈ front, e.type ≠ type) ∧ ∀ e ∈ back, e.type ≠ type := by
  rcases last_or_none type es with ⟨front, name, back, rfl, hname, hback⟩ | hnone
  · refine ⟨front, name, back, rfl, hname, ?_, hback⟩
    rw [List.map_append, List.map_cons, List.count_append, hname,
      List.count_cons_self] at h
    intro e he htype
    have hpos : 0 < (front.map Extension.type).count type :=
      List.count_pos_iff.mpr (List.mem_map.mpr ⟨e, he, htype⟩)
    omega
  · have hzero : (es.map Extension.type).count type = 0 := by
      refine List.count_eq_zero.mpr ?_
      intro hmem
      obtain ⟨e, he, htype⟩ := List.mem_map.mp hmem
      exact hnone e he htype
    omega

-- ==================================================== reading it one way

/-- An extension can be read off its bytes. -/
theorem Extension.encode_append_inj {x y : Extension} {rest rest' : Bytes}
    (h : x.encode ++ rest = y.encode ++ rest') : x = y ∧ rest = rest' := by
  obtain ⟨type, data, htype, hdata⟩ := x
  obtain ⟨type', data', htype', hdata'⟩ := y
  simp only [Extension.encode, List.append_assoc] at h
  obtain ⟨hfield, hvec⟩ := List.append_inj h (by simp only [length_beBytes])
  obtain ⟨rfl, hrest⟩ := vec_append_inj hvec hdata hdata'
  obtain rfl : type = type' := by
    have hread := congrArg beNat hfield
    rw [beNat_beBytes htype, beNat_beBytes htype'] at hread
    exact hread
  exact ⟨rfl, hrest⟩

/-- So can a list of them. -/
theorem encodeAll_inj {es es' : List Extension}
    (h : encodeAll es = encodeAll es') : es = es' := by
  induction es generalizing es' with
  | nil =>
      cases es' with
      | nil => rfl
      | cons y es' =>
          have hlen := congrArg List.length h
          rw [encodeAll_cons, List.length_append,
            Extension.length_encode] at hlen
          simp only [encodeAll_nil, List.length_nil] at hlen
          omega
  | cons x es ih =>
      cases es' with
      | nil =>
          have hlen := congrArg List.length h
          rw [encodeAll_cons, List.length_append,
            Extension.length_encode] at hlen
          simp only [encodeAll_nil, List.length_nil] at hlen
          omega
      | cons y es' =>
          rw [encodeAll_cons, encodeAll_cons] at h
          obtain ⟨rfl, hrest⟩ := Extension.encode_append_inj h
          rw [ih hrest]

/-- And the fields in front. -/
theorem Fields.encode_append_inj {f g : Fields} {rest rest' : Bytes}
    (h : f.encode ++ rest = g.encode ++ rest') : f = g ∧ rest = rest' := by
  obtain ⟨version, random, sid, cs, cm, hversion, hrandom, hsid, hcs, hcm⟩ := f
  obtain ⟨version', random', sid', cs', cm', hversion', hrandom', hsid', hcs',
    hcm'⟩ := g
  simp only [Fields.encode, List.append_assoc] at h
  obtain ⟨rfl, hafter⟩ := List.append_inj h (hversion.trans hversion'.symm)
  obtain ⟨rfl, htail⟩ := List.append_inj hafter
    (hrandom.trans hrandom'.symm)
  obtain ⟨rfl, hsuites⟩ := vec_append_inj htail hsid hsid'
  obtain ⟨rfl, hmethods⟩ := vec_append_inj hsuites hcs hcs'
  obtain ⟨rfl, hrest⟩ := vec_append_inj hmethods hcm hcm'
  exact ⟨rfl, hrest⟩

/-- The bytes of a record have one reading. -/
theorem Record.encode_inj {r r' : Record} (h : r.encode = r'.encode) :
    r.recordVersion = r'.recordVersion ∧ r.fields = r'.fields
      ∧ r.extensions = r'.extensions := by
  have hlt := r.body_lt
  have hlt' := r'.body_lt
  have hbody := r.length_body
  have hbody' := r'.length_body
  have hmessage := r.length_message
  have hmessage' := r'.length_message
  have hflat : r.recordVersion ++ (vec 2 r.body ++ [])
      = r'.recordVersion ++ (vec 2 r'.body ++ []) := by
    rw [List.append_nil, List.append_nil]
    exact (List.append_inj h rfl).2
  obtain ⟨hversion, hvec⟩ := List.append_inj hflat
    (r.recordVersion_length.trans r'.recordVersion_length.symm)
  obtain ⟨hbodies, -⟩ := vec_append_inj hvec hlt hlt'
  have hvec3 : vec 3 r.message ++ [] = vec 3 r'.message ++ [] := by
    rw [List.append_nil, List.append_nil]
    exact (List.append_inj hbodies rfl).2
  obtain ⟨hmessages, -⟩ := vec_append_inj hvec3
    (show r.message.length < 16777216 by omega)
    (show r'.message.length < 16777216 by omega)
  obtain ⟨hfields, hblock⟩ := Fields.encode_append_inj hmessages
  have hblock : vec 2 (encodeAll r.extensions) ++ []
      = vec 2 (encodeAll r'.extensions) ++ [] := by
    rw [List.append_nil, List.append_nil]
    exact hblock
  obtain ⟨hes, -⟩ := vec_append_inj hblock
    (show (encodeAll r.extensions).length < 65536 by omega)
    (show (encodeAll r'.extensions).length < 65536 by omega)
  exact ⟨hversion, hfields, encodeAll_inj hes⟩

-- ============================================================== legality

/-- One type more, anywhere in a list of different types. -/
theorem nodup_insert_iff {x : Extension} {front back : List Extension}
    (h : ((front ++ back).map Extension.type).Nodup) :
    ((front ++ x :: back).map Extension.type).Nodup
      ↔ x.type ∉ (front ++ back).map Extension.type := by
  have hperm : ((front ++ x :: back).map Extension.type).Perm
      (x.type :: (front ++ back).map Extension.type) :=
    List.perm_middle.map Extension.type
  rw [hperm.nodup_iff, List.nodup_cons]
  exact and_iff_left h

/-- Putting a padding extension in keeps a list legal exactly when there is
none yet and it does not go behind a `pre_shared_key`. -/
theorem Inserted.legal_iff {beforeName : Prop} {x : Extension}
    {es es' : List Extension} (h : Inserted beforeName x es es')
    (hx : x.type = paddingType) (hlegal : Legal es) :
    Legal es' ↔ paddingType ∉ es.map Extension.type
      ∧ (preSharedKeyType ∉ es.map Extension.type
        ∨ (beforeName ∧ serverNameType ∈ es.map Extension.type)) := by
  have hpsk : x.type ≠ preSharedKeyType := by
    rw [hx]
    decide
  cases h with
  | before front name back hbefore hname hback =>
      have hnodup := nodup_insert_iff (x := x) hlegal.nodup
      rw [hx] at hnodup
      have hlast : (front ++ x :: name :: back).getLast?
          = (front ++ name :: back).getLast? := by
        simp only [List.getLast?_append, List.getLast?_cons, Option.getD_some]
      constructor
      · intro hnew
        refine ⟨hnodup.mp hnew.nodup, .inr ⟨hbefore, ?_⟩⟩
        rw [← hname]
        exact List.mem_map.mpr ⟨name, by simp, rfl⟩
      · rintro ⟨hfree, -⟩
        refine ⟨hnodup.mpr hfree, ?_⟩
        intro e he htype
        rw [hlast]
        refine hlegal.pskLast e ?_ htype
        rcases List.mem_append.mp he with he | he
        · exact List.mem_append_left _ he
        · rcases List.mem_cons.mp he with rfl | he
          · exact absurd htype hpsk
          · exact List.mem_append_right _ he
  | atEnd _ hend =>
      have hnodup : ((es ++ [x]).map Extension.type).Nodup
          ↔ paddingType ∉ es.map Extension.type := by
        have hinsert := @nodup_insert_iff x es []
          (by rw [List.append_nil]; exact hlegal.nodup)
        rw [hx, List.append_nil] at hinsert
        exact hinsert
      constructor
      · intro hnew
        refine ⟨hnodup.mp hnew.nodup, .inl ?_⟩
        intro hmem
        obtain ⟨e, he, htype⟩ := List.mem_map.mp hmem
        have hlast := hnew.pskLast e (List.mem_append_left _ he) htype
        rw [List.getLast?_concat] at hlast
        obtain rfl := Option.some.inj hlast
        exact hpsk htype
      · rintro ⟨hfree, hplace⟩
        refine ⟨hnodup.mpr hfree, ?_⟩
        intro e he htype
        exfalso
        rcases List.mem_append.mp he with he | he
        · rcases hplace with hnone | ⟨hbefore, hname⟩
          · exact hnone (List.mem_map.mpr ⟨e, he, htype⟩)
          · obtain ⟨name, hmem, hname⟩ := List.mem_map.mp hname
            exact hend hbefore name hmem hname
        · rw [List.mem_singleton.mp he] at htype
          exact hpsk htype

-- ================================================== what `apply` returns

/-- The pad length of a record: the sample, clamped to the room below the
record limit. -/
def padLenFor (t : TlsPadding) (rng : UInt64) (r : Record) : Nat :=
  min (sampleI32 t.size rng).1.toInt.toNat
    (maxTlsRecordBody - (r.body.length + 4))

/-- What becomes of a record. -/
theorem apply_record (t : TlsPadding) (rng : UInt64) (r : Record) :
    t.apply rng r.encode
      = if padLenFor t rng r = 0 then none
        else some (buildPadded r.encode r.layout (padLenFor t rng r)
          t.position) := by
  have hlen : r.encode.length - 5 = r.body.length := by
    rw [r.length_encode]
    omega
  unfold TlsPadding.apply
  rw [parseClientHello_encode]
  simp only [Option.bind_eq_bind, Option.bind_some, hlen]
  by_cases hzero : padLenFor t rng r = 0
  · rw [if_pos hzero]
    exact if_pos hzero
  · rw [if_neg hzero]
    exact if_neg hzero

/-- And of anything else. -/
theorem apply_other {record : Bytes} (h : ¬ ∃ r : Record, record = r.encode)
    (t : TlsPadding) (rng : UInt64) : t.apply rng record = none := by
  cases hparse : parseClientHello record with
  | none =>
      unfold TlsPadding.apply
      rw [hparse]
      rfl
  | some layout => exact absurd (parseClientHello_sound hparse) h

/-- `apply` leaves a record alone that is no ClientHello or has no room. -/
theorem apply_eq_none_iff {t : TlsPadding} {rng : UInt64}
    (hsample : 1 ≤ (sampleI32 t.size rng).1.toInt) (record : Bytes) :
    t.apply rng record = none
      ↔ (¬ ∃ r : Record, record = r.encode)
        ∨ ∃ r : Record, record = r.encode ∧ 16383 < r.body.length + 4 + 1 := by
  by_cases hrecord : ∃ r : Record, record = r.encode
  · obtain ⟨r, rfl⟩ := hrecord
    rw [apply_record]
    have hlimit : maxTlsRecordBody = 16383 := rfl
    by_cases hzero : padLenFor t rng r = 0
    · rw [if_pos hzero]
      refine ⟨fun _ => .inr ⟨r, rfl, ?_⟩, fun _ => rfl⟩
      unfold padLenFor at hzero
      omega
    · rw [if_neg hzero]
      constructor
      · intro h
        cases h
      rintro (hnone | ⟨r', hr', hroom⟩)
      · exact absurd ⟨r, rfl⟩ hnone
      · have hlen := congrArg List.length hr'
        rw [r.length_encode, r'.length_encode] at hlen
        unfold padLenFor at hzero
        omega
  · exact ⟨fun _ => .inl hrecord, fun _ => apply_other hrecord t rng⟩

/-- What `apply` returns for a record: the record with one padding extension
more, at the place the position asks for. -/
theorem apply_eq_some {t : TlsPadding} {rng : UInt64} {r : Record}
    {out : Bytes} (h : t.apply rng r.encode = some out) :
    ∃ (r' : Record) (k : Nat) (hk : k < 65536) (front back : List Extension),
      out = r'.encode ∧ 1 ≤ k ∧ k ≤ (sampleI32 t.size rng).1.toInt.toNat
        ∧ r'.body.length ≤ 16383 ∧ r'.recordVersion = r.recordVersion
        ∧ r'.fields = r.fields ∧ r.extensions = front ++ back
        ∧ r'.extensions = front ++ padding k hk :: back
        ∧ Inserted (t.position = .before) (padding k hk) r.extensions
          r'.extensions := by
  have hlimit : maxTlsRecordBody = 16383 := rfl
  rw [apply_record] at h
  by_cases hzero : padLenFor t rng r = 0
  · rw [if_pos hzero] at h
    cases h
  · rw [if_neg hzero] at h
    obtain rfl := Option.some.inj h
    have hsample : padLenFor t rng r
        ≤ (sampleI32 t.size rng).1.toInt.toNat := Nat.min_le_left _ _
    have hroom : padLenFor t rng r
        ≤ maxTlsRecordBody - (r.body.length + 4) := Nat.min_le_right _ _
    generalize padLenFor t rng r = k at hzero hsample hroom
    have hk : k < 65536 := by omega
    have hfits : r.body.length + (padding k hk).encode.length < 65536 := by
      rw [length_padding]
      omega
    obtain ⟨front, back, hes, hat, hinserted⟩ := r.exists_insertion t.position
    refine ⟨r.insert hes (padding k hk) hfits, k, hk, front, back,
      Record.buildPadded_encode hes hk hfits t.position hat, by omega, hsample,
      ?_, rfl, rfl, hes, rfl, hinserted _⟩
    rw [Record.length_body, Record.length_message]
    have hold := r.length_message
    have hbody := r.length_body
    have hpad := length_padding k hk
    rw [hes] at hold
    simp only [Record.insert, encodeAll_append, encodeAll_cons,
      List.length_append] at hold ⊢
    omega

/-- The first `server_name` of a list with one of them, before and after the
insertion. -/
theorem Inserted.around {beforeName : Prop} [Decidable beforeName]
    {x : Extension} {es es' : List Extension}
    (h : Inserted beforeName x es es') (hx : x.type ≠ serverNameType)
    (hcount : (es.map Extension.type).count serverNameType = 1) :
    ∃ front name back front' back', es = front ++ name :: back
      ∧ es' = front' ++ name :: back' ∧ name.type = serverNameType
      ∧ (∀ e ∈ front, e.type ≠ serverNameType)
      ∧ (∀ e ∈ front', e.type ≠ serverNameType)
      ∧ (encodeAll front').length = (encodeAll front).length
        + if beforeName then x.encode.length else 0 := by
  cases h with
  | before front name back hbefore hname hback =>
      have hfront : ∀ e ∈ front, e.type ≠ serverNameType := by
        intro e he htype
        rw [List.map_append, List.map_cons, List.count_append, hname,
          List.count_cons_self] at hcount
        have hpos : 0 < (front.map Extension.type).count serverNameType :=
          List.count_pos_iff.mpr (List.mem_map.mpr ⟨e, he, htype⟩)
        omega
      refine ⟨front, name, back, front ++ [x], back, rfl, by simp, hname,
        hfront, ?_, ?_⟩
      · intro e he
        rcases List.mem_append.mp he with he | he
        · exact hfront e he
        · rw [List.mem_singleton.mp he]
          exact hx
      · rw [if_pos hbefore, encodeAll_append, List.length_append,
          encodeAll_cons, encodeAll_nil, List.append_nil]
  | atEnd _ hend =>
      obtain ⟨front, name, back, rfl, hname, hfront, -⟩ :=
        split_of_count hcount
      have hafter : ¬ beforeName := fun hbefore =>
        hend hbefore name (by simp) hname
      refine ⟨front, name, back, front, back ++ [x], rfl, by simp, hname,
        hfront, hfront, ?_⟩
      rw [if_neg hafter]
      rfl

end ZeroDpi.ClientHello

namespace ZeroDpi

open Lib ClientHello

/-- Padding edits one thing. A record that is no ClientHello or has no room
is left alone; every other comes back as a ClientHello with one padding
extension more at its place, in which the walker finds the same name. -/
theorem TlsPadding.apply_spec {t : TlsPadding} {rng : UInt64}
    (hsample : 1 ≤ (sampleI32 t.size rng).1.toInt) (record : Bytes) :
    (t.apply rng record = none
      ↔ (¬ ∃ r : Record, record = r.encode)
        ∨ ∃ r : Record, record = r.encode ∧ 16383 < r.body.length + 4 + 1)
    ∧ ∀ out, t.apply rng record = some out →
        ∃ (r r' : Record) (k : Nat) (hk : k < 65536), record = r.encode
          ∧ out = r'.encode ∧ r'.body.length ≤ 16383
          ∧ r'.recordVersion = r.recordVersion ∧ r'.fields = r.fields
          ∧ 1 ≤ k ∧ (k : Int) ≤ (sampleI32 t.size rng).1.toInt
          ∧ Inserted (t.position = .before) (padding k hk) r.extensions
            r'.extensions
          ∧ ∀ b, findSniBoundary record = .ok (some b) →
              (r.extensions.map Extension.type).count serverNameType = 1 →
              let moved := shift (if t.position = .before then 4 + k else 0) b
              findSniBoundary out = .ok (some moved)
                ∧ slice? out moved.nameStart (moved.nameStart + moved.nameLen)
                  = slice? record b.nameStart (b.nameStart + b.nameLen) := by
  refine ⟨apply_eq_none_iff hsample record, fun out h => ?_⟩
  by_cases hrecord : ∃ r : Record, record = r.encode
  · obtain ⟨r, rfl⟩ := hrecord
    obtain ⟨r', k, hk, -, -, rfl, hpos, hle, hlimit, hversion, hfields, -, -,
      hinserted⟩ := apply_eq_some h
    refine ⟨r, r', k, hk, rfl, rfl, hlimit, hversion, hfields, hpos, by omega,
      hinserted, ?_⟩
    intro b hb hcount
    obtain ⟨front, name, back, front', back', hes, hes', hname, hfront,
      hfront', hmoved⟩ := hinserted.around
      (show paddingType ≠ serverNameType by decide) hcount
    rw [length_padding] at hmoved
    exact findSniBoundary_moved hes hes' hfront hfront' hname hfields hmoved hb
  · rw [apply_other hrecord] at h
    cases h

/-- A ClientHello for the host `a` with the extensions behind its name. -/
def sampleRecord (later : List Extension)
    (h : later = [] ∨ later = [padding 0 (by decide)]) : Record where
  recordVersion := [0x03, 0x01]
  fields := {
    version := [0x03, 0x03]
    random := List.replicate 32 0
    sessionId := []
    cipherSuites := [0x13, 0x01]
    compressionMethods := [0x00]
    version_length := TlsTemplate.length_templateVersion
    random_length := rfl
    sessionId_lt := by decide
    cipherSuites_lt := by decide
    compressionMethods_lt := TlsTemplate.templateCompression_lt }
  extensions := {
    type := serverNameType
    data := [0, 4, 0, 0, 1, 0x61]
    type_lt := by decide
    data_lt := by decide } :: later
  recordVersion_length := TlsTemplate.length_templateRecordVersion
  body_lt := by
    rcases h with rfl | rfl
    · decide
    · decide

/-- Seven bytes, in front. -/
theorem TlsPadding.apply_spec_sample :
    ∃ out, TlsPadding.apply ⟨.exact 7, .before⟩ 0
        (sampleRecord [] (.inl rfl)).encode = some out
      ∧ ∃ r r' : Record, (sampleRecord [] (.inl rfl)).encode = r.encode
        ∧ out = r'.encode ∧ r'.body.length ≤ 16383
        ∧ r'.fields = r.fields := by
  have hspec := @TlsPadding.apply_spec ⟨.exact 7, .before⟩ 0 (by decide)
    (sampleRecord [] (.inl rfl)).encode
  have hsome : (TlsPadding.apply ⟨.exact 7, .before⟩ 0
      (sampleRecord [] (.inl rfl)).encode).isSome = true := by decide
  obtain ⟨out, hout⟩ := Option.isSome_iff_exists.mp hsome
  obtain ⟨r, r', k, hk, hr, hr', hlimit, -, hfields, -⟩ := hspec.2 out hout
  exact ⟨out, hout, r, r', hr, hr', hlimit, hfields⟩

/-- Padding keeps a legal list legal exactly when there is no padding in it
yet and the new one does not go behind a `pre_shared_key`. -/
theorem TlsPadding.apply_legal_iff {t : TlsPadding} {rng : UInt64}
    (hsample : 1 ≤ (sampleI32 t.size rng).1.toInt) {r : Record}
    (hlegal : Legal r.extensions) :
    (∀ out, t.apply rng r.encode = some out →
        ∃ r' : Record, out = r'.encode ∧ Legal r'.extensions)
      ↔ 16383 < r.body.length + 4 + 1
        ∨ (paddingType ∉ r.extensions.map Extension.type
          ∧ (preSharedKeyType ∉ r.extensions.map Extension.type
            ∨ (t.position = .before
              ∧ serverNameType ∈ r.extensions.map Extension.type))) := by
  have hlegal_iff : ∀ {out : Bytes}, t.apply rng r.encode = some out →
      ((∃ r' : Record, out = r'.encode ∧ Legal r'.extensions)
        ↔ paddingType ∉ r.extensions.map Extension.type
          ∧ (preSharedKeyType ∉ r.extensions.map Extension.type
            ∨ (t.position = .before
              ∧ serverNameType ∈ r.extensions.map Extension.type))) := by
    intro out hout
    obtain ⟨r', k, hk, -, -, rfl, -, -, -, -, -, -, -, hinserted⟩ :=
      apply_eq_some hout
    rw [← hinserted.legal_iff rfl hlegal]
    constructor
    · rintro ⟨r'', hencode, hnew⟩
      rw [(Record.encode_inj hencode).2.2]
      exact hnew
    · intro hnew
      exact ⟨r', rfl, hnew⟩
  by_cases hroom : 16383 < r.body.length + 4 + 1
  · have hnone := (apply_eq_none_iff hsample r.encode).mpr
      (.inr ⟨r, rfl, hroom⟩)
    refine ⟨fun _ => .inl hroom, fun _ out hout => ?_⟩
    rw [hnone] at hout
    cases hout
  · have hsome : ∃ out, t.apply rng r.encode = some out := by
      rw [apply_record, if_neg]
      · exact ⟨_, rfl⟩
      · have hlimit : maxTlsRecordBody = 16383 := rfl
        unfold padLenFor
        omega
    obtain ⟨out, hout⟩ := hsome
    constructor
    · intro hall
      exact .inr ((hlegal_iff hout).mp (hall out hout))
    · rintro (hfull | hplace) out' hout'
      · exact absurd hfull hroom
      · exact (hlegal_iff hout').mpr hplace

/-- A record without extensions behind the name. -/
theorem TlsPadding.apply_legal_sample :
    ∃ out, TlsPadding.apply ⟨.exact 7, .before⟩ 0
        (sampleRecord [] (.inl rfl)).encode = some out
      ∧ ∃ r' : Record, out = r'.encode ∧ Legal r'.extensions := by
  have hsome : (TlsPadding.apply ⟨.exact 7, .before⟩ 0
      (sampleRecord [] (.inl rfl)).encode).isSome = true := by decide
  obtain ⟨out, hout⟩ := Option.isSome_iff_exists.mp hsome
  refine ⟨out, hout, ?_⟩
  exact (TlsPadding.apply_legal_iff (by decide)
    ⟨by decide, by simp [sampleRecord, serverNameType, preSharedKeyType]⟩).mpr
    (.inr ⟨by decide, .inl (by decide)⟩) out hout

/-- A ClientHello that pads already is padded again. -/
theorem TlsPadding.apply_pads_twice :
    Legal (sampleRecord [padding 0 (by decide)] (.inr rfl)).extensions
      ∧ ¬ ∀ out, TlsPadding.apply ⟨.exact 7, .before⟩ 0
          (sampleRecord [padding 0 (by decide)] (.inr rfl)).encode = some out →
        ∃ r' : Record, out = r'.encode ∧ Legal r'.extensions := by
  refine ⟨⟨by decide, ?_⟩, ?_⟩
  · simp [sampleRecord, serverNameType, preSharedKeyType, padding,
      paddingType]
  · intro hall
    have hsome : (TlsPadding.apply ⟨.exact 7, .before⟩ 0
        (sampleRecord [padding 0 (by decide)] (.inr rfl)).encode).isSome
          = true := by decide
    obtain ⟨out, hout⟩ := Option.isSome_iff_exists.mp hsome
    obtain ⟨r', hencode, hlegal⟩ := hall out hout
    obtain ⟨r'', k, hk, -, -, rfl, -, -, -, -, -, -, -, hinserted⟩ :=
      apply_eq_some hout
    rw [← (Record.encode_inj hencode).2.2] at hlegal
    have hfree := ((hinserted.legal_iff rfl
      ⟨by decide, by simp [sampleRecord, serverNameType, preSharedKeyType,
        padding, paddingType]⟩).mp hlegal).1
    exact hfree (by decide)

end ZeroDpi
