/-
The handshake bytes the server reads.

TLS hashes the handshake messages of both sides into the Finished
message, so the ClientHello the server reassembles must be the one the
client sent. `handshakeBytes` is what a server makes of a byte stream: the
bodies of its handshake records, one after the other. Prefixing a
ChangeCipherSpec record, cutting the stream into writes and re-framing a
record as two leave it alone (`handshakeBytes_ccs`,
`handshakeBytes_reframed`). The two transforms do not: padding lengthens
the message, re-casing replaces letters of the host name
(`Edits`).
-/
import ZeroDpi.Proofs.PathsAlike

namespace ZeroDpi

open Lib ProxyM

-- ==================================================== the handshake layer

/-- The complete records at the front of a stream, with their types. -/
def tlsRecords : Nat → Bytes → List (UInt8 × Bytes)
  | fuel + 1, ty :: _ :: _ :: l0 :: l1 :: rest =>
      if be16 l0 l1 ≤ rest.length then
        (ty, rest.take (be16 l0 l1))
          :: tlsRecords fuel (rest.drop (be16 l0 l1))
      else []
  | _, _ => []

/-- The handshake bytes of a stream. -/
def handshakeBytes (stream : Bytes) : Bytes :=
  ((tlsRecords stream.length stream).filter fun r => r.1 == 0x16).flatMap
    fun r => r.2

/-- More fuel than there are bytes changes nothing. -/
theorem tlsRecords_fuel : ∀ (fuel fuel' : Nat) (stream : Bytes),
    stream.length ≤ fuel → stream.length ≤ fuel' →
      tlsRecords fuel stream = tlsRecords fuel' stream := by
  intro fuel
  induction fuel with
  | zero =>
      intro fuel' stream hfuel _
      obtain rfl := List.length_eq_zero_iff.mp (Nat.le_zero.mp hfuel)
      cases fuel' <;> rfl
  | succ fuel ih =>
      intro fuel' stream hfuel hfuel'
      rcases stream with _ | ⟨ty, _ | ⟨v0, _ | ⟨v1, _ | ⟨l0, _ | ⟨l1, rest⟩⟩⟩⟩⟩
      iterate 5 cases fuel' <;> rfl
      obtain ⟨fuel', rfl⟩ : ∃ k, fuel' = k + 1 := by
        simp only [List.length_cons] at hfuel'
        exact ⟨fuel' - 1, by omega⟩
      simp only [List.length_cons] at hfuel hfuel'
      simp only [tlsRecords]
      rw [ih fuel' (rest.drop (be16 l0 l1))
        (by rw [List.length_drop]; omega) (by rw [List.length_drop]; omega)]

/-- A record at the front contributes its body if it is a handshake
record. -/
theorem handshakeBytes_record (ty v0 v1 : UInt8) {l0 l1 : UInt8}
    {body : Bytes} (hbody : body.length = be16 l0 l1) (rest : Bytes) :
    handshakeBytes (ty :: v0 :: v1 :: l0 :: l1 :: (body ++ rest))
      = (if ty = 0x16 then body else []) ++ handshakeBytes rest := by
  have hfits : be16 l0 l1 ≤ (body ++ rest).length := by
    rw [List.length_append]
    omega
  have hrest := tlsRecords_fuel (body ++ rest).length.succ.succ.succ.succ
    rest.length rest (by rw [List.length_append]; omega) (Nat.le_refl _)
  unfold handshakeBytes
  show ((tlsRecords ((body ++ rest).length + 5) _).filter _).flatMap _ = _
  simp only [tlsRecords, if_pos hfits]
  rw [← hbody, List.take_left, List.drop_left]
  have hrest : tlsRecords ((body ++ rest).length + 4) rest
      = tlsRecords rest.length rest := hrest
  rw [hrest]
  by_cases hty : ty = 0x16
  · rw [if_pos hty, List.filter_cons_of_pos (by simpa using hty)]
    rfl
  · rw [if_neg hty, List.filter_cons_of_neg (by simpa using hty)]
    rfl

/-- The prefix is no handshake record. -/
theorem handshakeBytes_ccs (ccs : CcsPrefix) (rest : Bytes) :
    handshakeBytes (ccs.record ++ rest) = handshakeBytes rest :=
  handshakeBytes_record 0x14 ccs.recordVersion.1 ccs.recordVersion.2
    (show ([0x01] : Bytes).length = be16 0x00 0x01 from rfl) rest

/-- The record a split builds. -/
theorem handshakeBytes_buildRecord {v0 v1 : UInt8} {body : Bytes}
    (hbody : body.length < 65536) (rest : Bytes) :
    handshakeBytes (buildRecord [0x16, v0, v1] body ++ rest)
      = body ++ handshakeBytes rest := by
  have hlen : body.length
      = be16 (body.length / 256).toUInt8 body.length.toUInt8 := by
    rw [be16_toBe16, Nat.mod_eq_of_lt hbody]
  exact handshakeBytes_record 0x16 v0 v1 hlen rest

-- ========================================================= one record

/-- One handshake record and nothing else. -/
structure Framed (record : Bytes) : Prop where
  handshake : record.head? = some 0x16
  whole : record.length = 5 + be16 (record.getD 3 0) (record.getD 4 0)

/-- A complete hello is one record. -/
theorem CompleteHello.framed {record : Bytes} (h : CompleteHello record) :
    Framed record :=
  ⟨h.handshake, h.whole⟩

/-- What a record looks like. -/
theorem Framed.shape {record : Bytes} (h : Framed record) :
    ∃ v0 v1 l0 l1 body, record = 0x16 :: v0 :: v1 :: l0 :: l1 :: body
      ∧ body.length = be16 l0 l1 := by
  obtain ⟨hhandshake, hwhole⟩ := h
  rcases record with _ | ⟨ty, _ | ⟨v0, _ | ⟨v1, _ | ⟨l0, _ | ⟨l1, body⟩⟩⟩⟩⟩
  iterate 5 simp only [List.length_nil, List.length_cons] at hwhole; omega
  obtain rfl : ty = 0x16 := by simpa using hhandshake
  refine ⟨v0, v1, l0, l1, body, rfl, ?_⟩
  have hwhole : body.length + 1 + 1 + 1 + 1 + 1 = 5 + be16 l0 l1 := hwhole
  omega

/-- Its body is what is hashed. -/
theorem Framed.handshakeBytes {record : Bytes} (h : Framed record) :
    handshakeBytes record = record.drop 5 := by
  obtain ⟨v0, v1, l0, l1, body, rfl, hbody⟩ := h.shape
  have hone := handshakeBytes_record 0x16 v0 v1 hbody []
  rw [List.append_nil, if_pos rfl] at hone
  exact hone.trans (List.append_nil body)

/-- A split cuts the body and frames both parts. -/
theorem split_framed {v0 v1 l0 l1 : UInt8} {body first second : Bytes}
    (hbody : body.length = be16 l0 l1) {t : TlsRecordSplit}
    (hsplit : t.split (0x16 :: v0 :: v1 :: l0 :: l1 :: body)
      = .ok (some (first, second))) :
    ∃ k, first = buildRecord [0x16, v0, v1] (body.take k)
      ∧ second = buildRecord [0x16, v0, v1] (body.drop k) := by
  have hall : (0x16 :: v0 :: v1 :: l0 :: l1 :: body).length
      = 5 + be16 l0 l1 := by
    simp only [List.length_cons]
    omega
  obtain ⟨b, -, hsplit⟩ := bind_eq_ok.mp hsplit
  cases b with
  | none => cases hsplit
  | some b =>
      simp only at hsplit
      split at hsplit
      · cases hsplit
      case isFalse hcut =>
        have hsplit := Option.some.inj (Except.ok.inj hsplit)
        obtain ⟨rfl, rfl⟩ := Prod.mk.inj hsplit
        generalize hcutAt : t.splitPoint.resolve b = cut at hcut
        obtain ⟨k, rfl⟩ : ∃ k, cut = k + 5 := ⟨cut - 5, by omega⟩
        have hsecond : ((0x16 :: v0 :: v1 :: l0 :: l1 :: body).take
            (5 + be16 l0 l1)).drop (k + 5) = body.drop k := by
          rw [← hall, List.take_length]
          rfl
        have htail : (0x16 :: v0 :: v1 :: l0 :: l1 :: body).drop
            (5 + be16 l0 l1) = [] := by
          rw [← hall, List.drop_length]
        refine ⟨k, rfl, ?_⟩
        show buildRecord [0x16, v0, v1] (((0x16 :: v0 :: v1 :: l0 :: l1
            :: body).take (5 + be16 l0 l1)).drop (k + 5))
          ++ (0x16 :: v0 :: v1 :: l0 :: l1 :: body).drop (5 + be16 l0 l1) = _
        rw [hsecond, htail, List.append_nil]

/-- The two records of a split carry the body of the one. -/
theorem Framed.handshakeBytes_split {hello first second : Bytes}
    (h : Framed hello) {t : TlsRecordSplit}
    (hsplit : t.split hello = .ok (some (first, second))) :
    ZeroDpi.handshakeBytes (first ++ second) = hello.drop 5 := by
  obtain ⟨v0, v1, l0, l1, body, rfl, hbody⟩ := h.shape
  have hlimit : be16 l0 l1 < 65536 := be16_lt l0 l1
  obtain ⟨k, rfl, rfl⟩ := split_framed hbody hsplit
  rw [← List.append_nil (buildRecord _ (body.drop k)),
    handshakeBytes_buildRecord (by rw [List.length_take]; omega),
    handshakeBytes_buildRecord (by rw [List.length_drop]; omega)]
  show body.take k ++ (body.drop k ++ []) = body
  rw [List.append_nil, List.take_append_drop]

/-- So is that of two records it is split into. -/
theorem Framed.handshakeBytes_reframed {hello wire : Bytes}
    (h : Framed hello) {t : ConnectionSettings}
    (hwire : t.reframed hello = .ok wire) :
    ZeroDpi.handshakeBytes wire = hello.drop 5 := by
  unfold ConnectionSettings.reframed at hwire
  cases hsplit : t.tlsRecordSplit with
  | none =>
      rw [hsplit] at hwire
      obtain rfl := Except.ok.inj hwire
      exact h.handshakeBytes
  | some recordSplit =>
      rw [hsplit] at hwire
      obtain ⟨r, hr, hwire⟩ := bind_eq_ok.mp hwire
      cases r with
      | none =>
          obtain rfl := Except.ok.inj hwire
          exact h.handshakeBytes
      | some pair =>
          obtain rfl := Except.ok.inj hwire
          exact h.handshakeBytes_split hr

-- ========================================================== the padding

/-- A check of the parser that was passed. -/
theorem pass_check {α : Type} {c : Prop} [Decidable c] {f : Unit → Option α}
    {a : α} (h : (if c then (none >>= f) else f ()) = some a) :
    ¬ c ∧ f () = some a := by
  by_cases hc : c
  · rw [if_pos hc] at h
    cases h
  · rw [if_neg hc] at h
    exact ⟨hc, h⟩

/-- The scan reports the header of an extension inside the body. -/
theorem scanForSni_range {body : Bytes} :
    ∀ {fuel q : Nat} {before found : Option Nat},
      scanForSni body fuel q before = some found →
        found = before
          ∨ ∃ o, found = some o ∧ q ≤ o ∧ o < body.length := by
  intro fuel
  induction fuel with
  | zero =>
      intro q before found h
      cases h
  | succ fuel ih =>
      intro q before found h
      unfold scanForSni at h
      split at h
      · cases h
        exact .inl rfl
      case isFalse hin =>
        split at h
        · cases h
        · simp only at h
          split at h
          · cases h
          · rcases ih h with hsame | ⟨o, ho, hlow, hhigh⟩
            · split at hsame
              · exact .inr ⟨q, hsame, Nat.le_refl q, by omega⟩
              · exact .inl hsame
            · exact .inr ⟨o, ho, by omega, hhigh⟩

/-- The offsets of a layout lie inside the record they were found in. -/
structure ClientHelloLayout.Fits (layout : ClientHelloLayout)
    (record : Bytes) : Prop where
  extLenOff : 9 ≤ layout.extLenOff
  extStart : layout.extStart = layout.extLenOff + 2
  inside : layout.extStart ≤ record.length
  sniOff : ∀ off, layout.sniOff = some off →
    layout.extStart ≤ off ∧ off ≤ record.length

/-- The extensions lie inside the hello. -/
theorem fits_of_scan {record : Bytes} {p extLen : Nat} {sniOff : Option Nat}
    (hlen : 9 ≤ record.length) (hp : 2 ≤ p)
    (hend : p + extLen = (record.drop 9).length)
    (hscan : scanForSni (record.drop 9) ((record.drop 9).length + 1) p none
      = some sniOff) :
    ClientHelloLayout.Fits
      { extLenOff := 9 + p - 2, extStart := 9 + p,
        sniOff := sniOff.map (· + 9) } record := by
  rw [List.length_drop] at hend
  refine ⟨?_, ?_, ?_, ?_⟩
  · show 9 ≤ 9 + p - 2
    omega
  · show 9 + p = 9 + p - 2 + 2
    omega
  · show 9 + p ≤ record.length
    omega
  · intro off hoff
    obtain ⟨o, ho, rfl⟩ := Option.map_eq_some_iff.mp hoff
    rcases scanForSni_range hscan with hnone | ⟨o', ho', hlow, hhigh⟩
    · rw [hnone] at ho
      cases ho
    · rw [ho'] at ho
      cases ho
      rw [List.length_drop] at hhigh
      show 9 + p ≤ o + 9 ∧ o + 9 ≤ record.length
      omega

/-- So its layout does. -/
theorem parseClientHello_fits {record : Bytes} {layout : ClientHelloLayout}
    (h : parseClientHello record = some layout) : layout.Fits record := by
  have hlen := (parseClientHello_head h).1
  unfold parseClientHello at h
  extract_lets at h
  -- twelve checks before the one that ends the extension list at the body
  iterate 12 obtain ⟨-, h⟩ := pass_check h
  obtain ⟨hend, h⟩ := pass_check h
  obtain ⟨sniOff, hscan, h⟩ := Option.bind_eq_some_iff.mp h
  obtain rfl := Option.some.inj h
  exact fits_of_scan hlen (Nat.le_add_left 2 _) (Decidable.not_not.mp hend)
    hscan

/-- A padded record is longer by the extension. -/
theorem buildPadded_length {record : Bytes} {layout : ClientHelloLayout}
    (hfits : layout.Fits record) (padLen : Nat) (position : PaddingPosition) :
    (buildPadded record layout padLen position).length
      = record.length + 4 + padLen := by
  obtain ⟨hlow, hstart, hinside, hsni⟩ := hfits
  cases position with
  | after =>
      simp only [buildPadded, List.length_append, List.length_take,
        List.length_drop, length_toBe16, List.length_replicate,
        List.length_cons, List.length_nil, toBe24]
      omega
  | before =>
      cases hoff : layout.sniOff with
      | none =>
          simp only [buildPadded, hoff, List.length_append, List.length_take,
            List.length_drop, length_toBe16, List.length_replicate,
            List.length_cons, List.length_nil, toBe24]
          omega
      | some off =>
          have := hsni off hoff
          simp only [buildPadded, hoff, List.length_append, List.length_take,
            List.length_drop, length_toBe16, List.length_replicate,
            List.length_cons, List.length_nil, toBe24]
          omega

/-- A padded record is one record again. -/
theorem buildPadded_framed {record : Bytes} {layout : ClientHelloLayout}
    (hrecord : Framed record) (hfits : layout.Fits record) {padLen : Nat}
    (hlimit : record.length - 5 + (4 + padLen) < 65536)
    (position : PaddingPosition) :
    Framed (buildPadded record layout padLen position) := by
  have hlen := buildPadded_length hfits padLen position
  have hpos : 5 ≤ record.length := by
    have := hrecord.whole
    omega
  obtain ⟨v0, v1, l0, l1, body, rfl, -⟩ := hrecord.shape
  generalize hn : (0x16 :: v0 :: v1 :: l0 :: l1 :: body).length - 5
    + (4 + padLen) = n at hlimit
  obtain ⟨rest, hrest⟩ : ∃ rest,
      buildPadded (0x16 :: v0 :: v1 :: l0 :: l1 :: body) layout padLen position
        = 0x16 :: v0 :: v1 :: (toBe16 n ++ rest) := by
    simp only [buildPadded, List.append_assoc, hn]
    exact ⟨_, rfl⟩
  have hbytes : be16 (n / 256).toUInt8 n.toUInt8 = n := by
    rw [be16_toBe16, Nat.mod_eq_of_lt hlimit]
  rw [hrest] at hlen ⊢
  refine ⟨rfl, ?_⟩
  show _ = 5 + be16 (n / 256).toUInt8 n.toUInt8
  rw [hlen, hbytes]
  omega

/-- `tls_padding` finds a ClientHello, samples a size and has room for
it. -/
structure TlsPadding.Pads (t : TlsPadding) (rng : UInt64) (record : Bytes) :
    Prop where
  parses : (parseClientHello record).isSome = true
  sampled : 0 < (sampleI32 t.size rng).1.toInt.toNat
  room : record.length - 5 + 4 < maxTlsRecordBody

/-- Where nothing is padded. -/
theorem TlsPadding.apply_eq_none {t : TlsPadding} {rng : UInt64}
    {record : Bytes} (h : ¬ t.Pads rng record) : t.apply rng record = none := by
  cases hlayout : parseClientHello record with
  | none =>
      unfold TlsPadding.apply
      rw [hlayout]
      rfl
  | some layout =>
      have hpad : min (sampleI32 t.size rng).1.toInt.toNat
          (maxTlsRecordBody - (record.length - 5 + 4)) = 0 := by
        by_cases hsampled : 0 < (sampleI32 t.size rng).1.toInt.toNat
        · have hroom : ¬ record.length - 5 + 4 < maxTlsRecordBody := by
            intro hroom
            exact h ⟨by rw [hlayout]; rfl, hsampled, hroom⟩
          omega
        · omega
      unfold TlsPadding.apply
      rw [hlayout]
      simp only [hpad]
      rfl

/-- Where something is, the record is longer. -/
theorem TlsPadding.apply_pads {t : TlsPadding} {rng : UInt64}
    {record : Bytes} (hrecord : Framed record) (h : t.Pads rng record) :
    ∃ out, t.apply rng record = some out ∧ Framed out
      ∧ record.length < out.length := by
  obtain ⟨hparses, hsampled, hroom⟩ := h
  obtain ⟨layout, hlayout⟩ := Option.isSome_iff_exists.mp hparses
  have hfits := parseClientHello_fits hlayout
  generalize hpad : min (sampleI32 t.size rng).1.toInt.toNat
    (maxTlsRecordBody - (record.length - 5 + 4)) = padLen
  have hpos : padLen ≠ 0 := by omega
  have hlimit : record.length - 5 + (4 + padLen) < 65536 := by
    have : maxTlsRecordBody = 16383 := rfl
    omega
  refine ⟨buildPadded record layout padLen t.position, ?_,
    buildPadded_framed hrecord hfits hlimit t.position, ?_⟩
  · unfold TlsPadding.apply
    rw [hlayout]
    simp only [hpad]
    exact if_neg hpos
  · rw [buildPadded_length hfits]
    omega

-- ========================================================= the re-casing

/-- The record has an SNI with an ASCII letter in it. -/
def SniHasLetter (record : Bytes) : Prop :=
  ∃ start len, findSniRange record = .ok (some (start, len))
    ∧ ((record.drop start).take len).any isAsciiAlphabetic = true

/-- Swapping a letter changes it. -/
theorem swapAsciiCase_ne {b : UInt8} (h : isAsciiAlphabetic b = true) :
    swapAsciiCase b ≠ b := by
  have hadd : b + 0x20 ≠ b := by
    intro heq
    have heq := congrArg UInt8.toNat heq
    rw [UInt8.toNat_add] at heq
    have : (0x20 : UInt8).toNat = 32 := rfl
    omega
  have hsub : b - 0x20 ≠ b := by
    intro heq
    have heq := congrArg UInt8.toNat heq
    rw [UInt8.toNat_sub] at heq
    have : (0x20 : UInt8).toNat = 32 := rfl
    have := b.toNat_lt
    omega
  unfold swapAsciiCase toAsciiUpper toAsciiLower
  by_cases hlower : isAsciiLowercase b = true
  · rw [if_pos hlower, if_pos hlower]
    exact hsub
  · have hupper : isAsciiUppercase b = true := by
      unfold isAsciiAlphabetic at h
      simpa [hlower] using h
    rw [if_neg hlower, if_pos hupper]
    exact hadd

/-- A name keeps its length. -/
theorem randomCase_length : ∀ (name : Bytes) (rng : UInt64),
    (randomCase rng name).1.length = name.length := by
  intro name
  induction name with
  | nil =>
      intro rng
      rfl
  | cons b rest ih =>
      intro rng
      unfold randomCase
      by_cases hb : isAsciiAlphabetic b = true
      · rw [if_pos hb]
        exact congrArg Nat.succ (ih _)
      · rw [if_neg hb]
        exact congrArg Nat.succ (ih _)

theorem getD_of_lt {α : Type} {l : List α} {i : Nat} {d : α}
    (hi : i < l.length) : l.getD i d = l[i] := by
  rw [List.getD_eq_getElem?_getD, List.getElem?_eq_getElem hi,
    Option.getD_some]

/-- The places of the letters. -/
theorem mem_letterPositions {name : Bytes} {i : Nat} :
    i ∈ letterPositions name
      ↔ i < name.length ∧ isAsciiAlphabetic (name.getD i 0) = true := by
  unfold letterPositions
  rw [List.mem_filter, List.mem_range]

/-- A name may have none. -/
theorem letterPositions_eq_nil {name : Bytes} :
    letterPositions name = [] ↔ name.any isAsciiAlphabetic = false := by
  constructor
  · intro h
    rw [List.any_eq_false]
    intro b hb hletter
    obtain ⟨i, hi, rfl⟩ := List.getElem_of_mem hb
    have hmem : i ∈ letterPositions name := by
      refine mem_letterPositions.mpr ⟨hi, ?_⟩
      rw [getD_of_lt hi]
      exact hletter
    rw [h] at hmem
    cases hmem
  · intro h
    rw [List.any_eq_false] at h
    refine List.eq_nil_iff_forall_not_mem.mpr ?_
    intro i hmem
    obtain ⟨hi, hletter⟩ := mem_letterPositions.mp hmem
    rw [getD_of_lt hi] at hletter
    exact h _ (List.getElem_mem hi) hletter

/-- The random pass always changes a name that has a letter. -/
theorem randomCaseName_letter (rng : UInt64) {name : Bytes}
    (h : name.any isAsciiAlphabetic = true) :
    ∃ out, randomCaseName rng name = some out ∧ out.length = name.length
      ∧ out ≠ name := by
  have hne : letterPositions name ≠ [] := by
    intro hnil
    rw [letterPositions_eq_nil.mp hnil] at h
    cases h
  have hlen := randomCase_length name rng
  unfold randomCaseName
  generalize randomCase rng name = pass at hlen ⊢
  obtain ⟨out, rng'⟩ := pass
  simp only
  rw [if_neg (by simpa using hne)]
  by_cases hout : out = name
  · subst hout
    rw [if_neg (by simp)]
    have hpick : (splitmix64 rng').2.toNat % (letterPositions out).length
        < (letterPositions out).length :=
      Nat.mod_lt _ (List.length_pos_iff.mpr hne)
    generalize (splitmix64 rng').2.toNat % (letterPositions out).length = pick
      at hpick
    have hmem : (letterPositions out).getD pick 0 ∈ letterPositions out := by
      rw [getD_of_lt hpick]
      exact List.getElem_mem hpick
    generalize (letterPositions out).getD pick 0 = i at hmem
    obtain ⟨hi, hletter⟩ := mem_letterPositions.mp hmem
    refine ⟨_, rfl, List.length_set, ?_⟩
    intro hsame
    have hat := congrArg (fun l : Bytes => l.getD i 0) hsame
    simp only [getD_of_lt (show i < (out.set i _).length by simpa using hi),
      List.getElem_set_self] at hat
    rw [getD_of_lt hi] at hat hletter
    exact swapAsciiCase_ne hletter hat
  · rw [if_pos hout]
    exact ⟨out, rfl, hlen, hout⟩

/-- Without a letter there is nothing to change. -/
theorem randomCaseName_no_letter (rng : UInt64) {name : Bytes}
    (h : name.any isAsciiAlphabetic = false) :
    randomCaseName rng name = none := by
  unfold randomCaseName
  generalize randomCase rng name = pass
  obtain ⟨out, rng'⟩ := pass
  simp only
  rw [if_pos (by rw [letterPositions_eq_nil.mpr h]; rfl)]

/-- Flipping every letter of a name. -/
def flipLetters (name : Bytes) : Bytes :=
  name.map fun b => if isAsciiAlphabetic b then swapAsciiCase b else b

/-- Then nothing is flipped. -/
theorem flipLetters_no_letter {name : Bytes}
    (h : name.any isAsciiAlphabetic = false) : flipLetters name = name := by
  rw [List.any_eq_false] at h
  refine (List.map_congr_left ?_).trans (List.map_id name)
  intro b hb
  exact if_neg (h b hb)

/-- With one, the name changes. -/
theorem flipLetters_letter {name : Bytes}
    (h : name.any isAsciiAlphabetic = true) : flipLetters name ≠ name := by
  intro hsame
  obtain ⟨b, hb, hletter⟩ := List.any_eq_true.mp h
  obtain ⟨i, hi, rfl⟩ := List.getElem_of_mem hb
  have hat := congrArg (fun l : Bytes => l[i]?) hsame
  simp only [flipLetters, List.getElem?_map, List.getElem?_eq_getElem hi,
    Option.map_some, if_pos hletter, Option.some.injEq] at hat
  exact swapAsciiCase_ne hletter hat

/-- The record around the spliced name. -/
theorem spliceAt_eq {record name : Bytes} {start len : Nat}
    (hlen : name.length = ((record.drop start).take len).length) :
    spliceAt record start name
      = record.take start ++ (name ++ (record.drop start).drop len) := by
  have hrest : record.drop (start + name.length)
      = (record.drop start).drop len := by
    rw [← List.drop_drop, hlen, List.length_take]
    rcases Nat.le_total len (record.drop start).length with hle | hle
    · rw [Nat.min_eq_left hle]
    · rw [Nat.min_eq_right hle, List.drop_length, List.drop_of_length_le hle]
  unfold spliceAt
  rw [hrest, List.append_assoc]

/-- The record around the name it has. -/
theorem record_eq_around (record : Bytes) (start len : Nat) :
    record = record.take start
      ++ ((record.drop start).take len ++ (record.drop start).drop len) := by
  rw [List.take_append_drop, List.take_append_drop]

/-- Splicing in what was there. -/
theorem spliceAt_self (record : Bytes) (start len : Nat) :
    spliceAt record start ((record.drop start).take len) = record :=
  (spliceAt_eq rfl).trans (record_eq_around record start len).symm

/-- Splicing keeps the length. -/
theorem spliceAt_length {record name : Bytes} {start len : Nat}
    (hlen : name.length = ((record.drop start).take len).length) :
    (spliceAt record start name).length = record.length := by
  have haround := congrArg List.length (record_eq_around record start len)
  rw [List.length_append, List.length_append] at haround
  rw [spliceAt_eq hlen, List.length_append, List.length_append, hlen]
  exact haround.symm

/-- Splicing another name of the same length changes the body. -/
theorem drop_spliceAt_ne {record name : Bytes} {start len : Nat}
    (hstart : 5 ≤ start)
    (hlen : name.length = ((record.drop start).take len).length)
    (hne : name ≠ (record.drop start).take len) :
    (spliceAt record start name).drop 5 ≠ record.drop 5 := by
  intro hsame
  have hinside : start < record.length := by
    refine Nat.lt_of_not_le fun hout => hne ?_
    have hnil : record.drop start = [] := List.drop_of_length_le hout
    rw [hnil] at hlen ⊢
    simpa using hlen
  have hfront : 5 ≤ (record.take start).length := by
    rw [List.length_take]
    omega
  rw [spliceAt_eq hlen, List.drop_append_of_le_length hfront] at hsame
  have haround : record.drop 5 = (record.take start).drop 5
      ++ ((record.drop start).take len ++ (record.drop start).drop len) := by
    rw [← List.drop_append_of_le_length hfront, ← record_eq_around]
  rw [haround] at hsame
  exact hne (List.append_cancel_right (List.append_cancel_left hsame))

/-- And the record. -/
theorem Framed.spliceAt {record name : Bytes} (h : Framed record)
    {start len : Nat} (hstart : 5 ≤ start)
    (hlen : name.length = ((record.drop start).take len).length) :
    Framed (ZeroDpi.spliceAt record start name) := by
  have hpos : 5 ≤ record.length := by
    have := h.whole
    omega
  have hsame : ∀ i, i < 5 →
      (ZeroDpi.spliceAt record start name)[i]? = record[i]? := by
    intro i hi
    rw [spliceAt_eq hlen, List.getElem?_append_left
      (by rw [List.length_take]; omega), List.getElem?_take_of_lt (by omega)]
  have hget : ∀ i, i < 5 →
      (ZeroDpi.spliceAt record start name).getD i 0 = record.getD i 0 := by
    intro i hi
    rw [List.getD_eq_getElem?_getD, hsame i hi, List.getD_eq_getElem?_getD]
  refine ⟨?_, ?_⟩
  · rw [List.head?_eq_getElem?, hsame 0 (by omega), ← List.head?_eq_getElem?]
    exact h.handshake
  · rw [spliceAt_length hlen, hget 3 (by omega), hget 4 (by omega)]
    exact h.whole

/-- Re-casing keeps the frame, and changes the body exactly if the name has
a letter. -/
theorem MixedCaseSni.apply_framed (t : MixedCaseSni) (rng : UInt64)
    {record : Bytes} (hrecord : Framed record) {out : Option Bytes}
    (hout : t.apply rng record = .ok out) :
    Framed (out.getD record) ∧ (out.getD record).length = record.length
      ∧ ((out.getD record).drop 5 = record.drop 5
        ↔ ¬ SniHasLetter record) := by
  obtain ⟨range, hrange, hout⟩ := bind_eq_ok.mp hout
  cases range with
  | none =>
      obtain rfl := Except.ok.inj hout
      refine ⟨hrecord, rfl, fun _ hletter => ?_, fun _ => rfl⟩
      obtain ⟨start, len, hsome, -⟩ := hletter
      rw [hrange] at hsome
      cases hsome
  | some range =>
      obtain ⟨start, len⟩ := range
      have hstart : 5 ≤ start := by
        have := (findSniRange_start hrange).1
        omega
      have hhas : SniHasLetter record
          ↔ ((record.drop start).take len).any isAsciiAlphabetic = true := by
        constructor
        · intro hletter
          obtain ⟨start', len', hsome, hany⟩ := hletter
          rw [hrange] at hsome
          cases hsome
          exact hany
        · intro hany
          exact ⟨start, len, hrange, hany⟩
      -- a name of the same length in place of the old one
      have hspliced : ∀ name : Bytes,
          name.length = ((record.drop start).take len).length →
          (name = (record.drop start).take len
            ↔ ((record.drop start).take len).any isAsciiAlphabetic = false) →
          Framed (spliceAt record start name)
            ∧ (spliceAt record start name).length = record.length
            ∧ ((spliceAt record start name).drop 5 = record.drop 5
              ↔ ¬ SniHasLetter record) := by
        intro name hlen hiff
        refine ⟨hrecord.spliceAt hstart hlen, spliceAt_length hlen, ?_⟩
        rw [hhas, Bool.not_eq_true, ← hiff]
        constructor
        · intro hsame
          refine Classical.byContradiction fun hne => ?_
          exact drop_spliceAt_ne hstart hlen hne hsame
        · intro hname
          rw [hname, spliceAt_self]
      by_cases hall : t.flipAll = true
      · have hout := (if_pos hall).symm.trans hout
        obtain rfl := Except.ok.inj hout
        refine hspliced (flipLetters _) (List.length_map _) ?_
        cases hany : ((record.drop start).take len).any isAsciiAlphabetic with
        | true => exact iff_of_false (flipLetters_letter hany) Bool.noConfusion
        | false => exact iff_of_true (flipLetters_no_letter hany) rfl
      · have hout := (if_neg hall).symm.trans hout
        obtain rfl := Except.ok.inj hout
        cases hany : ((record.drop start).take len).any isAsciiAlphabetic with
        | true =>
            obtain ⟨name, hname, hlen, hne⟩ := randomCaseName_letter rng hany
            rw [hname]
            refine hspliced name hlen ?_
            rw [hany]
            exact iff_of_false hne Bool.noConfusion
        | false =>
            rw [randomCaseName_no_letter rng hany]
            refine ⟨hrecord, rfl, iff_of_true rfl ?_⟩
            rw [hhas, hany]
            exact Bool.noConfusion

-- ============================================================= the edits

/-- A transform edits the ClientHello: there is padding to insert, or a
letter to re-case. -/
def ConnectionSettings.Edits (t : ConnectionSettings) (env : SocketEnv)
    (hello : Bytes) : Prop :=
  (∃ padding, t.tlsPadding = some padding
      ∧ padding.Pads env.paddingRng hello)
    ∨ (t.mixedCaseSni.isSome = true ∧ SniHasLetter hello)

namespace ConnectionSettings

variable {t : ConnectionSettings} {env : SocketEnv}

/-- A record that is not padded. -/
theorem padRecord_unpadded {hello : Bytes}
    (h : ¬ ∃ padding, t.tlsPadding = some padding
      ∧ padding.Pads env.paddingRng hello) :
    t.padRecord env hello = hello := by
  unfold padRecord
  cases hpadding : t.tlsPadding with
  | none => rfl
  | some padding =>
      have happly := TlsPadding.apply_eq_none fun hpads =>
        h ⟨padding, hpadding, hpads⟩
      simp only [happly]
      rfl

/-- One that is. -/
theorem padRecord_padded {hello : Bytes} (hhello : Framed hello)
    {padding : TlsPadding} (hpadding : t.tlsPadding = some padding)
    (hpads : padding.Pads env.paddingRng hello) :
    Framed (t.padRecord env hello)
      ∧ hello.length < (t.padRecord env hello).length := by
  obtain ⟨out, hout, hframed, hlen⟩ := TlsPadding.apply_pads hhello hpads
  unfold padRecord
  rw [hpadding]
  simp only [hout]
  exact ⟨hframed, hlen⟩

/-- The re-casing step on a framed record. -/
theorem applySocketTransforms_framed {hello shaped : Bytes}
    (hpadded : Framed (t.padRecord env hello))
    (hshaped : t.applySocketTransforms env hello = .ok shaped) :
    Framed shaped ∧ shaped.length = (t.padRecord env hello).length
      ∧ (shaped.drop 5 = (t.padRecord env hello).drop 5
        ↔ ¬ (t.mixedCaseSni.isSome = true
          ∧ SniHasLetter (t.padRecord env hello))) := by
  unfold applySocketTransforms at hshaped
  cases hmixed : t.mixedCaseSni with
  | none =>
      rw [hmixed] at hshaped
      obtain rfl := Except.ok.inj hshaped
      exact ⟨hpadded, rfl, iff_of_true rfl (by simp)⟩
  | some mixed =>
      rw [hmixed] at hshaped
      obtain ⟨out, hout, hshaped⟩ := bind_eq_ok.mp hshaped
      obtain rfl := Except.ok.inj hshaped
      obtain ⟨hframed, hlen, hiff⟩ :=
        mixed.apply_framed env.mixedCaseRng hpadded hout
      refine ⟨hframed, hlen, hiff.trans ?_⟩
      simp

/-- The transforms leave one record, and its body is the client's exactly
if none of them edits it. -/
theorem transforms_keep_body_iff {hello shaped : Bytes}
    (hhello : Framed hello)
    (hshaped : t.applySocketTransforms env hello = .ok shaped) :
    Framed shaped ∧ (shaped.drop 5 = hello.drop 5 ↔ ¬ t.Edits env hello) := by
  by_cases hpads : ∃ padding, t.tlsPadding = some padding
      ∧ padding.Pads env.paddingRng hello
  · have hedits : t.Edits env hello := .inl hpads
    obtain ⟨padding, hpadding, hpads⟩ := hpads
    obtain ⟨hframed, hlonger⟩ := padRecord_padded hhello hpadding hpads
    obtain ⟨hframed, hlen, -⟩ := applySocketTransforms_framed hframed hshaped
    refine ⟨hframed, iff_of_false ?_ (not_not_intro hedits)⟩
    intro hsame
    have hlengths := congrArg List.length hsame
    have := hhello.whole
    rw [List.length_drop, List.length_drop] at hlengths
    omega
  · have hsame := padRecord_unpadded hpads
    obtain ⟨hframed, -, hiff⟩ :=
      applySocketTransforms_framed (hsame.symm ▸ hhello) hshaped
    rw [hsame] at hiff
    refine ⟨hframed, hiff.trans (not_congr ?_)⟩
    constructor
    · intro hmixed
      exact .inr hmixed
    · intro hedits
      exact hedits.resolve_left hpads

/-- The prefix, where it is listed. -/
theorem handshakeBytes_ccsBytes (t : ConnectionSettings) (rest : Bytes) :
    handshakeBytes (t.ccsBytes ++ rest) = handshakeBytes rest := by
  unfold ccsBytes
  cases t.ccsPrefix with
  | none => rfl
  | some ccs => exact handshakeBytes_ccs ccs rest

/-- A complete hello is more than a stub. -/
theorem not_stub_of_complete {hello : Bytes} (h : CompleteHello hello) :
    ¬ StubHello hello := by
  intro hstub
  have := h.length
  have := hstub.2.2.2
  omega

/-- What the socket path writes for a client that sends a ClientHello: the
prefix, and the transformed and re-framed record. -/
theorem Reads.forwards_hello {cfg : Config} (h : t.Reads cfg)
    (hvalid : t.Valid cfg) {hello : Bytes} (hhello : HelloRecord hello) :
    ∃ shaped wire, t.applySocketTransforms env hello = .ok shaped
      ∧ t.reframed shaped = .ok wire
      ∧ Forwards (handleTcpSegConnectionWithIp cfg env) hello
        (fun _ => True) (t.ccsBytes ++ wire) [] := by
  have hstub := not_stub_of_complete hhello.toCompleteHello
  cases htakes : t.takesFirstRecord with
  | true =>
      have hstart : t.StartsWith hello := by
        unfold StartsWith
        rw [if_pos htakes]
        exact hhello.tlsRecord
      obtain ⟨shaped, wire, hcleared⟩ :=
        hstart.cleared env fun hbad => hstub hbad.2
      have hrun := h.forwards_socketPath hvalid hcleared hstart []
      rw [List.append_nil, List.append_nil] at hrun
      exact ⟨shaped, wire, hcleared.transformed, hcleared.onWire, hrun⟩
  | false =>
      -- no method takes the record: the relay passes it on
      have hstart : t.StartsWith [] := by
        unfold StartsWith
        rw [htakes]
        rfl
      obtain ⟨hpadding, hmixed, -, hsplit⟩ := untaken_eq_none htakes
      obtain ⟨shaped, wire, hcleared⟩ := hstart.cleared env fun hbad => by
        cases hbad.2.1
      have hrun := h.forwards_socketPath hvalid hcleared hstart hello
      have hshaped := hcleared.transformed
      have hwire := hcleared.onWire
      rw [applySocketTransforms_none hpadding hmixed] at hshaped
      obtain rfl := Except.ok.inj hshaped
      unfold reframed at hwire ⊢
      rw [hsplit] at hwire ⊢
      obtain rfl : [] = wire := Except.ok.inj hwire
      rw [List.append_nil, List.nil_append] at hrun
      exact ⟨hello, hello, applySocketTransforms_none hpadding hmixed, rfl,
        hrun⟩

end ConnectionSettings

/-- For every validated list, every client that sends a ClientHello record
first, however it is cut into reads, and every seeding, the server reads
the handshake bytes the client sent exactly if no transform edits them. -/
theorem handshake_transcript_preserved_iff (cfg : Config)
    (hv : cfg.validate = .ok ()) (t : ConnectionSettings)
    (ht : ConnectionSettings.fromConfig cfg = .ok t) (env : ConnEnv)
    (hello : Bytes) (hhello : HelloRecord hello) (client : List Bytes)
    (hclient : client.flatten = hello) :
    (∃ copied c,
        handleTcpSegConnectionWithIp cfg env.toSocketEnv
            (.established client env) = .ok copied c
          ∧ handshakeBytes c.written.flatten = handshakeBytes hello)
      ↔ ¬ t.Edits env.toSocketEnv hello := by
  obtain ⟨t', ht', hvalid⟩ := ConnectionSettings.fromConfig_ok hv
  obtain rfl : t' = t := Except.ok.inj (ht'.symm.trans ht)
  have hreads := ConnectionSettings.reads_of_fromConfig ht
  have hframed := hhello.toCompleteHello.framed
  obtain ⟨shaped, wire, hshaped, hwire, hforwards⟩ :=
    hreads.forwards_hello hvalid hhello
  obtain ⟨copied, c, hrun, -, hwritten, -⟩ :=
    hforwards (.established client env) hclient
  obtain ⟨hshapedFramed, hiff⟩ :=
    ConnectionSettings.transforms_keep_body_iff hframed hshaped
  have hserver : handshakeBytes c.written.flatten = shaped.drop 5 := by
    calc handshakeBytes c.written.flatten
        = handshakeBytes (t'.ccsBytes ++ wire) := congrArg _ hwritten
      _ = handshakeBytes wire := t'.handshakeBytes_ccsBytes wire
      _ = shaped.drop 5 := hshapedFramed.handshakeBytes_reframed hwire
  rw [← hiff, ← hframed.handshakeBytes]
  constructor
  · intro hkept
    obtain ⟨copied', c', hrun', hsame⟩ := hkept
    have hstate := hrun.symm.trans hrun'
    cases hstate
    exact hserver.symm.trans hsame
  · intro hsame
    exact ⟨copied, c, hrun, hserver.trans hsame⟩

/-- `ccs_prefix`, `tls_record_split` and `tls_frag` together re-frame only. -/
theorem sample_transcript_preserved :
    ∃ copied c,
      handleTcpSegConnectionWithIp
          { bypassMethod := [.ccsPrefix, .tlsRecordSplit, .tlsFrag] }
          sampleConnEnv.toSocketEnv
          (.established [sampleHello.take 7, sampleHello.drop 7]
            sampleConnEnv) = .ok copied c
        ∧ handshakeBytes c.written.flatten = handshakeBytes sampleHello := by
  refine (handshake_transcript_preserved_iff
    { bypassMethod := [.ccsPrefix, .tlsRecordSplit, .tlsFrag] } rfl _ rfl
    sampleConnEnv sampleHello sampleHello_helloRecord
    [sampleHello.take 7, sampleHello.drop 7] rfl).mpr ?_
  intro hedits
  rcases hedits with ⟨padding, hsome, -⟩ | ⟨hsome, -⟩
  · cases hsome
  · cases hsome

/-- `["mixed_case_sni"]` on the sample ClientHello: the server reads
another host name than the client sent. -/
theorem mixed_case_changes_transcript :
    Config.validate { bypassMethod := [.mixedCaseSni] } = .ok ()
      ∧ HelloRecord sampleHello
      ∧ ¬ ∃ copied c,
        handleTcpSegConnectionWithIp { bypassMethod := [.mixedCaseSni] }
            sampleConnEnv.toSocketEnv
            (.established [sampleHello] sampleConnEnv) = .ok copied c
          ∧ handshakeBytes c.written.flatten = handshakeBytes sampleHello := by
  refine ⟨rfl, sampleHello_helloRecord, ?_⟩
  intro hkept
  obtain ⟨copied, c, hrun, hsame⟩ := hkept
  cases hrun
  revert hsame
  decide

end ZeroDpi
