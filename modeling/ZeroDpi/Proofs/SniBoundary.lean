/-
The ClientHello walker: where it panics, and that what it finds is what
the format has.

# The argument

`indexedFindSniBoundary` checks every index of the source; apart from the
three handshake-length bytes each of them is inside a slice of known
length, so it is the model's walk (`indexed_eq`) and the panics of one are
the panics of the other.

A walk by offsets sees a front and the rest. Each of its steps reads a
length field at the end of the front and needs room for what the field
announces, which is a vector there (`vec_of_slice`); read forwards the
steps give the parts of a `Located`, and a `Located` drives the walk
through the same offsets.
-/
import ZeroDpi.ClientHello
import ZeroDpi.Proofs.StreamIntegrity
import ZeroDpi.Proofs.TlsTemplate

namespace ZeroDpi

open Lib

-- ========================================================== the indexes

/-- A piece of the walk that does not panic. -/
def Walk.lift {α : Type} (o : Option α) : Walk α := OptionT.mk (.ok o)

namespace Walk

variable {α β : Type}

/-- A walk in sequence, without panics. -/
theorem lift_bind (o : Option α) (f : α → Walk β) (g : α → Option β)
    (h : ∀ a, o = some a → f a = lift (g a)) :
    (lift o >>= f) = lift (o.bind g) := by
  cases o with
  | none => rfl
  | some a => exact h a rfl

theorem getRange_eq (l : Bytes) (lo hi : Nat) :
    getRange l lo hi = lift (slice? l lo hi) := rfl

/-- An index inside. -/
theorem index_of_lt {l : Bytes} {i : Nat} (h : i < l.length) :
    index l i = pure (l.getD i 0) := by
  unfold index
  rw [List.getElem?_eq_getElem h, List.getD_eq_getElem?_getD,
    List.getElem?_eq_getElem h]
  rfl

/-- And two of them. -/
theorem index16_of_lt {l : Bytes} {i : Nat} (h : i + 1 < l.length) :
    index16 l i = pure (be16 (l.getD i 0) (l.getD (i + 1) 0)) := by
  unfold index16
  rw [index_of_lt (Nat.lt_of_succ_lt h), index_of_lt h]
  rfl

end Walk

open Walk

/-- The walk that indexes agrees with the one that looks. -/
theorem indexedServerName_eq (extData : Bytes) (headerStart : Nat) :
    indexedServerName extData headerStart
      = lift (serverName extData headerStart) := by
  unfold indexedServerName serverName
  apply lift_bind
  intro listPair hpair
  rw [index16_of_lt (by have := slice?_length hpair; omega), pure_bind]
  apply lift_bind
  intro list hlist
  by_cases hhead : list.head? = some 0x00
  · simp only [hhead, ne_eq, not_true_eq_false, if_false]
    apply lift_bind
    intro namePair hname
    rw [index16_of_lt (by have := slice?_length hname; omega), pure_bind]
    by_cases hempty : be16 (namePair.getD 0 0) (namePair.getD 1 0) = 0
    · rw [if_pos hempty, if_pos hempty]
      rfl
    · rw [if_neg hempty, if_neg hempty]
      apply lift_bind
      intro _ _
      rfl
  · simp only [hhead, ne_eq, not_false_eq_true, if_true]
    rfl

/-- So does its scan. -/
theorem indexedScan_eq (extensions : Bytes) (base fuel e : Nat) :
    indexedScan extensions base fuel e
      = lift (scanExtensions extensions base fuel e) := by
  induction fuel generalizing e with
  | zero => rfl
  | succ fuel ih =>
      rw [indexedScan, scanExtensions]
      by_cases hroom : extensions.length < e + 4
      · rw [if_pos hroom, if_pos hroom]
        rfl
      · rw [if_neg hroom, if_neg hroom, index16_of_lt (by omega), pure_bind]
        apply lift_bind
        intro extData _
        rw [index16_of_lt (by omega), pure_bind]
        by_cases htype : be16 (extensions.getD e 0)
            (extensions.getD (e + 1) 0) = 0x0000
        · rw [if_pos htype, if_pos htype, indexedServerName_eq]
        · rw [if_neg htype, if_neg htype, ih]

/-- The walk of the handshake body does not index out of range. -/
theorem indexedInHello_eq (body : Bytes) :
    indexedInHello body = lift (sniInHello body) := by
  unfold indexedInHello sniInHello
  apply lift_bind
  intro sidLen _
  apply lift_bind
  intro csPair hcs
  rw [index16_of_lt (by have := slice?_length hcs; omega), pure_bind]
  apply lift_bind
  intro cmLen _
  apply lift_bind
  intro extPair hext
  rw [index16_of_lt (by have := slice?_length hext; omega), pure_bind]
  apply lift_bind
  intro extensions _
  exact indexedScan_eq _ _ _ _

/-- Every index is in range but those of a handshake header that the record
body is too short for. -/
theorem indexed_eq (data : Bytes) :
    (indexedFindSniBoundary data).run = findSniBoundary data := by
  unfold indexedFindSniBoundary findSniBoundary
  split
  case h_1 contentType v0 v1 l0 l1 rest =>
    have hheader : getRange (contentType :: v0 :: v1 :: l0 :: l1 :: rest) 0 5
        = pure [contentType, v0, v1, l0, l1] :=
      congrArg lift (slice?_append [] [contentType, v0, v1, l0, l1] rest
        rfl rfl)
    have htype : index [contentType, v0, v1, l0, l1] 0
        = pure contentType := rfl
    have hlen : index16 [contentType, v0, v1, l0, l1] 3
        = pure (be16 l0 l1) := rfl
    rw [hheader, pure_bind, htype, pure_bind]
    by_cases hhandshake : contentType = 0x16
    · rw [if_neg (not_not_intro hhandshake), if_neg (not_not_intro hhandshake),
        hlen, pure_bind, getRange_eq]
      cases hbody : slice? (contentType :: v0 :: v1 :: l0 :: l1 :: rest) 5
          (5 + be16 l0 l1) with
      | none => rfl
      | some recordBody =>
          show OptionT.run (if recordBody.head? ≠ some 0x01 then failure
            else _) = _
          by_cases hhello : recordBody.head? = some 0x01
          · rw [if_neg (not_not_intro hhello)]
            simp only [hhello, ne_eq, not_true_eq_false, if_false]
            rcases recordBody with _ | ⟨x, _ | ⟨a, _ | ⟨b, _ | ⟨c, r⟩⟩⟩⟩
            · cases hhello
            · rfl
            · rfl
            · rfl
            · have ha : index (x :: a :: b :: c :: r) 1 = pure a := rfl
              have hb : index (x :: a :: b :: c :: r) 2 = pure b := rfl
              have hc : index (x :: a :: b :: c :: r) 3 = pure c := rfl
              rw [ha, pure_bind, hb, pure_bind, hc, pure_bind, getRange_eq,
                lift_bind _ _ _ fun body _ => indexedInHello_eq body]
              rfl
          · rw [if_pos hhello]
            simp only [hhello, ne_eq, not_false_eq_true, if_true]
            rfl
    · rw [if_pos hhandshake, if_pos hhandshake]
      rfl
  case h_2 hshort =>
    have hnone : slice? data 0 5 = none := by
      rw [slice?, if_neg]
      rintro ⟨-, hlen⟩
      rcases data with _ | ⟨t, _ | ⟨v0, _ | ⟨v1, _ | ⟨l0, _ | ⟨l1, r⟩⟩⟩⟩⟩
      iterate 5 exact absurd hlen (by simp)
      exact hshort t v0 v1 l0 l1 r rfl
    rw [getRange_eq, hnone]
    rfl

-- ====================================================== the record layer

/-- The payload starts with a complete handshake record. -/
def HandshakeRecord (data recordVersion body behind : Bytes) : Prop :=
  data = [0x16] ++ (recordVersion ++ (vec 2 body ++ behind))
    ∧ recordVersion.length = 2 ∧ body.length < 65536

/-- A complete handshake record whose body starts a ClientHello and ends
inside the four bytes of its header. -/
def CutHello (data : Bytes) : Prop :=
  ∃ recordVersion body behind, HandshakeRecord data recordVersion body behind
    ∧ body.head? = some 0x01 ∧ body.length < 4

/-- The walk, once the record layer is off. -/
theorem HandshakeRecord.walk {data recordVersion body behind : Bytes}
    (h : HandshakeRecord data recordVersion body behind) :
    findSniBoundary data
      = if body.head? ≠ some 0x01 then .ok none
        else if body.length < 4 then .error .indexOutOfBounds
        else .ok ((slice? body 4 (4 + be24 (body.getD 1 0) (body.getD 2 0)
          (body.getD 3 0))).bind sniInHello) := by
  obtain ⟨rfl, hversion, hbody⟩ := h
  obtain ⟨v0, v1, rfl⟩ := eq_pair_of_length hversion
  have hlen := be16_toBe16 body.length
  rw [Nat.mod_eq_of_lt hbody] at hlen
  have hslice : slice? ([0x16] ++ ([v0, v1] ++ (vec 2 body ++ behind))) 5
      (5 + be16 (body.length / 256).toUInt8 body.length.toUInt8)
        = some body := by
    rw [hlen]
    exact slice?_content ([0x16] ++ [v0, v1]) body behind rfl rfl
  have hdata : [0x16] ++ ([v0, v1] ++ (vec 2 body ++ behind))
      = 0x16 :: v0 :: v1 :: (body.length / 256).toUInt8
        :: body.length.toUInt8 :: (body ++ behind) := by
    rw [vec, beBytes_two]
    rfl
  rw [hdata] at hslice ⊢
  unfold findSniBoundary
  simp only [hslice, ne_eq, not_true_eq_false, if_false]
  by_cases hfirst : body.head? = some 0x01
  · rw [if_neg (not_not_intro hfirst), if_neg (not_not_intro hfirst)]
    rcases body with _ | ⟨x, _ | ⟨a, _ | ⟨b, _ | ⟨c, rest⟩⟩⟩⟩
    · cases hfirst
    · rfl
    · rfl
    · rfl
    · rw [if_neg (by simp only [List.length_cons]; omega)]
      rfl
  · rw [if_pos hfirst, if_pos hfirst]

/-- Nothing else is walked. -/
theorem findSniBoundary_none {data : Bytes}
    (h : ∀ recordVersion body behind,
      ¬ HandshakeRecord data recordVersion body behind) :
    findSniBoundary data = .ok none := by
  unfold findSniBoundary
  split
  case h_1 contentType v0 v1 l0 l1 rest =>
    by_cases hhandshake : contentType = 0x16
    · subst hhandshake
      rw [if_neg (not_not_intro rfl)]
      cases hbody : slice? (0x16 :: v0 :: v1 :: l0 :: l1 :: rest) 5
          (5 + be16 l0 l1) with
      | none => rfl
      | some recordBody =>
          exfalso
          obtain ⟨-, hroom⟩ := slice?_length hbody
          simp only [List.length_cons] at hroom
          have hfield := beNat_pair l0 l1
          obtain ⟨body, behind, hvec, -, hlt⟩ := @exists_vec [l0, l1] rest 2
            rfl (by omega)
          refine h [v0, v1] body behind ⟨?_, rfl, hlt⟩
          rw [← hvec]
          rfl
    · rw [if_pos hhandshake]
  case h_2 => rfl

/-- The walker panics on the cut ClientHellos, and on nothing else. -/
theorem findSniBoundary_error_iff (data : Bytes) :
    (∃ p, findSniBoundary data = .error p) ↔ CutHello data := by
  constructor
  · rintro ⟨p, herror⟩
    by_cases hrecord : ∃ recordVersion body behind,
        HandshakeRecord data recordVersion body behind
    · obtain ⟨recordVersion, body, behind, h⟩ := hrecord
      refine ⟨recordVersion, body, behind, h, ?_⟩
      rw [h.walk] at herror
      by_cases hfirst : body.head? = some 0x01
      · refine ⟨hfirst, ?_⟩
        by_cases hshort : body.length < 4
        · exact hshort
        · rw [if_neg (not_not_intro hfirst), if_neg hshort] at herror
          cases herror
      · rw [if_pos hfirst] at herror
        cases herror
    · rw [findSniBoundary_none fun recordVersion body behind h =>
        hrecord ⟨recordVersion, body, behind, h⟩] at herror
      cases herror
  · rintro ⟨recordVersion, body, behind, h, hfirst, hshort⟩
    exact ⟨.indexOutOfBounds, by
      rw [h.walk, if_neg (not_not_intro hfirst), if_pos hshort]⟩

/-- The walker answers `Some` or `None`, every index of it in range, exactly
on the payloads that are no record with a cut ClientHello. -/
theorem findSniBoundary_answers_iff (data : Bytes) :
    (∃ b, (indexedFindSniBoundary data).run = .ok b) ↔ ¬ CutHello data := by
  rw [indexed_eq, ← findSniBoundary_error_iff]
  cases hwalk : findSniBoundary data with
  | ok b =>
      refine ⟨?_, fun _ => ⟨b, rfl⟩⟩
      rintro - ⟨p, h⟩
      cases h
  | error p =>
      refine ⟨?_, fun h => absurd ⟨p, rfl⟩ h⟩
      rintro ⟨b, h⟩
      cases h

/-- A record of one byte, the type of a ClientHello. -/
theorem findSniBoundary_cut :
    ¬ ∃ b, (indexedFindSniBoundary [0x16, 0x03, 0x01, 0x00, 0x01, 0x01]).run
      = .ok b := by
  rintro ⟨b, hb⟩
  have hpanic : findSniBoundary [0x16, 0x03, 0x01, 0x00, 0x01, 0x01]
      = .error .indexOutOfBounds := by decide
  rw [indexed_eq, hpanic] at hb
  cases hb

-- ===================================================== reading a vector

/-- The walk reads a field of two bytes byte by byte. -/
theorem be16_field {field : Bytes} (h : field.length = 2) :
    be16 (field.getD 0 0) (field.getD 1 0) = beNat field := by
  obtain ⟨a, b, rfl⟩ := eq_pair_of_length h
  exact (beNat_pair a b).symm

theorem be16_beBytes {n : Nat} (h : n < 65536) :
    be16 ((beBytes 2 n).getD 0 0) ((beBytes 2 n).getD 1 0) = n := by
  rw [be16_field (length_beBytes 2 n)]
  exact beNat_beBytes h

/-- A field of two bytes at the end of a front, with room for what it
announces. -/
theorem vec16_of_walk {l front tail field : Bytes} {lo : Nat}
    (hl : l = front ++ tail) (hlo : front.length = lo)
    (hfield : slice? l lo (lo + 2) = some field)
    (hroom : lo + 2 + be16 (field.getD 0 0) (field.getD 1 0) ≤ l.length) :
    ∃ content back, tail = vec 2 content ++ back
      ∧ content.length = be16 (field.getD 0 0) (field.getD 1 0)
      ∧ content.length < 65536 := by
  have hfieldLen := (slice?_length hfield).1
  rw [be16_field (by omega)] at hroom ⊢
  exact vec_of_slice hl hlo hfield hroom

/-- The same where the walk takes the content out. -/
theorem content_of_walk {l front tail field content : Bytes} {lo : Nat}
    (hl : l = front ++ tail) (hlo : front.length = lo)
    (hfield : slice? l lo (lo + 2) = some field)
    (hcontent : slice? l (lo + 2)
      (lo + 2 + be16 (field.getD 0 0) (field.getD 1 0)) = some content) :
    ∃ back, tail = vec 2 content ++ back
      ∧ content.length = be16 (field.getD 0 0) (field.getD 1 0)
      ∧ content.length < 65536 := by
  obtain ⟨content', back, rfl, hlen, hlt⟩ := vec16_of_walk hl hlo hfield
    (slice?_length hcontent).2
  have hread := @slice?_content 2 front content' back (lo + 2)
    (lo + 2 + content'.length) (by rw [hlo]) rfl
  rw [← hl, hlen, hcontent] at hread
  obtain rfl := Option.some.inj hread
  exact ⟨back, rfl, hlen, hlt⟩

/-- A field of one byte at the end of a front, with room for what it
announces. -/
theorem vec8_of_walk {l front tail : Bytes} {b : UInt8} {lo : Nat}
    (hl : l = front ++ tail) (hlo : front.length = lo)
    (hfield : l[lo]? = some b) (hroom : lo + 1 + b.toNat ≤ l.length) :
    ∃ content back, tail = vec 1 content ++ back
      ∧ content.length = b.toNat ∧ content.length < 256 := by
  subst hl hlo
  rw [List.getElem?_append_right (Nat.le_refl _), Nat.sub_self] at hfield
  rcases tail with _ | ⟨a, tail⟩
  · cases hfield
  · obtain rfl : a = b := by simpa using hfield
    simp only [List.length_append, List.length_cons] at hroom
    have hbyte := beNat_singleton a
    obtain ⟨content, back, hvec, hlen, hlt⟩ := @exists_vec [a] tail 1 rfl
      (by omega)
    exact ⟨content, back, hvec, hlen.trans hbyte, hlt⟩

/-- Two bytes read by index are a field. -/
theorem slice?_pair {l : Bytes} {i : Nat} (h : i + 2 ≤ l.length) :
    slice? l i (i + 2) = some [l.getD i 0, l.getD (i + 1) 0] := by
  have hdrop : l.drop i = l.getD i 0 :: l.getD (i + 1) 0 :: l.drop (i + 2) := by
    rw [List.drop_eq_getElem_cons (by omega),
      List.drop_eq_getElem_cons (by omega)]
    simp only [List.getD_eq_getElem?_getD,
      List.getElem?_eq_getElem (show i < l.length by omega),
      List.getElem?_eq_getElem (show i + 1 < l.length by omega),
      Option.getD_some]
  rw [slice?, if_pos ⟨Nat.le_add_right _ _, h⟩, hdrop,
    Nat.add_sub_cancel_left]
  rfl

/-- Two bytes read by index, where a number was written. -/
theorem be16_of_slice {l : Bytes} {i n : Nat}
    (h : slice? l i (i + 2) = some (beBytes 2 n)) (hn : n < 65536) :
    be16 (l.getD i 0) (l.getD (i + 1) 0) = n := by
  have hroom := (slice?_length h).2
  rw [slice?_pair hroom] at h
  rw [← beNat_pair, Option.some.inj h]
  exact beNat_beBytes hn

/-- Two bytes read by index at the end of a front. -/
theorem pair_of_walk {l front tail : Bytes} {i : Nat}
    (hl : l = front ++ tail) (hlo : front.length = i)
    (hroom : i + 2 ≤ l.length) :
    ∃ rest, tail = beBytes 2 (be16 (l.getD i 0) (l.getD (i + 1) 0)) ++ rest := by
  obtain ⟨front', rest, hl', hlo', -⟩ := slice?_eq_some (slice?_pair hroom)
  obtain ⟨-, rfl⟩ := List.append_inj (hl.symm.trans hl') (by omega)
  refine ⟨rest, ?_⟩
  rw [← beNat_pair]
  exact congrArg (· ++ rest) (beBytes_beNat [_, _]).symm

/-- The length byte of a vector behind a front. -/
theorem getElem?_field (front content back : Bytes) {lo : Nat}
    (hlo : lo = front.length) :
    (front ++ (vec 1 content ++ back))[lo]?
      = some content.length.toUInt8 := by
  rw [hlo, List.getElem?_append_right (Nat.le_refl _), Nat.sub_self, vec,
    beBytes_one]
  rfl

-- ======================================================== the host name

namespace ClientHello

/-- The walk finds a host name in the content of an extension exactly where
the content starts with one. -/
theorem serverName_sound {extData : Bytes} {headerStart : Nat}
    {b : SniBoundary} (h : serverName extData headerStart = some b) :
    ∃ names : ServerNames, extData = names.encode
      ∧ b = ⟨headerStart + 4, headerStart + 9, names.hostName.length⟩ := by
  simp only [serverName, Option.bind_eq_bind, Option.bind_eq_some_iff] at h
  obtain ⟨listPair, hpair, list, hlist, h⟩ := h
  obtain ⟨behindList, hvec, hlen, -⟩ := content_of_walk
    (List.nil_append extData).symm rfl hpair hlist
  by_cases hhead : list.head? = some 0x00
  · obtain ⟨tail, rfl⟩ := List.head?_eq_some_iff.mp hhead
    simp only [hhead, ne_eq, not_true_eq_false, if_false,
      Option.bind_eq_some_iff] at h
    obtain ⟨namePair, hname, h⟩ := h
    by_cases hempty : be16 (namePair.getD 0 0) (namePair.getD 1 0) = 0
    · rw [if_pos hempty] at h
      cases h
    · rw [if_neg hempty, Option.bind_eq_some_iff] at h
      obtain ⟨_, hnameRoom, hb⟩ := h
      have hnameRoom := (slice?_length hnameRoom).2
      obtain ⟨hostName, moreNames, rfl, hnameLen, -⟩ := @vec16_of_walk
        (0x00 :: tail) [0x00] tail namePair 1 rfl rfl hname hnameRoom
      refine ⟨⟨hostName, moreNames, behindList, ?_⟩, hvec, ?_⟩
      · rintro rfl
        exact hempty hnameLen.symm
      · rw [← Option.some.inj hb, hnameLen]
  · simp only [hhead, ne_eq, not_false_eq_true, if_true] at h
    cases h

/-- A name that was encoded is found. -/
theorem serverName_encode (names : ServerNames) (headerStart : Nat)
    (hlist : names.list.length < 65536) :
    serverName names.encode headerStart
      = some ⟨headerStart + 4, headerStart + 9, names.hostName.length⟩ := by
  have hnameLt : names.hostName.length < 65536 := by
    simp only [ServerNames.list, List.length_append, length_vec] at hlist
    omega
  have hpair := @slice?_field 2 [] names.list names.behindList 0 2 rfl rfl
  have hcontent := @slice?_content 2 [] names.list names.behindList 2
    (2 + names.list.length) rfl rfl
  have hname := @slice?_field 2 [0x00] names.hostName names.moreNames 1 3
    rfl rfl
  have hrest := @slice?_content 2 [0x00] names.hostName names.moreNames 3
    (3 + names.hostName.length) rfl rfl
  have hhead : names.list.head? = some 0x00 := rfl
  have hpos : names.hostName.length ≠ 0 := fun h =>
    names.hostName_ne (List.length_eq_zero_iff.mp h)
  rw [List.nil_append] at hpair hcontent
  unfold serverName ServerNames.encode
  rw [hpair]
  simp only [Option.bind_eq_bind, Option.bind_some, be16_beBytes hlist,
    hcontent, hhead, ne_eq, not_true_eq_false, if_false]
  rw [ServerNames.list, hname]
  simp only [Option.bind_some, be16_beBytes hnameLt, hpos, if_false]
  rw [hrest]
  rfl

-- ==================================================== the extension list

/-- One turn of the scan reads one extension. -/
theorem extension_of_walk {l front tail extData : Bytes} {e : Nat}
    (hl : l = front ++ tail) (hlo : front.length = e)
    (hroom : e + 4 ≤ l.length)
    (hdata : slice? l (e + 4) (e + 4 + be16 (l.getD (e + 2) 0)
      (l.getD (e + 3) 0)) = some extData) :
    ∃ (x : Extension) (rest : Bytes), tail = x.encode ++ rest
      ∧ x.type = be16 (l.getD e 0) (l.getD (e + 1) 0) ∧ x.data = extData := by
  obtain ⟨tail, rfl⟩ := pair_of_walk hl hlo (by omega)
  have htype := be16_lt (l.getD e 0) (l.getD (e + 1) 0)
  generalize be16 (l.getD e 0) (l.getD (e + 1) 0) = type at hl htype ⊢
  rw [← List.append_assoc] at hl
  have hcursor : (front ++ beBytes 2 type).length = e + 2 := by
    rw [List.length_append, length_beBytes, hlo]
  obtain ⟨rest, rfl, -, hlt⟩ := content_of_walk hl hcursor
    (slice?_pair (by omega)) hdata
  refine ⟨⟨type, extData, htype, hlt⟩, rest, ?_, rfl, rfl⟩
  rw [Extension.encode, List.append_assoc]

/-- What the scan from a cursor finds: extensions of other types, then a
`server_name` one. -/
theorem scanExtensions_sound {extensions front tail : Bytes}
    {base fuel e : Nat} {b : SniBoundary} (hl : extensions = front ++ tail)
    (hlo : front.length = e)
    (h : scanExtensions extensions base fuel e = some b) :
    ∃ earlier content rest, tail = encodeAll earlier
        ++ (beBytes 2 serverNameType ++ (vec 2 content ++ rest))
      ∧ (∀ x ∈ earlier, x.type ≠ serverNameType)
      ∧ serverName content (base + e + (encodeAll earlier).length)
        = some b := by
  induction fuel generalizing front tail e with
  | zero => cases h
  | succ fuel ih =>
      rw [scanExtensions] at h
      by_cases hroom : extensions.length < e + 4
      · rw [if_pos hroom] at h
        cases h
      · rw [if_neg hroom] at h
        simp only [Option.bind_eq_bind, Option.bind_eq_some_iff] at h
        obtain ⟨extData, hdata, h⟩ := h
        obtain ⟨x, tail, rfl, hx, rfl⟩ := extension_of_walk hl hlo (by omega)
          hdata
        have hlen := (slice?_length hdata).1
        rw [← hx] at h
        by_cases htype : x.type = 0x0000
        · rw [if_pos htype] at h
          refine ⟨[], x.data, tail, ?_, by simp, h⟩
          rw [Extension.encode, htype, List.append_assoc]
          rfl
        · rw [if_neg htype] at h
          rw [← List.append_assoc] at hl
          obtain ⟨earlier, content, rest, rfl, hother, hname⟩ := ih hl
            (by rw [List.length_append, Extension.length_encode]; omega) h
          refine ⟨x :: earlier, content, rest, ?_, ?_, ?_⟩
          · rw [encodeAll_cons, List.append_assoc]
          · intro y hy
            rcases List.mem_cons.mp hy with rfl | hy
            · exact htype
            · exact hother y hy
          · rw [← hname, encodeAll_cons, List.length_append,
              Extension.length_encode]
            congr 1
            omega

/-- The header of an extension behind a front, read by index, and its
content. -/
theorem Extension.reads (x : Extension) (front rest : Bytes) :
    be16 ((front ++ (x.encode ++ rest)).getD front.length 0)
        ((front ++ (x.encode ++ rest)).getD (front.length + 1) 0) = x.type
    ∧ be16 ((front ++ (x.encode ++ rest)).getD (front.length + 2) 0)
        ((front ++ (x.encode ++ rest)).getD (front.length + 3) 0)
      = x.data.length
    ∧ slice? (front ++ (x.encode ++ rest)) (front.length + 4)
        (front.length + 4 + x.data.length) = some x.data := by
  have hassoc : front ++ (x.encode ++ rest)
      = (front ++ beBytes 2 x.type) ++ (vec 2 x.data ++ rest) := by
    simp only [Extension.encode, List.append_assoc]
  have hcursor : (front ++ beBytes 2 x.type).length = front.length + 2 := by
    rw [List.length_append, length_beBytes]
  refine ⟨?_, ?_, ?_⟩
  · refine be16_of_slice ?_ x.type_lt
    rw [hassoc, List.append_assoc]
    exact slice?_append _ _ _ rfl (by rw [length_beBytes])
  · refine be16_of_slice ?_ x.data_lt
    rw [hassoc]
    exact slice?_field _ _ _ hcursor.symm rfl
  · rw [hassoc]
    exact slice?_content _ _ _ (by rw [hcursor]) rfl

/-- One turn of the scan at the head of an extension. -/
theorem scanExtensions_step (x : Extension) (front rest : Bytes)
    (base fuel : Nat) :
    scanExtensions (front ++ (x.encode ++ rest)) base (fuel + 1) front.length
      = if x.type = serverNameType then
          serverName x.data (base + front.length)
        else scanExtensions (front ++ (x.encode ++ rest)) base fuel
          (front.length + x.encode.length) := by
  have hroom : ¬ (front ++ (x.encode ++ rest)).length
      < front.length + 4 := by
    simp only [List.length_append, Extension.length_encode]
    omega
  obtain ⟨htype, hlen, hdata⟩ := x.reads front rest
  rw [scanExtensions, if_neg hroom, htype, hlen]
  simp only [hdata, Option.bind_eq_bind, Option.bind_some]
  rw [Extension.length_encode, ← Nat.add_assoc]
  rfl

/-- The scan steps over the extensions of other types. -/
theorem scanExtensions_encode (earlier : List Extension)
    (hother : ∀ x ∈ earlier, x.type ≠ serverNameType)
    (x : Extension) (hx : x.type = serverNameType)
    (front rest : Bytes) (base : Nat) {fuel e : Nat}
    (hfuel : earlier.length < fuel) (he : e = front.length) :
    scanExtensions (front ++ (encodeAll earlier ++ (x.encode ++ rest)))
        base fuel e
      = serverName x.data (base + e + (encodeAll earlier).length) := by
  subst he
  induction earlier generalizing front fuel with
  | nil =>
      obtain ⟨fuel, rfl⟩ : ∃ k, fuel = k + 1 :=
        ⟨fuel - 1, by simp only [List.length_nil] at hfuel; omega⟩
      rw [encodeAll_nil, List.nil_append, scanExtensions_step, if_pos hx]
      rfl
  | cons y earlier ih =>
      obtain ⟨fuel, rfl⟩ : ∃ k, fuel = k + 1 :=
        ⟨fuel - 1, by simp only [List.length_cons] at hfuel; omega⟩
      have hy : y.type ≠ serverNameType := hother y List.mem_cons_self
      have hrest := ih (fun z hz => hother z (List.mem_cons_of_mem y hz))
        (front ++ y.encode) (Nat.lt_of_succ_lt_succ hfuel)
      rw [encodeAll_cons, List.append_assoc, scanExtensions_step, if_neg hy,
        ← List.append_assoc, ← List.length_append, hrest]
      congr 1
      simp only [List.length_append]
      omega

-- ========================================================= the message

/-- A message whose first fields can be read starts with fields. -/
theorem fields_of_walk {message csPair : Bytes} {sidLen cmLen : UInt8}
    (hsid : message[34]? = some sidLen)
    (hcs : slice? message (35 + sidLen.toNat) (35 + sidLen.toNat + 2)
      = some csPair)
    (hcm : message[35 + sidLen.toNat
      + (2 + be16 (csPair.getD 0 0) (csPair.getD 1 0))]? = some cmLen)
    (hroom : 35 + sidLen.toNat
      + (2 + be16 (csPair.getD 0 0) (csPair.getD 1 0)) + (1 + cmLen.toNat)
        ≤ message.length) :
    ∃ (fields : Fields) (tail : Bytes), message = fields.encode ++ tail
      ∧ fields.encode.length = 35 + sidLen.toNat
        + (2 + be16 (csPair.getD 0 0) (csPair.getD 1 0))
        + (1 + cmLen.toNat) := by
  have hrandom : ((message.take 34).drop 2).length = 32 := by
    rw [List.length_drop, List.length_take]
    omega
  have hversion : ((message.take 34).take 2).length = 2 := by
    rw [List.length_take, List.length_take]
    omega
  have hfixed : message = ((message.take 34).take 2
      ++ (message.take 34).drop 2) ++ message.drop 34 := by
    rw [List.take_append_drop, List.take_append_drop]
  generalize (message.take 34).take 2 = version at hfixed hversion
  generalize (message.take 34).drop 2 = random at hfixed hrandom
  generalize message.drop 34 = tail at hfixed
  have hfront : (version ++ random).length = 34 := by
    rw [List.length_append, hversion, hrandom]
  obtain ⟨sessionId, tail, rfl, hsidLen, hsidLt⟩ := vec8_of_walk hfixed hfront
    hsid (by omega)
  rw [← List.append_assoc] at hfixed
  obtain ⟨cipherSuites, tail, rfl, hcsLen, hcsLt⟩ := vec16_of_walk hfixed
    (by rw [List.length_append, length_vec]; omega) hcs (by omega)
  rw [← List.append_assoc] at hfixed
  obtain ⟨compressionMethods, tail, rfl, hcmLen, hcmLt⟩ := vec8_of_walk hfixed
    (by simp only [List.length_append, length_vec] at *; omega) hcm (by omega)
  refine ⟨⟨version, random, sessionId, cipherSuites, compressionMethods,
    hversion, hrandom, hsidLt, hcsLt, hcmLt⟩, tail, ?_, ?_⟩
  · rw [hfixed, Fields.encode]
    simp only [List.append_assoc]
  · simp only [Fields.encode, List.length_append, length_vec] at *
    omega

theorem Fields.length_encode (fields : Fields) :
    fields.encode.length = 35 + fields.sessionId.length
      + (2 + fields.cipherSuites.length)
      + (1 + fields.compressionMethods.length) := by
  simp only [Fields.encode, List.length_append, length_vec,
    fields.version_length, fields.random_length]
  omega

/-- The three length fields in front of the extension block. -/
theorem Fields.reads (fields : Fields) (tail : Bytes) :
    (fields.encode ++ tail)[34]? = some fields.sessionId.length.toUInt8
    ∧ slice? (fields.encode ++ tail) (35 + fields.sessionId.length)
        (35 + fields.sessionId.length + 2)
      = some (beBytes 2 fields.cipherSuites.length)
    ∧ (fields.encode ++ tail)[35 + fields.sessionId.length
        + (2 + fields.cipherSuites.length)]?
      = some fields.compressionMethods.length.toUInt8 := by
  obtain ⟨version, random, sessionId, cipherSuites, compressionMethods,
    hversion, hrandom, hsid, hcs, hcm⟩ := fields
  have hfixed : Fields.encode ⟨version, random, sessionId, cipherSuites,
      compressionMethods, hversion, hrandom, hsid, hcs, hcm⟩ ++ tail
        = (version ++ random) ++ (vec 1 sessionId ++ (vec 2 cipherSuites
          ++ (vec 1 compressionMethods ++ tail))) := by
    simp only [Fields.encode, List.append_assoc]
  refine ⟨?_, ?_, ?_⟩
  · rw [hfixed]
    refine getElem?_field _ _ _ ?_
    rw [List.length_append, hversion, hrandom]
  · rw [hfixed, ← List.append_assoc]
    refine slice?_field _ _ _ ?_ rfl
    simp only [List.length_append, length_vec]
    omega
  · rw [hfixed, ← List.append_assoc, ← List.append_assoc]
    refine getElem?_field _ _ _ ?_
    simp only [List.length_append, length_vec]
    omega

/-- What the walk of a message reads before it comes to the extensions. -/
theorem sniInHello_sound {message : Bytes} {b : SniBoundary}
    (h : sniInHello message = some b) :
    ∃ (fields : Fields) (block behind : Bytes),
      message = fields.encode ++ (vec 2 block ++ behind)
        ∧ block.length < 65536
        ∧ scanExtensions block (11 + fields.encode.length)
          (block.length + 1) 0 = some b := by
  simp only [sniInHello, Option.bind_eq_bind, Option.bind_eq_some_iff] at h
  obtain ⟨sidLen, hsid, csPair, hcs, cmLen, hcm, extPair, hext, block,
    hblock, h⟩ := h
  have hroom := (slice?_length hext).2
  obtain ⟨fields, tail, rfl, hoff⟩ := fields_of_walk hsid hcs hcm
    (Nat.le_trans (Nat.le_add_right _ 2) hroom)
  obtain ⟨behind, rfl, -, hblockLt⟩ := content_of_walk rfl hoff hext hblock
  refine ⟨fields, block, behind, rfl, hblockLt, ?_⟩
  rw [← h, hoff]
  congr 1
  omega

/-- A length byte reads back. -/
theorem toNat_toUInt8 {n : Nat} (h : n < 256) : n.toUInt8.toNat = n :=
  Nat.mod_eq_of_lt h

/-- The walk of a message that starts with its fields and its block. -/
theorem sniInHello_encode (fields : Fields) {block : Bytes}
    (hblock : block.length < 65536) (behind : Bytes) :
    sniInHello (fields.encode ++ (vec 2 block ++ behind))
      = scanExtensions block (11 + fields.encode.length)
        (block.length + 1) 0 := by
  obtain ⟨hsid, hcs, hcm⟩ := fields.reads (vec 2 block ++ behind)
  have hoff := fields.length_encode
  have hblockAt := slice?_field (w := 2) _ block behind hoff.symm rfl
  have hcontent := slice?_content (w := 2) _ block behind
    (congrArg (· + 2) hoff.symm) rfl
  unfold sniInHello
  simp only [hsid, Option.bind_eq_bind, Option.bind_some,
    toNat_toUInt8 fields.sessionId_lt, hcs,
    be16_beBytes fields.cipherSuites_lt, hcm,
    toNat_toUInt8 fields.compressionMethods_lt, hblockAt,
    be16_beBytes hblock, hcontent]
  congr 1
  omega

-- ========================================================= the payload

namespace LocatedParts

variable (l : LocatedParts)

/-- The payload up to its first host name; lengths are all it has of what
follows. -/
def beforeName : Bytes :=
  [0x16] ++ (l.recordVersion ++ (beBytes 2 l.body.length ++ ([0x01]
    ++ (beBytes 3 l.message.length ++ (l.fields.encode
      ++ (beBytes 2 l.block.length ++ (encodeAll l.earlier
        ++ (beBytes 2 serverNameType ++ (beBytes 2 l.names.encode.length
          ++ (beBytes 2 l.names.list.length ++ ([0x00]
            ++ beBytes 2 l.names.hostName.length)))))))))))

/-- The payload behind its first host name. -/
def behindName : Bytes :=
  l.names.moreNames ++ (l.names.behindList ++ (l.laterExtensions
    ++ (l.behindExtensions ++ (l.behindMessage ++ l.behindRecord))))

theorem encode_split :
    l.encode = l.beforeName ++ (l.names.hostName ++ l.behindName) := by
  simp only [encode, body, message, block, beforeName, behindName,
    ServerNames.encode, ServerNames.list, vec, List.append_assoc]

end LocatedParts

namespace Located

variable (l : Located)

/-- The offset of the `server_name` extension in the payload: behind the
two headers, the fields, the block's length and the earlier extensions. -/
def extensionStart : Nat :=
  11 + l.fields.encode.length + (encodeAll l.earlier).length

/-- Where the host name sits, as the source gives it. -/
def boundary : SniBoundary where
  extLenFieldEnd := l.extensionStart + 4
  nameStart := l.extensionStart + 9
  nameLen := l.names.hostName.length

/-- The record of the located name. -/
theorem record :
    HandshakeRecord l.encode l.recordVersion l.body l.behindRecord :=
  ⟨rfl, l.recordVersion_length, l.body_lt⟩

theorem serverNameType_lt : serverNameType < 65536 := by decide

theorem names_lt : l.names.encode.length < 65536 := by
  have hbody := l.body_lt
  simp only [LocatedParts.body, LocatedParts.message, LocatedParts.block,
    List.length_append, length_vec, length_beBytes] at hbody
  omega

/-- The `server_name` extension. -/
def extension : Extension where
  type := serverNameType
  data := l.names.encode
  type_lt := serverNameType_lt
  data_lt := l.names_lt

theorem block_eq :
    l.block = encodeAll l.earlier
      ++ (l.extension.encode ++ l.laterExtensions) := by
  rw [LocatedParts.block, extension, Extension.encode, List.append_assoc]

/-- How long the parts are. -/
theorem length_body :
    l.body.length = 6 + l.fields.encode.length + l.block.length
      + l.behindExtensions.length + l.behindMessage.length := by
  simp only [LocatedParts.body, LocatedParts.message, List.length_append,
    length_vec, List.length_singleton]
  omega

theorem length_names : l.names.encode.length = 5 + l.names.hostName.length
    + l.names.moreNames.length + l.names.behindList.length := by
  simp only [ServerNames.encode, ServerNames.list, List.length_append,
    length_vec, List.length_singleton]
  omega

theorem length_block : l.block.length = (encodeAll l.earlier).length + 9
    + l.names.hostName.length + l.names.moreNames.length
    + l.names.behindList.length + l.laterExtensions.length := by
  rw [block_eq, List.length_append, List.length_append,
    Extension.length_encode]
  show _ + (4 + l.names.encode.length + _) = _
  rw [length_names]
  omega

end Located

/-- The length of the message, read by index. -/
theorem slice?_triple {l : Bytes} (h : 4 ≤ l.length) :
    slice? l 1 4 = some [l.getD 1 0, l.getD 2 0, l.getD 3 0] := by
  rcases l with _ | ⟨x, _ | ⟨a, _ | ⟨b, _ | ⟨c, r⟩⟩⟩⟩
  iterate 4 exact absurd h (by simp)
  exact slice?_append [x] [a, b, c] r rfl rfl

/-- A record body that a message starts in. -/
theorem message_of_body (message behind : Bytes)
    (hlt : message.length < 2 ^ 24) {body : Bytes}
    (hbody : body = [0x01] ++ (vec 3 message ++ behind)) :
    slice? body 4 (4 + be24 (body.getD 1 0) (body.getD 2 0)
      (body.getD 3 0)) = some message := by
  have hroom : 4 ≤ body.length := by
    simp only [hbody, List.length_append, length_vec, List.length_singleton]
    omega
  have hfield := @slice?_field 3 [0x01] message behind 1 4 rfl rfl
  rw [← hbody, slice?_triple hroom] at hfield
  have hlen : be24 (body.getD 1 0) (body.getD 2 0) (body.getD 3 0)
      = message.length := by
    rw [← beNat_triple, Option.some.inj hfield]
    exact beNat_beBytes hlt
  rw [hlen, hbody]
  exact slice?_content (w := 3) [0x01] message behind rfl rfl

/-- The message in the body of the record. -/
theorem body_of_message {body message : Bytes} (hroom : 4 ≤ body.length)
    (hhead : body.head? = some 0x01)
    (h : slice? body 4 (4 + be24 (body.getD 1 0) (body.getD 2 0)
      (body.getD 3 0)) = some message) :
    ∃ behind, body = [0x01] ++ (vec 3 message ++ behind) := by
  obtain ⟨tail, rfl⟩ := List.head?_eq_some_iff.mp hhead
  have hread := (slice?_length h).2
  rw [← beNat_triple] at h hread
  obtain ⟨content, behind, rfl, hlen, -⟩ := @vec_of_slice [0x01] _ tail 3
    (0x01 :: tail) 1 rfl rfl (slice?_triple hroom) hread
  have hcontent := @slice?_content 3 [0x01] content behind 4
    (4 + content.length) rfl rfl
  rw [← hlen] at h
  obtain rfl := Option.some.inj (hcontent.symm.trans h)
  exact ⟨behind, rfl⟩

/-- The extensions are at least as many bytes as they are. -/
theorem length_le_encodeAll (es : List Extension) :
    es.length ≤ (encodeAll es).length := by
  induction es with
  | nil => exact Nat.le_refl _
  | cons e es ih =>
      rw [encodeAll_cons, List.length_append, Extension.length_encode,
        List.length_cons]
      omega

/-- The walk goes down a payload that is taken apart. -/
theorem findSniBoundary_located (l : Located) :
    findSniBoundary l.encode = .ok (some l.boundary) := by
  have hbody := l.body_lt
  have hbodyLen := l.length_body
  have hblockLen := l.length_block
  have hhead : l.body.head? = some 0x01 := rfl
  have hmessageLen : l.message.length < 2 ^ 24 := by
    simp only [LocatedParts.message, List.length_append, length_vec]
    omega
  have hearlier := length_le_encodeAll l.earlier
  have hlist : l.names.list.length < 65536 := by
    simp only [ServerNames.list, List.length_append, length_vec,
      List.length_singleton]
    omega
  have hscan := scanExtensions_encode l.earlier l.earlier_ne l.extension rfl
    [] l.laterExtensions (11 + l.fields.encode.length)
    (show l.earlier.length < l.block.length + 1 by omega) rfl
  rw [List.nil_append, ← l.block_eq, List.length_nil, Nat.add_zero] at hscan
  have hmessage := message_of_body l.message l.behindMessage hmessageLen
    (show l.body = _ from rfl)
  rw [l.record.walk, if_neg (not_not_intro hhead), if_neg (by omega),
    hmessage, Option.bind_some, LocatedParts.message,
    sniInHello_encode _ (by omega) _, hscan]
  exact congrArg Except.ok (serverName_encode l.names _ hlist)

/-- What the walk finds is a payload taken apart. -/
theorem exists_located {data : Bytes} {b : SniBoundary}
    (h : findSniBoundary data = .ok (some b)) :
    ∃ l : Located, data = l.encode ∧ b = l.boundary := by
  by_cases hrecord : ∃ recordVersion body behind,
      HandshakeRecord data recordVersion body behind
  · obtain ⟨recordVersion, body, behindRecord, hrecord⟩ := hrecord
    rw [hrecord.walk] at h
    by_cases hhead : body.head? = some 0x01
    · rw [if_neg (not_not_intro hhead)] at h
      by_cases hshort : body.length < 4
      · rw [if_pos hshort] at h
        cases h
      · rw [if_neg hshort] at h
        obtain ⟨message, hmessage, hwalk⟩ :=
          Option.bind_eq_some_iff.mp (Except.ok.inj h)
        obtain ⟨behindMessage, rfl⟩ := body_of_message (by omega) hhead
          hmessage
        obtain ⟨fields, block, behindExtensions, rfl, hblock, hscan⟩ :=
          sniInHello_sound hwalk
        obtain ⟨earlier, content, laterExtensions, rfl, hother, hname⟩ :=
          scanExtensions_sound (List.nil_append block).symm rfl hscan
        obtain ⟨names, rfl, rfl⟩ := serverName_sound hname
        obtain ⟨rfl, hversion, hbody⟩ := hrecord
        exact ⟨⟨⟨recordVersion, fields, earlier, names, laterExtensions,
          behindExtensions, behindMessage, behindRecord, hversion, hother⟩,
          hbody⟩, rfl, rfl⟩
    · rw [if_pos hhead] at h
      cases h
  · rw [findSniBoundary_none fun recordVersion body behind h' =>
      hrecord ⟨recordVersion, body, behind, h'⟩] at h
    cases h

namespace Located

variable (l : Located)

theorem nameLen_pos : 0 < l.boundary.nameLen :=
  List.length_pos_iff.mpr l.names.hostName_ne

/-- Where the name starts. -/
theorem length_beforeName :
    l.beforeName.length = l.boundary.nameStart := by
  simp only [LocatedParts.beforeName, boundary, extensionStart,
    List.length_append, length_beBytes, l.recordVersion_length,
    List.length_singleton]
  omega

/-- The host name is where the boundary says. -/
theorem slice_hostName :
    slice? l.encode l.boundary.nameStart
        (l.boundary.nameStart + l.boundary.nameLen)
      = some l.names.hostName := by
  rw [l.encode_split]
  exact slice?_append _ _ _ l.length_beforeName.symm
    (congrArg (· + _) l.length_beforeName.symm)

/-- The range is the boundary. -/
theorem findSniRange_eq (l : Located) :
    findSniRange l.encode
      = .ok (some (l.boundary.nameStart, l.boundary.nameLen)) := by
  rw [findSniRange, findSniBoundary_located l]
  rfl

/-- And holds the name. -/
theorem take_hostName (l : Located) :
    (l.encode.drop l.boundary.nameStart).take l.boundary.nameLen
      = l.names.hostName := by
  have hname := take_drop_of_slice l.slice_hostName
  rw [List.drop_take, Nat.add_sub_cancel_left] at hname
  exact hname

/-- The host name ends inside the first record, and the record inside the
payload. -/
theorem boundary_le :
    l.boundary.nameStart + l.boundary.nameLen ≤ 5 + l.body.length
      ∧ 5 + l.body.length ≤ l.encode.length := by
  have hbody := l.length_body
  have hblock := l.length_block
  simp only [boundary, extensionStart, LocatedParts.encode,
    List.length_append, length_vec, l.recordVersion_length,
    List.length_singleton]
  omega

end Located

/-- Whatever is found is such a name. -/
theorem located_of_findSniRange {record : Bytes} {start len : Nat}
    (h : findSniRange record = .ok (some (start, len))) :
    ∃ l : Located, record = l.encode ∧ start = l.boundary.nameStart
      ∧ len = l.boundary.nameLen := by
  cases hwalk : findSniBoundary record with
  | error p =>
      rw [findSniRange, hwalk] at h
      cases h
  | ok b =>
      rw [findSniRange, hwalk] at h
      cases b with
      | none => cases h
      | some b =>
          obtain ⟨l, hl, rfl⟩ := exists_located hwalk
          cases h
          exact ⟨l, hl, rfl, rfl⟩

end ClientHello

-- =========================================================== the template

open ClientHello TlsTemplate

/-- A ClientHello from the template is walked to its one name. -/
theorem findSniBoundary_template {random sessionId targetSni keyShare : Bytes}
    (hrandom : random.length = 32) (hsession : sessionId.length = 32)
    (hkey : keyShare.length = 32) (hpos : 1 ≤ targetSni.length)
    (hshort : targetSni.length ≤ Config.maxSniLen) :
    findSniBoundary (clientHello random sessionId targetSni keyShare)
        = .ok (some ⟨122, 127, targetSni.length⟩)
      ∧ slice? (clientHello random sessionId targetSni keyShare) 127
          (127 + targetSni.length) = some targetSni := by
  have hsni : targetSni ≠ [] := List.length_pos_iff.mp hpos
  let l : Located := ⟨templateParts hrandom hsession keyShare hsni, by
    rw [length_templateBody hrandom hsession hkey hsni hshort]
    decide⟩
  have hstart : l.extensionStart = 118 := by
    have hfields : l.fields.encode.length = 107 :=
      length_templateFields hrandom hsession
    rw [Located.extensionStart, hfields]
    rfl
  have hboundary : l.boundary = ⟨122, 127, targetSni.length⟩ := by
    rw [Located.boundary, hstart]
    rfl
  have hhello : clientHello random sessionId targetSni keyShare = l.encode :=
    clientHello_eq hrandom hsession hkey hsni hshort
  have hname := l.slice_hostName
  rw [hboundary] at hname
  rw [hhello]
  exact ⟨hboundary ▸ findSniBoundary_located l, hname⟩

/-- The walker agrees with the format. What it finds in a payload is the
first host name of a `Located`, at its place in the first record; it finds
nothing elsewhere; and it finds the name of every ClientHello that is built
from the template. -/
theorem findSniBoundary_parses (data : Bytes) :
    (∀ b, findSniBoundary data = .ok (some b)
      ↔ ∃ l : Located, data = l.encode ∧ b = l.boundary)
    ∧ (¬ CutHello data → (¬ ∃ l : Located, data = l.encode) →
        findSniBoundary data = .ok none)
    ∧ (∀ l : Located, data = l.encode →
        slice? data l.boundary.nameStart
            (l.boundary.nameStart + l.boundary.nameLen)
          = some l.names.hostName
        ∧ l.boundary.extLenFieldEnd = l.boundary.nameStart - 5
        ∧ l.boundary.nameStart + l.boundary.nameLen ≤ 5 + l.body.length
        ∧ 5 + l.body.length ≤ data.length)
    ∧ ∀ random sessionId targetSni keyShare : Bytes, random.length = 32 →
        sessionId.length = 32 → keyShare.length = 32 →
        1 ≤ targetSni.length → targetSni.length ≤ 219 →
        ∃ hello, buildClientHello random sessionId targetSni keyShare
            = .ok hello
          ∧ hello.length = 517
          ∧ findSniBoundary hello = .ok (some ⟨122, 127, targetSni.length⟩)
          ∧ slice? hello 127 (127 + targetSni.length) = some targetSni := by
  refine ⟨fun b => ⟨exists_located, ?_⟩, ?_, ?_, ?_⟩
  · rintro ⟨l, rfl, rfl⟩
    exact findSniBoundary_located l
  · intro hcut hnone
    cases hwalk : findSniBoundary data with
    | error p =>
        exact absurd ((findSniBoundary_error_iff data).mp ⟨p, hwalk⟩) hcut
    | ok b =>
        cases b with
        | none => rfl
        | some b =>
            obtain ⟨l, hl, -⟩ := exists_located hwalk
            exact absurd ⟨l, hl⟩ hnone
  · rintro l rfl
    exact ⟨l.slice_hostName, rfl, l.boundary_le⟩
  · intro random sessionId targetSni keyShare hrandom hsession hkey hpos hshort
    exact ⟨_, buildClientHello_ok hrandom hsession hkey hshort,
      length_clientHello hrandom hsession hkey hshort,
      findSniBoundary_template hrandom hsession hkey hpos hshort⟩

end ZeroDpi
