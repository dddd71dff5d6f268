/-
The socket-side transforms, one spec each.

What the proxy writes for a ClientHello starts with the ClientHello:
every transform keeps the first byte and a record length of at least four
(`HelloHead`), under which the SNI walker does not panic, and every
writer's writes concatenate to what it was given.
-/
import ZeroDpi.Proxy
import ZeroDpi.Proofs.Config

namespace ZeroDpi

open Lib

-- ============================================================= sampling

/-- A sample lies in its range. -/
theorem sampleI32_mem (r : Int32Range) (state : UInt64) :
    r.min.toInt ≤ (sampleI32 r state).1.toInt
      ∧ (sampleI32 r state).1.toInt ≤ r.max.toInt := by
  have hord : r.min.toInt ≤ r.max.toInt := Int32.le_iff_toInt_le.mp r.ordered
  by_cases heq : r.min = r.max
  · unfold sampleI32
    rw [if_pos heq]
    exact ⟨Int.le_refl _, hord⟩
  · rw [sampleI32_toInt heq]
    have hwidth : 0 < (r.max.toInt - r.min.toInt + 1).toNat := by omega
    have hlt := Nat.mod_lt (splitmix64 state).2.toNat hwidth
    omega

/-- The chunks of `write_fragmented` concatenate to the data. -/
theorem fragmentWrites_flatten {length intervalMs : Int32Range}
    (hmin : 1 ≤ length.min.toInt) :
    ∀ (fuel : Nat) (rng : UInt64) (data : Bytes), data.length ≤ fuel →
      (fragmentWrites length intervalMs fuel rng data).flatten = data := by
  intro fuel
  induction fuel with
  | zero =>
      intro rng data h
      obtain rfl := List.length_eq_zero_iff.mp (Nat.le_zero.mp h)
      simp [fragmentWrites]
  | succ fuel ih =>
      intro rng data h
      cases data with
      | nil => simp [fragmentWrites]
      | cons a rest =>
          have hpos : 1 ≤ (sampleI32 length rng).1.toInt.toNat := by
            have := (sampleI32_mem length rng).1
            omega
          simp only [fragmentWrites]
          split
          · simp
          · rw [List.flatten_cons, ih]
            · exact List.take_append_drop _ _
            · rw [List.length_drop]
              simp only [List.length_cons] at h ⊢
              omega

-- ======================================================= the SNI walker

/-- The header bytes that keep the walker from panicking: a handshake
record whose length field leaves room for the handshake header. -/
structure HelloHead (data : Bytes) : Prop where
  head : data.head? = some 0x16
  room : data.length < 5 ∨ 4 ≤ be16 (data.getD 3 0) (data.getD 4 0)

theorem findSniBoundary_ok {data : Bytes} (h : HelloHead data) :
    ∃ b, findSniBoundary data = .ok b := by
  unfold findSniBoundary
  split
  case h_1 t v0 v1 l0 l1 rest =>
    have hroom : 4 ≤ be16 l0 l1 := by
      rcases h.room with hshort | hroom
      · simp only [List.length_cons] at hshort
        omega
      · exact hroom
    split
    · exact ⟨_, rfl⟩
    · split
      · exact ⟨_, rfl⟩
      case h_2 recordBody hslice =>
        split
        · exact ⟨_, rfl⟩
        · split
          · exact ⟨_, rfl⟩
          case h_2 hshort =>
            -- the body is as long as the length field says
            exfalso
            have hlen : recordBody.length = be16 l0 l1 := by
              simp only [slice?] at hslice
              split at hslice
              case isTrue hrange =>
                cases hslice
                rw [List.length_take, List.length_drop]
                omega
              · cases hslice
            match recordBody, hlen with
            | [], hlen => simp at hlen; omega
            | [_], hlen => simp at hlen; omega
            | [_, _], hlen => simp at hlen; omega
            | [_, _, _], hlen => simp at hlen; omega
            | x :: a :: b :: c :: r, _ => exact hshort x a b c r rfl
  · exact ⟨_, rfl⟩

theorem serverName_nameStart {extData : Bytes} {headerStart : Nat}
    {b : SniBoundary} (h : serverName extData headerStart = some b) :
    b.nameStart = headerStart + 9 := by
  simp only [serverName, Option.bind_eq_bind, Option.bind_eq_some_iff] at h
  obtain ⟨listPair, -, list, -, h⟩ := h
  split at h
  · cases h
  · obtain ⟨namePair, -, h⟩ := Option.bind_eq_some_iff.mp h
    split at h
    · cases h
    · obtain ⟨name, -, h⟩ := Option.bind_eq_some_iff.mp h
      cases h
      rfl

theorem scanExtensions_nameStart {extensions : Bytes} {base : Nat} :
    ∀ {fuel e : Nat} {b : SniBoundary},
      scanExtensions extensions base fuel e = some b →
        base + 9 ≤ b.nameStart := by
  intro fuel
  induction fuel with
  | zero =>
      intro e b h
      cases h
  | succ fuel ih =>
      intro e b h
      unfold scanExtensions at h
      split at h
      · cases h
      · obtain ⟨extData, -, h⟩ := Option.bind_eq_some_iff.mp h
        split at h
        · have := serverName_nameStart h
          omega
        · exact ih h

theorem sniInHello_nameStart {body : Bytes} {b : SniBoundary}
    (h : sniInHello body = some b) : 9 ≤ b.nameStart := by
  simp only [sniInHello, Option.bind_eq_bind, Option.bind_eq_some_iff] at h
  obtain ⟨sidLen, -, csPair, -, cmLen, -, extPair, -, exts, -, h⟩ := h
  have := scanExtensions_nameStart h
  omega

/-- A name the walker finds lies behind both headers, in a payload that
holds a whole record header. -/
theorem findSniRange_start {data : Bytes} {start len : Nat}
    (h : findSniRange data = .ok (some (start, len))) :
    9 ≤ start ∧ 5 ≤ data.length := by
  unfold findSniRange at h
  cases hb : findSniBoundary data with
  | error e =>
      rw [hb] at h
      cases h
  | ok b =>
      rw [hb] at h
      cases b with
      | none => cases h
      | some b =>
          cases h
          unfold findSniBoundary at hb
          split at hb
          case h_1 =>
            refine ⟨?_, by simp⟩
            split at hb
            · cases hb
            · split at hb
              · cases hb
              · split at hb
                · cases hb
                · split at hb
                  · injection hb with hb
                    obtain ⟨body, -, hbody⟩ := Option.bind_eq_some_iff.mp hb
                    exact sniInHello_nameStart hbody
                  · cases hb
          · cases hb

-- ================================================== validated settings

/-- What `validate` promises about the socket-side parameters. -/
structure Config.ValidSocket (cfg : Config) : Prop where
  position : ∃ p, PaddingPosition.parse cfg.tlsPaddingPosition = .ok p
  version : ∃ v, parseRecordVersion cfg.ccsPrefixRecordVersion = .ok v
  packets : ∃ p, cfg.parsedTlsFragPackets = .ok p
  length : ∃ r, cfg.tlsFragLengthRange = .ok r ∧ ¬ r.min < 1
  interval : ¬ cfg.tlsFragIntervalMs.min < 0
  boundaryDelay : ¬ cfg.sniBoundaryFragDelayMs.min < 0
  splitDelay : ¬ cfg.tlsRecordSplitDelayMs.min < 0

theorem Config.validSocket {cfg : Config} (h : cfg.validate = .ok ()) :
    cfg.ValidSocket := by
  have h := (Config.validate_parts h).2.2.2.1
  simp only [Config.validateSocketParams, Config.bailIf_bind,
    Config.validateAtLeast_bind] at h
  obtain ⟨-, -, -, -, h⟩ := h
  cases hposition : PaddingPosition.parse cfg.tlsPaddingPosition with
  | error e =>
      rw [hposition] at h
      cases h
  | ok position =>
      rw [hposition] at h
      cases hversion : parseRecordVersion cfg.ccsPrefixRecordVersion with
      | error e =>
          rw [hversion] at h
          cases h
      | ok version =>
          rw [hversion] at h
          obtain ⟨⟨⟩, -, h⟩ := bind_eq_ok.mp h
          obtain ⟨⟨⟩, -, h⟩ := bind_eq_ok.mp h
          obtain ⟨packets, hpackets, h⟩ := bind_eq_ok.mp h
          obtain ⟨length, hlength, h⟩ := bind_eq_ok.mp h
          simp only [Config.validateAtLeast_bind] at h
          obtain ⟨hmin, hinterval, hboundary, hsplit⟩ := h
          have hsplit := Config.validateAtLeast_eq_ok.mp hsplit
          exact ⟨⟨_, hposition⟩, ⟨_, hversion⟩, ⟨_, hpackets⟩,
            ⟨_, hlength, Int32.not_lt.mpr hmin⟩, Int32.not_lt.mpr hinterval,
            Int32.not_lt.mpr hboundary, Int32.not_lt.mpr hsplit⟩

/-- What the settings of a validated configuration keep: the writers'
assertions, and whether the prefix is on. -/
structure ConnectionSettings.Valid (cfg : Config) (t : ConnectionSettings) :
    Prop where
  length : ¬ t.tcpSegmentation.length.min < 1
  interval : ¬ t.tcpSegmentation.intervalMs.min < 0
  boundaryDelay : ∀ b, t.sniBoundaryFrag = some b → ¬ b.delayMs.min < 0
  splitDelay : ∀ b, t.tlsRecordSplit = some b → ¬ b.delayMs.min < 0
  ccsPrefix : t.ccsPrefix.isSome = cfg.bypassMethod.contains .ccsPrefix

theorem whenListed_ok {α : Type} (listed : Bool) (a : α) :
    whenListed listed (.ok a) = .ok (if listed then some a else none) := by
  cases listed with
  | true => rfl
  | false => rfl

/-- `from_config` does not panic on a validated configuration. -/
theorem ConnectionSettings.fromConfig_ok {cfg : Config}
    (h : cfg.validate = .ok ()) :
    ∃ t, fromConfig cfg = .ok t ∧ t.Valid cfg := by
  obtain ⟨⟨position, hposition⟩, ⟨version, hversion⟩, ⟨packets, hpackets⟩,
    ⟨length, hlength, hmin⟩, hinterval, hboundary, hsplit⟩ :=
    Config.validSocket h
  have hpadding : TlsPadding.new cfg
      = .ok { size := cfg.tlsPaddingSize, position := position } := by
    rw [TlsPadding.new, hposition]
  have hccs : CcsPrefix.new cfg = .ok ⟨version⟩ := by
    rw [CcsPrefix.new, hversion]
  simp only [fromConfig, TcpSegmentation.new, hpackets, hlength, hpadding,
    hccs, whenListed_ok]
  refine ⟨_, rfl, hmin, hinterval, ?_, ?_, ?_⟩
  · intro b hb
    simp only [Option.ite_none_right_eq_some, Option.some.injEq] at hb
    obtain ⟨-, rfl⟩ := hb
    exact hboundary
  · intro b hb
    simp only [Option.ite_none_right_eq_some, Option.some.injEq] at hb
    obtain ⟨-, rfl⟩ := hb
    exact hsplit
  · cases hlisted : cfg.bypassMethod.contains .ccsPrefix with
    | true => simp
    | false => simp

-- ====================================================== the transforms

/-- A record header with room for the handshake header. -/
theorem helloHead_of_header {v0 v1 : UInt8} {n : Nat} (hlow : 4 ≤ n)
    (hhigh : n < 65536) (rest : Bytes) :
    HelloHead (0x16 :: v0 :: v1 :: (toBe16 n ++ rest)) where
  head := rfl
  room := by
    refine .inr ?_
    show 4 ≤ be16 (n / 256).toUInt8 n.toUInt8
    rw [be16_toBe16, Nat.mod_eq_of_lt hhigh]
    exact hlow

/-- What `parse_client_hello` accepts has both headers. -/
theorem parseClientHello_head {record : Bytes} {layout : ClientHelloLayout}
    (h : parseClientHello record = some layout) :
    9 ≤ record.length ∧ record.getD 0 0 = 0x16 := by
  unfold parseClientHello at h
  extract_lets byteAt at h
  split at h
  · cases h
  case isFalse hhead =>
    refine ⟨?_, ?_⟩
    · omega
    · exact Classical.byContradiction fun hne => hhead (.inr hne)

/-- Padding rewrites the length fields and keeps type and version. -/
theorem TlsPadding.apply_head {t : TlsPadding} {rng : UInt64}
    {record out : Bytes} (h : t.apply rng record = some out) :
    HelloHead out := by
  obtain ⟨layout, hparse, h⟩ := Option.bind_eq_some_iff.mp h
  obtain ⟨hlen, htype⟩ := parseClientHello_head hparse
  simp only at h
  split at h
  · cases h
  case isFalse hpos =>
    cases h
    match record, hlen, htype with
    | a :: b :: c :: rest, hlen, htype =>
        obtain rfl : a = 0x16 := htype
        simp only [buildPadded, List.append_assoc]
        refine helloHead_of_header ?_ ?_ _
        · omega
        · have := Nat.min_le_right (sampleI32 t.size rng).1.toInt.toNat
            (maxTlsRecordBody - (rest.length + 1 + 1 + 1 - 5 + 4))
          simp only [List.length_cons, maxTlsRecordBody] at hpos this ⊢
          omega

/-- Only the bytes of the record header decide. -/
theorem HelloHead.of_agree {a b : Bytes} (h : HelloHead a)
    (hlen : 5 ≤ a.length) (hb : b ≠ [])
    (hget : ∀ i, i < 5 → i < b.length → b[i]? = a[i]?) : HelloHead b := by
  have hpos : 0 < b.length := List.length_pos_iff.mpr hb
  refine ⟨?_, ?_⟩
  · rw [List.head?_eq_getElem?, hget 0 (by omega) hpos,
      ← List.head?_eq_getElem?]
    exact h.head
  · by_cases hshort : b.length < 5
    · exact .inl hshort
    · rw [List.getD_eq_getElem?_getD, List.getD_eq_getElem?_getD,
        hget 3 (by omega) (by omega), hget 4 (by omega) (by omega),
        ← List.getD_eq_getElem?_getD, ← List.getD_eq_getElem?_getD]
      rcases h.room with hshort' | hroom
      · omega
      · exact .inr hroom

/-- Splicing behind both headers leaves them alone. -/
theorem HelloHead.spliceAt {record : Bytes} (h : HelloHead record)
    {start : Nat} (hstart : 5 ≤ start) (hlen : 5 ≤ record.length)
    (bytes : Bytes) : HelloHead (spliceAt record start bytes) := by
  have htake : 5 ≤ (record.take start).length := by
    rw [List.length_take]
    omega
  refine h.of_agree hlen ?_ fun i hi _ => ?_
  · intro hnil
    simp only [ZeroDpi.spliceAt, List.append_eq_nil_iff] at hnil
    rw [hnil.1.1] at htake
    simp at htake
  · rw [ZeroDpi.spliceAt, List.append_assoc,
      List.getElem?_append_left (by omega),
      List.getElem?_take_of_lt (by omega)]

/-- Re-casing does not panic and leaves the headers alone. -/
theorem MixedCaseSni.apply_head (t : MixedCaseSni) (rng : UInt64)
    {record : Bytes} (h : HelloHead record) :
    ∃ out, t.apply rng record = .ok out ∧ HelloHead (out.getD record) := by
  obtain ⟨b, hb⟩ := findSniBoundary_ok h
  cases b with
  | none =>
      have hrange : findSniRange record = .ok none := by
        rw [findSniRange, hb]
        rfl
      refine ⟨none, ?_, h⟩
      rw [MixedCaseSni.apply, hrange]
      rfl
  | some b =>
      have hrange : findSniRange record
          = .ok (some (b.nameStart, b.nameLen)) := by
        rw [findSniRange, hb]
        rfl
      obtain ⟨hstart, hlen⟩ := findSniRange_start hrange
      have hbehind : 5 ≤ b.nameStart := by omega
      have hsplice := h.spliceAt hbehind hlen
      rw [MixedCaseSni.apply, hrange]
      by_cases hall : t.flipAll = true
      · exact ⟨_, if_pos hall, hsplice _⟩
      · refine ⟨_, if_neg hall, ?_⟩
        cases randomCaseName rng
            ((record.drop b.nameStart).take b.nameLen) with
        | none => exact h
        | some name => exact hsplice name

theorem ConnectionSettings.padRecord_head (t : ConnectionSettings)
    (env : SocketEnv) {record : Bytes} (h : HelloHead record) :
    HelloHead (t.padRecord env record) := by
  unfold padRecord
  cases t.tlsPadding with
  | none => exact h
  | some p =>
      cases hp : p.apply env.paddingRng record with
      | none => simpa [hp] using h
      | some out => simpa [hp] using p.apply_head hp

/-- The transforms do not panic and leave a ClientHello's headers. -/
theorem ConnectionSettings.applySocketTransforms_head
    (t : ConnectionSettings) (env : SocketEnv) {record : Bytes}
    (h : HelloHead record) :
    ∃ out, t.applySocketTransforms env record = .ok out
      ∧ HelloHead out := by
  have hpadded := t.padRecord_head env h
  unfold applySocketTransforms
  cases t.mixedCaseSni with
  | none => exact ⟨_, rfl, hpadded⟩
  | some mixed =>
      obtain ⟨out, hout, hhead⟩ := mixed.apply_head env.mixedCaseRng hpadded
      exact ⟨_, bind_eq_ok.mpr ⟨out, hout, rfl⟩, hhead⟩

-- ========================================================= the writers

/-- `write_fragmented` under valid settings. -/
theorem ConnectionSettings.Valid.writeFragmented_flatten {cfg : Config}
    {t : ConnectionSettings} (h : t.Valid cfg) (rng : UInt64)
    (data : Bytes) :
    ∃ ws, writeFragmented data t.tcpSegmentation.length
        t.tcpSegmentation.intervalMs rng = .ok ws
      ∧ ws.flatten = data := by
  have hmin : 1 ≤ t.tcpSegmentation.length.min.toInt :=
    Int32.le_iff_toInt_le.mp (Int32.not_lt.mp h.length)
  rw [writeFragmented, if_neg h.length, if_neg h.interval]
  exact ⟨_, rfl, fragmentWrites_flatten hmin _ _ _ (Nat.le_refl _)⟩

/-- A split offset cuts the record in two non-empty parts. -/
theorem SniBoundaryFrag.splitOffset_spec (t : SniBoundaryFrag)
    {hello : Bytes} (h : HelloHead hello) :
    ∃ o, t.splitOffset hello = .ok o
      ∧ ∀ split, o = some split → 0 < split ∧ split < hello.length := by
  obtain ⟨b, hb⟩ := findSniBoundary_ok h
  unfold splitOffset
  rw [hb]
  cases b with
  | none => exact ⟨none, rfl, nofun⟩
  | some b =>
      refine ⟨_, rfl, fun split hsplit => ?_⟩
      simp only [Option.ite_none_right_eq_some, Option.some.injEq] at hsplit
      obtain ⟨hrange, rfl⟩ := hsplit
      exact hrange

/-- The first of the two records starts like the record that was cut. -/
theorem TlsRecordSplit.split_spec (t : TlsRecordSplit) {hello : Bytes}
    (h : HelloHead hello) :
    ∃ r, t.split hello = .ok r
      ∧ ∀ first second, r = some (first, second) →
        first.head? = some 0x16 := by
  obtain ⟨b, hb⟩ := findSniBoundary_ok h
  unfold split
  rw [hb]
  cases b with
  | none => exact ⟨none, rfl, nofun⟩
  | some b =>
      by_cases hcut : 5 + be16 (hello.getD 3 0) (hello.getD 4 0)
            > hello.length
          ∨ t.splitPoint.resolve b ≤ 5
          ∨ t.splitPoint.resolve b
            ≥ 5 + be16 (hello.getD 3 0) (hello.getD 4 0)
      · exact ⟨none, if_pos hcut, nofun⟩
      · refine ⟨_, if_neg hcut, fun first second hr => ?_⟩
        simp only [Option.some.injEq, Prod.mk.injEq] at hr
        obtain ⟨rfl, -⟩ := hr
        obtain ⟨rest, rfl⟩ := List.head?_eq_some_iff.mp h.head
        simp only [buildRecord, List.take_succ_cons, List.cons_append,
          List.head?_cons]

end ZeroDpi
