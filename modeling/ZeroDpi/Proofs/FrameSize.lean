/-
Which valid messages fit a frame.

Validation bounds the fields before they are encoded. For nineteen of the
twenty-one kinds that bounds the encoding too, far below the limit. The
two that are left are computed exactly: a `RegisterFlow` spends up to four
bytes for each byte of its fake data, and a `ConfigureInterceptor` names
its methods in a list that validation does not bound.
-/
import ZeroDpi.Helper.Codec
import ZeroDpi.Lib.Run

namespace ZeroDpi.Helper

open Lib

-- ================================================================= widths

/-- The characters of a boolean. -/
def boolWidth : Bool → Nat
  | true => 4
  | false => 5

/-- An address in dotted notation. -/
def addressWidth (address : Ipv4Addr) : Nat :=
  Json.total ((ipv4Octets address).map Json.digits) + 3

/-- The elements of a byte array with the commas between them. -/
def bytesWidth (bytes : Bytes) : Nat :=
  Json.total (bytes.map fun b => Json.digits b.toNat) + (bytes.length - 1)

/-- Quoted names with the commas between them. -/
def namesWidth (names : List String) : Nat :=
  Json.total (names.map fun n => n.utf8ByteSize + 2) + (names.length - 1)

/-- An optional value; an absent one is `null`. -/
def optionWidth {α : Type} (width : α → Nat) : Option α → Nat
  | none => 4
  | some value => width value

/-- What varies in a `RegisterFlow`. -/
def registerWidth (flowId : UInt64) (key : FlowKey) (fakeData : Bytes)
    (lowTtlOverride : Option UInt8) : Nat :=
  Json.digits flowId.toNat
    + addressWidth key.srcIp + Json.digits key.srcPort.toNat
    + addressWidth key.dstIp + Json.digits key.dstPort.toNat
    + bytesWidth fakeData
    + optionWidth (fun value => Json.digits value.toNat) lowTtlOverride

/-- What varies in the method of a `ConfigureInterceptor`. -/
def MethodConfig.width (c : MethodConfig) : Nat :=
  namesWidth c.methods
    + Json.digits c.wrongSeqExtraOffset.toNat
    + boolWidth c.wrongSeqSetPsh + boolWidth c.wrongSeqBumpIpIdent
    + Json.digits c.wrongChecksumDelta.toNat
    + boolWidth c.wrongChecksumSetPsh + boolWidth c.wrongChecksumBumpIpIdent
    + boolWidth c.wrongChecksumCompleteImmediately
    + boolWidth c.wrongMd5SetPsh + boolWidth c.wrongMd5BumpIpIdent
    + boolWidth c.wrongMd5CompleteImmediately
    + Json.digits c.wrongAckOffset.toNat
    + boolWidth c.wrongAckSetPsh + boolWidth c.wrongAckBumpIpIdent
    + boolWidth c.wrongAckCompleteImmediately
    + Json.digits c.wrongTimestampOffset.toNat
    + boolWidth c.wrongTimestampSetPsh
    + boolWidth c.wrongTimestampBumpIpIdent
    + boolWidth c.wrongTimestampCompleteImmediately
    + Json.digits c.tlsRecordFragSize
    + boolWidth c.tlsRecordFragSetPsh + boolWidth c.tlsRecordFragBumpIpIdent
    + Json.digits c.lowTtlValue.toNat
    + boolWidth c.lowTtlSetPsh + boolWidth c.lowTtlBumpIpIdent
    + boolWidth c.lowTtlCompleteImmediately

/-- What varies in a `ConfigureInterceptor`. -/
def InterceptorConfig.width (c : InterceptorConfig) : Nat :=
  addressWidth c.interfaceIp
    + optionWidth (fun address => addressWidth address + 2) c.remoteIp
    + Json.digits c.remotePort.toNat + Json.digits c.queueNum.toNat
    + c.method.width

/-- The messages whose encoding is within the limit. -/
def Message.Fits : Message → Prop
  | .registerFlow flowId key fakeData lowTtlOverride =>
      registerWidth flowId key fakeData lowTtlOverride ≤ 262009
  | .configureInterceptor config => config.width ≤ 261308
  | _ => True

-- ========================================================= exact lengths

/-- The length of each kind of value, by its width: booleans, -/
theorem length_bool (b : Bool) : (Json.bool b).length = boolWidth b := by
  cases b <;> rfl

/-- addresses, -/
theorem length_ipv4Json (address : Ipv4Addr) :
    (ipv4Json address).length = addressWidth address + 2 := by
  unfold ipv4Json addressWidth
  rw [Json.length_quoted, Json.length_separated, List.map_map,
    List.length_map]
  have hlen : List.length ∘ Json.number = Json.digits :=
    funext Json.length_number
  rw [hlen]
  rfl

/-- bytes, -/
theorem length_bytesJson (bytes : Bytes) :
    (bytesJson bytes).length = bytesWidth bytes + 2 := by
  unfold bytesJson bytesWidth
  rw [Json.length_array, List.map_map, List.length_map]
  have hlen : List.length ∘ (fun b : UInt8 => Json.number b.toNat)
      = fun b => Json.digits b.toNat :=
    funext fun b => Json.length_number b.toNat
  rw [hlen]

/-- optional values, -/
theorem length_optionJson {α : Type} {render : α → Bytes} {width : α → Nat}
    (h : ∀ a, (render a).length = width a) (value : Option α) :
    (optionJson render value).length = optionWidth width value := by
  cases value with
  | none => rfl
  | some a => exact h a

/-- The supported names need no escapes. -/
theorem length_supported : ∀ name ∈ supportedMethods,
    (Json.string name).length = name.utf8ByteSize + 2 := by
  decide

/-- names that need no escapes, -/
theorem length_names {names : List String}
    (h : ∀ name ∈ names, name ∈ supportedMethods) :
    (Json.array (names.map Json.string)).length = namesWidth names + 2 := by
  have hlen : (names.map Json.string).map List.length
      = names.map fun n => n.utf8ByteSize + 2 := by
    rw [List.map_map]
    exact List.map_congr_left fun name hname =>
      length_supported name (h name hname)
  unfold namesWidth
  rw [Json.length_array, hlen, List.length_map]

/-- variants with their data, -/
theorem length_variantJson (kind : String) (data : Bytes) :
    (variantJson kind data).length
      = (Json.string kind).length + data.length + 17 := by
  have hkind : (Json.string "kind").length = 6 := rfl
  have hdata : (Json.string "data").length = 6 := rfl
  simp only [variantJson, Json.length_object, Json.nameWidth_cons,
    Json.nameWidth_nil, hkind, hdata, Json.valueWidth_cons,
    Json.valueWidth_nil, List.length_cons, List.length_nil]
  omega

/-- and the keys of flows. -/
theorem length_flowKeyJson (key : FlowKey) :
    (flowKeyJson key).length
      = addressWidth key.srcIp + Json.digits key.srcPort.toNat
        + addressWidth key.dstIp + Json.digits key.dstPort.toNat + 49 := by
  have hnames : Json.nameWidth
      [("src_ip", ipv4Json key.srcIp),
       ("src_port", Json.number key.srcPort.toNat),
       ("dst_ip", ipv4Json key.dstIp),
       ("dst_port", Json.number key.dstPort.toNat)] = 36 := by
    simp only [Json.nameWidth_cons, Json.nameWidth_nil]
    rfl
  rw [flowKeyJson, Json.length_object, hnames]
  simp only [Json.valueWidth_cons, Json.valueWidth_nil, List.length_cons,
    List.length_nil, length_ipv4Json, Json.length_number]
  omega

/-- So the length of a registration is known exactly. -/
theorem length_toVec_registerFlow (flowId : UInt64) (key : FlowKey)
    (fakeData : Bytes) (lowTtlOverride : Option UInt8) :
    (Message.registerFlow flowId key fakeData lowTtlOverride).toVec.length
      = registerWidth flowId key fakeData lowTtlOverride + 135 := by
  have hkind : (Json.string "register_flow").length = 15 := rfl
  have hnames : ∀ a b c d : Bytes, Json.nameWidth
      [("flow_id", a), ("key", b), ("fake_data", c),
       ("low_ttl_override", d)] = 43 := by
    intro a b c d
    simp only [Json.nameWidth_cons, Json.nameWidth_nil]
    rfl
  have hoverride := length_optionJson
    (fun v : UInt8 => Json.length_number v.toNat) lowTtlOverride
  unfold Message.toVec registerWidth
  rw [length_variantJson, hkind, Json.length_object, hnames]
  simp only [Json.valueWidth_cons, Json.valueWidth_nil, List.length_cons,
    List.length_nil, Json.length_number, length_flowKeyJson,
    length_bytesJson, hoverride]
  omega

/-- And that of the methods' options. -/
theorem MethodConfig.length_toJson (c : MethodConfig)
    (h : ∀ name ∈ c.methods, name ∈ supportedMethods) :
    c.toJson.length = c.width + 696 := by
  have hnames : Json.nameWidth c.fields = 641 := by
    unfold MethodConfig.fields
    simp only [Json.nameWidth_cons, Json.nameWidth_nil]
    rfl
  unfold MethodConfig.toJson MethodConfig.width
  rw [Json.length_object, hnames]
  simp only [MethodConfig.fields, Json.valueWidth_cons, Json.valueWidth_nil,
    List.length_cons, List.length_nil, length_names h, Json.length_number,
    length_bool]
  omega

/-- Both names have eight letters. -/
theorem FirewallBackend.length_toJson (b : FirewallBackend) :
    b.toJson.length = 10 := by
  cases b <;> rfl

/-- And that of an interceptor's config. -/
theorem length_toVec_configureInterceptor (c : InterceptorConfig)
    (h : ∀ name ∈ c.method.methods, name ∈ supportedMethods) :
    (Message.configureInterceptor c).toVec.length = c.width + 836 := by
  have hkind : (Json.string "configure_interceptor").length = 23 := rfl
  have hnames : ∀ a b d e f g : Bytes, Json.nameWidth
      [("interface_ip", a), ("remote_ip", b), ("remote_port", d),
       ("queue_num", e), ("firewall_backend", f), ("method", g)]
        = 75 := by
    intro a b d e f g
    simp only [Json.nameWidth_cons, Json.nameWidth_nil]
    rfl
  have hremote := length_optionJson length_ipv4Json c.remoteIp
  unfold Message.toVec InterceptorConfig.width InterceptorConfig.toJson
  rw [length_variantJson, hkind, Json.length_object, hnames]
  simp only [Json.valueWidth_cons, Json.valueWidth_nil, List.length_cons,
    List.length_nil, Json.length_number, length_ipv4Json, hremote,
    FirewallBackend.length_toJson, MethodConfig.length_toJson _ h]
  omega

-- ============================================================ validation

/-- A check that passes. -/
theorem invalidIf_eq_ok {bad : Bool} {name : String} :
    invalidIf bad name = .ok () ↔ bad = false :=
  ite_error_eq_ok

/-- A field check followed by others. -/
theorem invalidIf_bind_eq_ok {bad : Bool} {name : String}
    {rest : Unit → Except String Unit} :
    (invalidIf bad name >>= rest) = .ok ()
      ↔ bad = false ∧ rest () = .ok () :=
  check_bind_eq_ok invalidIf_eq_ok

/-- The wire checks of the method record, field by field. -/
theorem MethodConfig.validate_eq_ok {c : MethodConfig} :
    c.validate = .ok () ↔
      c.methods ≠ [] ∧ (∀ name ∈ c.methods, name ∈ supportedMethods)
        ∧ c.wrongChecksumDelta ≠ 0 ∧ c.wrongAckOffset ≠ 0
        ∧ c.wrongTimestampOffset ≠ 0 ∧ c.lowTtlValue ≠ 0
        ∧ c.lowTtlValue ≤ 64 ∧ c.tlsRecordFragSize ≠ 0
        ∧ c.tlsRecordFragSize ≤ 65535 := by
  simp only [validate, invalidIf_bind_eq_ok, invalidIf_eq_ok,
    Bool.or_eq_false_iff, List.any_eq_false, List.contains_iff_mem,
    Bool.not_eq_true', Bool.not_eq_false, beq_eq_false_iff_ne,
    List.isEmpty_eq_false_iff, decide_eq_false_iff_not, gt_iff_lt,
    UInt8.not_lt, Nat.not_lt, and_assoc]

/-- The wire checks of the whole record. -/
theorem InterceptorConfig.validate_eq_ok {c : InterceptorConfig} :
    c.validate = .ok () ↔
      invalidEndpointAddress c.interfaceIp = false
        ∧ c.remoteIp.any invalidEndpointAddress = false
        ∧ c.remotePort ≠ 0 ∧ c.queueNum ≠ 0
        ∧ c.method.validate = .ok () := by
  simp only [validate, invalidIf_bind_eq_ok, beq_eq_false_iff_ne]

/-- Methods that are accepted are known ones. -/
theorem supported_of_validate {c : InterceptorConfig}
    (h : c.validate = .ok ()) :
    ∀ name ∈ c.method.methods, name ∈ supportedMethods := by
  obtain ⟨-, -, -, -, hmethod⟩ := InterceptorConfig.validate_eq_ok.mp h
  exact (MethodConfig.validate_eq_ok.mp hmethod).2.1

-- ====================================================== the bounded kinds

/-- How many digits a number has. -/
theorem digits_le_u8 (n : UInt8) : Json.digits n.toNat ≤ 3 :=
  Json.digits_le (by decide) (Nat.lt_trans n.toNat_lt (by decide))

/-- Likewise. -/
theorem digits_le_u16 (n : UInt16) : Json.digits n.toNat ≤ 5 :=
  Json.digits_le (by decide) (Nat.lt_trans n.toNat_lt (by decide))

/-- Likewise. -/
theorem digits_le_u32 (n : UInt32) : Json.digits n.toNat ≤ 10 :=
  Json.digits_le (by decide) (Nat.lt_trans n.toNat_lt (by decide))

/-- Likewise. -/
theorem digits_le_u64 (n : UInt64) : Json.digits n.toNat ≤ 20 :=
  Json.digits_le (by decide) (Nat.lt_trans n.toNat_lt (by decide))

/-- A sum of bounded terms. -/
theorem total_map_le {α : Type} {f : α → Nat} {k : Nat} {l : List α}
    (h : ∀ a ∈ l, f a ≤ k) : Json.total (l.map f) ≤ k * l.length := by
  induction l with
  | nil => exact Nat.zero_le _
  | cons a l ih =>
      have ha := h a List.mem_cons_self
      have hl := ih fun b hb => h b (List.mem_cons_of_mem a hb)
      rw [List.map_cons, Json.total_cons, List.length_cons, Nat.mul_succ]
      omega

/-- A byte has at most three digits and a comma. -/
theorem bytesWidth_le (bytes : Bytes) :
    bytesWidth bytes ≤ 4 * bytes.length := by
  have hsum := total_map_le (f := fun b : UInt8 => Json.digits b.toNat)
    (l := bytes) fun b _ => digits_le_u8 b
  unfold bytesWidth
  omega

/-- The other messages are far below the limit. -/
theorem Hello.length_toJson_le {h : Hello}
    (hv : (Message.hello h).validate = .ok ()) :
    h.toJson.length ≤ 600 := by
  simp only [Message.validate, invalidIf_bind_eq_ok, invalidIf_eq_ok,
    sessionProofSize, bne_eq_false_iff_eq, Bool.or_eq_false_iff,
    decide_eq_false_iff_not] at hv
  obtain ⟨hproof, -, hversion⟩ := hv
  have hnames : ∀ a b c : Bytes, Json.nameWidth
      [("session_proof", a), ("data_plane_pid", b), ("build_version", c)]
        = 46 := by
    intro a b c
    simp only [Json.nameWidth_cons, Json.nameWidth_nil]
    rfl
  have hbytes := bytesWidth_le h.sessionProof
  have hpid := digits_le_u32 h.dataPlanePid
  have hstring := Json.length_string_le h.buildVersion
  unfold Hello.toJson
  rw [Json.length_object, hnames]
  simp only [Json.valueWidth_cons, Json.valueWidth_nil, List.length_cons,
    List.length_nil, length_bytesJson, Json.length_number]
  omega

/-- This one by its capabilities. -/
theorem HelloAccepted.length_toJson_le {a : HelloAccepted}
    (hv : (Message.helloAccepted a).validate = .ok ()) :
    a.toJson.length ≤ 7000 := by
  simp only [Message.validate, invalidIf_bind_eq_ok, invalidIf_eq_ok,
    Bool.or_eq_false_iff, decide_eq_false_iff_not, List.any_eq_false,
    Bool.not_eq_true] at hv
  obtain ⟨-, hcount, hcaps⟩ := hv
  have hnames : ∀ a b c d e f : Bytes, Json.nameWidth
      [("peer_uid", a), ("helper_pid", b), ("helper_uid", c),
       ("protocol_major", d), ("protocol_minor", e), ("capabilities", f)]
        = 80 := by
    intro a b c d e f
    simp only [Json.nameWidth_cons, Json.nameWidth_nil]
    rfl
  have hlist : Json.total ((a.capabilities.map Json.string).map List.length)
      ≤ 194 * a.capabilities.length := by
    rw [List.map_map]
    refine total_map_le fun cap hcap => ?_
    have hlen := Json.length_string_le cap
    have hmax := (hcaps cap hcap).2
    show (Json.string cap).length ≤ 194
    omega
  have h1 := digits_le_u32 a.peerUid
  have h2 := digits_le_u32 a.helperPid
  have h3 := digits_le_u32 a.helperUid
  have h4 := digits_le_u16 a.protocolMajor
  have h5 := digits_le_u16 a.protocolMinor
  unfold HelloAccepted.toJson
  rw [Json.length_object, hnames]
  simp only [Json.valueWidth_cons, Json.valueWidth_nil, List.length_cons,
    List.length_nil, Json.length_number, Json.length_array, List.length_map]
  omega

/-- The longest code. -/
theorem ErrorCode.length_name_le (code : ErrorCode) :
    (Json.string code.name).length ≤ 23 := by
  cases code <;> decide

/-- The longest progress. -/
theorem Progress.length_name_le (progress : Progress) :
    (Json.string progress.name).length ≤ 18 := by
  cases progress <;> decide

/-- A message of 512 bytes, escaped. -/
theorem length_diagnosticJson_le (kind : String) (code : ErrorCode)
    {message : String} (hv : message.utf8ByteSize ≤ 512) :
    (diagnosticJson kind code message).length
      ≤ (Json.string kind).length + 4000 := by
  have hnames : ∀ a b : Bytes, Json.nameWidth
      [("code", a), ("message", b)] = 15 := by
    intro a b
    simp only [Json.nameWidth_cons, Json.nameWidth_nil]
    rfl
  have hcode := code.length_name_le
  have hmessage := Json.length_string_le message
  unfold diagnosticJson
  rw [length_variantJson, Json.length_object, hnames]
  simp only [Json.valueWidth_cons, Json.valueWidth_nil, List.length_cons,
    List.length_nil]
  omega

/-- A message with an id only. -/
theorem length_flowIdJson_le (kind : String) (flowId : UInt64) :
    (flowIdJson kind flowId).length ≤ (Json.string kind).length + 100 := by
  have hname : (Json.string "flow_id").length = 9 := rfl
  have hid := digits_le_u64 flowId
  unfold flowIdJson
  rw [length_variantJson, Json.length_object]
  simp only [Json.nameWidth_cons, Json.nameWidth_nil, hname,
    Json.valueWidth_cons, Json.valueWidth_nil, List.length_cons,
    List.length_nil, Json.length_number]
  omega

/-- Progress of a flow. -/
theorem length_toVec_flowProgress_le (flowId : UInt64)
    (progress : Progress) :
    (Message.flowProgress flowId progress).toVec.length ≤ 200 := by
  have hkind : (Json.string "flow_progress").length = 15 := rfl
  have hnames : ∀ a b : Bytes, Json.nameWidth
      [("flow_id", a), ("progress", b)] = 19 := by
    intro a b
    simp only [Json.nameWidth_cons, Json.nameWidth_nil]
    rfl
  have hid := digits_le_u64 flowId
  have hprogress := progress.length_name_le
  unfold Message.toVec
  rw [length_variantJson, hkind, Json.length_object, hnames]
  simp only [Json.valueWidth_cons, Json.valueWidth_nil, List.length_cons,
    List.length_nil, Json.length_number]
  omega

/-- A new TTL. -/
theorem length_toVec_setLowTtlValue_le (value : UInt8) :
    (Message.setLowTtlValue value).toVec.length ≤ 100 := by
  have hkind : (Json.string "set_low_ttl_value").length = 19 := rfl
  have hname : (Json.string "value").length = 7 := rfl
  have hvalue := digits_le_u8 value
  unfold Message.toVec
  rw [length_variantJson, hkind, Json.length_object]
  simp only [Json.nameWidth_cons, Json.nameWidth_nil, hname,
    Json.valueWidth_cons, Json.valueWidth_nil, List.length_cons,
    List.length_nil, Json.length_number]
  omega

/-- The limit on what a message may be encoded to, in terms of what varies
in it. -/
theorem length_toVec_le_iff {m : Message} (h : m.validate = .ok ()) :
    m.toVec.length ≤ maxFrameSize ↔ m.Fits := by
  have hmax : maxFrameSize = 262144 := rfl
  rw [hmax]
  cases m with
  | registerFlow flowId key fakeData lowTtlOverride =>
      rw [length_toVec_registerFlow, Message.Fits]
      omega
  | configureInterceptor c =>
      rw [length_toVec_configureInterceptor c (supported_of_validate h),
        Message.Fits]
      omega
  | hello hello =>
      have hkind : (Json.string "hello").length = 7 := rfl
      have hlen := Hello.length_toJson_le h
      rw [Message.toVec, length_variantJson, hkind]
      exact iff_of_true (by omega) trivial
  | helloAccepted accepted =>
      have hkind : (Json.string "hello_accepted").length = 16 := rfl
      have hlen := HelloAccepted.length_toJson_le h
      rw [Message.toVec, length_variantJson, hkind]
      exact iff_of_true (by omega) trivial
  | flowProgress flowId progress =>
      have hlen := length_toVec_flowProgress_le flowId progress
      exact iff_of_true (by omega) trivial
  | setLowTtlValue value =>
      have hlen := length_toVec_setLowTtlValue_le value
      exact iff_of_true (by omega) trivial
  | flowRegistered flowId =>
      have hkind : (Json.string "flow_registered").length = 17 := rfl
      have hlen := length_flowIdJson_le "flow_registered" flowId
      rw [Message.toVec]
      exact iff_of_true (by omega) trivial
  | removeFlow flowId =>
      have hkind : (Json.string "remove_flow").length = 13 := rfl
      have hlen := length_flowIdJson_le "remove_flow" flowId
      rw [Message.toVec]
      exact iff_of_true (by omega) trivial
  | flowRemoved flowId =>
      have hkind : (Json.string "flow_removed").length = 14 := rfl
      have hlen := length_flowIdJson_le "flow_removed" flowId
      rw [Message.toVec]
      exact iff_of_true (by omega) trivial
  | helperWarning code message =>
      have hkind : (Json.string "helper_warning").length = 16 := rfl
      have hv : message.utf8ByteSize ≤ 512 := by
        simpa [Message.validate, invalidIf_eq_ok] using h
      have hlen := length_diagnosticJson_le "helper_warning" code hv
      rw [Message.toVec]
      exact iff_of_true (by omega) trivial
  | helperFatal code message =>
      have hkind : (Json.string "helper_fatal").length = 14 := rfl
      have hv : message.utf8ByteSize ≤ 512 := by
        simpa [Message.validate, invalidIf_eq_ok] using h
      have hlen := length_diagnosticJson_le "helper_fatal" code hv
      rw [Message.toVec]
      exact iff_of_true (by omega) trivial
  | _ => exact iff_of_true (by decide) trivial

-- ============================================================ write_frame

/-- What `write_frame` does with a valid message and no flags. -/
theorem writeFrame_of_validate {requestId : UInt32} {m : Message}
    (h : m.validate = .ok ()) :
    writeFrame ⟨requestId, 0, m⟩
      = if maxFrameSize < m.toVec.length then
          .error (.oversizedFrame m.toVec.length)
        else .ok (header ⟨requestId, 0, m⟩ m.toVec.length ++ m.toVec) := by
  have hcheck : m.check = .ok () := by
    unfold Message.check
    rw [h]
    rfl
  by_cases hlen : maxFrameSize < m.toVec.length
  · have hreject : rejectIf (maxFrameSize < m.toVec.length)
        (.oversizedFrame m.toVec.length)
          = .error (.oversizedFrame m.toVec.length) := by
      simp [rejectIf, hlen]
    rw [if_pos hlen]
    simp only [writeFrame, hcheck, hreject]
    rfl
  · have hreject : rejectIf (maxFrameSize < m.toVec.length)
        (.oversizedFrame m.toVec.length) = .ok () := by
      simp [rejectIf, hlen]
    rw [if_neg hlen]
    simp only [writeFrame, hcheck, hreject]
    rfl

/-- A valid message is refused for its size exactly when it is a
`RegisterFlow` or a `ConfigureInterceptor` whose digits, names and commas
go beyond what the limit leaves for them. -/
theorem write_frame_accepts_size_iff (requestId : UInt32) (m : Message)
    (h : m.validate = .ok ()) :
    (∀ n, writeFrame ⟨requestId, 0, m⟩ ≠ .error (.oversizedFrame n))
      ↔ m.Fits := by
  rw [← length_toVec_le_iff h, writeFrame_of_validate h]
  by_cases hlen : maxFrameSize < m.toVec.length
  · rw [if_pos hlen]
    refine iff_of_false (fun hall => hall _ rfl) (Nat.not_le.mpr hlen)
  · rw [if_neg hlen]
    refine iff_of_true (fun n heq => ?_) (Nat.not_lt.mp hlen)
    cases heq

/-- A registration with `len` bytes of fake data, each `0xFF`. -/
def paddedRegistration (len : Nat) : Message :=
  .registerFlow 1 ⟨0x0A000001, 40000, 0x01010101, 443⟩
    (List.replicate len 0xFF) none

/-- A small registration is written. -/
theorem registration_of_three_bytes_fits :
    (paddedRegistration 3).validate = .ok ()
      ∧ ∀ n, writeFrame ⟨2, 0, paddedRegistration 3⟩
        ≠ .error (.oversizedFrame n) := by
  have hvalid : (paddedRegistration 3).validate = .ok () := rfl
  refine ⟨hvalid, (write_frame_accepts_size_iff 2 _ hvalid).mpr ?_⟩
  unfold paddedRegistration Message.Fits
  decide

/-- Registrations of the allowed size are valid. -/
theorem paddedRegistration_valid {len : Nat} (h : len ≤ maxFakeDataSize) :
    (paddedRegistration len).validate = .ok () := by
  have hkey : validateFlowKey ⟨0x0A000001, 40000, 0x01010101, 443⟩
      = .ok () := rfl
  simp only [paddedRegistration, Message.validate, invalidIf_bind_eq_ok,
    List.length_replicate, Bool.or_eq_false_iff, decide_eq_false_iff_not]
  refine ⟨⟨by decide, Nat.not_lt.mpr h⟩, ?_⟩
  rw [hkey]
  rfl

/-- Bytes of 255 take four characters each. -/
theorem length_paddedRegistration (len : Nat) :
    (paddedRegistration len).toVec.length = 3 * len + (len - 1) + 163 := by
  have hbytes : bytesWidth (List.replicate len 0xFF)
      = 3 * len + (len - 1) := by
    have hdigits : Json.digits (0xFF : UInt8).toNat = 3 := by decide
    unfold bytesWidth
    rw [List.map_replicate, List.length_replicate, hdigits,
      Json.total_replicate]
    omega
  have hrest : registerWidth 1 ⟨0x0A000001, 40000, 0x01010101, 443⟩
      (List.replicate len 0xFF) none
        = bytesWidth (List.replicate len 0xFF) + 28 := by
    have hid : Json.digits (1 : UInt64).toNat = 1 := by decide
    have hsrc : addressWidth 0x0A000001 = 8 := by decide
    have hdst : addressWidth 0x01010101 = 7 := by decide
    have hsport : Json.digits (40000 : UInt16).toNat = 5 := by decide
    have hdport : Json.digits (443 : UInt16).toNat = 3 := by decide
    simp only [registerWidth, hid, hsrc, hdst, hsport, hdport, optionWidth]
    omega
  rw [paddedRegistration, length_toVec_registerFlow, hrest, hbytes]

/-- Fake data at its own limit: the message is valid, and the frame is
refused. -/
theorem full_fake_data_is_oversized :
    (paddedRegistration 65536).validate = .ok ()
      ∧ writeFrame ⟨2, 0, paddedRegistration 65536⟩
        = .error (.oversizedFrame 262306) := by
  have hvalid : (paddedRegistration 65536).validate = .ok () :=
    paddedRegistration_valid (Nat.le_refl _)
  have hlen := length_paddedRegistration 65536
  have hmax : maxFrameSize < (paddedRegistration 65536).toVec.length := by
    rw [hlen]
    decide
  refine ⟨hvalid, ?_⟩
  rw [writeFrame_of_validate hvalid, if_pos hmax, hlen]

end ZeroDpi.Helper
