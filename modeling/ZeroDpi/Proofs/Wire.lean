/-
The configuration on its way to the helper.

`interceptor_config` copies part of a `Config` into the wire record, and
the helper checks the record with its own `validate`. The two validators
were written apart: the wire one has its own method list, a bound on the
record fragment size and a bound on the queue number that
`Config::validate` does not have. `wire_config_accepted_iff` says which
valid configurations pass the second one.
-/
import ZeroDpi.Helper.Recovery
import ZeroDpi.Proofs.Config
import ZeroDpi.Proofs.FrameSize

namespace ZeroDpi.Helper

open Lib

-- ========================================================== method names

/-- A base method's text is on the wire's list, or is one of the two that
were added to `BASE_BYPASS_METHODS` only. -/
theorem text_supported_iff {n : MethodName} (h : n ∈ baseBypassMethods) :
    n.text ∈ supportedMethods ↔ n ≠ .seqovl ∧ n ≠ .tlsRecordSplit := by
  cases n with
  | unknown name => simp [baseBypassMethods] at h
  | _ => decide

theorem texts_supported_iff {l : List MethodName}
    (h : ∀ n ∈ l, n ∈ baseBypassMethods) :
    (∀ name ∈ l.map MethodName.text, name ∈ supportedMethods)
      ↔ .seqovl ∉ l ∧ .tlsRecordSplit ∉ l := by
  constructor
  · intro hall
    have hn : ∀ n ∈ l, n ≠ .seqovl ∧ n ≠ .tlsRecordSplit := fun n hn =>
      (text_supported_iff (h n hn)).mp
        (hall n.text (List.mem_map_of_mem hn))
    exact ⟨fun hs => (hn _ hs).1 rfl, fun hs => (hn _ hs).2 rfl⟩
  · intro hgiven name hname
    obtain ⟨hseqovl, hsplit⟩ := hgiven
    obtain ⟨n, hn, rfl⟩ := List.mem_map.mp hname
    refine (text_supported_iff (h n hn)).mpr ⟨?_, ?_⟩
    · intro heq
      subst heq
      exact hseqovl hn
    · intro heq
      subst heq
      exact hsplit hn

-- ======================================================== the validators

/-- A valid configuration, bound to a usable interface address, opens
through the helper exactly when its queue number is not zero, its list
has neither `seqovl` nor `tls_record_split`, and its record fragment size
fits 16 bits. -/
theorem wire_config_accepted_iff (cfg : Config)
    (hv : cfg.validate = .ok ()) (interfaceIp : Ipv4Addr)
    (hip : invalidEndpointAddress interfaceIp = false) :
    (interceptorConfig cfg interfaceIp none connectPort).validate = .ok ()
      ↔ cfg.nfqueueNum ≠ 0 ∧ .seqovl ∉ cfg.bypassMethod
        ∧ .tlsRecordSplit ∉ cfg.bypassMethod
        ∧ cfg.tlsRecordFragSize ≤ 65535 := by
  have hlist := Config.validList hv
  have hparams := Config.validParams hv
  have hnames := texts_supported_iff hlist.base
  have hport : connectPort ≠ 0 := by decide
  rw [InterceptorConfig.validate_eq_ok, MethodConfig.validate_eq_ok]
  constructor
  · intro h
    obtain ⟨-, -, -, hqueue, -, htexts, -, -, -, -, -, -, hsize⟩ := h
    obtain ⟨hseqovl, hsplit⟩ := hnames.mp htexts
    exact ⟨hqueue, hseqovl, hsplit, hsize⟩
  · intro h
    obtain ⟨hqueue, hseqovl, hsplit, hsize⟩ := h
    refine ⟨hip, rfl, hport, hqueue, ?_, hnames.mpr ⟨hseqovl, hsplit⟩,
      hparams.checksumDelta, hparams.ackOffset, hparams.timestampOffset,
      hparams.lowTtl.1, hparams.lowTtl.2, ?_, hsize⟩
    · intro hnil
      exact hlist.nonempty (List.map_eq_nil_iff.mp hnil)
    · exact Nat.pos_iff_ne_zero.mp hparams.recordFragSize

/-- The default configuration on a private address. -/
theorem default_wire_config_accepted :
    (interceptorConfig {} 0x0A000001 none connectPort).validate
      = .ok () :=
  (wire_config_accepted_iff {} rfl 0x0A000001 (by decide)).mpr
    ⟨by decide, by decide, by decide, by decide⟩

/-- `["seqovl"]` is a valid method list that needs the interceptor, and
the helper refuses its name. -/
theorem seqovl_refused_by_wire :
    Config.validate { bypassMethod := [.seqovl] } = .ok () ∧
    BypassMethodList.requiresInterceptor [.seqovl] = true ∧
    invalidEndpointAddress 0x0A000001 = false ∧
    (interceptorConfig { bypassMethod := [.seqovl] } 0x0A000001 none
      connectPort).validate = .error "method names" :=
  ⟨rfl, rfl, by decide, rfl⟩

end ZeroDpi.Helper
