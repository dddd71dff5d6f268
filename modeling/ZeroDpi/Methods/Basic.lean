/-
The bypass-method interface (zerodpi-core/src/methods/mod.rs) and the
sampling it shares with `tls_frag` (methods/tcp_segmentation.rs).

# Hooks as functions

A hook of the source mutates a `PacketView` in place, returns a
`MethodAction`, and may panic on an `expect`, an `assert!` or an
out-of-range index. Here it returns the action together with the view it
leaves behind, or the panic. What it reads from outside its arguments,
the value in the shared `low_ttl` handle and the clock-seeded generator,
is a `HookEnv`; every statement about runs quantifies over it packet by
packet.
-/
import ZeroDpi.Flow
import ZeroDpi.Config.Basic

namespace ZeroDpi

/-- Results compare by what they hold, so that a run can be decided. -/
instance instDecidableEqExcept {ε α : Type} [DecidableEq ε]
    [DecidableEq α] : DecidableEq (Except ε α)
  | .ok a, .ok b =>
      decidable_of_iff (a = b) ⟨congrArg Except.ok, Except.ok.inj⟩
  | .error e, .error e' =>
      decidable_of_iff (e = e') ⟨congrArg Except.error, Except.error.inj⟩
  | .ok _, .error _ => isFalse (by intro h; cases h)
  | .error _, .ok _ => isFalse (by intro h; cases h)

/-- Why a hook panicked. -/
inductive Panic where
  | expectFailed (message : String)
  | assertFailed (message : String)
  | indexOutOfBounds
  deriving DecidableEq

/-- Result of asking a method to act on a packet. -/
inductive MethodAction where
  /-- Apply the staged mutations and accept. -/
  | emitFakeAndAccept (completeImmediately continueWithData : Bool)
  /-- Forward unchanged and mark the bypass phase complete. -/
  | completeAndAccept
  /-- Forward unchanged. -/
  | passThrough
  /-- Forward unchanged and mark the bypass phase failed. -/
  | abortAndAccept
  deriving DecidableEq

namespace MethodAction

/-- `emit_and_wait_for_ack`. -/
def emitAndWaitForAck : MethodAction := .emitFakeAndAccept false false

/-- `emit_and_complete`. -/
def emitAndComplete : MethodAction := .emitFakeAndAccept true false

/-- `emit_and_wait_for_data`. -/
def emitAndWaitForData : MethodAction := .emitFakeAndAccept false true

/-- `matches!(action, EmitFakeAndAccept { .. })`. -/
def isEmit : MethodAction → Bool
  | .emitFakeAndAccept _ _ => true
  | _ => false

/-- The tail shared by every handshake injector with a
`*_COMPLETE_IMMEDIATELY` switch. -/
def emitUnless (completeImmediately : Bool) : MethodAction :=
  if completeImmediately then emitAndComplete else emitAndWaitForAck

@[simp] theorem emitUnless_eq (b : Bool) :
    emitUnless b = .emitFakeAndAccept b false := by
  cases b <;> rfl

end MethodAction

/-- What a hook reads besides the flow and the packet: the TTL currently
stored in the `low_ttl` handle and the state a fresh `FragmentRng` starts
from. -/
structure HookEnv where
  ttl : UInt8
  rngState : UInt64
  deriving DecidableEq

/-- What a hook leaves behind: its action and the staged view, or the
panic. -/
abbrev HookResult := Except Panic (MethodAction × PacketView)

/-- A pluggable DPI-bypass technique (`trait BypassMethod`). The data hook
defaults to passing the packet through. -/
class BypassMethod (μ : Type) where
  name : μ → String
  onHandshakeCompleteAck : μ → HookEnv → FlowState → PacketView → HookResult
  onFirstDataPacket : μ → HookEnv → FlowState → PacketView → HookResult :=
    fun _ _ _ pkt => .ok (.passThrough, pkt)

-- ============================================================= sampling

/-- `sample_i32`: a fixed range takes no draw, any other range one draw
reduced modulo its width. -/
def sampleI32 (range : Int32Range) (state : UInt64) : Int32 × UInt64 :=
  if range.min = range.max then (range.min, state)
  else
    let width := (range.max.toInt - range.min.toInt + 1).toNat
    let (state, z) := splitmix64 state
    (range.min + Int32.ofNat (z.toNat % width), state)

/-- A draw does not wrap. -/
theorem sampleI32_toInt {r : Int32Range} (hne : r.min ≠ r.max)
    (state : UInt64) :
    (sampleI32 r state).1.toInt
      = r.min.toInt + ((splitmix64 state).2.toNat
        % (r.max.toInt - r.min.toInt + 1).toNat : Nat) := by
  have hord : r.min.toInt ≤ r.max.toInt := Int32.le_iff_toInt_le.mp r.ordered
  have hlow := r.min.le_toInt
  have hhigh := r.max.toInt_lt
  have hwidth : 0 < (r.max.toInt - r.min.toInt + 1).toNat := by omega
  have hlt := Nat.mod_lt (splitmix64 state).2.toNat hwidth
  unfold sampleI32
  rw [if_neg hne]
  show (r.min + Int32.ofNat _).toInt = _
  rw [Int32.toInt_add, Int32.toInt_ofNat', show Int32.size = 2 ^ 32 from rfl,
    Int.add_bmod_bmod]
  refine Int.bmod_eq_of_le ?_ ?_
  · omega
  · omega

end ZeroDpi
