/-
Composition of the configured methods (zerodpi-core/src/methods/
composite.rs) and the builder that sorts a method list into the two
stages (`build_method`, methods/mod.rs).

`CompositeMethod` is generic in its members, as the boxed trait objects of
the source are; `Member` is the closed sum of the twelve interceptor
methods, and `buildMethod` the only producer of a composite.
-/
import ZeroDpi.Methods.Data

namespace ZeroDpi

/-- The composed method: members in configured order, by stage, and which
socket-side transforms the list also names. -/
structure CompositeMethod (μ : Type) where
  handshakeMethods : List μ
  dataMethods : List μ
  segmentsFirstClientHello : Bool
  padsFirstClientHello : Bool
  mixedCaseSniFirstHello : Bool
  splitsFirstClientHello : Bool
  ccsPrefixFirstHello : Bool
  recordSplitsFirstClientHello : Bool
  deriving DecidableEq

-- ======================================================= handshake stage

/-- The locals of the handshake-stage loop. -/
structure HandshakeAcc where
  pkt : PacketView
  stagedAny : Bool := false
  firstFlags : Option TcpFlags := none
  firstBumpIdent : Bool := false
  lastAction : Option MethodAction := none
  deriving DecidableEq

variable {μ : Type} [BypassMethod μ]

/-- One turn of the handshake-stage loop. -/
def HandshakeAcc.turn (env : HookEnv) (flow : FlowState)
    (acc : HandshakeAcc) (method : μ) : Except Panic HandshakeAcc := do
  let (action, pkt) ←
    BypassMethod.onHandshakeCompleteAck method env flow acc.pkt
  return {
    pkt := pkt
    stagedAny := acc.stagedAny || action.isEmit
    firstFlags :=
      if acc.pkt.newFlags.isNone && pkt.newFlags.isSome then pkt.newFlags
      else acc.firstFlags
    firstBumpIdent :=
      acc.firstBumpIdent || (!acc.pkt.bumpIpv4Ident && pkt.bumpIpv4Ident)
    lastAction := some action }

namespace CompositeMethod

omit [BypassMethod μ] in
/-- The disjunction that makes the handshake stage wait for the data
stage. `mixedCaseSniFirstHello` is not part of it. -/
def waitsForData (m : CompositeMethod μ) : Bool :=
  !m.dataMethods.isEmpty || m.segmentsFirstClientHello
    || m.padsFirstClientHello || m.splitsFirstClientHello
    || m.ccsPrefixFirstHello || m.recordSplitsFirstClientHello

/-- The action when no data stage follows, read off the last member. -/
def lastWord (stagedAny : Bool) : Option MethodAction → MethodAction
  | some (.emitFakeAndAccept completeImmediately _) =>
      if completeImmediately then .emitAndComplete else .emitAndWaitForAck
  | some .abortAndAccept =>
      if !stagedAny then .abortAndAccept else .completeAndAccept
  | some .completeAndAccept => .completeAndAccept
  | some .passThrough | none => .completeAndAccept

/-- `CompositeMethod::on_handshake_complete_ack`. -/
def onHandshakeCompleteAck (m : CompositeMethod μ) (env : HookEnv)
    (flow : FlowState) (pkt : PacketView) : HookResult := do
  let acc ← m.handshakeMethods.foldlM (HandshakeAcc.turn env flow)
    { pkt := pkt }
  let pkt := { acc.pkt with
    newFlags := acc.firstFlags
    bumpIpv4Ident := acc.firstBumpIdent }
  if m.waitsForData then return (.emitAndWaitForData, pkt)
  else return (lastWord acc.stagedAny acc.lastAction, pkt)

-- =========================================================== data stage

/-- The locals of the data-stage loop. -/
structure DataAcc where
  sawEmit : Bool := false
  completeImmediately : Bool := true
  continueWithData : Bool := false
  deriving DecidableEq

/-- What the data stage answers after the last member. -/
def DataAcc.action (acc : DataAcc) : MethodAction :=
  if acc.sawEmit then
    .emitFakeAndAccept acc.completeImmediately acc.continueWithData
  else .completeAndAccept

/-- The data-stage loop: an abort returns at once, an emission is folded
in, anything else contributes nothing. -/
def dataLoop (env : HookEnv) (flow : FlowState) :
    List μ → DataAcc → PacketView → HookResult
  | [], acc, pkt => .ok (acc.action, pkt)
  | method :: rest, acc, pkt => do
      let (action, pkt) ←
        BypassMethod.onFirstDataPacket method env flow pkt
      match action with
      | .emitFakeAndAccept immediate more =>
          dataLoop env flow rest {
            sawEmit := true
            completeImmediately := acc.completeImmediately && immediate
            continueWithData := acc.continueWithData || more } pkt
      | .abortAndAccept => return (.abortAndAccept, pkt)
      | .completeAndAccept | .passThrough => dataLoop env flow rest acc pkt

/-- `CompositeMethod::on_first_data_packet`. -/
def onFirstDataPacket (m : CompositeMethod μ) (env : HookEnv)
    (flow : FlowState) (pkt : PacketView) : HookResult :=
  if m.dataMethods.isEmpty then .ok (.completeAndAccept, pkt)
  else dataLoop env flow m.dataMethods {} pkt

/-- `CompositeMethod::name`. -/
def name (m : CompositeMethod μ) : String :=
  let parts := m.handshakeMethods.map BypassMethod.name
    ++ m.dataMethods.map BypassMethod.name
    ++ (if m.segmentsFirstClientHello then ["tls_frag"] else [])
    ++ (if m.padsFirstClientHello then ["tls_padding"] else [])
    ++ (if m.mixedCaseSniFirstHello then ["mixed_case_sni"] else [])
    ++ (if m.splitsFirstClientHello then ["sni_boundary_frag"] else [])
    ++ (if m.ccsPrefixFirstHello then ["ccs_prefix"] else [])
    ++ (if m.recordSplitsFirstClientHello then ["tls_record_split"] else [])
  " + ".intercalate parts

instance : BypassMethod (CompositeMethod μ) where
  name := name
  onHandshakeCompleteAck := onHandshakeCompleteAck
  onFirstDataPacket := onFirstDataPacket

end CompositeMethod

-- ============================================================== members

/-- The interceptor methods (`Box<dyn BypassMethod>`). -/
inductive Member where
  | wrongSeq (m : WrongSeq)
  | wrongAck (m : WrongAck)
  | wrongChecksum (m : WrongChecksum)
  | wrongMd5 (m : WrongMd5)
  | wrongTimestamp (m : WrongTimestamp)
  | lowTtl (m : LowTtl)
  | urgSniSplit (m : UrgSniSplit)
  | tlsRecordFrag (m : TlsRecordFrag)
  | fakeTls (m : FakeTls)
  | ipFrag (m : IpFrag)
  | disorder (m : Disorder)
  | seqovl (m : Seqovl)
  deriving DecidableEq

namespace Member

/-- `name` of the member behind the enum. -/
def name : Member → String
  | .wrongSeq m => BypassMethod.name m
  | .wrongAck m => BypassMethod.name m
  | .wrongChecksum m => BypassMethod.name m
  | .wrongMd5 m => BypassMethod.name m
  | .wrongTimestamp m => BypassMethod.name m
  | .lowTtl m => BypassMethod.name m
  | .urgSniSplit m => BypassMethod.name m
  | .tlsRecordFrag m => BypassMethod.name m
  | .fakeTls m => BypassMethod.name m
  | .ipFrag m => BypassMethod.name m
  | .disorder m => BypassMethod.name m
  | .seqovl m => BypassMethod.name m

/-- Dispatch of the handshake hook. -/
def onHandshakeCompleteAck (m : Member) (env : HookEnv) (flow : FlowState)
    (pkt : PacketView) : HookResult :=
  match m with
  | .wrongSeq m => BypassMethod.onHandshakeCompleteAck m env flow pkt
  | .wrongAck m => BypassMethod.onHandshakeCompleteAck m env flow pkt
  | .wrongChecksum m => BypassMethod.onHandshakeCompleteAck m env flow pkt
  | .wrongMd5 m => BypassMethod.onHandshakeCompleteAck m env flow pkt
  | .wrongTimestamp m => BypassMethod.onHandshakeCompleteAck m env flow pkt
  | .lowTtl m => BypassMethod.onHandshakeCompleteAck m env flow pkt
  | .urgSniSplit m => BypassMethod.onHandshakeCompleteAck m env flow pkt
  | .tlsRecordFrag m => BypassMethod.onHandshakeCompleteAck m env flow pkt
  | .fakeTls m => BypassMethod.onHandshakeCompleteAck m env flow pkt
  | .ipFrag m => BypassMethod.onHandshakeCompleteAck m env flow pkt
  | .disorder m => BypassMethod.onHandshakeCompleteAck m env flow pkt
  | .seqovl m => BypassMethod.onHandshakeCompleteAck m env flow pkt

/-- Dispatch of the data hook. -/
def onFirstDataPacket (m : Member) (env : HookEnv) (flow : FlowState)
    (pkt : PacketView) : HookResult :=
  match m with
  | .wrongSeq m => BypassMethod.onFirstDataPacket m env flow pkt
  | .wrongAck m => BypassMethod.onFirstDataPacket m env flow pkt
  | .wrongChecksum m => BypassMethod.onFirstDataPacket m env flow pkt
  | .wrongMd5 m => BypassMethod.onFirstDataPacket m env flow pkt
  | .wrongTimestamp m => BypassMethod.onFirstDataPacket m env flow pkt
  | .lowTtl m => BypassMethod.onFirstDataPacket m env flow pkt
  | .urgSniSplit m => BypassMethod.onFirstDataPacket m env flow pkt
  | .tlsRecordFrag m => BypassMethod.onFirstDataPacket m env flow pkt
  | .fakeTls m => BypassMethod.onFirstDataPacket m env flow pkt
  | .ipFrag m => BypassMethod.onFirstDataPacket m env flow pkt
  | .disorder m => BypassMethod.onFirstDataPacket m env flow pkt
  | .seqovl m => BypassMethod.onFirstDataPacket m env flow pkt

instance : BypassMethod Member where
  name := name
  onHandshakeCompleteAck := onHandshakeCompleteAck
  onFirstDataPacket := onFirstDataPacket

end Member

-- ========================================================= build_method

/-- Where `build_method` puts a list entry. -/
inductive Placement where
  | socketSide
  | handshake (m : Member)
  | data (m : Member)

/-- The `match name` of `build_method`. `chained` is `chained_fake_tls`;
`freshSeed` is the seed each overlap is given when its method is built. -/
def place (cfg : Config) (freshSeed : MethodName → UInt64)
    (chained : Bool) : MethodName → Option Placement
  | .tlsFrag | .ccsPrefix | .tlsPadding | .mixedCaseSni
  | .sniBoundaryFrag | .tlsRecordSplit => some .socketSide
  | .tlsRecordFrag => some (.data (.tlsRecordFrag (.new cfg)))
  | .fakeTls => some (.data (.fakeTls (.new cfg chained)))
  | .ipFrag => some (.data (.ipFrag (.new cfg)))
  | .disorder => some (.data (.disorder (.new cfg (freshSeed .disorder))))
  | .seqovl => some (.data (.seqovl (.new cfg (freshSeed .seqovl))))
  | .wrongSeq => some (.handshake (.wrongSeq (.new cfg)))
  | .wrongAck => some (.handshake (.wrongAck (.new cfg)))
  | .wrongChecksum => some (.handshake (.wrongChecksum (.new cfg)))
  | .wrongMd5 => some (.handshake (.wrongMd5 (.new cfg)))
  | .wrongTimestamp => some (.handshake (.wrongTimestamp (.new cfg)))
  | .lowTtl => some (.handshake (.lowTtl (.new cfg)))
  | .urgSniSplit => some (.handshake (.urgSniSplit (.new cfg)))
  | .unknown _ => none

/-- The member a placement adds to the handshake stage. -/
def Placement.handshake? : Placement → Option Member
  | .handshake m => some m
  | _ => none

/-- The member a placement adds to the data stage. -/
def Placement.data? : Placement → Option Member
  | .data m => some m
  | _ => none

/-- `chained_fake_tls`: `fake_tls` shares the data stage with a method
that shapes the real packet. -/
def BypassMethodList.chainedFakeTls (l : BypassMethodList) : Bool :=
  l.contains .fakeTls
    && (l.contains .tlsRecordFrag
      || [.ipFrag, .disorder, .seqovl].any l.contains)

/-- `build_method`. -/
def buildMethod (cfg : Config) (freshSeed : MethodName → UInt64) :
    Option (CompositeMethod Member) := do
  let list := cfg.bypassMethod
  if list.isEmpty || list.isSocketOnly then none
  let placements ← list.mapM (place cfg freshSeed list.chainedFakeTls)
  return {
    handshakeMethods := placements.filterMap Placement.handshake?
    dataMethods := placements.filterMap Placement.data?
    segmentsFirstClientHello := list.contains .tlsFrag
    padsFirstClientHello := list.contains .tlsPadding
    mixedCaseSniFirstHello := list.contains .mixedCaseSni
    splitsFirstClientHello := list.contains .sniBoundaryFrag
    ccsPrefixFirstHello := list.contains .ccsPrefix
    recordSplitsFirstClientHello := list.contains .tlsRecordSplit }

end ZeroDpi
