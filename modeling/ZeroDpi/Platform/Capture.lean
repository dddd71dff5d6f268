/-
Which packets the NFQUEUE backend captures, and which of its own it puts
in front of that capture (zerodpi-platform/src/linux.rs).

# The rules

`iptables_rules` and `nft_add_rule_args` install one rule for each
direction; the outbound one is modelled, as the list of its matches. What
a match means is netfilter's: a port match holds of TCP packets only, and
never of a fragment behind the first, which carries no ports.

# The injected packets

Everything `send_raw_packet` sends leaves through the OUTPUT chain, so a
packet of `injected` that the rule matches comes back to the handler, as
an outbound packet of whatever flow its headers name.
-/
import ZeroDpi.Platform.Receiver

namespace ZeroDpi

open Lib

-- ================================================================= rules

/-- What of `FilterSpec` the rules match on. -/
structure FilterSpec where
  interfaceIp : Ipv4Addr
  /-- `none` matches every remote address. -/
  remoteIp : Option Ipv4Addr
  remotePort : UInt16
  linuxFirewallBackend : LinuxFirewallBackend
  deriving DecidableEq

/-- The matches the rules are made of. -/
inductive RuleMatch where
  | tcp
  | source (ip : Ipv4Addr)
  | destination (ip : Ipv4Addr)
  | tcpDport (port : UInt16)
  deriving DecidableEq

/-- The OUTPUT rule of `iptables_rules`, up to its jump. -/
def iptablesOutputRule (filter : FilterSpec) : List RuleMatch :=
  match filter.remoteIp with
  | some remote => [.tcp, .source filter.interfaceIp, .destination remote,
      .tcpDport filter.remotePort]
  | none => [.tcp, .source filter.interfaceIp, .tcpDport filter.remotePort]

/-- The outbound rule of `nft_add_rule_args`, up to its verdict. -/
def nftOutputRule (filter : FilterSpec) : List RuleMatch :=
  [.source filter.interfaceIp]
    ++ (filter.remoteIp.map RuleMatch.destination).toList
    ++ [.tcpDport filter.remotePort]

/-- The outbound rule the backend of a filter installs. -/
def FilterSpec.outputRule (filter : FilterSpec) : List RuleMatch :=
  match filter.linuxFirewallBackend with
  | .iptables => iptablesOutputRule filter
  | .nftables => nftOutputRule filter

/-- The ports of a packet, at their place behind its IPv4 header. -/
def portAt (b : Bytes) (i : Nat) : Nat :=
  be16 (b.getD (ipv4HeaderLen (b.getD 0 0) + i) 0)
    (b.getD (ipv4HeaderLen (b.getD 0 0) + i + 1) 0)

/-- Whether a packet meets a match. -/
def RuleMatch.holds (b : Bytes) : RuleMatch → Bool
  | .tcp => b.getD 9 0 == Linux.ipNumberTcp
  | .source ip => be32At b 12 == ip
  | .destination ip => be32At b 16 == ip
  | .tcpDport port => b.getD 9 0 == Linux.ipNumberTcp
      && fragmentOffset b == 0 && portAt b 2 == port.toNat

/-- Whether the installed rule queues an outgoing packet. -/
def FilterSpec.queues (filter : FilterSpec) (b : Bytes) : Bool :=
  filter.outputRule.all (RuleMatch.holds b)

-- ====================================================== on_packet, lookup

/-- `flow_key_for`. -/
def CapturedPacket.flowKey (pkt : CapturedPacket) : FlowKey :=
  match pkt.direction with
  | .outbound => ⟨pkt.srcIp, pkt.srcPort, pkt.dstIp, pkt.dstPort⟩
  | .inbound => ⟨pkt.dstIp, pkt.dstPort, pkt.srcIp, pkt.srcPort⟩

/-- The verdict of `on_packet`, its lookup in the flow table included. -/
def Handler.answer {μ : Type} [BypassMethod μ] (method : μ) (env : HookEnv)
    (flows : FlowKey → Option FlowState) (pkt : CapturedPacket) :
    Except Panic Verdict :=
  match flows pkt.flowKey with
  | none => .ok .accept
  | some s => do return (← onPacketLocked method env s pkt.view).verdict

-- ============================================================= injection

namespace Linux

/-- What of the shaped packet goes through the raw socket. -/
def injectShaped (io : RawIo) (view : PacketView) (newBytes : Bytes) :
    List Bytes :=
  match view.ipFragPayloadSize, view.disorderSpec with
  | some fragSize, _ =>
      let fragments := fragmentIpv4Packet newBytes fragSize
      if io.socket ∧ 1 < fragments.length then io.sendAll 0 fragments
      else []
  | none, some spec =>
      let segments := splitTcpPayload newBytes spec
      if io.socket ∧ 1 < segments.length then io.sendAll 0 segments else []
  | none, none =>
      if view.emitOriginalAfter ∧ io.socket then io.sendAll 0 [newBytes]
      else []

/-- Everything the backend hands to `send_raw_packet` for a modified
packet and gets out: the decoy copies, then the shaped packet. -/
def injected (E : Etherparse) (decoyIo io : RawIo) (buf : Bytes)
    (layout : PacketLayout) (view : PacketView) :
    Except Panic (List Bytes) := do
  let decoys ← emitDecoys E decoyIo buf layout view
  match ← buildModified E buf layout view with
  | none => return decoys
  | some newBytes => return decoys ++ injectShaped io view newBytes

end Linux

end ZeroDpi
