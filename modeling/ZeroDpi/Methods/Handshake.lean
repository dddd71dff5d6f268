/-
The handshake-stage injectors: `wrong_seq`, `wrong_ack`,
`wrong_checksum`, `wrong_md5`, `wrong_timestamp`, `low_ttl`
(zerodpi-core/src/methods/).

All six put the flow's spoofed ClientHello on the captured ACK; they
differ in the one field that makes the server discard it. The common
part is `stageFake`, and each method is `stageFake` plus its own field.
-/
import ZeroDpi.Methods.Basic
import ZeroDpi.Config.Validate
import ZeroDpi.Lib.Slice

namespace ZeroDpi

open Lib

/-- The staging every injector shares: the fake payload, the captured
flags with PSH set as configured, the identification bump. -/
def PacketView.stageFake (pkt : PacketView) (payload : Bytes)
    (setPsh bumpIpIdent : Bool) : PacketView :=
  { pkt with
    newFlags := some { pkt.flags with psh := setPsh }
    newPayload := some payload
    bumpIpv4Ident := bumpIpIdent }

/-- The sequence number that ends `payloadLen + extraOffset` bytes of
payload at or before `syn_seq + 1`. -/
def seqBehindWindow (synSeq payloadLen extraOffset : UInt32) : UInt32 :=
  synSeq + 1 - payloadLen - extraOffset

-- ============================================================ wrong_seq

/-- `wrong_seq`. -/
structure WrongSeq where
  extraOffset : UInt32
  setPsh : Bool
  bumpIpIdent : Bool
  deriving DecidableEq

/-- Its offset, and the header bits it sets. -/
def WrongSeq.new (cfg : Config) : WrongSeq where
  extraOffset := cfg.wrongSeqExtraOffset
  setPsh := cfg.wrongSeqSetPsh
  bumpIpIdent := cfg.wrongSeqBumpIpIdent

/-- Fake ClientHello with a sequence number behind the server's receive
window. -/
def WrongSeq.onHandshakeCompleteAck (m : WrongSeq) (flow : FlowState)
    (pkt : PacketView) : HookResult :=
  match flow.synSeq with
  | none => .error (.expectFailed
      "syn_seq must be set before handshake-complete ACK")
  | some synSeq =>
      let payload := flow.fakeData
      let newSeq :=
        seqBehindWindow synSeq payload.length.toUInt32 m.extraOffset
      .ok (.emitAndWaitForAck,
        { pkt.stageFake payload m.setPsh m.bumpIpIdent with
          newSeq := some newSeq })

instance : BypassMethod WrongSeq where
  name _ := "wrong_seq"
  onHandshakeCompleteAck m _ flow pkt := m.onHandshakeCompleteAck flow pkt

-- ============================================================ wrong_ack

/-- `wrong_ack`. -/
structure WrongAck where
  offset : UInt32
  setPsh : Bool
  bumpIpIdent : Bool
  completeImmediately : Bool
  deriving DecidableEq

/-- Its offset, and the header bits it sets. -/
def WrongAck.new (cfg : Config) : WrongAck where
  offset := cfg.wrongAckOffset
  setPsh := cfg.wrongAckSetPsh
  bumpIpIdent := cfg.wrongAckBumpIpIdent
  completeImmediately := cfg.wrongAckCompleteImmediately

/-- Fake ClientHello with an acknowledgment number before the server's
send window. -/
def WrongAck.onHandshakeCompleteAck (m : WrongAck) (flow : FlowState)
    (pkt : PacketView) : HookResult :=
  match flow.synAckSeq with
  | none => .error (.expectFailed
      "syn_ack_seq must be set before handshake-complete ACK")
  | some synAckSeq =>
      .ok (.emitUnless m.completeImmediately,
        { pkt.stageFake flow.fakeData m.setPsh m.bumpIpIdent with
          newAck := some (synAckSeq + 1 - m.offset) })

instance : BypassMethod WrongAck where
  name _ := "wrong_ack"
  onHandshakeCompleteAck m _ flow pkt := m.onHandshakeCompleteAck flow pkt

-- ======================================================= wrong_checksum

/-- `wrong_checksum`. -/
structure WrongChecksum where
  checksumDelta : UInt16
  setPsh : Bool
  bumpIpIdent : Bool
  completeImmediately : Bool
  deriving DecidableEq

/-- Its delta, and the header bits it sets. -/
def WrongChecksum.new (cfg : Config) : WrongChecksum where
  checksumDelta := cfg.wrongChecksumDelta
  setPsh := cfg.wrongChecksumSetPsh
  bumpIpIdent := cfg.wrongChecksumBumpIpIdent
  completeImmediately := cfg.wrongChecksumCompleteImmediately

/-- Fake ClientHello whose TCP checksum is off by `checksumDelta`. -/
def WrongChecksum.onHandshakeCompleteAck (m : WrongChecksum)
    (flow : FlowState) (pkt : PacketView) : HookResult :=
  .ok (.emitUnless m.completeImmediately,
    { pkt.stageFake flow.fakeData m.setPsh m.bumpIpIdent with
      corruptTcpChecksumDelta := some m.checksumDelta })

instance : BypassMethod WrongChecksum where
  name _ := "wrong_checksum"
  onHandshakeCompleteAck m _ flow pkt := m.onHandshakeCompleteAck flow pkt

-- ============================================================ wrong_md5

/-- `tcp_md5_signature_option`: kind 19, length 18, a zero digest. -/
def tcpMd5SignatureOption : Bytes := 19 :: 18 :: List.replicate 16 0

/-- `wrong_md5`. -/
structure WrongMd5 where
  setPsh : Bool
  bumpIpIdent : Bool
  completeImmediately : Bool
  deriving DecidableEq

/-- The header bits it sets. -/
def WrongMd5.new (cfg : Config) : WrongMd5 where
  setPsh := cfg.wrongMd5SetPsh
  bumpIpIdent := cfg.wrongMd5BumpIpIdent
  completeImmediately := cfg.wrongMd5CompleteImmediately

/-- Fake ClientHello carrying a TCP-MD5 option nobody negotiated. -/
def WrongMd5.onHandshakeCompleteAck (m : WrongMd5) (flow : FlowState)
    (pkt : PacketView) : HookResult :=
  .ok (.emitUnless m.completeImmediately,
    { pkt.stageFake flow.fakeData m.setPsh m.bumpIpIdent with
      appendTcpOptions := tcpMd5SignatureOption })

instance : BypassMethod WrongMd5 where
  name _ := "wrong_md5"
  onHandshakeCompleteAck m _ flow pkt := m.onHandshakeCompleteAck flow pkt

-- ====================================================== wrong_timestamp

/-- The option walk of `backdate_tcp_timestamp` from `cursor`. Every turn
advances the cursor, so the length of the options bounds the turns. -/
def backdateFrom (options : Bytes) (offset : UInt32) :
    Nat → Nat → Option Bytes
  | 0, _ => none
  | fuel + 1, cursor =>
      match options[cursor]? with
      | none => none
      | some 0 => none
      | some 1 => backdateFrom options offset fuel (cursor + 1)
      | some kind => do
          let optLen := (← options[cursor + 1]?).toNat
          if optLen < 2 then none
          let stop := cursor + optLen
          if stop > options.length then none
          if kind = 8 then
            if optLen ≠ 10 then none
            let byteAt i := options.getD (cursor + 2 + i) 0
            let tsval := be32 (byteAt 0) (byteAt 1) (byteAt 2) (byteAt 3)
            return options.take (cursor + 2) ++ toBe32 (tsval - offset)
              ++ options.drop (cursor + 6)
          else backdateFrom options offset fuel stop

/-- `backdate_tcp_timestamp`: the options with `TSval` moved back by
`offset`, or `none` without a usable timestamp option. -/
def backdateTcpTimestamp (options : Bytes) (offset : UInt32) :
    Option Bytes :=
  backdateFrom options offset (options.length + 1) 0

/-- What a turn of the loop of `backdate_tcp_timestamp` does: leave with a
result, or go on at a cursor. -/
inductive WalkTurn where
  | leave (result : Option Bytes)
  | next (cursor : Nat)

/-- `options[i]`. -/
def indexByte (options : Bytes) (i : Nat) : Except Panic UInt8 :=
  match options[i]? with
  | some b => .ok b
  | none => .error .indexOutOfBounds

/-- `u32::from_be_bytes` of four bytes from `options[i]` on. -/
def indexWord (options : Bytes) (i : Nat) : Except Panic UInt32 := do
  let a ← indexByte options i
  let b ← indexByte options (i + 1)
  let c ← indexByte options (i + 2)
  let d ← indexByte options (i + 3)
  return be32 a b c d

/-- `out[i..i + 4].copy_from_slice(..)`. -/
def copyWord (out : Bytes) (i : Nat) (word : UInt32) : Except Panic Bytes :=
  if i + 4 ≤ out.length then .ok (overwrite out i (toBe32 word))
  else .error .indexOutOfBounds

/-- One turn of the loop, index for index. -/
def backdateTurn (options : Bytes) (offset : UInt32) (cursor : Nat) :
    Except Panic WalkTurn :=
  if ¬ cursor < options.length then .ok (.leave none)
  else do
    let kind ← indexByte options cursor
    if kind = 0 then return .leave none
    else if kind = 1 then return .next (cursor + 1)
    else match options[cursor + 1]? with
      | none => return .leave none
      | some len =>
          if len.toNat < 2 then return .leave none
          else if cursor + len.toNat > options.length then
            return .leave none
          else if kind = 8 then
            if len.toNat ≠ 10 then return .leave none
            else
              let tsval ← indexWord options (cursor + 2)
              let _tsecr ← indexWord options (cursor + 6)
              let out ← copyWord options (cursor + 2) (tsval - offset)
              return .leave (some out)
          else return .next (cursor + len.toNat)

/-- The loop from `cursor`, for so many turns; `none` when it has not left
by then. -/
def backdateTurns (options : Bytes) (offset : UInt32) :
    Nat → Nat → Except Panic (Option (Option Bytes))
  | 0, _ => .ok none
  | turns + 1, cursor => do
      match ← backdateTurn options offset cursor with
      | .leave result => return some result
      | .next cursor => backdateTurns options offset turns cursor

/-- `wrong_timestamp`. -/
structure WrongTimestamp where
  offset : UInt32
  setPsh : Bool
  bumpIpIdent : Bool
  completeImmediately : Bool
  deriving DecidableEq

/-- Its offset, and the header bits it sets. -/
def WrongTimestamp.new (cfg : Config) : WrongTimestamp where
  offset := cfg.wrongTimestampOffset
  setPsh := cfg.wrongTimestampSetPsh
  bumpIpIdent := cfg.wrongTimestampBumpIpIdent
  completeImmediately := cfg.wrongTimestampCompleteImmediately

/-- Fake ClientHello with a backdated timestamp; the only injector that
can refuse, and then it stages nothing. -/
def WrongTimestamp.onHandshakeCompleteAck (m : WrongTimestamp)
    (flow : FlowState) (pkt : PacketView) : HookResult :=
  match backdateTcpTimestamp pkt.tcpOptions m.offset with
  | none => .ok (.abortAndAccept, pkt)
  | some options =>
      .ok (.emitUnless m.completeImmediately,
        { pkt.stageFake flow.fakeData m.setPsh m.bumpIpIdent with
          replaceTcpOptions := some options })

instance : BypassMethod WrongTimestamp where
  name _ := "wrong_timestamp"
  onHandshakeCompleteAck m _ flow pkt := m.onHandshakeCompleteAck flow pkt

-- ============================================================== low_ttl

/-- `low_ttl`; the TTL itself is in a handle. -/
structure LowTtl where
  setPsh : Bool
  bumpIpIdent : Bool
  completeImmediately : Bool
  deriving DecidableEq

/-- The configured TTL goes into the shared handle, which hooks read
through `HookEnv.ttl`. -/
def LowTtl.new (cfg : Config) : LowTtl where
  setPsh := cfg.lowTtlSetPsh
  bumpIpIdent := cfg.lowTtlBumpIpIdent
  completeImmediately := cfg.lowTtlCompleteImmediately

/-- Fake ClientHello stamped with a TTL that expires on the way; a
per-flow override wins over the shared handle. -/
def LowTtl.onHandshakeCompleteAck (m : LowTtl) (env : HookEnv)
    (flow : FlowState) (pkt : PacketView) : HookResult :=
  .ok (.emitUnless m.completeImmediately,
    { pkt.stageFake flow.fakeData m.setPsh m.bumpIpIdent with
      newIpv4Ttl := some (flow.lowTtlOverride.getD env.ttl) })

instance : BypassMethod LowTtl where
  name _ := "low_ttl"
  onHandshakeCompleteAck m env flow pkt :=
    m.onHandshakeCompleteAck env flow pkt

end ZeroDpi
