/-
The shared ClientHello walker (zerodpi-core/src/methods/sni.rs).

The walk is the source's, offset for offset. It leaves through `none`
wherever the source's `get(..)?` does; the one place that indexes without
a check, the three handshake-length bytes of the record body, panics on a
body shorter than four bytes.
-/
import ZeroDpi.Methods.Basic
import ZeroDpi.Lib.Slice

namespace ZeroDpi

open Lib

/-- Location of the SNI extension inside a ClientHello payload. -/
structure SniBoundary where
  /-- Offset one past the extension's length field. -/
  extLenFieldEnd : Nat
  /-- Offset of the first host-name byte. -/
  nameStart : Nat
  /-- Length of the host name. -/
  nameLen : Nat
  deriving DecidableEq

/-- The body of the `server_name` arm: `extData` is the extension's
content, `headerStart` the offset of its four-byte header in the
payload. -/
def serverName (extData : Bytes) (headerStart : Nat) : Option SniBoundary := do
  let listPair ← slice? extData 0 2
  let listLen := be16 (listPair.getD 0 0) (listPair.getD 1 0)
  let list ← slice? extData 2 (2 + listLen)
  if list.head? ≠ some 0x00 then none
  let namePair ← slice? list 1 3
  let nameLen := be16 (namePair.getD 0 0) (namePair.getD 1 0)
  if nameLen = 0 then none
  let _ ← slice? list 3 (3 + nameLen)
  return {
    extLenFieldEnd := headerStart + 4
    nameStart := headerStart + 4 + 2 + 1 + 2
    nameLen := nameLen }

/-- The extension loop from cursor `e`; `base` is the offset of the
extension list in the payload. An extension takes at least four bytes, so
the list's length bounds the number of turns. -/
def scanExtensions (extensions : Bytes) (base : Nat) :
    Nat → Nat → Option SniBoundary
  | 0, _ => none
  | fuel + 1, e =>
      if extensions.length < e + 4 then none
      else do
        let extLen := be16 (extensions.getD (e + 2) 0)
          (extensions.getD (e + 3) 0)
        let extData ← slice? extensions (e + 4) (e + 4 + extLen)
        if be16 (extensions.getD e 0) (extensions.getD (e + 1) 0) = 0x0000 then
          serverName extData (base + e)
        else scanExtensions extensions base fuel (e + 4 + extLen)

/-- The walk through a handshake body: fixed fields, session id, cipher
suites, compression methods, extensions. -/
def sniInHello (body : Bytes) : Option SniBoundary := do
  let off := 2 + 32 + 1
  let sidLen ← body[off - 1]?
  let off := off + sidLen.toNat
  let csPair ← slice? body off (off + 2)
  let off := off + (2 + be16 (csPair.getD 0 0) (csPair.getD 1 0))
  let cmLen ← body[off]?
  let off := off + (1 + cmLen.toNat)
  let extPair ← slice? body off (off + 2)
  let extTotal := be16 (extPair.getD 0 0) (extPair.getD 1 0)
  let p := off + 2
  let extensions ← slice? body p (p + extTotal)
  -- the handshake body starts nine bytes into the payload
  scanExtensions extensions (9 + p) (extensions.length + 1) 0

/-- `find_sni_boundary`. -/
def findSniBoundary (data : Bytes) : Except Panic (Option SniBoundary) :=
  match data with
  | contentType :: _ :: _ :: l0 :: l1 :: _ =>
      if contentType ≠ 0x16 then .ok none
      else match slice? data 5 (5 + be16 l0 l1) with
        | none => .ok none
        | some recordBody =>
            if recordBody.head? ≠ some 0x01 then .ok none
            else match recordBody with
              | _ :: a :: b :: c :: _ =>
                  .ok ((slice? recordBody 4 (4 + be24 a b c)).bind sniInHello)
              | _ => .error .indexOutOfBounds
  | _ => .ok none

-- ==================================================== its direct indexes

/-- A piece of the walk: `none` where a `?` leaves it, and the panic of an
index that is out of range. -/
abbrev Walk (α : Type) := OptionT (Except Panic) α

/-- `l.get(lo..hi)?`. -/
def getRange (l : Bytes) (lo hi : Nat) : Walk Bytes :=
  OptionT.mk (.ok (slice? l lo hi))

/-- `*l.get(i)?`. -/
def getByte (l : Bytes) (i : Nat) : Walk UInt8 := OptionT.mk (.ok l[i]?)

/-- `l[i]`. -/
def index (l : Bytes) (i : Nat) : Walk UInt8 :=
  match l[i]? with
  | some b => pure b
  | none => OptionT.mk (.error .indexOutOfBounds)

/-- `u16::from_be_bytes([l[i], l[i + 1]])`. -/
def index16 (l : Bytes) (i : Nat) : Walk Nat := do
  let hi ← index l i
  let lo ← index l (i + 1)
  pure (be16 hi lo)

/-- `serverName`, index for index. -/
def indexedServerName (extData : Bytes) (headerStart : Nat) :
    Walk SniBoundary := do
  let listPair ← getRange extData 0 2
  let listLen ← index16 listPair 0
  let list ← getRange extData 2 (2 + listLen)
  if list.head? ≠ some 0x00 then failure
  else
    let namePair ← getRange list 1 3
    let nameLen ← index16 namePair 0
    if nameLen = 0 then failure
    else
      let _ ← getRange list 3 (3 + nameLen)
      pure {
        extLenFieldEnd := headerStart + 4
        nameStart := headerStart + 4 + 2 + 1 + 2
        nameLen := nameLen }

/-- `scanExtensions`, index for index. -/
def indexedScan (extensions : Bytes) (base : Nat) :
    Nat → Nat → Walk SniBoundary
  | 0, _ => failure
  | fuel + 1, e =>
      if extensions.length < e + 4 then failure
      else do
        let extLen ← index16 extensions (e + 2)
        let extData ← getRange extensions (e + 4) (e + 4 + extLen)
        let extType ← index16 extensions e
        if extType = 0x0000 then indexedServerName extData (base + e)
        else indexedScan extensions base fuel (e + 4 + extLen)

/-- `sniInHello`, index for index. -/
def indexedInHello (body : Bytes) : Walk SniBoundary := do
  let off := 2 + 32 + 1
  let sidLen ← getByte body (off - 1)
  let off := off + sidLen.toNat
  let csPair ← getRange body off (off + 2)
  let csLen ← index16 csPair 0
  let off := off + (2 + csLen)
  let cmLen ← getByte body off
  let off := off + (1 + cmLen.toNat)
  let extPair ← getRange body off (off + 2)
  let extTotal ← index16 extPair 0
  let p := off + 2
  let extensions ← getRange body p (p + extTotal)
  indexedScan extensions (9 + p) (extensions.length + 1) 0

/-- `find_sni_boundary` once more, with each of its direct indexes a check
of its own. -/
def indexedFindSniBoundary (data : Bytes) : Walk SniBoundary := do
  let recordHeader ← getRange data 0 5
  let contentType ← index recordHeader 0
  if contentType ≠ 0x16 then failure
  else
    let recordLen ← index16 recordHeader 3
    let recordBody ← getRange data 5 (5 + recordLen)
    if recordBody.head? ≠ some 0x01 then failure
    else
      let a ← index recordBody 1
      let b ← index recordBody 2
      let c ← index recordBody 3
      let body ← getRange recordBody 4 (4 + be24 a b c)
      indexedInHello body

/-- `find_sni_range`. -/
def findSniRange (data : Bytes) : Except Panic (Option (Nat × Nat)) :=
  (findSniBoundary data).map fun boundary =>
    boundary.map fun b => (b.nameStart, b.nameLen)

end ZeroDpi
