/-
The ClientHello template (zerodpi-core/src/tls_template.rs) and the fake
built from it for a new flow (proxy.rs, `fresh_fake_client_hello`).

A server name of at most 219 bytes is padded so that the record always has
the same length. A longer one is a failed assertion.
-/
import ZeroDpi.Config.Validate
import ZeroDpi.Interceptor
import ZeroDpi.Methods.Basic

namespace ZeroDpi.TlsTemplate

/-- `TLS_CH_TEMPLATE_HEX`, as far as whole words of 32 bytes go. -/
def tlsChTemplateHex : List Nat :=
  [0x1603010200010001fc030341d5b549d9cd1adfa7296c8418d157dc7b624c8428,
    0x24ff493b9375bb48d34f2b20bf018bcc90a7c89a230094815ad0c15b736e38c0,
    0x1209d72d282cb5e2105328150024130213031301c02cc030c02bc02fcca9cca8,
    0xc024c028c023c027009f009e006b006700ff0100018f0000000b00090000066d,
    0x63692e6972000b000403000102000a00160014001d0017001e00190018010001,
    0x01010201030104002300000010000e000c02683208687474702f312e31001600,
    0x0000170000000d002a0028040305030603080708080809080a080b0804080508,
    0x06040105010601030303010302040205020602002b00050403040303002d0002,
    0x0101003300260024001d0020435bacc4d05f9d41fef44ab3ad55616c36e06134,
    0x73e2338770efdaa98693d217001500d500000000000000000000000000000000,
    0x0000000000000000000000000000000000000000000000000000000000000000,
    0x0000000000000000000000000000000000000000000000000000000000000000,
    0x0000000000000000000000000000000000000000000000000000000000000000,
    0x0000000000000000000000000000000000000000000000000000000000000000,
    0x0000000000000000000000000000000000000000000000000000000000000000,
    0x0000000000000000000000000000000000000000000000000000000000000000]

/-- What is left of it, five bytes. -/
def tlsChTemplateHexRest : Nat := 0x0000000000

/-- `CLIENT_HELLO_LEN`. -/
def clientHelloLen : Nat := 517

/-- `TEMPLATE_SNI_LEN`. -/
def templateSniLen : Nat := 6

/-- The `n` bytes of a word, the highest first. -/
def wordBytes (n : Nat) (word : Nat) : Bytes :=
  (List.range n).map fun i => UInt8.ofNat (word / 256 ^ (n - 1 - i))

/-- `template_bytes`. -/
def templateBytes : Bytes :=
  tlsChTemplateHex.flatMap (wordBytes 32) ++ wordBytes 5 tlsChTemplateHexRest

/-- `&bytes[from..to]`. -/
def slice (bytes : Bytes) (first last : Nat) : Bytes :=
  (bytes.take last).drop first

/-- `(n as u16).to_be_bytes()`. -/
def be16 (n : Nat) : Bytes :=
  [UInt8.ofNat (n % 2 ^ 16 / 256), UInt8.ofNat (n % 256)]

/-- An `assert!`. -/
def assert (holds : Bool) (message : String) : Except Panic Unit :=
  if holds then .ok () else .error (.assertFailed message)

/-- The panic of a server name that does not fit. -/
def sniTooLong : Panic := .assertFailed "SNI too long"

/-- The `server_name` extension behind its type. -/
def serverNameExt (targetSni : Bytes) : Bytes :=
  be16 (targetSni.length + 5) ++ be16 (targetSni.length + 3) ++ [0x00]
    ++ be16 targetSni.length ++ targetSni

/-- The padding extension behind its type. -/
def paddingExt (padLen : Nat) : Bytes :=
  be16 padLen ++ List.replicate padLen 0

/-- The record, put together. -/
def clientHello (random sessionId targetSni keyShare : Bytes) : Bytes :=
  slice templateBytes 0 11 ++ random ++ [0x20] ++ sessionId
    ++ slice templateBytes 76 120 ++ serverNameExt targetSni
    ++ slice templateBytes (127 + templateSniLen) (262 + templateSniLen)
    ++ keyShare ++ [0x00, 0x15]
    ++ paddingExt (Config.maxSniLen - targetSni.length)

/-- `build_client_hello`. -/
def buildClientHello (random sessionId targetSni keyShare : Bytes) :
    Except Panic Bytes := do
  assert (random.length = 32) "random must be 32 bytes"
  assert (sessionId.length = 32) "session_id must be 32 bytes"
  assert (keyShare.length = 32) "key_share must be 32 bytes"
  assert (targetSni.length ≤ Config.maxSniLen) "SNI too long"
  return clientHello random sessionId targetSni keyShare

/-- The three random fields of a ClientHello, 32 bytes each. -/
structure HelloSeed where
  random : Bytes
  sessionId : Bytes
  keyShare : Bytes
  random_length : random.length = 32
  sessionId_length : sessionId.length = 32
  keyShare_length : keyShare.length = 32

/-- The bytes of a text. -/
def asBytes (s : String) : Bytes := s.toByteArray.data.toList

/-- `fresh_fake_client_hello`, with what `random32` filled in. -/
def freshFakeClientHello (seed : HelloSeed) (fakeSni : String) :
    Except Panic Bytes :=
  buildClientHello seed.random seed.sessionId (asBytes fakeSni) seed.keyShare

end ZeroDpi.TlsTemplate
