/-
The three readers of HTTP responses: `measure_download`
(zerodpi-core/src/scanner_http.rs), the end of `socks5_http_probe`
(zerodpi-core/src/proxy_tester.rs) and `read_http_response`
(zerodpi-core/src/method_scanner.rs).

A response arrives in pieces; what a loop reads of them is `reads`, and each
reader is a fold of its loop's body. No read fails or times out. Times and
rates are left out, but for whether `ttfb_ms` is set.
-/
import ZeroDpi.Lib.Reads
import ZeroDpi.Lib.Text
import ZeroDpi.Lib.Utf8

namespace ZeroDpi.HttpProbe

open Lib

/-- Raw bytes. -/
abbrev Bytes := List UInt8

/-- What every status line starts with. -/
def httpPrefix : List Char := ['H', 'T', 'T', 'P', '/']

/-- The number behind the first part of a text's first line, where the first
part will do. -/
def firstLineStatus (version : List Char → Bool) (text : List Char) :
    Option Nat := do
  let line ← (Text.lines text).head?
  let parts := Text.splitn 3 ' ' line
  let first ← parts[0]?
  guard (version first)
  Text.parseUnsigned 65536 (← parts[1]?)

-- ========================================================= measure_download

namespace Download

/-- `parse_http_status` of scanner_http.rs. -/
def parseHttpStatus : List Char → Option Nat :=
  firstLineStatus fun version => httpPrefix.isPrefixOf version

/-- What `measure_download` keeps. -/
structure State where
  totalRead : Nat := 0
  statusLine : Bytes := []
  statusLineComplete : Bool := false
  status : Option Nat := none
  deriving DecidableEq

/-- `if !status_line_complete { .. }`. -/
def State.line (s : State) (bytes : Bytes) : State :=
  if s.statusLineComplete then s
  else
    let lineEnd := bytes.findIdx? (· == 0x0A)
    let take := min (lineEnd.getD bytes.length) (1024 - s.statusLine.length)
    let statusLine := s.statusLine ++ bytes.take take
    if lineEnd.isSome || statusLine.length == 1024 then
      { s with
        statusLine
        statusLineComplete := true
        status :=
          if lineEnd.isSome then (Utf8.decode statusLine).bind parseHttpStatus
          else s.status }
    else { s with statusLine }

/-- One read of it. -/
def State.read (s : State) (bytes : Bytes) : State :=
  { s.line bytes with totalRead := s.totalRead + bytes.length }

/-- The length of `buf`. -/
def bufSize (cap : Nat) : Nat := min cap (8 * 1024)

/-- All of them. -/
def measureDownload (cap : Nat) (pieces : List Bytes) : State :=
  (reads (bufSize cap) cap pieces).foldl State.read {}

end Download

-- ======================================================== socks5_http_probe

namespace Socks5

/-- `parse_http_status` of proxy_tester.rs. -/
def parseHttpStatus : List Char → Option Nat :=
  firstLineStatus fun _ => true

/-- What `socks5_http_probe` keeps. -/
structure State where
  totalRead : Nat := 0
  /-- Whether `ttfb_ms` is set. -/
  answered : Bool := false
  httpStatus : Option Nat := none
  deriving DecidableEq

/-- One read of it; only the first is looked at. -/
def State.read (s : State) (bytes : Bytes) : State :=
  { totalRead := s.totalRead + bytes.length
    answered := true
    httpStatus :=
      if s.answered then s.httpStatus
      else
        match Utf8.decode bytes with
        | some text => parseHttpStatus text
        | none => s.httpStatus }

/-- At least 512 KB of `SCAN_DOWNLOAD_CAP`. -/
def downloadCap (scanDownloadCap : Nat) : Nat := max scanDownloadCap 524288

/-- All of them. -/
def socks5HttpProbe (scanDownloadCap : Nat) (pieces : List Bytes) : State :=
  (reads (downloadCap scanDownloadCap) (downloadCap scanDownloadCap)
    pieces).foldl State.read {}

end Socks5

-- ======================================================= read_http_response

namespace Response

/-- `get(0..n)`: the characters of the first `n` bytes, if they end there. -/
def getFront : Nat → List Char → Option (List Char)
  | 0, _ => some []
  | _ + 1, [] => none
  | n + 1, c :: rest =>
      if c.utf8Size ≤ n + 1 then
        (getFront (n + 1 - c.utf8Size) rest).map (c :: ·)
      else none

/-- `parse_http_status` of method_scanner.rs. -/
def parseHttpStatus (head : List Char) : Option Nat := do
  let rest ← Text.stripPrefix httpPrefix head
  let (_, behind) ← Text.splitOnce ' ' rest
  Text.parseUnsigned 65536 (← getFront 3 behind)

/-- An empty line. -/
def headerEndMark : Bytes := [0x0D, 0x0A, 0x0D, 0x0A]

/-- The place behind the header. -/
def findHeaderEnd : Bytes → Option Nat
  | [] => none
  | b :: rest =>
      if headerEndMark.isPrefixOf (b :: rest) then some 4
      else (findHeaderEnd rest).map (· + 1)

/-- What `read_http_response` keeps. -/
structure State where
  /-- `buf[..total_read]`. -/
  buf : Bytes := []
  httpStatus : Option Nat := none
  headerEnd : Option Nat := none
  deriving DecidableEq

/-- `total_read`. -/
def State.totalRead (s : State) : Nat := s.buf.length

/-- One read of it. -/
def State.read (s : State) (bytes : Bytes) : State :=
  let buf := s.buf ++ bytes
  match s.headerEnd with
  | some _ => { s with buf }
  | none =>
      match findHeaderEnd buf with
      | none => { s with buf }
      | some pos =>
          { buf
            headerEnd := some pos
            httpStatus :=
              match Utf8.decode (buf.take pos) with
              | some head => parseHttpStatus head
              | none => s.httpStatus }

/-- The status and the number of body bytes. -/
def readHttpResponse (cap : Nat) (pieces : List Bytes) : Option Nat × Nat :=
  let s := (reads cap cap pieces).foldl State.read {}
  (s.httpStatus, (s.headerEnd.map (s.totalRead - ·)).getD 0)

end Response

end ZeroDpi.HttpProbe
