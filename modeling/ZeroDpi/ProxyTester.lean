/-
The probe of a proxy test (zerodpi-core/src/proxy_tester.rs): what it makes
of `PROXY_TEST_URL`, and what it writes to the SOCKS5 proxy.

Texts are lists of characters. What is written behind the greeting is what
the probe writes where the proxy accepts each step; without a host and a
port no probe is made.
-/
import ZeroDpi.Interceptor
import ZeroDpi.Lib.Slice
import ZeroDpi.Lib.Text

namespace ZeroDpi.ProxyTester

open Lib

/-- A text as bytes. -/
def utf8 (s : List Char) : Bytes := s.flatMap String.utf8EncodeChar

/-- `rfind` of a character: the text before it and the text behind it. -/
def splitLast (c : Char) (s : List Char) : Option (List Char × List Char) :=
  (Text.splitOnce c s.reverse).map fun (behind, before) =>
    (before.reverse, behind.reverse)

/-- The schemes. -/
def httpsPrefix : List Char := ['h', 't', 't', 'p', 's', ':', '/', '/']

/-- Likewise. -/
def httpPrefix : List Char := ['h', 't', 't', 'p', ':', '/', '/']

/-- A URL without its scheme. -/
def stripScheme (url : List Char) : Option (List Char) :=
  (Text.stripPrefix httpsPrefix url).or (Text.stripPrefix httpPrefix url)

/-- `parse_url_host_port`. -/
def parseUrlHostPort (url : List Char) : Option (List Char × Nat) := do
  let rest ← stripScheme url
  let defaultPort := if httpsPrefix.isPrefixOf url then 443 else 80
  let authority := rest.takeWhile fun c => c != '/' && c != '?'
  match splitLast ']' authority with
  | some (before, behind) =>
      let port := (Text.stripPrefix [':'] behind).bind (Text.parseUnsigned 65536)
      return (before ++ [']'], port.getD defaultPort)
  | none =>
      match splitLast ':' authority with
      | some (host, port) =>
          return (host, (Text.parseUnsigned 65536 port).getD defaultPort)
      | none => return (authority, defaultPort)

/-- `extract_url_path`. -/
def extractUrlPath (url : List Char) : List Char :=
  let rest := (stripScheme url).getD url
  match rest.dropWhile (· != '/') with
  | [] => ['/']
  | path => path

/-- The CONNECT request, with `host_bytes.len() as u8`. -/
def connectRequest (host : List Char) (port : Nat) : Bytes :=
  [0x05, 0x01, 0x00, 0x03, (utf8 host).length.toUInt8] ++ utf8 host
    ++ toBe16 port

/-- The GET request. -/
def getRequest (path host : List Char) : List Char :=
  "GET ".toList ++ path ++ " HTTP/1.1\r\nHost: ".toList ++ host
    ++ ("\r\nConnection: close\r\n"
      ++ "User-Agent: zerodpi-proxy-scan/0.1\r\n\r\n").toList

/-- What a probe writes behind its greeting. -/
structure Written where
  connect : Bytes
  get : List Char
  deriving DecidableEq

/-- The probe of a URL by `socks5_http_probe`, if one is made. -/
def probe (url : List Char) : Option Written := do
  let (targetHost, targetPort) ← parseUrlHostPort url
  return {
    connect := connectRequest targetHost targetPort
    get := getRequest (extractUrlPath url) targetHost }

end ZeroDpi.ProxyTester
