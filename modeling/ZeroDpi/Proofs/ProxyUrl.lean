/-
What a proxy test asks for, against what its URL says.

A URL is put together from its parts (`Url`), and the request is read back as
RFC 1928 says (`decodeConnect`). The host and the port come out as they went
in, but for the brackets of an IPv6 literal (`parseUrlHostPort_text`); the
path is cut at the first slash, wherever that is (`extractUrlPath_text`).
-/
import ZeroDpi.ProxyTester

namespace ZeroDpi.ProxyTester

open Lib

-- ==================================================================== a URL

/-- A character that ends an authority or stands for something in it. -/
def isDelimiter (c : Char) : Bool :=
  c == '/' || c == '?' || c == '#' || c == '[' || c == ']' || c == '@' || c == ' '

/-- A host, as a URL has it. -/
inductive UrlHost where
  | name (text : List Char) (nonempty : text ≠ [])
      (plain : ∀ c ∈ text, isDelimiter c = false ∧ c ≠ ':')
  | ipv6 (text : List Char) (nonempty : text ≠ [])
      (plain : ∀ c ∈ text, isDelimiter c = false)

/-- A decimal port below 65536. -/
structure UrlPort where
  text : List Char
  number : Nat
  reads : Text.digits? text = some number
  fits : number < 65536

/-- A URL with a scheme that is known. -/
structure Url where
  https : Bool
  host : UrlHost
  port : Option UrlPort
  rest : List Char
  starts : rest = [] ∨ rest.head? = some '/' ∨ rest.head? = some '?'
  plain : ' ' ∉ rest

namespace UrlHost

/-- The host without the brackets of an IPv6 literal. -/
def bare : UrlHost → List Char
  | name text _ _ => text
  | ipv6 text _ _ => text

/-- The host in the URL. -/
def text : UrlHost → List Char
  | name text _ _ => text
  | ipv6 text _ _ => '[' :: (text ++ [']'])

/-- Whether it is a name. -/
def isName : UrlHost → Bool
  | name .. => true
  | ipv6 .. => false

end UrlHost

namespace Url

/-- The scheme in the URL. -/
def scheme (u : Url) : List Char :=
  if u.https then httpsPrefix else httpPrefix

/-- The port in the URL, if it is given. -/
def portText (u : Url) : List Char :=
  match u.port with
  | none => []
  | some port => ':' :: port.text

/-- Host and port. -/
def authority (u : Url) : List Char := u.host.text ++ u.portText

/-- The URL. -/
def text (u : Url) : List Char := u.scheme ++ (u.authority ++ u.rest)

/-- The port, or the scheme's own. -/
def portNumber (u : Url) : Nat :=
  match u.port with
  | none => if u.https then 443 else 80
  | some port => port.number

/-- The rest, prefixed with a slash where it does not start with one. -/
def target (u : Url) : List Char :=
  if u.rest.head? = some '/' then u.rest else '/' :: u.rest

end Url

-- ================================================================== RFC 1928

/-- An address as the proxy reads it. -/
inductive Socks5Address where
  | ipv4 (address : Bytes)
  | domain (name : Bytes)
  | ipv6 (address : Bytes)
  deriving DecidableEq

/-- Its port. -/
def decodePort : Bytes → Option Nat
  | [hi, lo] => some (be16 hi lo)
  | _ => none

/-- A CONNECT request as its reader takes it. -/
def decodeConnect : Bytes → Option (Socks5Address × Nat)
  | 0x05 :: 0x01 :: 0x00 :: 0x01 :: rest =>
      (decodePort (rest.drop 4)).map fun port => (.ipv4 (rest.take 4), port)
  | 0x05 :: 0x01 :: 0x00 :: 0x03 :: len :: rest =>
      (decodePort (rest.drop len.toNat)).map fun port =>
        (.domain (rest.take len.toNat), port)
  | 0x05 :: 0x01 :: 0x00 :: 0x04 :: rest =>
      (decodePort (rest.drop 16)).map fun port => (.ipv6 (rest.take 16), port)
  | _ => none

/-- The target in a request line. -/
def requestTarget (get : List Char) : Option (List Char) :=
  (Text.stripPrefix ['G', 'E', 'T', ' '] get).map (·.takeWhile (· != ' '))

/-- The probe asks for what the URL says, or is refused where the host does
not fit. -/
def Meets (u : Url) : Prop :=
  if (utf8 u.host.bare).length ≤ 255 then
    ∃ written, probe u.text = some written
      ∧ decodeConnect written.connect
        = some (.domain (utf8 u.host.bare), u.portNumber)
      ∧ requestTarget written.get = some u.target
  else probe u.text = none

-- =============================================================== the cutting

/-- A split at the last of a character. -/
theorem splitLast_append {c : Char} {a b : List Char} (h : c ∉ b) :
    splitLast c (a ++ c :: b) = some (a, b) := by
  have hreverse : (a ++ c :: b).reverse = b.reverse ++ c :: a.reverse := by simp
  unfold splitLast
  rw [hreverse, Text.splitOnce_append (by simpa using h)]
  simp

/-- There is none. -/
theorem splitLast_of_not_mem {c : Char} {s : List Char} (h : c ∉ s) :
    splitLast c s = none := by
  unfold splitLast
  rw [Text.splitOnce_of_not_mem (by simpa using h)]
  rfl

/-- The scheme is stripped off. -/
theorem stripScheme_text (u : Url) :
    stripScheme u.text = some (u.authority ++ u.rest) := by
  unfold stripScheme Url.text Url.scheme
  cases u.https with
  | true =>
      show (Text.stripPrefix httpsPrefix (httpsPrefix ++ _)).or _ = _
      rw [Text.stripPrefix_append]
      rfl
  | false =>
      have hhttps : ∀ s, Text.stripPrefix httpsPrefix (httpPrefix ++ s) = none := by
        intro s
        simp [httpsPrefix, httpPrefix, Text.stripPrefix]
      show (Text.stripPrefix httpsPrefix (httpPrefix ++ _)).or
        (Text.stripPrefix httpPrefix (httpPrefix ++ _)) = _
      rw [hhttps, Text.stripPrefix_append]
      rfl

/-- And tells what the port is. -/
theorem https_text (u : Url) : httpsPrefix.isPrefixOf u.text = u.https := by
  unfold Url.text Url.scheme
  cases u.https with
  | true => simp [httpsPrefix]
  | false => rfl

/-- A port is digits. -/
theorem UrlPort.isDigit (port : UrlPort) {c : Char} (h : c ∈ port.text) :
    (Text.digit? c).isSome = true :=
  Text.isDigit_of_digits? port.reads c h

/-- So no other character is in it. -/
theorem UrlPort.not_mem (port : UrlPort) {c : Char} (h : Text.digit? c = none) :
    c ∉ port.text := by
  intro hmem
  have hdigit := port.isDigit hmem
  rw [h] at hdigit
  cases hdigit

/-- It is read as its number. -/
theorem UrlPort.parse (port : UrlPort) :
    Text.parseUnsigned 65536 port.text = some port.number := by
  have hplus : '+' ∉ port.text := port.not_mem (by decide)
  have hreads := port.reads
  have hfits := port.fits
  unfold Text.parseUnsigned
  split
  case h_1 rest htext =>
    rw [htext] at hplus
    exact absurd List.mem_cons_self hplus
  case h_2 => simp [hreads, hfits]

/-- No character of the port is one that ends a host or a path. -/
theorem Url.portText_not_mem (u : Url) {c : Char} (h : Text.digit? c = none)
    (hcolon : c ≠ ':') : c ∉ u.portText := by
  unfold Url.portText
  split
  · exact List.not_mem_nil
  · rename_i port hport
    intro hmem
    rcases List.mem_cons.mp hmem with rfl | hmem
    · exact hcolon rfl
    · exact port.not_mem h hmem

/-- No delimiter is in a host. -/
theorem UrlHost.text_not_mem (host : UrlHost) {c : Char}
    (h : isDelimiter c = true) (hopen : c ≠ '[') (hclose : c ≠ ']') :
    c ∉ host.text := by
  intro hmem
  cases host with
  | name text nonempty plain =>
      have hplain := (plain c hmem).1
      rw [h] at hplain
      cases hplain
  | ipv6 text nonempty plain =>
      rcases List.mem_cons.mp hmem with rfl | hmem
      · exact hopen rfl
      · rcases List.mem_append.mp hmem with hmem | hmem
        · have hplain := plain c hmem
          rw [h] at hplain
          cases hplain
        · exact hclose (List.mem_singleton.mp hmem)

/-- Nor in an authority. -/
theorem Url.authority_not_mem (u : Url) {c : Char} (h : isDelimiter c = true)
    (hdigit : Text.digit? c = none) (hopen : c ≠ '[') (hclose : c ≠ ']')
    (hcolon : c ≠ ':') : c ∉ u.authority := by
  intro hmem
  rcases List.mem_append.mp hmem with hmem | hmem
  · exact u.host.text_not_mem h hopen hclose hmem
  · exact u.portText_not_mem hdigit hcolon hmem

theorem Url.slash_not_mem (u : Url) : '/' ∉ u.authority :=
  u.authority_not_mem (by decide) (by decide) (by decide) (by decide) (by decide)

theorem Url.question_not_mem (u : Url) : '?' ∉ u.authority :=
  u.authority_not_mem (by decide) (by decide) (by decide) (by decide) (by decide)

/-- The authority ends where the rest begins. -/
theorem takeWhile_authority (u : Url) :
    (u.authority ++ u.rest).takeWhile (fun c => c != '/' && c != '?')
      = u.authority := by
  have hinside : ∀ c ∈ u.authority, (c != '/' && c != '?') = true := by
    intro c hc
    have hslash : c ≠ '/' := fun heq => u.slash_not_mem (heq ▸ hc)
    have hquestion : c ≠ '?' := fun heq => u.question_not_mem (heq ▸ hc)
    simp [hslash, hquestion]
  rw [List.takeWhile_append_of_pos hinside]
  have hrest : u.rest.takeWhile (fun c => c != '/' && c != '?') = [] := by
    rcases u.starts with hnil | hslash | hquestion
    · rw [hnil]
      rfl
    · obtain ⟨tail, htail⟩ := List.head?_eq_some_iff.mp hslash
      rw [htail]
      rfl
    · obtain ⟨tail, htail⟩ := List.head?_eq_some_iff.mp hquestion
      rw [htail]
      rfl
  rw [hrest, List.append_nil]

/-- The host as it stands in the URL, and the port. -/
theorem parseUrlHostPort_text (u : Url) :
    parseUrlHostPort u.text = some (u.host.text, u.portNumber) := by
  have hdefault : (if httpsPrefix.isPrefixOf u.text = true then 443 else 80)
      = if u.https = true then 443 else 80 := by rw [https_text]
  unfold parseUrlHostPort
  rw [stripScheme_text, Option.bind_eq_bind, Option.bind_some,
    takeWhile_authority, hdefault]
  dsimp only
  cases hhost : u.host with
  | name text nonempty plain =>
      have hbracket : ']' ∉ u.authority := by
        intro hmem
        rcases List.mem_append.mp hmem with hmem | hmem
        · rw [hhost] at hmem
          exact absurd (plain ']' hmem).1 (by decide)
        · exact u.portText_not_mem (by decide) (by decide) hmem
      have hcolon : ':' ∉ text := fun hmem => (plain ':' hmem).2 rfl
      rw [splitLast_of_not_mem hbracket]
      cases hport : u.port with
      | none =>
          have hauthority : u.authority = text := by
            simp [Url.authority, Url.portText, UrlHost.text, hhost, hport]
          rw [hauthority, splitLast_of_not_mem hcolon]
          simp [Url.portNumber, UrlHost.text, hport]
      | some port =>
          have hauthority : u.authority = text ++ ':' :: port.text := by
            simp [Url.authority, Url.portText, UrlHost.text, hhost, hport]
          rw [hauthority, splitLast_append (port.not_mem (by decide))]
          simp [Url.portNumber, UrlHost.text, hport, port.parse]
  | ipv6 text nonempty plain =>
      have hbracket : ']' ∉ u.portText :=
        u.portText_not_mem (by decide) (by decide)
      have hauthority : u.authority = ('[' :: text) ++ ']' :: u.portText := by
        simp [Url.authority, UrlHost.text, hhost]
      rw [hauthority, splitLast_append hbracket]
      cases hport : u.port with
      | none =>
          simp [Url.portNumber, Url.portText, UrlHost.text, hport,
            Text.stripPrefix]
      | some port =>
          simp [Url.portNumber, Url.portText, UrlHost.text, hport,
            Text.stripPrefix, port.parse]

/-- The path is what stands from the first slash of the rest on. -/
theorem extractUrlPath_text (u : Url) :
    extractUrlPath u.text
      = match u.rest.dropWhile (· != '/') with
        | [] => ['/']
        | path => path := by
  have hinside : ∀ c ∈ u.authority, (c != '/') = true := by
    intro c hc
    have hslash : c ≠ '/' := fun heq => u.slash_not_mem (heq ▸ hc)
    simp [hslash]
  unfold extractUrlPath
  rw [stripScheme_text]
  show (match (u.authority ++ u.rest).dropWhile (· != '/') with
    | [] => ['/']
    | path => path) = _
  rw [List.dropWhile_append_of_pos hinside]

/-- The path is the target unless the rest starts with a query. -/
theorem extractUrlPath_eq_target_iff (u : Url) :
    extractUrlPath u.text = u.target ↔ u.rest.head? ≠ some '?' := by
  rw [extractUrlPath_text]
  rcases u.starts with hnil | hslash | hquestion
  · simp [Url.target, hnil]
  · obtain ⟨tail, htail⟩ := List.head?_eq_some_iff.mp hslash
    simp [Url.target, htail]
  · obtain ⟨tail, htail⟩ := List.head?_eq_some_iff.mp hquestion
    -- what is left behind the query mark is shorter than the target
    have htarget : u.target = '/' :: u.rest := by
      simp [Url.target, htail]
    have hlength := (List.dropWhile_suffix (· != '/') (l := u.rest)).length_le
    refine iff_of_false ?_ (fun h => h hquestion)
    intro heq
    have hlengths := congrArg List.length heq
    rw [htarget, List.length_cons] at hlengths
    have hrest : 0 < u.rest.length := by
      rw [htail]
      exact Nat.succ_pos _
    cases hdropped : u.rest.dropWhile (· != '/') with
    | nil =>
        rw [hdropped] at hlengths
        simp only [List.length_singleton] at hlengths
        omega
    | cons c path =>
        rw [hdropped] at hlengths hlength
        simp only at hlengths
        omega

-- ============================================================== the request

/-- Ports have 16 bits. -/
theorem Url.portNumber_lt (u : Url) : u.portNumber < 65536 := by
  unfold Url.portNumber
  split
  · split <;> decide
  · rename_i port hport
    exact port.fits

/-- A request by name, with what stands behind the length byte. -/
theorem decodeConnect_connectRequest (host : List Char) (port : Nat) :
    decodeConnect (connectRequest host port)
      = (decodePort ((utf8 host ++ toBe16 port).drop
          (utf8 host).length.toUInt8.toNat)).map fun read =>
        (.domain ((utf8 host ++ toBe16 port).take
          (utf8 host).length.toUInt8.toNat), read) := rfl

/-- A name that fits is read as it was written. -/
theorem decodeConnect_request {host : List Char} {port : Nat}
    (h : (utf8 host).length ≤ 255) (hport : port < 65536) :
    decodeConnect (connectRequest host port)
      = some (.domain (utf8 host), port) := by
  have hlen : ((utf8 host).length.toUInt8).toNat = (utf8 host).length :=
    Nat.mod_eq_of_lt (by omega)
  rw [decodeConnect_connectRequest, hlen, List.drop_left, List.take_left]
  show some (Socks5Address.domain (utf8 host), be16 _ _) = _
  rw [be16_toBe16, Nat.mod_eq_of_lt hport]

/-- Whatever is read as a name is as long as the one that was written. -/
theorem length_of_decodeConnect {host : List Char} {port port' : Nat}
    {name : Bytes} (h : decodeConnect (connectRequest host port)
      = some (.domain name, port')) : name.length = (utf8 host).length := by
  rw [decodeConnect_connectRequest] at h
  generalize (utf8 host).length.toUInt8.toNat = n at h
  obtain ⟨left, hleft, heq⟩ := Option.map_eq_some_iff.mp h
  have htwo : ((utf8 host ++ toBe16 port).drop n).length = 2 := by
    unfold decodePort at hleft
    split at hleft
    case h_1 hi lo hbytes => rw [hbytes]; rfl
    case h_2 => cases hleft
  have hname : (utf8 host ++ toBe16 port).take n = name := by
    cases heq
    rfl
  rw [List.length_drop, List.length_append, length_toBe16] at htwo
  rw [← hname, List.length_take, List.length_append, length_toBe16]
  omega

/-- The target that is read is the path, which has no blank. -/
theorem requestTarget_getRequest {path host : List Char} (h : ' ' ∉ path) :
    requestTarget (getRequest path host) = some path := by
  have hget : getRequest path host = ['G', 'E', 'T', ' '] ++ (path
      ++ ' ' :: ("HTTP/1.1\r\nHost: ".toList ++ host ++ ("\r\nConnection: close\r\n"
        ++ "User-Agent: zerodpi-proxy-scan/0.1\r\n\r\n").toList)) := by
    simp [getRequest]
  have hinside : ∀ c ∈ path, (c != ' ') = true := by
    intro c hc
    have hne : c ≠ ' ' := fun heq => h (heq ▸ hc)
    simp [hne]
  unfold requestTarget
  rw [hget, Text.stripPrefix_append, Option.map_some,
    List.takeWhile_append_of_pos hinside]
  simp

/-- The path has no blank, so that the request line is one. -/
theorem extractUrlPath_plain (u : Url) : ' ' ∉ extractUrlPath u.text := by
  rw [extractUrlPath_text]
  cases hdropped : u.rest.dropWhile (· != '/') with
  | nil => simp
  | cons c path =>
      intro hmem
      refine u.plain ((List.dropWhile_suffix (· != '/')).mem ?_)
      rw [hdropped]
      exact hmem

/-- The probe of a URL is made, whatever the URL says. -/
theorem probe_text (u : Url) : probe u.text = some {
    connect := connectRequest u.host.text u.portNumber
    get := getRequest (extractUrlPath u.text) u.host.text } := by
  unfold probe
  rw [parseUrlHostPort_text]
  rfl

/-- The proxy test asks for what its URL says if and only if the host is a
name of at most 255 bytes and the rest does not start with a query. -/
theorem meets_iff (u : Url) :
    Meets u ↔ u.host.isName = true ∧ (utf8 u.host.bare).length ≤ 255
      ∧ u.rest.head? ≠ some '?' := by
  unfold Meets
  by_cases hfits : (utf8 u.host.bare).length ≤ 255
  · rw [if_pos hfits]
    have htarget : requestTarget (getRequest (extractUrlPath u.text) u.host.text)
        = some (extractUrlPath u.text) :=
      requestTarget_getRequest (extractUrlPath_plain u)
    cases hhost : u.host with
    | name text nonempty plain =>
        have hbare : u.host.bare = u.host.text := by rw [hhost]; rfl
        have hdecoded := decodeConnect_request (hbare ▸ hfits) u.portNumber_lt
        rw [← hhost, hbare]
        constructor
        · rintro ⟨written, hprobe, -, hget⟩
          rw [probe_text] at hprobe
          cases hprobe
          rw [htarget] at hget
          refine ⟨by rw [hhost]; rfl, hbare ▸ hfits, ?_⟩
          exact (extractUrlPath_eq_target_iff u).mp (Option.some.inj hget)
        · rintro ⟨-, -, hquery⟩
          refine ⟨_, probe_text u, hdecoded, ?_⟩
          rw [htarget, (extractUrlPath_eq_target_iff u).mpr hquery]
    | ipv6 text nonempty plain =>
        have hlonger : (utf8 u.host.text).length = (utf8 text).length + 2 := by
          have hopen : '['.utf8Size = 1 := by decide
          have hclose : ']'.utf8Size = 1 := by decide
          rw [hhost]
          simp only [UrlHost.text, utf8, List.flatMap_cons, List.flatMap_append,
            List.flatMap_nil, List.length_append, List.length_nil,
            String.length_utf8EncodeChar, hopen, hclose]
          omega
        constructor
        · rintro ⟨written, hprobe, hconnect, -⟩
          rw [probe_text] at hprobe
          cases hprobe
          have hlength := length_of_decodeConnect hconnect
          rw [hlonger] at hlength
          exact absurd hlength (by simp [UrlHost.bare])
        · rintro ⟨hname, -⟩
          cases hname
  · rw [if_neg hfits, probe_text]
    constructor
    · intro hnone
      cases hnone
    · rintro ⟨-, hle, -⟩
      exact absurd hle hfits

/-- `http://h?x=1/2`. -/
def queryUrl : Url where
  https := false
  host := .name ['h'] (by simp) (by simp [isDelimiter])
  port := none
  rest := ['?', 'x', '=', '1', '/', '2']
  starts := by simp
  plain := by simp

/-- The query is cut at its slash. -/
theorem query_is_cut :
    (∃ written, probe queryUrl.text = some written
        ∧ requestTarget written.get = some ['/', '2'])
      ∧ queryUrl.target = ['/', '?', 'x', '=', '1', '/', '2']
      ∧ ¬ Meets queryUrl := by
  have htarget : requestTarget (getRequest (extractUrlPath queryUrl.text)
      queryUrl.host.text) = some ['/', '2'] := by decide
  refine ⟨⟨_, probe_text queryUrl, htarget⟩, rfl, ?_⟩
  unfold Meets
  rw [if_pos (by decide)]
  rintro ⟨written, hprobe, -, hget⟩
  rw [probe_text] at hprobe
  cases hprobe
  rw [htarget] at hget
  exact absurd hget (by decide)

end ZeroDpi.ProxyTester
