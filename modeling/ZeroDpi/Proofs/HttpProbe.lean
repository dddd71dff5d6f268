/-
Whether a reader's answer depends on how the response was cut into reads.

Each reader has an invariant over the bytes read so far, and its answer is
then read off the first `cap` bytes. For `measure_download` one case is left
open: a line feed behind the 1024th byte is found or not, as the read that
brings it begins before that byte or not (`Download.Inv`). The SOCKS5 probe
looks at its first read only, whatever that is. `read_http_response` looks at
all it has, and where the head ends does not change.
-/
import ZeroDpi.HttpProbe

namespace ZeroDpi.HttpProbe

open Lib

-- =============================================================== a response

/-- A decimal digit. -/
def digit (d : Fin 10) : Char := Char.ofNat (48 + d)

/-- A status line of RFC 9112 without its line end: the version, three digits
and a reason phrase of HTAB, SP, VCHAR and obs-text. -/
structure StatusLine where
  major : Fin 10
  minor : Fin 10
  hundreds : Fin 10
  tens : Fin 10
  ones : Fin 10
  reason : Bytes
  plain : ∀ b ∈ reason, b = 0x09 ∨ (0x20 ≤ b ∧ b ≠ 0x7F)

namespace StatusLine

/-- `HTTP/` and its number. -/
def version (line : StatusLine) : List Char :=
  httpPrefix ++ [digit line.major, '.', digit line.minor]

/-- The status code, in three digits. -/
def number (line : StatusLine) : List Char :=
  [digit line.hundreds, digit line.tens, digit line.ones]

/-- The line up to its reason. -/
def front (line : StatusLine) : List Char :=
  line.version ++ ' ' :: (line.number ++ [' '])

/-- The line as bytes; the reason is anything without line breaks. -/
def text (line : StatusLine) : Bytes := Utf8.encode line.front ++ line.reason

/-- The status code. -/
def code (line : StatusLine) : Nat :=
  100 * line.hundreds + 10 * line.tens + line.ones

/-- The response starts with the line, complete and of at most 1023 bytes. -/
def Starts (line : StatusLine) (response : Bytes) : Prop :=
  line.text ++ [0x0D, 0x0A] <+: response ∧ line.text.length ≤ 1023

end StatusLine

/-- The pieces of a response, as reads deliver it. -/
structure Delivers (pieces : List Bytes) (response : Bytes) : Prop where
  flatten : pieces.flatten = response
  nonempty : ∀ piece ∈ pieces, piece ≠ []

/-- What a probe answers is the response's alone, and a status line's code is
the status. -/
structure Meets {α : Type} (probe : List Bytes → α) (status : α → Option Nat)
    (response : Bytes) : Prop where
  same : ∀ {pieces pieces' : List Bytes}, Delivers pieces response →
    Delivers pieces' response → probe pieces = probe pieces'
  code : ∀ {line : StatusLine} {pieces : List Bytes}, line.Starts response →
    Delivers pieces response → status (probe pieces) = some line.code

/-- A line feed behind the 1024th byte that one read can bring with an earlier
byte has no status in the 1024 bytes before; a status line ends below `cap`
and is UTF-8. -/
structure Download.Holds (cap : Nat) (response : Bytes) : Prop where
  long : ∀ {p : Nat}, response.findIdx? (· == 0x0A) = some p → 1024 ≤ p →
    p < cap → p ≤ bufSize cap + 1022 →
      (Utf8.decode (response.take 1024)).bind parseHttpStatus = none
  line : ∀ {line : StatusLine}, line.Starts response →
    line.text.length + 1 < cap
      ∧ ∃ text, Utf8.decode (response.take (line.text.length + 1)) = some text

/-- A first part, a space and a digit within the buffer. -/
def Socks5.NumberInFront (scanDownloadCap : Nat) (response : Bytes) : Prop :=
  ∃ (token sign : List Char) (d : Fin 10), ' ' ∉ token ∧ '\n' ∉ token
    ∧ (sign = [] ∨ sign = ['+'])
    ∧ Utf8.encode (token ++ ' ' :: (sign ++ [digit d])) <+: response
    ∧ (Utf8.encode (token ++ ' ' :: (sign ++ [digit d]))).length
        ≤ downloadCap scanDownloadCap

/-- The head of a response with a status line ends within `cap` and is
UTF-8. -/
def Response.Holds (cap : Nat) (response : Bytes) : Prop :=
  ∀ {line : StatusLine}, line.Starts response →
    ∃ pos, findHeaderEnd (response.take cap) = some pos
      ∧ ∃ text, Utf8.decode (response.take pos) = some text

-- =================================================================== digits

/-- A digit is read as itself. -/
theorem digit?_digit (d : Fin 10) : Text.digit? (digit d) = some d.val := by
  revert d
  decide

/-- And is none of the other characters. -/
theorem digit_ne {c : Char} (h : Text.digit? c = none) (d : Fin 10) :
    digit d ≠ c := by
  rintro rfl
  rw [digit?_digit] at h
  cases h

/-- It is one byte. -/
theorem encode_digit (d : Fin 10) :
    String.utf8EncodeChar (digit d) = [UInt8.ofNat (48 + d)] := by
  revert d
  decide

/-- Whatever reads as a digit is one. -/
theorem eq_digit {c : Char} (h : (Text.digit? c).isSome = true) :
    ∃ d, c = digit d := by
  unfold Text.digit? at h
  by_cases hc : '0' ≤ c ∧ c ≤ '9'
  · have hlow : 48 ≤ c.toNat := UInt32.le_iff_toNat_le.mp hc.1
    have hhigh : c.toNat ≤ 57 := UInt32.le_iff_toNat_le.mp hc.2
    refine ⟨⟨c.toNat - 48, by omega⟩, ?_⟩
    have hback : 48 + (c.toNat - 48) = c.toNat := by omega
    rw [digit, hback, Char.ofNat_toNat]
  · rw [if_neg hc] at h
    cases h

/-- Only a digit behind an optional sign makes a number. -/
theorem eq_of_parseUnsigned {bound : Nat} {s : List Char} {n : Nat}
    (h : Text.parseUnsigned bound s = some n) :
    ∃ (sign rest : List Char) (d : Fin 10), (sign = [] ∨ sign = ['+'])
      ∧ s = sign ++ digit d :: rest := by
  have hdigits : ∀ {t : List Char}, Text.digits? t = some n →
      ∃ (rest : List Char) (d : Fin 10), t = digit d :: rest := by
    intro t ht
    cases t with
    | nil => cases ht
    | cons c rest =>
        obtain ⟨d, rfl⟩ := eq_digit
          (Text.isDigit_of_digits? ht c List.mem_cons_self)
        exact ⟨rest, d, rfl⟩
  unfold Text.parseUnsigned at h
  split at h
  case h_1 rest =>
    obtain ⟨rest, d, rfl⟩ := hdigits (Option.filter_eq_some_iff.mp h).1
    exact ⟨['+'], rest, d, .inr rfl, rfl⟩
  case h_2 =>
    obtain ⟨rest, d, rfl⟩ := hdigits (Option.filter_eq_some_iff.mp h).1
    exact ⟨[], rest, d, .inl rfl, rfl⟩

/-- The code is read from its digits. -/
theorem parseUnsigned_number (line : StatusLine) :
    Text.parseUnsigned 65536 line.number = some line.code := by
  have hvalue : Text.digits? line.number = some line.code := by
    simp only [StatusLine.number, Text.digits?, List.foldl_cons, List.foldl_nil,
      digit?_digit, StatusLine.code]
    show some (10 * (10 * (10 * 0 + _) + _) + _) = _
    congr 1
    omega
  have hbound : line.code < 65536 := by
    unfold StatusLine.code
    omega
  unfold Text.parseUnsigned
  split
  case h_1 rest hplus =>
    have hfirst := (List.cons.inj hplus).1
    exact absurd hfirst (digit_ne rfl line.hundreds)
  case h_2 =>
    rw [hvalue]
    simp [hbound]

/-- One digit is a number, with or without a plus. -/
theorem parseUnsigned_digit {sign : List Char} (h : sign = [] ∨ sign = ['+'])
    (d : Fin 10) :
    Text.parseUnsigned 65536 (sign ++ [digit d]) = some d.val := by
  revert d
  rcases h with rfl | rfl
  · decide
  · decide

-- ============================================================ the first line

/-- The shortest text with a status: a token, a blank and one digit. -/
theorem firstLineStatus_eq_some {version : List Char → Bool}
    {text : List Char} {n : Nat} (h : firstLineStatus version text = some n) :
    ∃ (token sign : List Char) (d : Fin 10), ' ' ∉ token ∧ '\n' ∉ token
      ∧ (sign = [] ∨ sign = ['+'])
      ∧ token ++ ' ' :: (sign ++ [digit d]) <+: text := by
  unfold firstLineStatus at h
  obtain ⟨line, hline, h⟩ := Option.bind_eq_some_iff.mp h
  obtain ⟨hfront, hplain⟩ := Text.prefix_of_head_lines hline
  obtain ⟨_, -, hchecked⟩ := Option.bind_eq_some_iff.mp h
  obtain ⟨_, -, hbehind⟩ := Option.bind_eq_some_iff.mp hchecked
  obtain ⟨second, hat, hparse⟩ := Option.bind_eq_some_iff.mp hbehind
  cases hsplit : Text.splitOnce ' ' line with
  | none =>
      simp [Text.splitn, hsplit] at hat
  | some parts =>
      obtain ⟨token, behind⟩ := parts
      obtain ⟨rfl, htoken⟩ := Text.eq_append_of_splitOnce hsplit
      -- what stands behind the first space begins with the number
      obtain ⟨number, rest, hbehind, hnumber⟩ : ∃ number rest,
          behind = number ++ rest ∧ Text.parseUnsigned 65536 number = some n := by
        cases hsecond : Text.splitOnce ' ' behind with
        | none =>
            simp [Text.splitn, hsplit, hsecond] at hat
            exact ⟨second, [], by simp [hat], hparse⟩
        | some parts =>
            obtain ⟨number, rest⟩ := parts
            simp [Text.splitn, hsplit, hsecond] at hat
            subst hat
            exact ⟨number, ' ' :: rest,
              (Text.eq_append_of_splitOnce hsecond).1, hparse⟩
      obtain ⟨sign, digits, d, hsign, rfl⟩ := eq_of_parseUnsigned hnumber
      refine ⟨token, sign, d, htoken, fun hmem => ?_, hsign, ?_⟩
      · exact hplain (List.mem_append_left _ hmem)
      · refine List.IsPrefix.trans ⟨digits ++ rest, ?_⟩ hfront
        simp [hbehind]

/-- A text without a line feed whose second part is a number. -/
theorem firstLineStatus_append {version : List Char → Bool}
    {token number rest : List Char} (htoken : ' ' ∉ token) (hnumber : ' ' ∉ number)
    (hline : '\n' ∉ token ++ ' ' :: (number ++ rest))
    (hrest : rest = [] ∨ rest.head? = some ' ') :
    firstLineStatus version (token ++ ' ' :: (number ++ rest))
      = if version token then Text.parseUnsigned 65536 number else none := by
  have hne : token ++ ' ' :: (number ++ rest) ≠ [] := by simp
  obtain ⟨later, hparts⟩ : ∃ later, Text.splitn 3 ' '
      (token ++ ' ' :: (number ++ rest)) = token :: number :: later := by
    rw [Text.splitn, Text.splitOnce_append htoken]
    show ∃ later, token :: Text.splitn 2 ' ' (number ++ rest) = _
    rcases hrest with rfl | hrest
    · rw [List.append_nil, Text.splitn, Text.splitOnce_of_not_mem hnumber]
      exact ⟨[], rfl⟩
    · obtain ⟨rest', rfl⟩ := List.head?_eq_some_iff.mp hrest
      rw [Text.splitn, Text.splitOnce_append hnumber]
      exact ⟨_, rfl⟩
  rw [firstLineStatus, Text.lines_of_not_mem hne hline, List.head?_cons,
    Option.bind_eq_bind, Option.bind_some, hparts]
  show (if version token = true then pure () else failure : Option Unit).bind
      (fun _ => Text.parseUnsigned 65536 number) = _
  by_cases hversion : version token = true
  · rw [if_pos hversion, if_pos hversion]
    rfl
  · rw [if_neg hversion, if_neg hversion]
    rfl

-- ========================================================== the status line

namespace StatusLine

/-- The bytes of the version. -/
theorem encode_version (line : StatusLine) :
    Utf8.encode line.version = [0x48, 0x54, 0x54, 0x50, 0x2F,
      UInt8.ofNat (48 + line.major), 0x2E, UInt8.ofNat (48 + line.minor)] := by
  have hfixed : Utf8.encode httpPrefix = [0x48, 0x54, 0x54, 0x50, 0x2F] := by
    decide
  have hdot : String.utf8EncodeChar '.' = [0x2E] := by decide
  rw [version, Utf8.encode_append, hfixed]
  simp only [Utf8.encode_cons, Utf8.encode_nil, encode_digit, hdot]
  rfl

/-- The bytes of the code. -/
theorem encode_number (line : StatusLine) :
    Utf8.encode line.number = [UInt8.ofNat (48 + line.hundreds),
      UInt8.ofNat (48 + line.tens), UInt8.ofNat (48 + line.ones)] := by
  rw [number]
  simp only [Utf8.encode_cons, Utf8.encode_nil, encode_digit]
  rfl

/-- The bytes of both. -/
theorem encode_front (line : StatusLine) :
    Utf8.encode line.front = Utf8.encode line.version
      ++ 0x20 :: (Utf8.encode line.number ++ [0x20]) := by
  have hspace : String.utf8EncodeChar ' ' = [0x20] := by decide
  simp only [front, Utf8.encode_append, Utf8.encode_cons, Utf8.encode_nil, hspace]
  rfl

/-- No digit is a line break. -/
theorem byte_digit_ne (d : Fin 10) :
    UInt8.ofNat (48 + d) ≠ 0x0A ∧ UInt8.ofNat (48 + d) ≠ 0x0D := by
  revert d
  decide

/-- A status line has no line end in it. -/
theorem plain_text (line : StatusLine) {b : UInt8} (h : b ∈ line.text) :
    b ≠ 0x0A ∧ b ≠ 0x0D := by
  rcases List.mem_append.mp h with hfront | hreason
  · have hdigit := byte_digit_ne
    rw [encode_front, encode_version, encode_number] at hfront
    simp only [List.cons_append, List.nil_append, List.mem_cons,
      List.not_mem_nil, or_false] at hfront
    rcases hfront with rfl | rfl | rfl | rfl | rfl | rfl | rfl | rfl | rfl
      | rfl | rfl | rfl | rfl
    all_goals first | exact hdigit _ | decide
  · rcases line.plain b hreason with rfl | ⟨hlow, -⟩
    · decide
    · constructor
      · rintro rfl
        exact absurd hlow (by decide)
      · rintro rfl
        exact absurd hlow (by decide)

variable {line : StatusLine} {response : Bytes}

/-- What begins with the line and is a text begins with the line's text. -/
theorem decode_front {more : Bytes} {text : List Char}
    (h : Utf8.decode (line.text ++ more) = some text) :
    ∃ behind, text = line.front ++ behind := by
  rw [StatusLine.text, List.append_assoc, Utf8.decode_append] at h
  obtain ⟨behind, -, rfl⟩ := Option.map_eq_some_iff.mp h
  exact ⟨behind, rfl⟩

/-- What a version does not contain. -/
theorem not_mem_version {c : Char} (hfixed : c ∉ '.' :: httpPrefix)
    (h : Text.digit? c = none) : c ∉ line.version := by
  intro hmem
  have hmajor := digit_ne h line.major
  have hminor := digit_ne h line.minor
  simp only [version, List.mem_append, List.mem_cons, List.not_mem_nil,
    or_false] at hmem hfixed
  grind

/-- What a number does not contain. -/
theorem not_mem_number {c : Char} (h : Text.digit? c = none) :
    c ∉ line.number := by
  intro hmem
  have hhundreds := digit_ne h line.hundreds
  have htens := digit_ne h line.tens
  have hones := digit_ne h line.ones
  simp only [number, List.mem_cons, List.not_mem_nil, or_false] at hmem
  grind

/-- A first line that is the status line, and perhaps more of it. -/
theorem firstLineStatus_front {check : List Char → Bool}
    (hcheck : check line.version = true) {behind : List Char}
    (hplain : '\n' ∉ behind) :
    firstLineStatus check (line.front ++ behind) = some line.code := by
  have hversion : ' ' ∉ line.version := not_mem_version (by decide) (by decide)
  have hversion' : '\n' ∉ line.version := not_mem_version (by decide) (by decide)
  have hnumber : ' ' ∉ line.number := not_mem_number (by decide)
  have hnumber' : '\n' ∉ line.number := not_mem_number (by decide)
  have hshape : line.front ++ behind
      = line.version ++ ' ' :: (line.number ++ ' ' :: behind) := by
    simp [front]
  rw [hshape, firstLineStatus_append hversion hnumber
    (by simp [hversion', hnumber', hplain]) (.inr rfl), if_pos hcheck,
    parseUnsigned_number]

end StatusLine

-- ============================================================= the deliveries

/-- The first `n` bytes in one piece, every other byte alone. -/
def cutAfter (n : Nat) (response : Bytes) : List Bytes :=
  response.take n :: (response.drop n).map fun b => [b]

/-- Cut once, a response is still delivered. -/
theorem delivers_cutAfter {n : Nat} {response : Bytes} (hn : 0 < n)
    (hne : response ≠ []) : Delivers (cutAfter n response) response where
  flatten := by
    have hrest : ((response.drop n).map fun b => [b]).flatten
        = response.drop n := by
      rw [← List.flatMap_def, List.flatMap_singleton']
    rw [cutAfter, List.flatten_cons, hrest, List.take_append_drop]
  nonempty := by
    intro piece hpiece
    rcases List.mem_cons.mp hpiece with rfl | hsingle
    · intro hnil
      rcases List.take_eq_nil_iff.mp hnil with rfl | hresponse
      · exact Nat.lt_irrefl 0 hn
      · exact hne hresponse
    · obtain ⟨b, -, rfl⟩ := List.mem_map.mp hsingle
      exact List.cons_ne_nil b []

/-- Every response can be delivered. -/
theorem exists_delivers (response : Bytes) :
    ∃ pieces, Delivers pieces response := by
  cases response with
  | nil => exact ⟨[], rfl, by simp⟩
  | cons b rest =>
      exact ⟨_, delivers_cutAfter Nat.one_pos (List.cons_ne_nil b rest)⟩

-- ======================================================== socks5_http_probe

namespace Socks5

/-- Later reads do not change a status that is known. -/
theorem foldl_answered {s : State} (h : s.answered = true)
    (chunks : List Bytes) : (chunks.foldl State.read s).httpStatus
      = s.httpStatus := by
  induction chunks generalizing s with
  | nil => rfl
  | cons bytes chunks ih =>
      rw [List.foldl_cons, ih rfl]
      exact if_pos h

/-- The status is that of the first read. -/
theorem httpStatus_of_reads {cap : Nat} {pieces chunks : List Bytes}
    {first : Bytes}
    (h : reads (downloadCap cap) (downloadCap cap) pieces = first :: chunks) :
    (socks5HttpProbe cap pieces).httpStatus
      = (Utf8.decode first).bind parseHttpStatus := by
  unfold socks5HttpProbe
  rw [h, List.foldl_cons, foldl_answered rfl]
  cases hdecode : Utf8.decode first <;>
    simp only [State.read, hdecode] <;> rfl

/-- There is room for a byte. -/
theorem downloadCap_pos (cap : Nat) : 0 < downloadCap cap :=
  Nat.lt_of_lt_of_le (by decide) (Nat.le_max_right cap 524288)

/-- A status means a number in front of the first read. -/
theorem numberInFront_of_httpStatus {cap n : Nat} {pieces : List Bytes}
    (h : (socks5HttpProbe cap pieces).httpStatus = some n) :
    NumberInFront cap pieces.flatten := by
  have hflat : (reads (downloadCap cap) (downloadCap cap) pieces).flatten
      = pieces.flatten.take (downloadCap cap) :=
    flatten_reads (fun _ => downloadCap_pos cap) pieces
  cases hreads : reads (downloadCap cap) (downloadCap cap) pieces with
  | nil =>
      unfold socks5HttpProbe at h
      rw [hreads] at h
      cases h
  | cons first chunks =>
      rw [httpStatus_of_reads hreads] at h
      obtain ⟨text, htext, hparse⟩ := Option.bind_eq_some_iff.mp h
      obtain ⟨token, sign, d, hspace, hfeed, hsign, hnumber⟩ :=
        firstLineStatus_eq_some hparse
      have hbytes := Utf8.decode_eq_some_iff.mp htext
      have hlength : first.length ≤ downloadCap cap :=
        length_le_of_mem_reads (hreads ▸ List.mem_cons_self)
      have hfront : first <+: pieces.flatten := by
        refine List.IsPrefix.trans ?_ (List.take_prefix (downloadCap cap) _)
        rw [← hflat, hreads, List.flatten_cons]
        exact List.prefix_append _ _
      have hnumber := Utf8.encode_mono hnumber
      rw [hbytes] at hnumber
      exact ⟨token, sign, d, hspace, hfeed, hsign, hnumber.trans hfront,
        Nat.le_trans hnumber.length_le hlength⟩

/-- One byte has no status. -/
theorem httpStatus_byte (cap : Nat) (response : Bytes) (hne : response ≠ []) :
    (socks5HttpProbe cap (cutAfter 1 response)).httpStatus = none := by
  have hlength : (response.take 1).length ≤ 1 := List.length_take_le _ _
  have hnil : response.take 1 ≠ [] := by
    intro hnil
    rcases List.take_eq_nil_iff.mp hnil with hone | hresponse
    · cases hone
    · exact hne hresponse
  have hcap := downloadCap_pos cap
  rw [cutAfter, httpStatus_of_reads (reads_cons hnil (by omega) (by omega) _)]
  cases hstatus : (Utf8.decode (response.take 1)).bind parseHttpStatus with
  | none => rfl
  | some n =>
      obtain ⟨text, htext, hparse⟩ := Option.bind_eq_some_iff.mp hstatus
      obtain ⟨token, sign, d, -, -, -, behind, rfl⟩ :=
        firstLineStatus_eq_some hparse
      have hshort := Utf8.length_le_length_encode
        (token ++ ' ' :: (sign ++ [digit d]) ++ behind)
      rw [Utf8.decode_eq_some_iff.mp htext] at hshort
      simp only [List.length_append, List.length_cons, List.length_nil] at hshort
      omega

/-- A number in front is read, if it comes whole. -/
theorem httpStatus_number {cap : Nat} {response : Bytes}
    {token sign : List Char} {d : Fin 10} (hspace : ' ' ∉ token)
    (hfeed : '\n' ∉ token) (hsign : sign = [] ∨ sign = ['+'])
    (hfront : Utf8.encode (token ++ ' ' :: (sign ++ [digit d])) <+: response)
    (hlength : (Utf8.encode (token ++ ' ' :: (sign ++ [digit d]))).length
      ≤ downloadCap cap) :
    (socks5HttpProbe cap (cutAfter
      (Utf8.encode (token ++ ' ' :: (sign ++ [digit d]))).length
      response)).httpStatus = some d.val := by
  have hdigit := fun (c : Char) (h : Text.digit? c = none) => digit_ne h d
  have hnumber : ' ' ∉ sign ++ [digit d] := by
    have hne := hdigit ' ' (by decide)
    rcases hsign with rfl | rfl <;> simp [hne.symm]
  have hplain : '\n' ∉ token ++ ' ' :: ((sign ++ [digit d]) ++ []) := by
    have hne := hdigit '\n' (by decide)
    rcases hsign with rfl | rfl <;> simp [hne.symm, hfeed]
  have hparse : parseHttpStatus (token ++ ' ' :: ((sign ++ [digit d]) ++ []))
      = _ := firstLineStatus_append hspace hnumber hplain (.inl rfl)
  rw [if_pos rfl, parseUnsigned_digit hsign, List.append_nil] at hparse
  have htake := List.prefix_iff_eq_take.mp hfront
  have hne : Utf8.encode (token ++ ' ' :: (sign ++ [digit d])) ≠ [] := by
    intro hnil
    have hshort := Utf8.length_le_length_encode
      (token ++ ' ' :: (sign ++ [digit d]))
    rw [hnil, List.length_append, List.length_cons] at hshort
    exact absurd hshort (by simp)
  rw [cutAfter, ← htake, httpStatus_of_reads (reads_cons hne hlength hlength _),
    Utf8.decode_encode]
  exact hparse

/-- A status line has its number in front. -/
theorem numberInFront_of_starts {cap : Nat} {line : StatusLine}
    {response : Bytes} (h : line.Starts response) :
    NumberInFront cap response := by
  have hfront : line.version ++ ' ' :: ([] ++ [digit line.hundreds])
      <+: line.front :=
    ⟨[digit line.tens, digit line.ones, ' '],
      by simp [StatusLine.front, StatusLine.number]⟩
  have hbytes : Utf8.encode
      (line.version ++ ' ' :: ([] ++ [digit line.hundreds])) <+: response := by
    refine List.IsPrefix.trans (Utf8.encode_mono hfront)
      (List.IsPrefix.trans ?_ h.1)
    rw [StatusLine.text, List.append_assoc]
    exact List.prefix_append _ _
  refine ⟨line.version, [], line.hundreds,
    StatusLine.not_mem_version (by decide) (by decide),
    StatusLine.not_mem_version (by decide) (by decide), .inl rfl, hbytes, ?_⟩
  have hspace : String.utf8EncodeChar ' ' = [0x20] := by decide
  have hlarge : 524288 ≤ downloadCap cap := Nat.le_max_right _ _
  simp only [Utf8.encode_append, StatusLine.encode_version, Utf8.encode_cons,
    Utf8.encode_nil, encode_digit, hspace, List.nil_append, List.length_append,
    List.length_cons, List.length_nil]
  omega

/-- The probe reads the code exactly if no number in front hides it. -/
theorem probe_meets_iff (cap : Nat) (response : Bytes) :
    Meets (fun pieces => (socks5HttpProbe cap pieces).httpStatus) id response
      ↔ ¬ NumberInFront cap response := by
  constructor
  · rintro hmeets ⟨token, sign, d, hspace, hfeed, hsign, hfront, hlength⟩
    have hwhole := httpStatus_number hspace hfeed hsign hfront hlength
    have hpos : 0 < (Utf8.encode (token ++ ' ' :: (sign ++ [digit d]))).length := by
      have hshort := Utf8.length_le_length_encode
        (token ++ ' ' :: (sign ++ [digit d]))
      rw [List.length_append, List.length_cons] at hshort
      omega
    have hne : response ≠ [] := by
      rintro rfl
      have hnil := hfront.length_le
      rw [List.length_nil] at hnil
      omega
    have hsame := hmeets.same (delivers_cutAfter hpos hne)
      (delivers_cutAfter Nat.one_pos hne)
    simp only [hwhole, httpStatus_byte cap response hne] at hsame
    cases hsame
  · intro hnone
    have hstatus : ∀ {pieces : List Bytes}, Delivers pieces response →
        (socks5HttpProbe cap pieces).httpStatus = none := by
      intro pieces hpieces
      cases h : (socks5HttpProbe cap pieces).httpStatus with
      | none => rfl
      | some n =>
          exact absurd (hpieces.flatten ▸ numberInFront_of_httpStatus h) hnone
    exact {
      same := fun hp hq => (hstatus hp).trans (hstatus hq).symm
      code := fun hline _ => absurd (numberInFront_of_starts hline) hnone }

end Socks5

-- ======================================================= read_http_response

namespace Response

/-- The mark stands just before the end of the head. -/
theorem eq_of_findHeaderEnd {done : Bytes} {pos : Nat}
    (h : findHeaderEnd done = some pos) :
    ∃ before behind, done = before ++ (headerEndMark ++ behind)
      ∧ pos = before.length + 4 := by
  induction done generalizing pos with
  | nil => cases h
  | cons b rest ih =>
      unfold findHeaderEnd at h
      by_cases hmark : headerEndMark.isPrefixOf (b :: rest) = true
      · rw [if_pos hmark] at h
        cases h
        obtain ⟨behind, hbehind⟩ := List.isPrefixOf_iff_prefix.mp hmark
        exact ⟨[], behind, hbehind.symm, rfl⟩
      · rw [if_neg hmark] at h
        obtain ⟨pos', hrest, rfl⟩ := Option.map_eq_some_iff.mp h
        obtain ⟨before, behind, rfl, rfl⟩ := ih hrest
        exact ⟨b :: before, behind, rfl, rfl⟩

/-- The end is in what was read. -/
theorem le_length_of_findHeaderEnd {done : Bytes} {pos : Nat}
    (h : findHeaderEnd done = some pos) : pos ≤ done.length := by
  obtain ⟨before, behind, rfl, rfl⟩ := eq_of_findHeaderEnd h
  have hmark : headerEndMark.length = 4 := rfl
  simp only [List.length_append, hmark]
  omega

/-- More bytes do not move the end of the head. -/
theorem findHeaderEnd_append {done : Bytes} {pos : Nat}
    (h : findHeaderEnd done = some pos) (more : Bytes) :
    findHeaderEnd (done ++ more) = some pos := by
  induction done generalizing pos with
  | nil => cases h
  | cons b rest ih =>
      have hlong : 4 ≤ (b :: rest).length := by
        have hle := le_length_of_findHeaderEnd h
        obtain ⟨before, -, -, hpos⟩ := eq_of_findHeaderEnd h
        omega
      unfold findHeaderEnd at h
      rw [List.cons_append, findHeaderEnd]
      by_cases hmark : headerEndMark.isPrefixOf (b :: rest) = true
      · rw [if_pos hmark] at h
        have hmore : headerEndMark.isPrefixOf (b :: (rest ++ more)) = true :=
          List.isPrefixOf_iff_prefix.mpr ((List.isPrefixOf_iff_prefix.mp
            hmark).trans (List.prefix_append (b :: rest) more))
        rw [if_pos hmore, h]
      · rw [if_neg hmark] at h
        have hmore : ¬ headerEndMark.isPrefixOf (b :: (rest ++ more)) = true :=
          fun hlater => hmark (List.isPrefixOf_iff_prefix.mpr
            (List.prefix_of_prefix_length_le
              (List.isPrefixOf_iff_prefix.mp hlater)
              (List.prefix_append (b :: rest) more) hlong))
        obtain ⟨pos', hrest, rfl⟩ := Option.map_eq_some_iff.mp h
        rw [if_neg hmore, ih hrest]
        rfl

/-- The state after some bytes. -/
def stateOf (done : Bytes) : State where
  buf := done
  headerEnd := findHeaderEnd done
  httpStatus := (findHeaderEnd done).bind fun pos =>
    (Utf8.decode (done.take pos)).bind parseHttpStatus

/-- The state depends on the bytes, not on the reads. -/
theorem read_stateOf (done bytes : Bytes) :
    (stateOf done).read bytes = stateOf (done ++ bytes) := by
  cases hdone : findHeaderEnd done with
  | some pos =>
      have hmore := findHeaderEnd_append hdone bytes
      have htake : (done ++ bytes).take pos = done.take pos :=
        List.take_append_of_le_length (le_length_of_findHeaderEnd hdone)
      simp only [State.read, stateOf, hdone, hmore, Option.bind_some, htake]
  | none =>
      cases hmore : findHeaderEnd (done ++ bytes) with
      | none => simp only [State.read, stateOf, hdone, hmore, Option.bind_none]
      | some pos =>
          simp only [State.read, stateOf, hdone, hmore, Option.bind_some,
            Option.bind_none]
          cases Utf8.decode ((done ++ bytes).take pos) <;> rfl

/-- Over all of them. -/
theorem foldl_read (done : Bytes) (chunks : List Bytes) :
    chunks.foldl State.read (stateOf done) = stateOf (done ++ chunks.flatten) := by
  induction chunks generalizing done with
  | nil => rw [List.flatten_nil, List.append_nil, List.foldl_nil]
  | cons bytes chunks ih =>
      rw [List.foldl_cons, read_stateOf, ih, List.flatten_cons,
        List.append_assoc]

/-- The answer is that of the first `cap` bytes. -/
theorem readHttpResponse_eq (cap : Nat) (pieces : List Bytes) :
    readHttpResponse cap pieces
      = ((stateOf (pieces.flatten.take cap)).httpStatus,
        ((findHeaderEnd (pieces.flatten.take cap)).map
          ((pieces.flatten.take cap).length - ·)).getD 0) := by
  unfold readHttpResponse
  have hstart : ({} : State) = stateOf [] := rfl
  rw [hstart, foldl_read, List.nil_append, flatten_reads (fun h => h)]
  rfl

/-- A whole line has its code. -/
theorem parseHttpStatus_front (line : StatusLine) (behind : List Char) :
    parseHttpStatus (line.front ++ behind) = some line.code := by
  have hshape : line.front ++ behind = httpPrefix
      ++ ([digit line.major, '.', digit line.minor]
        ++ ' ' :: (line.number ++ ' ' :: behind)) := by
    simp [StatusLine.front, StatusLine.version]
  have hspace : ' ' ∉ [digit line.major, '.', digit line.minor] := by
    have hmajor := digit_ne (c := ' ') (by decide) line.major
    have hminor := digit_ne (c := ' ') (by decide) line.minor
    simp [hmajor.symm, hminor.symm]
  have hfront : getFront 3 (line.number ++ ' ' :: behind)
      = some line.number := by
    have hsize : ∀ d, (digit d).utf8Size = 1 := by decide
    simp [StatusLine.number, getFront, hsize]
  unfold parseHttpStatus
  rw [hshape, Text.stripPrefix_append]
  simp only [Option.bind_eq_bind, Option.bind_some, Text.splitOnce_append hspace,
    hfront]
  exact parseUnsigned_number line

/-- A head holds the status line it starts with. -/
theorem text_prefix_head {line : StatusLine} {response : Bytes} {cap pos : Nat}
    (hline : line.Starts response)
    (h : findHeaderEnd (response.take cap) = some pos) :
    line.text <+: response.take pos := by
  obtain ⟨before, behind, hmark, rfl⟩ := eq_of_findHeaderEnd h
  obtain ⟨more, rfl⟩ := hline.1
  have hwhole : line.text ++ [0x0D, 0x0A] ++ more
      = before ++ (headerEndMark ++ behind)
        ++ (line.text ++ [0x0D, 0x0A] ++ more).drop cap := by
    rw [← hmark, List.take_append_drop]
  -- the line has no CR, so the mark is not in it
  have hlength : line.text.length ≤ before.length := by
    apply Nat.not_lt.mp
    intro hlt
    have hreturn := congrArg (·[before.length]?) hwhole
    simp only [List.append_assoc, List.getElem?_append_left hlt,
      List.getElem?_append_right (Nat.le_refl _), Nat.sub_self] at hreturn
    have hmem : (0x0D : UInt8) ∈ line.text := List.mem_of_getElem? hreturn
    exact (line.plain_text hmem).2 rfl
  rw [List.append_assoc, List.take_append, List.take_of_length_le (by omega)]
  exact List.prefix_append _ _

theorem probe_meets_iff (cap : Nat) (response : Bytes) :
    Meets (readHttpResponse cap) Prod.fst response ↔ Holds cap response := by
  have hanswer : ∀ {pieces : List Bytes}, Delivers pieces response →
      (readHttpResponse cap pieces).1
        = (findHeaderEnd (response.take cap)).bind fun pos =>
          (Utf8.decode (response.take pos)).bind parseHttpStatus := by
    intro pieces hpieces
    rw [readHttpResponse_eq, hpieces.flatten]
    show (findHeaderEnd (response.take cap)).bind _ = _
    cases hend : findHeaderEnd (response.take cap) with
    | none => rfl
    | some pos =>
        have hle : pos ≤ cap := Nat.le_trans (le_length_of_findHeaderEnd hend)
          (List.length_take_le _ _)
        rw [Option.bind_some, Option.bind_some, List.take_take,
          Nat.min_eq_left hle]
  constructor
  · intro hmeets line hline
    obtain ⟨pieces, hpieces⟩ := exists_delivers response
    have hcode := hmeets.code hline hpieces
    rw [hanswer hpieces] at hcode
    obtain ⟨pos, hpos, hcode⟩ := Option.bind_eq_some_iff.mp hcode
    obtain ⟨text, htext, -⟩ := Option.bind_eq_some_iff.mp hcode
    exact ⟨pos, hpos, text, htext⟩
  · intro hholds
    refine { same := fun hp hq => ?_, code := fun {line pieces} hline hp => ?_ }
    · rw [readHttpResponse_eq, readHttpResponse_eq, hp.flatten, hq.flatten]
    · obtain ⟨pos, hpos, text, htext⟩ := hholds hline
      rw [hanswer hp, hpos, Option.bind_some, htext, Option.bind_some]
      obtain ⟨more, hmore⟩ := text_prefix_head hline hpos
      rw [← hmore] at htext
      obtain ⟨behind, rfl⟩ := StatusLine.decode_front htext
      exact parseHttpStatus_front line behind

end Response

-- ========================================================= measure_download

namespace Download

/-- The status of a first line, if it is a text. -/
def statusOf (line : Bytes) : Option Nat :=
  (Utf8.decode line).bind parseHttpStatus

/-- What the reader knows of the bytes read so far. A line feed at `p` behind
the 1024th byte was found only by a read of at most `size` bytes that began
before that byte. -/
structure Inv (size : Nat) (done : Bytes) (s : State) : Prop where
  before : done.findIdx? (· == 0x0A) = none →
    s.statusLine = done.take 1024
      ∧ s.statusLineComplete = decide (1024 ≤ done.length) ∧ s.status = none
  short : ∀ {p : Nat}, done.findIdx? (· == 0x0A) = some p → p < 1024 →
    s.statusLineComplete = true ∧ s.status = statusOf (done.take p)
  long : ∀ {p : Nat}, done.findIdx? (· == 0x0A) = some p → 1024 ≤ p →
    s.statusLineComplete = true
      ∧ (s.status = none
        ∨ p ≤ size + 1022 ∧ s.status = statusOf (done.take 1024))

/-- Before the first read. -/
theorem inv_init (size : Nat) : Inv size [] {} where
  before := fun _ => ⟨rfl, rfl, rfl⟩
  short := fun h => by cases h
  long := fun h => by cases h

variable {size cap : Nat} {done bytes response : Bytes} {s : State}

/-- Behind the line, reads do not change it. -/
theorem read_complete (h : s.statusLineComplete = true) (bytes : Bytes) :
    (s.read bytes).statusLine = s.statusLine
      ∧ (s.read bytes).statusLineComplete = true
      ∧ (s.read bytes).status = s.status := by
  unfold State.read State.line
  rw [if_pos h]
  exact ⟨rfl, h, rfl⟩

/-- A read without a line break. -/
theorem read_none (h : s.statusLineComplete = false)
    (hnone : bytes.findIdx? (· == 0x0A) = none) :
    (s.read bytes).statusLine
        = s.statusLine ++ bytes.take (1024 - s.statusLine.length)
      ∧ (s.read bytes).statusLineComplete = decide ((s.statusLine
        ++ bytes.take (1024 - s.statusLine.length)).length = 1024)
      ∧ (s.read bytes).status = s.status := by
  have htake : bytes.take (min bytes.length (1024 - s.statusLine.length))
      = bytes.take (1024 - s.statusLine.length) := by
    rw [Nat.min_comm, ← List.take_eq_take_min]
  unfold State.read State.line
  rw [if_neg (by simp [h])]
  simp only [hnone, Option.getD_none, Option.isSome_none, Bool.false_or, htake,
    beq_iff_eq]
  by_cases hfull : (s.statusLine
      ++ bytes.take (1024 - s.statusLine.length)).length = 1024
  · rw [if_pos hfull, decide_eq_true hfull]
    exact ⟨rfl, rfl, rfl⟩
  · rw [if_neg hfull, decide_eq_false hfull]
    exact ⟨rfl, h, rfl⟩

/-- A read with one. -/
theorem read_found (h : s.statusLineComplete = false) {q : Nat}
    (hsome : bytes.findIdx? (· == 0x0A) = some q) :
    (s.read bytes).statusLineComplete = true
      ∧ (s.read bytes).status = statusOf
        (s.statusLine ++ bytes.take (min q (1024 - s.statusLine.length))) := by
  unfold State.read State.line
  rw [if_neg (by simp [h])]
  simp only [hsome, Option.isSome_some, Bool.true_or, if_true, Option.getD_some]
  exact ⟨trivial, rfl⟩

/-- Behind a line feed nothing changes. -/
theorem inv_read_found (hinv : Inv size done s) {p : Nat}
    (hdone : done.findIdx? (· == 0x0A) = some p) :
    Inv size (done ++ bytes) (s.read bytes) := by
  have hlt : p < done.length := (List.findIdx?_eq_some_iff_getElem.mp hdone).1
  have hmore : (done ++ bytes).findIdx? (· == 0x0A) = some p := by
    rw [List.findIdx?_append, hdone]
    rfl
  have hcomplete : s.statusLineComplete = true := by
    by_cases hp : p < 1024
    · exact (hinv.short hdone hp).1
    · exact (hinv.long hdone (Nat.le_of_not_lt hp)).1
  obtain ⟨-, hend, hkept⟩ := read_complete hcomplete bytes
  refine ⟨fun hnone => ?_, fun hsome hp => ?_, fun hsome hp => ?_⟩
  · rw [hmore] at hnone
    cases hnone
  · cases hmore.symm.trans hsome
    rw [hkept, List.take_append_of_le_length (Nat.le_of_lt hlt)]
    exact ⟨hend, (hinv.short hdone hp).2⟩
  · cases hmore.symm.trans hsome
    rw [hkept, List.take_append_of_le_length (by omega)]
    exact ⟨hend, (hinv.long hdone hp).2⟩

/-- Behind 1024 bytes no line feed is found any more. -/
theorem inv_read_full (hinv : Inv size done s)
    (hdone : done.findIdx? (· == 0x0A) = none) (hfull : 1024 ≤ done.length) :
    Inv size (done ++ bytes) (s.read bytes) := by
  obtain ⟨htext, hcomplete, hstatus⟩ := hinv.before hdone
  obtain ⟨hline, hend, hkept⟩ :=
    read_complete (hcomplete.trans (decide_eq_true hfull)) bytes
  have hlong : 1024 ≤ (done ++ bytes).length := by
    rw [List.length_append]
    omega
  refine ⟨fun _ => ?_, fun hsome hp => ?_, fun hsome hp => ?_⟩
  · rw [hline, hkept, List.take_append_of_le_length hfull, decide_eq_true hlong]
    exact ⟨htext, hend, hstatus⟩
  · rw [List.findIdx?_append, hdone, Option.none_or] at hsome
    obtain ⟨q, -, rfl⟩ := Option.map_eq_some_iff.mp hsome
    omega
  · exact ⟨hend, .inl (hkept.trans hstatus)⟩

/-- Before that the read's bytes are added, up to a line feed. -/
theorem inv_read_open (hinv : Inv size done s) (hsize : bytes.length ≤ size)
    (hdone : done.findIdx? (· == 0x0A) = none) (hfull : done.length < 1024) :
    Inv size (done ++ bytes) (s.read bytes) := by
  obtain ⟨htext, hcomplete, hstatus⟩ := hinv.before hdone
  have hopen : s.statusLineComplete = false :=
    hcomplete.trans (decide_eq_false (Nat.not_le.mpr hfull))
  have htext : s.statusLine = done := by
    rw [htext, List.take_of_length_le (Nat.le_of_lt hfull)]
  have hmore : (done ++ bytes).findIdx? (· == 0x0A)
      = (bytes.findIdx? (· == 0x0A)).map (· + done.length) := by
    rw [List.findIdx?_append, hdone]
    rfl
  cases hbytes : bytes.findIdx? (· == 0x0A) with
  | none =>
      obtain ⟨hline, hend, hkept⟩ := read_none hopen hbytes
      have hfront : done ++ bytes.take (1024 - done.length)
          = (done ++ bytes).take 1024 := by
        rw [List.take_append, List.take_of_length_le (l := done) (by omega)]
      rw [htext, hfront] at hline hend
      refine ⟨fun _ => ⟨hline, ?_, hkept.trans hstatus⟩, fun hsome => ?_,
        fun hsome => ?_⟩
      · rw [hend, List.length_take]
        congr 1
        exact propext (by omega)
      · rw [hmore, hbytes] at hsome
        cases hsome
      · rw [hmore, hbytes] at hsome
        cases hsome
  | some q =>
      have hlt : q < bytes.length :=
        (List.findIdx?_eq_some_iff_getElem.mp hbytes).1
      obtain ⟨hend, hfound⟩ := read_found hopen hbytes
      have hfront : done ++ bytes.take (min q (1024 - done.length))
          = (done ++ bytes).take (min (q + done.length) 1024) := by
        have hmin : min (q + done.length) 1024 - done.length
            = min q (1024 - done.length) := by omega
        rw [List.take_append, hmin, List.take_of_length_le (l := done) (by omega)]
      rw [htext, hfront] at hfound
      refine ⟨fun hnone => ?_, fun hsome hp => ?_, fun hsome hp => ?_⟩
      · rw [hmore, hbytes] at hnone
        cases hnone
      · rw [hmore, hbytes] at hsome
        cases hsome
        rw [Nat.min_eq_left (Nat.le_of_lt hp)] at hfound
        exact ⟨hend, hfound⟩
      · rw [hmore, hbytes] at hsome
        cases hsome
        rw [Nat.min_eq_right hp] at hfound
        have hle : q + done.length ≤ size + 1022 := by omega
        exact ⟨hend, .inr ⟨hle, hfound⟩⟩

/-- Every read keeps the invariant. -/
theorem inv_read (hinv : Inv size done s) (hsize : bytes.length ≤ size) :
    Inv size (done ++ bytes) (s.read bytes) := by
  cases hdone : done.findIdx? (· == 0x0A) with
  | some p => exact inv_read_found hinv hdone
  | none =>
      by_cases hfull : 1024 ≤ done.length
      · exact inv_read_full hinv hdone hfull
      · exact inv_read_open hinv hsize hdone (Nat.lt_of_not_le hfull)

/-- So do all of them. -/
theorem inv_foldl (hinv : Inv size done s) {chunks : List Bytes}
    (hsize : ∀ bytes ∈ chunks, bytes.length ≤ size) :
    Inv size (done ++ chunks.flatten) (chunks.foldl State.read s) := by
  induction chunks generalizing done s with
  | nil => rwa [List.flatten_nil, List.append_nil, List.foldl_nil]
  | cons bytes chunks ih =>
      obtain ⟨hbytes, hchunks⟩ := List.forall_mem_cons.mp hsize
      rw [List.foldl_cons, List.flatten_cons, ← List.append_assoc]
      exact ih (inv_read hinv hbytes) hchunks

/-- And so it holds of the measurement. -/
theorem inv_measureDownload (cap : Nat) (pieces : List Bytes) :
    Inv (bufSize cap) (pieces.flatten.take cap) (measureDownload cap pieces) := by
  have hbuf : 0 < cap → 0 < bufSize cap := fun hcap =>
    Nat.lt_min.mpr ⟨hcap, by decide⟩
  have hinv : Inv (bufSize cap) ([] ++ (reads (bufSize cap) cap pieces).flatten)
      (measureDownload cap pieces) :=
    inv_foldl (inv_init (bufSize cap)) fun _ => length_le_of_mem_reads
  rwa [List.nil_append, flatten_reads hbuf] at hinv

/-- A found line is final. -/
theorem foldl_complete (h : s.statusLineComplete = true)
    (chunks : List Bytes) : (chunks.foldl State.read s).status = s.status := by
  induction chunks generalizing s with
  | nil => rfl
  | cons bytes chunks ih =>
      obtain ⟨-, hend, hkept⟩ := read_complete h bytes
      rw [List.foldl_cons, ih hend, hkept]

/-- Where the first `cap` bytes have their line feed. -/
theorem findIdx?_take_eq {p : Nat} (h : response.findIdx? (· == 0x0A) = some p)
    (cap : Nat) : (response.take cap).findIdx? (· == 0x0A)
      = if p < cap then some p else none := by
  rw [List.findIdx?_take, h]
  simp [Option.guard]

/-- The status, if no long line has one. -/
theorem status_eq (hlong : ∀ {p : Nat}, response.findIdx? (· == 0x0A) = some p →
      1024 ≤ p → p < cap → p ≤ bufSize cap + 1022 →
        statusOf (response.take 1024) = none)
    {pieces : List Bytes} (hpieces : Delivers pieces response) :
    (measureDownload cap pieces).status
      = (response.findIdx? (· == 0x0A)).bind fun p =>
        if p < cap ∧ p < 1024 then statusOf (response.take p) else none := by
  have hinv := inv_measureDownload cap pieces
  rw [hpieces.flatten] at hinv
  cases hfeed : response.findIdx? (· == 0x0A) with
  | none =>
      have hnone : (response.take cap).findIdx? (· == 0x0A) = none := by
        rw [List.findIdx?_take, hfeed]
        rfl
      exact (hinv.before hnone).2.2
  | some p =>
      have htake := findIdx?_take_eq hfeed cap
      by_cases hcap : p < cap
      · rw [if_pos hcap] at htake
        by_cases hp : p < 1024
        · have hfound := (hinv.short htake hp).2
          rw [List.take_take, Nat.min_eq_left (Nat.le_of_lt hcap)] at hfound
          rw [Option.bind_some, if_pos ⟨hcap, hp⟩, hfound]
        · have hp := Nat.le_of_not_lt hp
          have hnone : (measureDownload cap pieces).status = none := by
            rcases (hinv.long htake hp).2 with hnone | ⟨hle, hfound⟩
            · exact hnone
            · rw [hfound, List.take_take, Nat.min_eq_left (by omega)]
              exact hlong hfeed hp hcap hle
          rw [hnone, Option.bind_some,
            if_neg fun hlt => Nat.not_lt.mpr hp hlt.2]
      · rw [if_neg hcap] at htake
        rw [(hinv.before htake).2.2, Option.bind_some,
          if_neg fun hlt => hcap hlt.1]

/-- A first read of `n` bytes without a line feed. -/
theorem first_read {n : Nat} (hpos : 0 < n) (hlength : n ≤ response.length)
    (hsize : n ≤ bufSize cap) (hcap : n ≤ cap)
    (hnone : (response.take n).findIdx? (· == 0x0A) = none)
    (behind : List Bytes) :
    ∃ s : State, s.statusLine = response.take (min 1024 n)
      ∧ s.statusLineComplete = decide (1024 ≤ n) ∧ s.status = none
      ∧ measureDownload cap (response.take n :: behind)
        = (reads (bufSize cap) (cap - n) behind).foldl State.read s := by
  have hn : (response.take n).length = n :=
    List.length_take_of_le hlength
  have hne : response.take n ≠ [] := List.ne_nil_of_length_pos (by omega)
  have hinv : Inv (bufSize cap) ([] ++ response.take n)
      (({} : State).read (response.take n)) :=
    inv_read (inv_init _) (by omega)
  obtain ⟨htext, hcomplete, hstatus⟩ := hinv.before hnone
  rw [List.nil_append, List.take_take] at htext
  rw [List.nil_append, hn] at hcomplete
  refine ⟨_, htext, hcomplete, hstatus, ?_⟩
  unfold measureDownload
  rw [reads_cons hne (by omega) (by omega), hn, List.foldl_cons]

/-- The first 1024 bytes at once: a later line feed is not looked for. -/
theorem status_at_once {p : Nat} (hfeed : response.findIdx? (· == 0x0A) = some p)
    (hp : 1024 ≤ p) (hcap : p < cap) :
    (measureDownload cap (cutAfter 1024 response)).status = none := by
  obtain ⟨hlt, -, -⟩ := List.findIdx?_eq_some_iff_getElem.mp hfeed
  have hsize : 1024 ≤ bufSize cap := by
    unfold bufSize
    omega
  have hnone : (response.take 1024).findIdx? (· == 0x0A) = none := by
    rw [findIdx?_take_eq hfeed, if_neg (Nat.not_lt.mpr hp)]
  obtain ⟨s, -, hcomplete, hstatus, hrest⟩ := first_read (by decide)
    (by omega) hsize (by omega) hnone
    ((response.drop 1024).map fun b => [b])
  rw [cutAfter, hrest, foldl_complete (hcomplete.trans (by decide)), hstatus]

/-- Behind `n` bytes without a line feed. -/
theorem findIdx?_drop {n p : Nat} (hfeed : response.findIdx? (· == 0x0A) = some p)
    (hn : n ≤ p) :
    (response.drop n).findIdx? (· == 0x0A) = some (p - n) := by
  obtain ⟨hlt, -, -⟩ := List.findIdx?_eq_some_iff_getElem.mp hfeed
  have hnone : (response.take n).findIdx? (· == 0x0A) = none := by
    rw [findIdx?_take_eq hfeed, if_neg (Nat.not_lt.mpr hn)]
  have hlength : (response.take n).length = n :=
    List.length_take_of_le (by omega)
  have hwhole := List.take_append_drop n response
  rw [← hwhole, List.findIdx?_append, hnone, Option.none_or, hlength] at hfeed
  obtain ⟨q, hq, hpq⟩ := Option.map_eq_some_iff.mp hfeed
  have hback : p - n = q := Nat.sub_eq_of_eq_add hpq.symm
  rw [hq, hback]

/-- One byte less, and then the others: a line feed among them gives the first
1024 bytes their status. -/
theorem status_one_short {p : Nat}
    (hfeed : response.findIdx? (· == 0x0A) = some p) (hp : 1024 ≤ p)
    (hcap : p < cap) (hsize : p ≤ bufSize cap + 1022) :
    (measureDownload cap [response.take 1023, response.drop 1023]).status
      = statusOf (response.take 1024) := by
  obtain ⟨hlt, -, -⟩ := List.findIdx?_eq_some_iff_getElem.mp hfeed
  have hbuf : 1023 ≤ bufSize cap := by
    unfold bufSize
    omega
  have hnone : (response.take 1023).findIdx? (· == 0x0A) = none := by
    rw [findIdx?_take_eq hfeed, if_neg (by omega)]
  obtain ⟨s, htext, hopen, -, hrest⟩ := first_read (by decide) (by omega) hbuf
    (by omega) hnone [response.drop 1023]
  have hne : response.drop 1023 ≠ [] := by
    apply List.ne_nil_of_length_pos
    rw [List.length_drop]
    omega
  obtain ⟨later, hlater⟩ : ∃ later, reads (bufSize cap) (cap - 1023)
      [response.drop 1023]
        = (response.drop 1023).take (min (bufSize cap) (cap - 1023)) :: later :=
    reads_cons_take hne (by omega) (by omega) []
  -- the second read reaches the line feed
  have hfound : ((response.drop 1023).take
      (min (bufSize cap) (cap - 1023))).findIdx? (· == 0x0A)
        = some (p - 1023) := by
    rw [findIdx?_take_eq (findIdx?_drop hfeed (by omega)), if_pos (by omega)]
  obtain ⟨hcomplete, hstatus⟩ := read_found (hopen.trans (by decide)) hfound
  have hlength : s.statusLine.length = 1023 := by
    rw [htext]
    exact List.length_take_of_le (by omega)
  have hfront : s.statusLine ++ ((response.drop 1023).take
      (min (bufSize cap) (cap - 1023))).take
        (min (p - 1023) (1024 - s.statusLine.length))
        = response.take 1024 := by
    have hone : min (min (p - 1023) (1024 - 1023))
        (min (bufSize cap) (cap - 1023)) = 1 := by omega
    rw [hlength, List.take_take, hone, htext]
    exact List.take_add.symm
  rw [hrest, hlater, List.foldl_cons, foldl_complete hcomplete]
  exact hstatus.trans (congrArg statusOf hfront)

/-- The line break is where the line ends. -/
theorem findIdx?_of_starts {line : StatusLine} (h : line.Starts response) :
    response.findIdx? (· == 0x0A) = some (line.text.length + 1) := by
  obtain ⟨more, rfl⟩ := h.1
  have hnone : line.text.findIdx? (· == 0x0A) = none := by
    rw [List.findIdx?_eq_none_iff]
    intro b hb
    simpa using (line.plain_text hb).1
  rw [List.append_assoc, List.findIdx?_append, hnone]
  have hbehind : ([0x0D, 0x0A] ++ more : Bytes).findIdx? (· == 0x0A) = some 1 :=
    rfl
  rw [hbehind, Option.none_or, Option.map_some, Nat.add_comm]

/-- The line's bytes with its CR have its status, if they are a text. -/
theorem statusOf_line {line : StatusLine} (h : line.Starts response)
    {text : List Char}
    (htext : Utf8.decode (response.take (line.text.length + 1)) = some text) :
    statusOf (response.take (line.text.length + 1)) = some line.code := by
  have hfeed := findIdx?_of_starts h
  have hplain : '\n' ∉ text := by
    intro hmem
    have hbyte : (0x0A : UInt8) ∈ Utf8.encode text :=
      List.mem_flatMap.mpr ⟨'\n', hmem, by decide⟩
    rw [Utf8.decode_eq_some_iff.mp htext] at hbyte
    have hnone : (response.take (line.text.length + 1)).findIdx? (· == 0x0A)
        = none := by
      rw [findIdx?_take_eq hfeed, if_neg (Nat.lt_irrefl _)]
    have hno := List.findIdx?_eq_none_iff.mp hnone _ hbyte
    cases hno
  have hfront : line.text <+: response.take (line.text.length + 1) := by
    obtain ⟨more, rfl⟩ := h.1
    rw [List.append_assoc, List.take_append,
      List.take_of_length_le (Nat.le_succ _)]
    exact List.prefix_append _ _
  rw [statusOf, htext, Option.bind_some]
  obtain ⟨more, hmore⟩ := hfront
  rw [← hmore] at htext
  obtain ⟨behind, rfl⟩ := StatusLine.decode_front htext
  have hversion : httpPrefix.isPrefixOf line.version = true :=
    List.isPrefixOf_iff_prefix.mpr (List.prefix_append _ _)
  exact StatusLine.firstLineStatus_front hversion
    fun hmem => hplain (List.mem_append_right _ hmem)

theorem probe_meets_iff (cap : Nat) (response : Bytes) :
    Meets (fun pieces => (measureDownload cap pieces).status) id response
      ↔ Holds cap response := by
  constructor
  · intro hmeets
    refine { long := fun {p} hfeed hp hcap hsize => ?_, line := fun {line} hline => ?_ }
    · obtain ⟨hlt, -, -⟩ := List.findIdx?_eq_some_iff_getElem.mp hfeed
      have hne : response ≠ [] := List.ne_nil_of_length_pos (by omega)
      have hhalves : Delivers [response.take 1023, response.drop 1023] response := by
        constructor
        · simp
        · intro piece hpiece
          apply List.ne_nil_of_length_pos
          rcases List.mem_pair.mp hpiece with rfl | rfl
          · rw [List.length_take]
            omega
          · rw [List.length_drop]
            omega
      have hsame := hmeets.same (delivers_cutAfter (n := 1024) (by decide) hne)
        hhalves
      rw [status_at_once hfeed hp hcap,
        status_one_short hfeed hp hcap hsize] at hsame
      exact hsame.symm
    · obtain ⟨pieces, hpieces⟩ := exists_delivers response
      have hcode := hmeets.code hline hpieces
      have hinv := inv_measureDownload cap pieces
      rw [hpieces.flatten] at hinv
      have hfeed := findIdx?_take_eq (findIdx?_of_starts hline) cap
      by_cases hcap : line.text.length + 1 < cap
      · refine ⟨hcap, ?_⟩
        rw [if_pos hcap] at hfeed
        have hstatus : (measureDownload cap pieces).status
            = statusOf ((response.take cap).take (line.text.length + 1)) := by
          by_cases hp : line.text.length + 1 < 1024
          · exact (hinv.short hfeed hp).2
          · have hlast : line.text.length + 1 = 1024 :=
              Nat.le_antisymm (Nat.succ_le_succ hline.2) (Nat.le_of_not_lt hp)
            rcases (hinv.long hfeed (Nat.le_of_eq hlast.symm)).2 with hnone | ⟨-, hfound⟩
            · exact absurd (hnone.symm.trans hcode) (by simp)
            · rw [hfound, hlast]
        have hcode := hstatus.symm.trans hcode
        rw [List.take_take, Nat.min_eq_left (Nat.le_of_lt hcap)] at hcode
        obtain ⟨text, htext, -⟩ := Option.bind_eq_some_iff.mp hcode
        exact ⟨text, htext⟩
      · rw [if_neg hcap] at hfeed
        rw [(hinv.before hfeed).2.2] at hcode
        cases hcode
  · intro hholds
    refine { same := fun hp hq => ?_, code := fun {line pieces} hline hp => ?_ }
    · exact (status_eq hholds.long hp).trans (status_eq hholds.long hq).symm
    · obtain ⟨hcap, text, htext⟩ := hholds.line hline
      have hfeed := findIdx?_of_starts hline
      have hcode := statusOf_line hline htext
      by_cases hp' : line.text.length + 1 < 1024
      · show (measureDownload cap pieces).status = _
        rw [status_eq hholds.long hp, hfeed, Option.bind_some,
          if_pos ⟨hcap, hp'⟩, hcode]
      · -- the line feed is byte 1024, where the cut matters
        have hlast : line.text.length + 1 = 1024 :=
          Nat.le_antisymm (Nat.succ_le_succ hline.2) (Nat.le_of_not_lt hp')
        have hsize : line.text.length + 1 ≤ bufSize cap + 1022 := by
          unfold bufSize
          omega
        have hnone := hholds.long hfeed (Nat.le_of_not_lt hp') hcap hsize
        rw [hlast] at hcode
        exact absurd (hnone.symm.trans hcode) (by simp)

end Download

-- ================================================================= the probes

/-- The readers answer alike for every cut, and with the code of the status
line, exactly under these conditions. -/
theorem probes_meet_iff (cap : Nat) (response : Bytes) :
    (Meets (fun pieces => (Download.measureDownload cap pieces).status) id response
        ↔ Download.Holds cap response)
      ∧ (Meets (fun pieces => (Socks5.socks5HttpProbe cap pieces).httpStatus) id
          response ↔ ¬ Socks5.NumberInFront cap response)
      ∧ (Meets (Response.readHttpResponse cap) Prod.fst response
        ↔ Response.Holds cap response) :=
  ⟨Download.probe_meets_iff cap response, Socks5.probe_meets_iff cap response,
    Response.probe_meets_iff cap response⟩

/-- `HTTP/1.1 200 OK` and the end of the head. -/
def okText : List Char :=
  httpPrefix ++ ['1', '.', '1', ' ', '2', '0', '0', ' ', 'O', 'K', '\r', '\n',
    '\r', '\n']

/-- A response that says OK. -/
def okResponse : Bytes := Utf8.encode okText

/-- The SOCKS5 probe finds 200, or nothing where the first byte comes alone. -/
theorem first_byte_hides_status :
    (Socks5.socks5HttpProbe 524288 [okResponse]).httpStatus = some 200
      ∧ (Socks5.socks5HttpProbe 524288 (cutAfter 1 okResponse)).httpStatus = none
      ∧ ¬ Meets (fun pieces => (Socks5.socks5HttpProbe 524288 pieces).httpStatus)
          id okResponse := by
  have hne : okResponse ≠ [] := by decide
  have hlength : okResponse.length = 19 := by decide
  have hcap : Socks5.downloadCap 524288 = 524288 := rfl
  have hwhole : (Socks5.socks5HttpProbe 524288 [okResponse]).httpStatus
      = some 200 := by
    rw [Socks5.httpStatus_of_reads (reads_cons hne (by omega) (by omega) []),
      okResponse, Utf8.decode_encode]
    decide
  have hcut := Socks5.httpStatus_byte 524288 okResponse hne
  refine ⟨hwhole, hcut, fun hmeets => ?_⟩
  have hdelivers : Delivers [okResponse] okResponse :=
    ⟨List.append_nil okResponse, List.forall_mem_singleton.mpr hne⟩
  have hsame := hmeets.same hdelivers (delivers_cutAfter Nat.one_pos hne)
  rw [hwhole, hcut] at hsame
  cases hsame

end ZeroDpi.HttpProbe
