/-
What the app accepts and what the core reads.

# Addresses

The app reads digits of every script and does not mind leading zeros, also in
an IPv4 address that ends one of IPv6, and `InetAddress` takes an IPv6 address
in brackets; `std::net` does none of this. So an accepted address is read by
the core if and only if it is plain (`PlainAddress`).

# Ranges

Ranges are read by the crate `ipnet`. Of it only this is known: it reads a
plain range, and it reads nothing without a slash (`Ipnet.Reads`).

# Lines

Kotlin ends a line at a lone carriage return too, and trims U+001C to
U+001F; Rust does not, and trims U+0085 instead. A text that has nothing of
this is read line by line alike (`active_read`).

# Hosts

The app allows 253 characters, a fake ClientHello 219 bytes. The app checks
what `IDN.toASCII` makes of a host and leaves the host in the list as it was
written, and it asks for no letter in the domain; the core takes host names in
ASCII, under a domain that is no number. Of `IDN.toASCII` only this is known:
it leaves ASCII as it is (`KeepsAscii`).
-/
import ZeroDpi.Proofs.InetAddress
import ZeroDpi.Proofs.SniTargets

namespace ZeroDpi.Android.RuntimeListValidator

open Lib IpList

-- ================================================================== octets

/-- An octet as `isValidIpv4Literal` wants it. -/
def validOctet (part : List Char) : Bool :=
  !part.isEmpty && part.all Kotlin.isDigit
    && (match Kotlin.toIntOrNull part with
      | some n => decide (0 ≤ n ∧ n ≤ 255)
      | none => false)

/-- Four octets. -/
theorem isValidIpv4Literal_iff {value : List Char} :
    isValidIpv4Literal value = true
      ↔ (Text.split '.' value).length = 4
        ∧ ∀ part ∈ Text.split '.' value, validOctet part = true := by
  show (decide ((Text.split '.' value).length = 4)
    && (Text.split '.' value).all validOctet) = true ↔ _
  rw [Bool.and_eq_true, decide_eq_true_eq, List.all_eq_true]

/-- The value of a valid octet. -/
theorem validOctet_value {part : List Char} (h : validOctet part = true) :
    part ≠ [] ∧ ∃ n, Kotlin.digits? part = some n ∧ n ≤ 255 := by
  unfold validOctet at h
  simp only [Bool.and_eq_true, Bool.not_eq_true', List.isEmpty_eq_false_iff,
    List.all_eq_true] at h
  obtain ⟨⟨hne, hall⟩, hvalue⟩ := h
  refine ⟨hne, ?_⟩
  obtain ⟨c, rest, rfl⟩ := List.exists_cons_of_ne_nil hne
  rw [Kotlin.toIntOrNull, Kotlin.toSignedOrNull_digit (hall c List.mem_cons_self)] at hvalue
  cases hd : Kotlin.digits? (c :: rest) with
  | none => simp [hd] at hvalue
  | some n =>
      refine ⟨n, rfl, ?_⟩
      by_cases hn : n < 2 ^ (32 - 1)
      · simp only [hd, Option.bind_some, if_pos hn,
          decide_eq_true_eq] at hvalue
        omega
      · simp only [hd, Option.bind_some, if_neg hn,
          Bool.false_eq_true] at hvalue

/-- An octet that is plain is one to the core. -/
theorem octet?_of_plain {part : List Char} (h : validOctet part = true)
    (hplain : PlainNumeral part) : ∃ n, octet? part = some n := by
  obtain ⟨hne, n, hn, hle⟩ := validOctet_value h
  have hdigits : Text.digits? part = some n := by
    rw [← Kotlin.digits?_eq_of_ascii hne hplain.1, hn]
  refine ⟨n, decimalOctet?_plain ?_ hplain⟩
  have hshort : part.length ≤ 3 := by
    obtain ⟨c, rest, rfl⟩ := List.exists_cons_of_ne_nil hne
    by_cases hc : c = '0'
    · have hone := hplain.2 (by simp [hc])
      omega
    · have hlarge := Kotlin.digits?_large hc
        (hplain.1 c List.mem_cons_self) hn
      -- four digits are a thousand at least
      apply Nat.le_of_not_lt
      intro hlong
      have hthree : 3 ≤ rest.length := by
        rw [List.length_cons] at hlong
        omega
      have := Nat.pow_le_pow_right (show 0 < 10 by decide) hthree
      omega
  unfold decimalOctet?
  rw [if_neg (by omega), hdigits]
  exact Option.filter_eq_some_iff.mpr ⟨rfl, decide_eq_true hle⟩

-- =============================================================== addresses

/-- Digits and dots are all there is in an accepted IPv4 address. -/
theorem not_mem_ipv4 {s : List Char} (h : isValidIpv4Literal s = true)
    {c : Char} (hdot : c ≠ '.') (hdigit : Kotlin.isDigit c = false) :
    c ∉ s := by
  intro hmem
  obtain ⟨part, hpart, hin⟩ := Text.exists_mem_split hdot hmem
  have hvalid := (isValidIpv4Literal_iff.mp h).2 part hpart
  unfold validOctet at hvalid
  simp only [Bool.and_eq_true, List.all_eq_true] at hvalid
  have hc := hvalid.1.2 c hin
  rw [hdigit] at hc
  cases hc

/-- An IPv4 address has no colon. -/
theorem colon_not_mem {s : List Char} (h : isValidIpv4Literal s = true) :
    ':' ∉ s :=
  not_mem_ipv4 h (by decide) (by decide)

/-- It is its own octets. -/
theorem octets_ipv4 {s : List Char} (h : isValidIpv4Literal s = true) :
    octets s = Text.split '.' s := by
  have hdot : '.' ∈ s := by
    apply Decidable.of_not_not
    intro hno
    have hlen := (isValidIpv4Literal_iff.mp h).1
    rw [Text.split_of_not_mem hno] at hlen
    cases hlen
  unfold octets
  rw [Text.split_of_not_mem (colon_not_mem h)]
  exact if_pos hdot

/-- An accepted IPv4 address is read if and only if its octets are plain. -/
theorem parseIpv4_iff {s : List Char} (h : isValidIpv4Literal s = true) :
    (∃ ip, parseIpv4 s = some ip) ↔ PlainAddress s := by
  obtain ⟨hlen, hvalid⟩ := isValidIpv4Literal_iff.mp h
  have hbracket : s.head? ≠ some '[' := by
    intro hbracket
    exact not_mem_ipv4 h (c := '[') (by decide) (by decide)
      (List.mem_of_mem_head? hbracket)
  unfold PlainAddress
  rw [octets_ipv4 h]
  constructor
  · intro hgiven
    obtain ⟨ip, hip⟩ := hgiven
    exact ⟨hbracket, parseIpv4_plain hip⟩
  · intro hgiven
    obtain ⟨-, hplain⟩ := hgiven
    apply parseIpv4_of_parts hlen
    intro part hpart
    exact octet?_of_plain (hvalid part hpart) (hplain part hpart)

/-- An accepted address is read if and only if it is plain. -/
theorem parseIpAddr_iff {s : List Char}
    (h : isValidIpv4Literal s = true ∨ isValidIpv6Literal s = true) :
    (∃ ip, parseIpAddr s = some ip) ↔ PlainAddress s := by
  unfold parseIpAddr
  rcases h with h | h
  · rw [← parseIpv4_iff h, parseIpv6_eq_none (colon_not_mem h)]
    cases parseIpv4 s <;> simp
  · obtain ⟨hcolon, -⟩ := isValidIpv6Literal_spec h
    rw [← parseIpv6_iff h, parseIpv4_eq_none hcolon (by decide) (by decide)]
    cases parseIpv6 s <;> simp

-- ================================================================== ranges

/-- What is known of the crate: an address, a slash and a plain length make
a range, and there is no range without a slash. -/
structure Reads (ipnet : Ipnet) : Prop where
  v4 : ∀ {address bits : List Char} {ip : Ipv4Addr} {n : Nat},
    parseIpv4 address = some ip → PlainNumeral bits →
    Text.digits? bits = some n → n ≤ 32 →
    ∃ net, ipnet.parse (address ++ '/' :: bits) = some net
  v6 : ∀ {address bits : List Char} {ip : BitVec 128} {n : Nat},
    parseIpv6 address = some ip → PlainNumeral bits →
    Text.digits? bits = some n → n ≤ 128 →
    ∃ net, ipnet.parse (address ++ '/' :: bits) = some net
  slash : ∀ {s : List Char} {net : ipnet.Net},
    ipnet.parse s = some net → '/' ∈ s

/-- A range without leading zeros. -/
def PlainRange (s : List Char) : Prop :=
  PlainAddress (Kotlin.substringBefore '/' s)
    ∧ PlainNumeral (Kotlin.substringAfter '/' s)

/-- An entry that the core does not skip. -/
def ReadEntry (ipnet : Ipnet) (s : List Char) : Prop :=
  parseLine ipnet s ≠ .skipped

/-- The core reads an address or a range. -/
theorem readEntry_iff {ipnet : Ipnet} {s : List Char} :
    ReadEntry ipnet s ↔ (∃ ip, parseIpAddr s = some ip)
      ∨ ∃ net, ipnet.parse s = some net := by
  unfold ReadEntry parseLine
  cases parseIpAddr s with
  | some ip => simp
  | none => cases ipnet.parse s <;> simp

/-- A range is cut at its slash. -/
theorem append_slash {s : List Char} (h : '/' ∈ s) :
    Kotlin.substringBefore '/' s ++ '/' :: Kotlin.substringAfter '/' s
      = s := by
  unfold Kotlin.substringBefore Kotlin.substringAfter
  induction s with
  | nil => cases h
  | cons c rest ih =>
      by_cases hc : c = '/'
      · simp [hc]
      · have hrest : '/' ∈ rest := by
          rcases List.mem_cons.mp h with heq | hrest
          · exact absurd heq.symm hc
          · exact hrest
        simpa [List.takeWhile_cons, List.dropWhile_cons, hc] using ih hrest

/-- A plain length has no sign. -/
theorem digits?_of_plain {s : List Char} {bits : Int}
    (h : Kotlin.toIntOrNull s = some bits) (hplain : PlainNumeral s) :
    ∃ n : Nat, Text.digits? s = some n ∧ bits = n := by
  cases s with
  | nil => cases h
  | cons c rest =>
      have hdigit : Kotlin.isDigit c = true := by
        obtain ⟨d, hd⟩ := Option.isSome_iff_exists.mp
          (hplain.1 c List.mem_cons_self)
        rw [Kotlin.isDigit, Kotlin.digit?_eq_of_ascii hd]
        rfl
      rw [Kotlin.toIntOrNull, Kotlin.toSignedOrNull_digit hdigit,
        Kotlin.digits?_eq_of_ascii (by simp) hplain.1] at h
      obtain ⟨n, hn, hbits⟩ := Option.bind_eq_some_iff.mp h
      refine ⟨n, hn, ?_⟩
      split at hbits
      · exact (Option.some.inj hbits).symm
      · cases hbits

/-- What an accepted entry is. -/
theorem validateIpOrCidr_cases {s : List Char}
    (h : validateIpOrCidr s = none) :
    ('/' ∉ s ∧ (isValidIpv4Literal s = true ∨ isValidIpv6Literal s = true))
      ∨ ('/' ∈ s ∧ ∃ bits : Int,
          Kotlin.toIntOrNull (Kotlin.substringAfter '/' s) = some bits
          ∧ ((isValidIpv4Literal (Kotlin.substringBefore '/' s) = true
              ∧ bits ≤ 32)
            ∨ (isValidIpv6Literal (Kotlin.substringBefore '/' s) = true
              ∧ bits ≤ 128))) := by
  unfold validateIpOrCidr at h
  split at h
  case isTrue => cases h
  split at h
  case isTrue hcount =>
    split at h
    case isTrue hvalid =>
      exact .inl ⟨List.count_eq_zero.mp hcount,
        (Bool.or_eq_true _ _).mp hvalid⟩
    case isFalse => cases h
  case isFalse hcount =>
    have hslash : '/' ∈ s := by
      apply Decidable.of_not_not
      intro hno
      exact hcount (List.count_eq_zero.mpr hno)
    refine .inr ⟨hslash, ?_⟩
    split at h
    case isTrue => cases h
    dsimp only at h
    split at h
    case h_1 => cases h
    case h_2 bits hbits =>
      refine ⟨bits, hbits, ?_⟩
      split at h
      case isTrue hv4 =>
        split at h
        case isTrue hle => exact .inl ⟨hv4, hle.2⟩
        case isFalse => cases h
      case isFalse =>
        split at h
        case isTrue hv6 =>
          split at h
          case isTrue hle => exact .inr ⟨hv6, hle.2⟩
          case isFalse => cases h
        case isFalse => cases h

/-- The crate reads every plain range that is accepted. -/
theorem parse_of_plainRange {ipnet : Ipnet} (hreads : Reads ipnet)
    {s : List Char} (h : validateIpOrCidr s = none) (hslash : '/' ∈ s)
    (hplain : PlainRange s) : ∃ net, ipnet.parse s = some net := by
  rcases validateIpOrCidr_cases h with ⟨hno, -⟩ | ⟨-, bits, hbits, hvalid⟩
  · exact absurd hslash hno
  · obtain ⟨n, hn, rfl⟩ := digits?_of_plain hbits hplain.2
    have hlit := hplain.1
    rw [← append_slash hslash]
    rcases hvalid with ⟨hv4, hle⟩ | ⟨hv6, hle⟩
    · obtain ⟨ip, hip⟩ := (parseIpv4_iff hv4).mpr hlit
      exact hreads.v4 hip hplain.2 hn (by omega)
    · obtain ⟨ip, hip⟩ := (parseIpv6_iff hv6).mpr hlit
      exact hreads.v6 hip hplain.2 hn (by omega)

/-- An entry that the core reads, as far as the app can tell: an address has
to be plain, and a range is what the crate takes for one. -/
def Plain (ipnet : Ipnet) (s : List Char) : Prop :=
  if '/' ∈ s then ∃ net, ipnet.parse s = some net else PlainAddress s

/-- What the app accepts, the core reads if it is plain. -/
theorem readEntry_iff_plain {ipnet : Ipnet} (hreads : Reads ipnet)
    {s : List Char} (h : validateIpOrCidr s = none) :
    ReadEntry ipnet s ↔ Plain ipnet s := by
  rw [readEntry_iff]
  unfold Plain
  by_cases hslash : '/' ∈ s
  · rw [if_pos hslash, parseIpAddr_slash hslash]
    simp
  · have hnet : ¬ ∃ net, ipnet.parse s = some net := by
      intro hgiven
      obtain ⟨net, hnet⟩ := hgiven
      exact hslash (hreads.slash hnet)
    rcases validateIpOrCidr_cases h with ⟨-, hvalid⟩ | ⟨hin, -⟩
    · rw [if_neg hslash, parseIpAddr_iff hvalid]
      simp [hnet]
    · exact absurd hin hslash

-- =================================================================== lists

/-- A list is valid if each of its entries is. -/
theorem isValid_iff {check : List Char → Option String} {text : List Char} :
    (issuesOf check text).isEmpty = true
      ↔ ∀ entry ∈ entries text, check entry.2 = none := by
  unfold issuesOf
  rw [List.isEmpty_iff, List.filterMap_eq_nil_iff]
  apply forall₂_congr
  intro entry _
  simp

/-- The active lines of a text, to the app. -/
def active (text : List Char) : List (List Char) :=
  (Kotlin.lineSequence text).filterMap activeEntry

/-- The active lines are the entries. -/
theorem mem_active {text e : List Char} :
    e ∈ active text ↔ ∃ n, (n, e) ∈ entries text := by
  unfold active entries
  simp only [List.mem_filterMap, Prod.exists, Option.map_eq_some_iff,
    Prod.mk.injEq]
  constructor
  · intro hgiven
    obtain ⟨line, hline, hactive⟩ := hgiven
    obtain ⟨i, hi, rfl⟩ := List.mem_iff_getElem.mp hline
    refine ⟨i + 1, _, i, ?_, e, hactive, rfl, rfl⟩
    exact List.mk_mem_zipIdx_iff_getElem?.mpr (by simp [hi])
  · intro hgiven
    obtain ⟨n, line, i, hmem, e', hactive, -, rfl⟩ := hgiven
    exact ⟨line, List.fst_mem_of_mem_zipIdx hmem, hactive⟩

/-- Nothing that the two languages trim or split differently. -/
def PlainText (text : List Char) : Prop :=
  Kotlin.PlainBreaks text
    ∧ ∀ c ∈ text, Kotlin.isWhitespace c = Text.isWhitespace c

/-- Lines are parts of the text. -/
theorem mem_of_mem_lineSequence {text line : List Char} {c : Char}
    (hline : line ∈ Kotlin.lineSequence text) (hc : c ∈ line) : c ∈ text := by
  induction text using Kotlin.lineSequence.induct generalizing line with
  | case1 =>
      rw [Kotlin.lineSequence, List.mem_singleton] at hline
      rw [hline] at hc
      exact hc
  | case2 rest ih =>
      rw [Kotlin.lineSequence] at hline
      rcases List.mem_cons.mp hline with rfl | hrest
      · cases hc
      · simp [ih hrest hc]
  | case3 d rest hbreak hend ih =>
      rw [Kotlin.lineSequence, if_pos hend] at hline
      · rcases List.mem_cons.mp hline with rfl | hrest
        · cases hc
        · simp [ih hrest hc]
      · exact hbreak
  | case4 d rest hbreak hend hnil ih =>
      rw [Kotlin.lineSequence, if_neg hend, hnil] at hline
      · rw [List.mem_singleton.mp hline, List.mem_singleton] at hc
        simp [hc]
      · exact hbreak
  | case5 d rest hbreak hend first lines hlines ih =>
      rw [Kotlin.lineSequence, if_neg hend, hlines] at hline
      · rw [hlines] at ih
        rcases List.mem_cons.mp hline with rfl | hrest
        · rcases List.mem_cons.mp hc with rfl | hfirst
          · simp
          · simp [ih List.mem_cons_self hfirst]
        · simp [ih (List.mem_cons_of_mem _ hrest) hc]
      · exact hbreak

theorem dropWhile_congr {p q : Char → Bool} {s : List Char}
    (h : ∀ c ∈ s, p c = q c) : s.dropWhile p = s.dropWhile q := by
  induction s with
  | nil => rfl
  | cons c rest ih =>
      rw [List.dropWhile_cons, List.dropWhile_cons, h c List.mem_cons_self,
        ih fun d hd => h d (List.mem_cons_of_mem _ hd)]

/-- Both trim alike where they agree on the blanks. -/
theorem trim_congr {s : List Char}
    (h : ∀ c ∈ s, Kotlin.isWhitespace c = Text.isWhitespace c) :
    Kotlin.trim s = Text.trim s := by
  unfold Kotlin.trim Text.trim
  rw [dropWhile_congr h, dropWhile_congr]
  intro c hc
  exact h c ((List.dropWhile_suffix _).subset (List.mem_reverse.mp hc))

/-- Both sides find the same lines in a plain text. -/
theorem active_read {text : List Char} (h : PlainText text) :
    active text = SniScanner.hostnames text := by
  have hentry : ∀ line ∈ Kotlin.lineSequence text,
      activeEntry line = Option.guard SniScanner.isEntry (Text.trim line) := by
    intro line hline
    unfold activeEntry SniScanner.isEntry
    rw [trim_congr fun c hc => h.2 c (mem_of_mem_lineSequence hline hc)]
    simp [Option.guard]
  have hfilter : ∀ lines : List (List Char),
      lines.filterMap (fun line => Option.guard SniScanner.isEntry
        (Text.trim line)) = (lines.map Text.trim).filter SniScanner.isEntry := by
    intro lines
    rw [← List.filterMap_eq_filter, List.filterMap_map]
    rfl
  unfold active
  rw [List.filterMap_congr hentry, hfilter]
  rcases Kotlin.lineSequence_eq_lines h.1 with hl | hl
  · rw [hl]
    rfl
  · rw [hl, List.map_append, List.filter_append]
    exact List.append_nil _

-- ==================================================================== hosts

/-- One to 63 letters, digits and hyphens, with no hyphen at an edge. -/
structure HostLabel (label : List Char) : Prop where
  size : 1 ≤ label.length ∧ label.length ≤ 63
  chars : ∀ c ∈ label, c.isAlphanum = true ∨ c = '-'
  head : label.head? ≠ some '-'
  last : label.getLast? ≠ some '-'

/-- The domain of a host is no number: that would be an address. -/
def NamedDomain (s : List Char) : Prop :=
  ∃ c ∈ (Text.split '.' s).getLastD [], c.isDigit = false

instance (s : List Char) : Decidable (NamedDomain s) :=
  List.decidableBEx _ _

/-- A host name, as the core's `ServerName::try_from` wants one. -/
structure HostName (s : List Char) : Prop where
  size : (String.ofList s).utf8ByteSize ≤ 253
  labels : ∀ label ∈ Text.split '.' s, HostLabel label
  domain : NamedDomain s

/-- What is known of `IDN.toASCII`: RFC 3490 leaves ASCII as it is. -/
def KeepsAscii (toAscii : ToAscii) : Prop :=
  ∀ {s ascii : List Char}, (∀ c ∈ s, c.toNat < 0x80) →
    toAscii s = some ascii → ascii = s

/-- A host that is the same to both sides. -/
structure PlainHost (s : List Char) : Prop where
  ascii : ∀ c ∈ s, c.toNat < 0x80
  domain : NamedDomain s
  short : (String.ofList s).utf8ByteSize ≤ Config.maxSniLen

/-- A check of all characters, as a property. -/
theorem ascii_of_all {s : List Char}
    (h : s.all (fun c => decide (c.toNat < 0x80)) = true) :
    ∀ c ∈ s, c.toNat < 0x80 := by
  simpa using h

/-- Letters and digits of ASCII. -/
theorem isAlphanum_iff {c : Char} :
    c.isAlphanum = true ↔ (0x41 ≤ c.toNat ∧ c.toNat ≤ 0x5A)
      ∨ (0x61 ≤ c.toNat ∧ c.toNat ≤ 0x7A) ∨ (0x30 ≤ c.toNat ∧ c.toNat ≤ 0x39) := by
  have hchar : c.isAlphanum = (((c.val ≥ 65 ∧ c.val ≤ 90)
      || c.val ≥ 97 && c.val ≤ 122) || c.val ≥ 48 && c.val ≤ 57) := rfl
  simp only [hchar, Bool.or_eq_true, Bool.and_eq_true, decide_eq_true_eq,
    ge_iff_le, UInt32.le_iff_toNat_le]
  rw [or_assoc]
  rfl

/-- Both sides' are the same. -/
theorem isAlphanum_of_ascii {c : Char} (h : Kotlin.isAsciiAlnum c = true) :
    c.isAlphanum = true := by
  unfold Kotlin.isAsciiAlnum at h
  simp only [Bool.or_eq_true, Bool.and_eq_true, decide_eq_true_eq] at h
  rw [isAlphanum_iff]
  omega

/-- A label that the app accepts is one. -/
theorem hostLabel_of_valid {label : List Char} (h : labelIssue label = none) :
    HostLabel label := by
  unfold labelIssue at h
  dsimp only at h
  split at h
  case isTrue => cases h
  split at h
  case isTrue => cases h
  case isFalse hmatches =>
    unfold matchesLabel at hmatches
    simp only [Bool.not_eq_true, Bool.not_eq_false', Bool.and_eq_true,
      List.all_eq_true, Bool.or_eq_true, decide_eq_true_eq] at hmatches
    obtain ⟨⟨⟨hchars, hhead⟩, hlast⟩, hlen⟩ := hmatches
    have hne : label ≠ [] := by
      intro heq
      subst heq
      cases hhead
    refine ⟨⟨List.length_pos_iff.mpr hne, hlen⟩, ?_, ?_, ?_⟩
    · intro c hc
      exact (hchars c hc).imp_left isAlphanum_of_ascii
    · intro hc
      rw [hc] at hhead
      exact absurd hhead (by decide)
    · intro hc
      rw [hc] at hlast
      exact absurd hlast (by decide)

/-- What an accepted host is, once it is in ASCII. -/
theorem validateHostname_labels {toAscii : ToAscii} {s : List Char}
    (h : validateHostname toAscii s = none) :
    ∃ ascii, toAscii s = some ascii
      ∧ ∀ label ∈ Text.split '.' ascii, HostLabel label := by
  unfold validateHostname at h
  iterate 3
    split at h
    case isTrue => cases h
  split at h
  case h_1 => cases h
  case h_2 ascii hascii =>
    refine ⟨ascii, hascii, fun label hlabel => ?_⟩
    dsimp only at h
    iterate 2
      split at h
      case isTrue => cases h
    exact hostLabel_of_valid (List.findSome?_eq_none_iff.mp h label hlabel)

/-- Host names are ASCII. -/
theorem HostName.ascii {s : List Char} (h : HostName s) :
    ∀ c ∈ s, c.toNat < 0x80 := by
  intro c hc
  by_cases hdot : c = '.'
  · rw [hdot]
    decide
  · obtain ⟨label, hlabel, hin⟩ := Text.exists_mem_split hdot hc
    rcases (h.labels label hlabel).chars c hin with halnum | rfl
    · have := isAlphanum_iff.mp halnum
      omega
    · decide

/-- An accepted host is a host name, and a short one, if and only if it is
plain. -/
theorem plainHost_iff {toAscii : ToAscii} (hascii : KeepsAscii toAscii)
    {s : List Char} (h : validateHostname toAscii s = none) :
    PlainHost s ↔ HostName s
      ∧ (String.ofList s).utf8ByteSize ≤ Config.maxSniLen := by
  constructor
  · intro hplain
    obtain ⟨ascii, hto, hlabels⟩ := validateHostname_labels h
    rw [hascii hplain.ascii hto] at hlabels
    have hsize : Config.maxSniLen ≤ 253 := by decide
    exact ⟨⟨hplain.short.trans hsize, hlabels, hplain.domain⟩, hplain.short⟩
  · intro hgiven
    obtain ⟨hname, hshort⟩ := hgiven
    exact ⟨hname.ascii, hname.domain, hshort⟩

-- =========================================================== accepted lists

variable (ipnet : Ipnet)

/-- Every active line is one that the core reads, and does not skip. -/
def IpUsable (text : List Char) : Prop :=
  ∀ e ∈ active text, e ∈ SniScanner.hostnames text ∧ ReadEntry ipnet e

/-- Every active line is a host name of the core's, short enough, and fits
into every fake ClientHello. -/
def SniUsable (text : List Char) : Prop :=
  ∀ e ∈ active text, e ∈ SniScanner.hostnames text ∧ HostName e
    ∧ (String.ofList e).utf8ByteSize ≤ Config.maxSniLen
    ∧ ∀ seed, ∃ hello,
        TlsTemplate.freshFakeClientHello seed (String.ofList e) = .ok hello

/-- The validator of addresses, entry by entry. -/
theorem validate_ipList {toAscii : ToAscii} {text : List Char} {mode : String}
    (h : (validate toAscii .ipList text mode).isValid = true) :
    ∀ e ∈ active text, validateIpOrCidr e = none := by
  intro e he
  obtain ⟨n, hn⟩ := mem_active.mp he
  exact isValid_iff.mp h (n, e) hn

/-- So such a list is usable if its entries are plain. -/
theorem ipUsable_iff (hreads : Reads ipnet) {toAscii : ToAscii}
    {text : List Char} {mode : String}
    (h : (validate toAscii .ipList text mode).isValid = true) :
    IpUsable ipnet text
      ↔ ∀ e ∈ active text, e ∈ SniScanner.hostnames text ∧ Plain ipnet e := by
  apply forall₂_congr
  intro e he
  rw [readEntry_iff_plain hreads (validate_ipList h e he)]

/-- The validator of names, likewise. -/
theorem validate_sniList {toAscii : ToAscii} {text : List Char} {mode : String}
    (h : (validate toAscii .sniList text mode).isValid = true) :
    ∀ e ∈ active text, validateHostname toAscii e = none := by
  intro e he
  obtain ⟨n, hn⟩ := mem_active.mp he
  exact isValid_iff.mp h (n, e) hn

/-- And such a list if its hosts are. -/
theorem sniUsable_iff {toAscii : ToAscii} (hascii : KeepsAscii toAscii)
    {text : List Char} {mode : String}
    (h : (validate toAscii .sniList text mode).isValid = true) :
    SniUsable text
      ↔ ∀ e ∈ active text, e ∈ SniScanner.hostnames text ∧ PlainHost e := by
  apply forall₂_congr
  intro e he
  rw [plainHost_iff hascii (validate_sniList h e he)]
  constructor
  · intro hgiven
    obtain ⟨hread, hname, hshort, -⟩ := hgiven
    exact ⟨hread, hname, hshort⟩
  · intro hgiven
    obtain ⟨hread, hname, hshort⟩ := hgiven
    refine ⟨hread, hname, hshort, fun seed => ?_⟩
    obtain ⟨hello, hhello, -⟩ :=
      TlsTemplate.freshFakeClientHello_ok seed hshort
    exact ⟨hello, hhello⟩

/-- An accepted list is usable if and only if both sides find the same lines
in it and its entries are plain: addresses in ASCII, without leading zeros
and brackets, ranges that the crate reads, hosts in ASCII, of at most 219
bytes, under a domain that is no number. A plain text has the same lines, and
a plain range is read. -/
theorem accepted_list_usable_iff (hreads : Reads ipnet) {toAscii : ToAscii}
    (hascii : KeepsAscii toAscii) (text : List Char) (mode : String) :
    ((validate toAscii .ipList text mode).isValid = true →
      (IpUsable ipnet text ↔ ∀ e ∈ active text,
        e ∈ SniScanner.hostnames text ∧ Plain ipnet e)
      ∧ ∀ e ∈ active text, '/' ∈ e → PlainRange e → Plain ipnet e)
    ∧ ((validate toAscii .sniList text mode).isValid = true →
      (SniUsable text ↔ ∀ e ∈ active text,
        e ∈ SniScanner.hostnames text ∧ PlainHost e))
    ∧ (PlainText text → active text = SniScanner.hostnames text) := by
  refine ⟨fun h => ⟨ipUsable_iff ipnet hreads h, ?_⟩,
    fun h => sniUsable_iff hascii h, active_read⟩
  intro e he hslash hplain
  rw [Plain, if_pos hslash]
  exact parse_of_plainRange hreads (validate_ipList h e he) hslash hplain

/-- The width of an address. -/
def maxBits : IpAddr → Nat
  | .v4 _ => 32
  | .v6 _ => 128

/-- The crate on IPv4 addresses and ranges of one of them. -/
def hostIpnet : Ipnet where
  Net := IpAddr × List Char
  parse s := (Text.splitOnce '/' s).bind fun (address, bits) =>
    (parseIpAddr address).bind fun ip =>
      (Text.digits? bits).bind fun n =>
        if n ≤ maxBits ip then some (ip, s) else none
  truncText net := net.2
  hosts net _ := [net.1]
  ipText
    | .v4 ip => ['.'].intercalate
        ([24, 16, 8, 0].map fun k => Nat.toDigits 10 (ip.toNat / 2 ^ k % 256))
    | .v6 _ => []

/-- A library that reads ranges as documented. -/
theorem hostIpnet_parse {address bits : List Char} {ip : IpAddr} {n : Nat}
    (hip : parseIpAddr address = some ip) (hn : Text.digits? bits = some n)
    (hle : n ≤ maxBits ip) :
    ∃ net, hostIpnet.parse (address ++ '/' :: bits) = some net := by
  have hslash : '/' ∉ address := by
    intro hin
    rw [parseIpAddr_slash hin] at hip
    cases hip
  refine ⟨(ip, address ++ '/' :: bits), ?_⟩
  simp only [hostIpnet, Text.splitOnce_append hslash, Option.bind_some, hip, hn,
    if_pos hle]

/-- Its documentation. -/
theorem hostIpnet_reads : Reads hostIpnet where
  v4 := by
    intro address bits ip n hip _ hn hle
    have haddr : parseIpAddr address = some (.v4 ip) := by
      rw [parseIpAddr, hip]
    exact hostIpnet_parse haddr hn hle
  v6 := by
    intro address bits ip n hip _ hn hle
    have hcolon : ':' ∈ address := by
      apply Decidable.of_not_not
      intro hno
      rw [parseIpv6_eq_none hno] at hip
      cases hip
    have haddr : parseIpAddr address = some (.v6 ip) := by
      rw [parseIpAddr, parseIpv4_eq_none hcolon (by decide) (by decide), hip]
      rfl
    exact hostIpnet_parse haddr hn hle
  slash := by
    intro s net h
    apply Decidable.of_not_not
    intro hno
    have hsplit := Text.splitOnce_of_not_mem hno
    simp [hostIpnet, hsplit] at h

/-- `bücher.example`. -/
def umlautList : List Char := "bücher.example".toList

/-- `IDN.toASCII` on ASCII and on one host beyond it. -/
def sampleToAscii : ToAscii := fun s =>
  if s = umlautList then some "xn--bcher-kva.example".toList
  else if s.all fun c => c.toNat < 0x80 then some s
  else none

/-- This one keeps what is ASCII. -/
theorem sampleToAscii_keepsAscii : KeepsAscii sampleToAscii := by
  intro s ascii hascii h
  unfold sampleToAscii at h
  split at h
  case isTrue humlaut =>
    rw [humlaut] at hascii
    exact absurd (hascii 'ü' (by decide)) (by decide)
  case isFalse =>
    split at h
    case isTrue => exact (Option.some.inj h).symm
    case isFalse => cases h

/-- A list with a comment, an address, a range and a literal of IPv6. -/
def sampleList : List Char :=
  "# mine\n1.1.1.1\n 10.0.0.1/32 \r\n::1.2.3.4\n".toList

/-- Two hosts, a comment, and both kinds of line break. -/
def sampleHosts : List Char := "example.com\r\n# mine\n cdn-1.example.org\n".toList

/-- An accepted list of each kind that the core takes whole. -/
theorem sample_lists_are_usable :
    (validate sampleToAscii .ipList sampleList "tls").isValid = true
      ∧ IpUsable hostIpnet sampleList
      ∧ (validate sampleToAscii .sniList sampleHosts "tls").isValid = true
      ∧ SniUsable sampleHosts := by
  have hlist : (validate sampleToAscii .ipList sampleList "tls").isValid
      = true := by decide
  have hhosts : (validate sampleToAscii .sniList sampleHosts "tls").isValid
      = true := by decide
  refine ⟨hlist, ?_, hhosts, ?_⟩
  · have h := accepted_list_usable_iff hostIpnet hostIpnet_reads
      sampleToAscii_keepsAscii sampleList "tls"
    refine ((h.1 hlist).1).mpr ?_
    have hactive : active sampleList = ["1.1.1.1".toList,
        "10.0.0.1/32".toList, "::1.2.3.4".toList] := by decide
    have hread : SniScanner.hostnames sampleList = active sampleList := by
      decide
    rw [hread, hactive]
    intro e he
    refine ⟨he, ?_⟩
    rcases List.mem_cons.mp he with rfl | he
    · rw [Plain, if_neg (by decide)]
      decide
    rcases List.mem_cons.mp he with rfl | he
    · rw [Plain, if_pos (by decide)]
      exact ⟨(.v4 167772161, "10.0.0.1/32".toList), rfl⟩
    · rw [List.mem_singleton.mp he, Plain, if_neg (by decide)]
      decide
  · have h := accepted_list_usable_iff hostIpnet hostIpnet_reads
      sampleToAscii_keepsAscii sampleHosts "tls"
    refine (h.2.1 hhosts).mpr ?_
    have hactive : active sampleHosts
        = ["example.com".toList, "cdn-1.example.org".toList] := by decide
    have hread : SniScanner.hostnames sampleHosts = active sampleHosts := by
      decide
    rw [hread, hactive]
    intro e he
    refine ⟨he, ?_⟩
    rcases List.mem_cons.mp he with rfl | he
    · exact ⟨ascii_of_all (by decide), by decide,
        by rw [Text.utf8ByteSize_ofList]; decide⟩
    · rw [List.mem_singleton.mp he]
      exact ⟨ascii_of_all (by decide), by decide,
        by rw [Text.utf8ByteSize_ofList]; decide⟩

/-- Leading zeros, in an address and in one within a literal of IPv6. -/
def zeroList : List Char := "192.168.001.1\n".toList

/-- A leading zero inside an IPv6 address. -/
def embeddedList : List Char := "::1.2.3.04\n".toList

/-- A host of 223 characters. -/
def longHostList : List Char :=
  ['.'].intercalate (List.replicate 4 (List.replicate 55 'a'))

/-- Not an address to the app, since 256 is no octet. -/
def numericList : List Char := "256.1.1.1".toList

/-- Accepted lists of which the core refuses a line. -/
theorem accepted_lists_not_usable :
    ((validate sampleToAscii .ipList zeroList "tls").isValid = true
        ∧ ¬ IpUsable hostIpnet zeroList)
      ∧ ((validate sampleToAscii .ipList embeddedList "tls").isValid = true
        ∧ ¬ IpUsable hostIpnet embeddedList)
      ∧ ((validate sampleToAscii .sniList longHostList "tls").isValid = true
        ∧ ¬ SniUsable longHostList)
      ∧ ((validate sampleToAscii .sniList umlautList "tls").isValid = true
        ∧ ¬ SniUsable umlautList)
      ∧ ((validate sampleToAscii .sniList numericList "tls").isValid = true
        ∧ ¬ SniUsable numericList) := by
  refine ⟨⟨by decide, ?_⟩, ⟨by decide, ?_⟩, ⟨by decide +kernel, ?_⟩,
    ⟨by decide, ?_⟩, ⟨by decide, ?_⟩⟩
  · intro h
    have hactive : "192.168.001.1".toList ∈ active zeroList := by
      decide
    have hskipped : parseLine hostIpnet "192.168.001.1".toList = .skipped :=
      rfl
    exact (h _ hactive).2 hskipped
  · intro h
    have hactive : "::1.2.3.04".toList ∈ active embeddedList := by
      decide
    have hskipped : parseLine hostIpnet "::1.2.3.04".toList = .skipped :=
      rfl
    exact (h _ hactive).2 hskipped
  · intro h
    have hactive : longHostList ∈ active longHostList := by decide +kernel
    have hlong : ¬ (String.ofList longHostList).utf8ByteSize
        ≤ Config.maxSniLen := by
      rw [Text.utf8ByteSize_ofList]
      decide +kernel
    exact hlong (h _ hactive).2.2.1
  · intro h
    have hactive : umlautList ∈ active umlautList := by decide
    have hname := (h _ hactive).2.1
    exact absurd (hname.ascii 'ü' (by decide)) (by decide)
  · intro h
    have hactive : numericList ∈ active numericList := by decide
    have hdomain := (h _ hactive).2.1.domain
    exact absurd hdomain (by decide)

end ZeroDpi.Android.RuntimeListValidator
