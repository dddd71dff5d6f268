/-
An address is read back from its text.

For IPv6 this is a statement about where the text is cut: at the gap, of
which there is at most one (`splitGap_groupsText`), and between the groups.
That the run of zeros which is left out lies within the groups and is a run
of zeros is an invariant of the loop that looks for it (`SpanIn`).
-/
import ZeroDpi.IpText

namespace ZeroDpi.IpList

open Lib

-- ===================================================== what is no address

/-- An octet is digits. -/
theorem octet?_digits {part : List Char} {n : Nat}
    (h : octet? part = some n) :
    ∀ c ∈ part, (Text.digit? c).isSome = true := by
  unfold octet? at h
  split at h
  case isTrue => cases h
  case isFalse =>
    obtain ⟨m, hm, -⟩ := Option.bind_eq_some_iff.mp h
    exact Text.isDigit_of_digits? hm

/-- So is every part of an IPv4 address. -/
theorem parseIpv4_parts {s : List Char} {ip : Ipv4Addr}
    (h : parseIpv4 s = some ip) :
    ∀ part ∈ Text.split '.' s, ∃ n, octet? part = some n := by
  unfold parseIpv4 at h
  split at h
  case h_1 a b c d hparts =>
    simp only [Option.bind_eq_bind, Option.bind_eq_some_iff] at h
    obtain ⟨na, ha, nb, hb, nc, hc, nd, hd, -⟩ := h
    rw [hparts]
    simp [ha, hb, hc, hd]
  case h_2 => cases h

/-- Only digits and dots are in an IPv4 address. -/
theorem parseIpv4_eq_none {s : List Char} {c : Char} (hc : c ∈ s)
    (hdot : c ≠ '.') (hdigit : Text.digit? c = none) :
    parseIpv4 s = none := by
  cases hp : parseIpv4 s with
  | none => rfl
  | some ip =>
      obtain ⟨part, hpart, hin⟩ := Text.exists_mem_split hdot hc
      obtain ⟨n, hn⟩ := parseIpv4_parts hp part hpart
      have := octet?_digits hn c hin
      rw [hdigit] at this
      cases this

/-- There is no gap without a colon. -/
theorem splitGap_eq_none {s : List Char} (h : ':' ∉ s) :
    splitGap s = none := by
  induction s with
  | nil => rfl
  | cons c rest ih =>
      obtain ⟨hc, hrest⟩ := List.ne_and_not_mem_of_not_mem_cons h
      rw [splitGap, ih hrest]
      · rfl
      · rintro r rfl
        exact absurd rfl hc

/-- Without a colon there is one group, or the two of an IPv4 address. -/
theorem parseIpv6_eq_none {s : List Char} (h : ':' ∉ s) :
    parseIpv6 s = none := by
  unfold parseIpv6
  rw [splitGap_eq_none h, Text.split_of_not_mem h]
  simp only [groups?]
  cases group? s with
  | some n => rfl
  | none =>
      cases parseIpv4 s with
      | none => rfl
      | some ip => rfl

/-- A character that is in no address of IPv6. -/
def Foreign (c : Char) : Prop :=
  c ≠ ':' ∧ c ≠ '.' ∧ Text.hexDigit? c = none

instance (c : Char) : Decidable (Foreign c) :=
  inferInstanceAs (Decidable (_ ∧ _ ∧ _))

/-- A foreign character is no digit. -/
theorem Foreign.digit? {c : Char} (h : Foreign c) : Text.digit? c = none := by
  unfold Text.digit?
  rw [if_neg]
  intro hc
  have hhex := h.2.2
  rw [Text.hexDigit?, if_pos hc] at hhex
  cases hhex

/-- A group with such a character is none. -/
theorem group?_eq_none {s : List Char} {c : Char} (hc : c ∈ s)
    (h : Text.hexDigit? c = none) : group? s = none := by
  have hfold : ∀ n : Nat, s.foldlM
      (fun n c => (Text.hexDigit? c).map fun d => n * 16 + d) n = none := by
    induction s with
    | nil => cases hc
    | cons d rest ih =>
        intro n
        rw [List.foldlM_cons]
        rcases List.mem_cons.mp hc with rfl | hrest
        · rw [h]
          rfl
        · cases Text.hexDigit? d with
          | none => rfl
          | some v => exact ih hrest _
  unfold group?
  rw [hfold, ite_self]

/-- Nor are groups. -/
theorem groups?_eq_none {pieces : List (List Char)} {piece : List Char}
    {c : Char} (hpiece : piece ∈ pieces) (hc : c ∈ piece) (h : Foreign c) :
    groups? pieces = none := by
  induction pieces with
  | nil => cases hpiece
  | cons first rest ih =>
      cases rest with
      | nil =>
          rw [List.mem_singleton.mp hpiece] at hc
          simp only [groups?, group?_eq_none hc h.2.2,
            parseIpv4_eq_none hc h.2.1 h.digit?, Option.map_none]
      | cons second rest =>
          rw [groups?]
          · rcases List.mem_cons.mp hpiece with rfl | hrest
            · rw [group?_eq_none hc h.2.2]
              rfl
            · rw [ih hrest]
              cases group? first <;> rfl
          · simp

/-- What a gap divides. -/
theorem splitGap_eq {s a b : List Char} (h : splitGap s = some (a, b)) :
    s = a ++ ':' :: ':' :: b := by
  induction s using splitGap.induct generalizing a with
  | case1 rest =>
      cases h
      rfl
  | case2 => cases h
  | case3 c rest hgap ih =>
      rw [splitGap] at h
      · obtain ⟨⟨a', b'⟩, hrest, heq⟩ := Option.map_eq_some_iff.mp h
        cases heq
        rw [ih hrest]
        rfl
      · exact hgap

/-- One side of the gap, or all of an address without one. -/
theorem groups?_split_eq_none {s : List Char} {c : Char} (hc : c ∈ s)
    (h : Foreign c) : groups? (Text.split ':' s) = none := by
  obtain ⟨piece, hpiece, hin⟩ := Text.exists_mem_split h.1 hc
  exact groups?_eq_none hpiece hin h

/-- Nor is a side of it. -/
theorem side?_eq_none {s : List Char} {c : Char} (hc : c ∈ s)
    (h : Foreign c) : side? s = none := by
  cases s with
  | nil => cases hc
  | cons d rest => exact groups?_split_eq_none hc h

/-- No address has a foreign character. -/
theorem parseIpv6_foreign {s : List Char} {c : Char} (hc : c ∈ s)
    (h : Foreign c) : parseIpv6 s = none := by
  unfold parseIpv6
  split
  case h_1 =>
    rw [groups?_split_eq_none hc h]
    rfl
  case h_2 before after hgap =>
    rw [splitGap_eq hgap] at hc
    split
    · rfl
    rcases List.mem_append.mp hc with hbefore | hafter
    · rw [side?_eq_none hbefore h]
      rfl
    · have hin : c ∈ after := by simpa [h.1] using hafter
      rw [side?_eq_none hin h]
      cases side? before <;> rfl

/-- In particular no slash. -/
theorem parseIpAddr_slash {s : List Char} (h : '/' ∈ s) :
    parseIpAddr s = none := by
  have hforeign : Foreign '/' := by decide
  unfold parseIpAddr
  rw [parseIpv4_eq_none h (by decide) (by decide),
    parseIpv6_foreign h hforeign]
  rfl

-- ================================================================ numerals

/-- What a number is written with. -/
theorem mem_toDigits {b n : Nat} (hb : 1 < b) {c : Char}
    (h : c ∈ Nat.toDigits b n) : ∃ d < b, c = Nat.digitChar d := by
  induction n using Nat.strongRecOn with
  | ind n ih =>
  by_cases hn : n < b
  · rw [Nat.toDigits_of_lt_base hn, List.mem_singleton] at h
    exact ⟨n, hn, h⟩
  · have hle : b ≤ n := Nat.le_of_not_lt hn
    rw [Nat.toDigits_of_base_le hb hle] at h
    rcases List.mem_append.mp h with h | h
    · exact ih _ (Nat.div_lt_self (by omega) hb) h
    · exact ⟨n % b, Nat.mod_lt n (by omega), List.mem_singleton.mp h⟩

/-- The separators of an address are no digits. -/
theorem colon_not_mem_toDigits {b n : Nat} (hb : 1 < b) :
    ':' ∉ Nat.toDigits b n := by
  intro h
  obtain ⟨d, -, hd⟩ := mem_toDigits hb h
  exact Nat.digitChar_ne ':' (by decide) hd.symm

/-- There are no dots in it. -/
theorem dot_not_mem_toDigits {b n : Nat} (hb : 1 < b) :
    '.' ∉ Nat.toDigits b n := by
  intro h
  obtain ⟨d, -, hd⟩ := mem_toDigits hb h
  exact Nat.digitChar_ne '.' (by decide) hd.symm

/-- An octet is read as it was written. -/
theorem octet?_toDigits {n : Nat} (h : n < 2 ^ 8) :
    octet? (Nat.toDigits 10 n) = some n := by
  have hall : ∀ n : Fin (2 ^ 8),
      octet? (Nat.toDigits 10 n.val) = some n.val := by
    decide +kernel
  exact hall ⟨n, h⟩

/-- So is a digit. -/
theorem hexDigit?_digitChar {d : Nat} (h : d < 16) :
    Text.hexDigit? (Nat.digitChar d) = some d := by
  have hall : ∀ d : Fin 16,
      Text.hexDigit? (Nat.digitChar d.val) = some d.val := by
    decide
  exact hall ⟨d, h⟩

/-- The fold of `group?` reads a number from its digits. -/
theorem foldlM_toDigits (n : Nat) :
    (Nat.toDigits 16 n).foldlM
      (fun n c => (Text.hexDigit? c).map fun d => n * 16 + d) 0
      = some n := by
  induction n using Nat.strongRecOn with
  | ind n ih =>
  by_cases hn : n < 16
  · simp [Nat.toDigits_of_lt_base hn, hexDigit?_digitChar hn]
  · have hle : 16 ≤ n := Nat.le_of_not_lt hn
    rw [Nat.toDigits_of_base_le (by decide) hle, List.foldlM_append,
      ih _ (Nat.div_lt_self (by omega) (by decide))]
    have hdigit := hexDigit?_digitChar (Nat.mod_lt n (show 0 < 16 by decide))
    simp only [Option.bind_eq_bind, Option.bind_some, List.foldlM_cons,
      List.foldlM_nil, hdigit, Option.map_some, Option.pure_def]
    rw [Nat.div_add_mod' n 16]

/-- And a group. -/
theorem group?_toDigits {n : Nat} (h : n < 2 ^ 16) :
    group? (Nat.toDigits 16 n) = some n := by
  have hlen : (Nat.toDigits 16 n).length ≤ 4 :=
    (Nat.length_toDigits_le_iff (by decide) (by decide)).mpr h
  have hne := @Nat.toDigits_ne_nil n 16
  unfold group?
  rw [if_neg, foldlM_toDigits]
  simp only [Bool.or_eq_true, List.isEmpty_iff, decide_eq_true_eq, not_or]
  exact ⟨hne, by omega⟩

/-- Groups are read back. -/
theorem groups?_toDigits {groups : List Nat} (h : ∀ n ∈ groups, n < 2 ^ 16) :
    groups? (groups.map (Nat.toDigits 16)) = some groups := by
  induction groups with
  | nil => rfl
  | cons n rest ih =>
      have hn := group?_toDigits (h n List.mem_cons_self)
      have hrest := ih fun m hm => h m (List.mem_cons_of_mem n hm)
      cases rest with
      | nil => simp [groups?, hn]
      | cons m rest =>
          rw [List.map_cons, groups?, hn, hrest]
          · rfl
          · simp

-- ================================================================== IPv4

/-- And an IPv4 address. -/
theorem parseIpv4_text (ip : Ipv4Addr) : parseIpv4 (ipv4Text ip) = some ip := by
  unfold parseIpv4 ipv4Text
  rw [Text.split_intercalate (by simp) (by simp [dot_not_mem_toDigits])]
  have hoctet : ∀ k, octet? (Nat.toDigits 10 (ip.toNat / 2 ^ k % 2 ^ 8))
      = some (ip.toNat / 2 ^ k % 2 ^ 8) := fun k =>
    octet?_toDigits (Nat.mod_lt _ (by decide))
  simp only [List.map_cons, List.map_nil, hoctet, Option.bind_eq_bind,
    Option.bind_some, Option.pure_def, Option.some.injEq]
  apply UInt32.toNat.inj
  have hlt := ip.toNat_lt
  rw [UInt32.toNat_ofNat_of_lt']
  · omega
  · show _ < 2 ^ 32
    omega

-- =================================================================== gaps

/-- No gap begins within a text without colons. -/
theorem splitGap_append {piece : List Char} (h : ':' ∉ piece)
    (s : List Char) :
    splitGap (piece ++ s)
      = (splitGap s).map fun (a, b) => (piece ++ a, b) := by
  induction piece with
  | nil => simp
  | cons c piece ih =>
      obtain ⟨hc, hpiece⟩ := List.ne_and_not_mem_of_not_mem_cons h
      rw [List.cons_append, splitGap, ih hpiece, Option.map_map]
      · rfl
      · rintro rest heq -
        exact absurd heq.symm hc

/-- Nor at a colon that no other follows. -/
theorem splitGap_colon {c : Char} (hc : c ≠ ':') (s : List Char) :
    splitGap (':' :: c :: s)
      = (splitGap (c :: s)).map fun (a, b) => (':' :: a, b) := by
  rw [splitGap]
  rintro rest - heq
  exact absurd (List.cons.inj heq).1 hc

theorem groupsText_cons_cons (n m : Nat) (rest : List Nat) :
    groupsText (n :: m :: rest)
      = Nat.toDigits 16 n ++ ':' :: groupsText (m :: rest) := by
  unfold groupsText
  rw [List.map_cons, List.map_cons, List.intercalate_cons_cons,
    ← List.map_cons, List.append_assoc, List.singleton_append]

/-- Groups begin with a digit. -/
theorem groupsText_head (n : Nat) (rest : List Nat) :
    ∃ c tail, groupsText (n :: rest) = c :: tail ∧ c ≠ ':' := by
  obtain ⟨c, tail, hdigits⟩ := List.exists_cons_of_ne_nil
    (@Nat.toDigits_ne_nil n 16)
  have hc : c ≠ ':' := by
    rintro rfl
    have hcolon := @colon_not_mem_toDigits 16 n (by decide)
    rw [hdigits] at hcolon
    exact hcolon List.mem_cons_self
  cases rest with
  | nil => exact ⟨c, tail, by simp [groupsText, hdigits], hc⟩
  | cons m rest =>
      rw [groupsText_cons_cons, hdigits]
      exact ⟨c, _, rfl, hc⟩

/-- Nor within groups. -/
theorem splitGap_groupsText (groups : List Nat) (s : List Char) :
    splitGap (groupsText groups ++ s)
      = (splitGap s).map fun (a, b) => (groupsText groups ++ a, b) := by
  induction groups with
  | nil => simp [groupsText]
  | cons n rest ih =>
      have hpiece : ':' ∉ Nat.toDigits 16 n :=
        colon_not_mem_toDigits (by decide)
      cases rest with
      | nil =>
          simp only [groupsText, List.map_cons, List.map_nil,
            List.intercalate_singleton]
          exact splitGap_append hpiece s
      | cons m rest =>
          obtain ⟨c, tail, hhead, hc⟩ := groupsText_head m rest
          rw [groupsText_cons_cons, List.append_assoc,
            splitGap_append hpiece, List.cons_append]
          rw [hhead] at ih ⊢
          rw [List.cons_append, splitGap_colon hc, ← List.cons_append, ih,
            Option.map_map, Option.map_map]
          refine congrArg (Option.map · (splitGap s)) (funext fun gap => ?_)
          simp

/-- Groups are split where they were put together. -/
theorem side?_groupsText {groups : List Nat} (h : ∀ n ∈ groups, n < 2 ^ 16) :
    side? (groupsText groups) = some groups := by
  unfold side?
  cases groups with
  | nil => rfl
  | cons n rest =>
      obtain ⟨c, tail, hhead, -⟩ := groupsText_head n rest
      rw [if_neg (by simp [hhead])]
      unfold groupsText
      rw [Text.split_intercalate (by simp)
        (by simp [colon_not_mem_toDigits]), groups?_toDigits h]

/-- Groups are written without dots. -/
theorem dot_not_mem_groupsText (groups : List Nat) :
    '.' ∉ groupsText groups := by
  induction groups with
  | nil => simp [groupsText]
  | cons n rest ih =>
      have hn := @dot_not_mem_toDigits 16 n (by decide)
      cases rest with
      | nil => simpa [groupsText] using hn
      | cons m rest =>
          rw [groupsText_cons_cons]
          simp [hn, ih]

-- ============================================================= the groups

/-- Groups have 16 bits. -/
theorem segments_lt (ip : BitVec 128) : ∀ n ∈ segments ip, n < 2 ^ 16 := by
  intro n hn
  obtain ⟨k, -, rfl⟩ := List.mem_map.mp hn
  exact Nat.mod_lt _ (by decide)

/-- They make up the address. -/
theorem ofGroups_segments (ip : BitVec 128) : ofGroups (segments ip) = ip := by
  apply BitVec.eq_of_toNat_eq
  have hlt := ip.isLt
  unfold ofGroups segments
  rw [BitVec.toNat_ofNat]
  simp only [List.map_cons, List.map_nil, List.foldl_cons, List.foldl_nil]
  omega

/-- Two groups are the address that ends them. -/
theorem mapped_groups {ip : BitVec 128} {ipv4 : Ipv4Addr}
    (h : toIpv4Mapped ip = some ipv4) :
    segments ip = [0, 0, 0, 0, 0, 0xFFFF, ipv4.toNat / 2 ^ 16,
      ipv4.toNat % 2 ^ 16] := by
  unfold toIpv4Mapped at h
  split at h
  case isFalse => cases h
  case isTrue hhead =>
    cases h
    have hlow : (UInt32.ofNat ip.toNat).toNat = ip.toNat % 2 ^ 32 := by
      rfl
    rw [hlow]
    simp only [segments, List.map_cons, List.map_nil, List.take_succ_cons,
      List.take_zero, List.cons.injEq] at hhead ⊢
    obtain ⟨h0, h1, h2, h3, h4, h5, -⟩ := hhead
    refine ⟨h0, h1, h2, h3, h4, h5, ?_, ?_, trivial⟩
    · clear h0 h1 h2 h3 h4 h5
      omega
    · clear h0 h1 h2 h3 h4 h5
      omega

-- ============================================================ the long run

/-- A run of zeros among the first `i` groups. -/
structure SpanIn (groups : List Nat) (i : Nat) (span : Span) : Prop where
  inside : span.start + span.len ≤ i
  zeros : ∀ k, span.start ≤ k → k < span.start + span.len →
    groups[k]? = some 0

/-- A span that ends before a later place, too. -/
theorem SpanIn.mono {groups : List Nat} {i j : Nat} {span : Span}
    (h : SpanIn groups i span) (hle : i ≤ j) : SpanIn groups j span :=
  ⟨Nat.le_trans h.inside hle, h.zeros⟩

/-- The empty span. -/
theorem spanIn_empty (groups : List Nat) (i : Nat) : SpanIn groups i {} where
  inside := Nat.zero_le i
  zeros := by
    intro k _ hk
    cases hk

/-- The loop's invariant: both runs lie behind it, and the current one ends
where it is. -/
theorem spans_foldl {groups rest : List Nat} {i : Nat} {spans : Span × Span}
    (hrest : groups.drop i = rest) (hi : i ≤ groups.length)
    (hlongest : SpanIn groups i spans.1) (hcurrent : SpanIn groups i spans.2)
    (hends : spans.2.len = 0 ∨ spans.2.start + spans.2.len = i) :
    SpanIn groups groups.length
      ((rest.zipIdx i).foldl Span.turn spans).1 := by
  induction rest generalizing i spans with
  | nil => exact hlongest.mono hi
  | cons n rest ih =>
      have hget : groups[i]? = some n := by
        have h := congrArg (·[0]?) hrest
        rw [List.getElem?_drop] at h
        exact h
      have hlt : i < groups.length := (List.getElem?_eq_some_iff.mp hget).1
      have hnext : groups.drop (i + 1) = rest := by
        rw [← List.drop_drop, hrest]
        rfl
      rw [List.zipIdx_cons, List.foldl_cons]
      obtain ⟨longest, current⟩ := spans
      simp only at hlongest hcurrent hends
      unfold Span.turn
      by_cases hn : n = 0
      · subst hn
        simp only [if_true]
        have hextended : SpanIn groups (i + 1)
            { start := if current.len = 0 then i else current.start
              len := current.len + 1 } := by
          by_cases hempty : current.len = 0
          · simp only [hempty, if_true]
            refine ⟨by simp, ?_⟩
            intro k hle hk
            have heq : k = i := by
              simp only at hle hk
              omega
            rw [heq]
            exact hget
          · simp only [hempty, if_false]
            have hend := hends.resolve_left hempty
            refine ⟨?_, ?_⟩
            · show current.start + (current.len + 1) ≤ i + 1
              omega
            · intro k hle hk
              simp only at hle hk
              by_cases hlast : k = i
              · rw [hlast]
                exact hget
              · exact hcurrent.zeros k hle (by omega)
        refine ih hnext hlt ?_ hextended (.inr ?_)
        · split
          · exact hextended
          · exact hlongest.mono (Nat.le_succ i)
        · show (if current.len = 0 then i else current.start)
            + (current.len + 1) = i + 1
          by_cases hempty : current.len = 0
          · rw [if_pos hempty, hempty]
          · rw [if_neg hempty]
            have hend := hends.resolve_left hempty
            omega
      · simp only [if_neg hn]
        exact ih hnext hlt (hlongest.mono (Nat.le_succ i))
          (spanIn_empty groups (i + 1)) (.inl rfl)

/-- The longest run of zeros is inside the address. -/
theorem longestZeros_in (groups : List Nat) :
    SpanIn groups groups.length (longestZeros groups) := by
  exact spans_foldl rfl (Nat.zero_le _) (spanIn_empty groups 0)
    (spanIn_empty groups 0) (.inl rfl)

/-- The groups are what is around the run, with zeros in its place. -/
theorem SpanIn.restore {groups : List Nat} {span : Span}
    (h : SpanIn groups groups.length span) :
    groups.take span.start ++ List.replicate span.len 0
      ++ groups.drop (span.start + span.len) = groups := by
  have hzeros : (groups.drop span.start).take span.len
      = List.replicate span.len 0 := by
    have hinside := h.inside
    apply List.eq_replicate_iff.mpr
    constructor
    · simp
      omega
    · intro n hn
      obtain ⟨k, hk, hget⟩ := List.getElem_of_mem hn
      have hlen : k < span.len := by
        simp at hk
        omega
      have hzero := h.zeros (span.start + k) (by omega) (by omega)
      rw [List.getElem_take, List.getElem_drop] at hget
      rw [List.getElem?_eq_some_iff] at hzero
      obtain ⟨_, hzero⟩ := hzero
      exact hget.symm.trans hzero
  rw [← hzeros, List.append_assoc, ← List.drop_drop, List.take_append_drop,
    List.take_append_drop]

-- ================================================================== IPv6

/-- A gap in front. -/
theorem splitGap_gap (s : List Char) :
    splitGap ("::".toList ++ s) = some ([], s) := rfl

/-- Groups with a gap between them. -/
theorem parseIpv6_gap {front back : List Nat}
    (hfront : ∀ n ∈ front, n < 2 ^ 16) (hback : ∀ n ∈ back, n < 2 ^ 16)
    (hlen : front.length + back.length ≤ 7) :
    parseIpv6 (groupsText front ++ "::".toList ++ groupsText back)
      = some (ofGroups (front
        ++ List.replicate (8 - front.length - back.length) 0 ++ back)) := by
  have hgap : splitGap (groupsText front ++ "::".toList ++ groupsText back)
      = some (groupsText front, groupsText back) := by
    rw [List.append_assoc, splitGap_groupsText, splitGap_gap]
    simp
  have hdot : (groupsText front).contains '.' = false := by
    simpa using dot_not_mem_groupsText front
  unfold parseIpv6
  rw [hgap]
  simp only [hdot, Bool.false_eq_true, if_false, side?_groupsText hfront,
    side?_groupsText hback, Option.bind_eq_bind, Option.bind_some,
    if_pos hlen]

/-- Eight groups. -/
theorem parseIpv6_full {groups : List Nat} (h : ∀ n ∈ groups, n < 2 ^ 16)
    (hlen : groups.length = 8) :
    parseIpv6 (groupsText groups) = some (ofGroups groups) := by
  have hgap : splitGap (groupsText groups) = none := by
    have h := splitGap_groupsText groups []
    rw [List.append_nil] at h
    exact h
  have hsplit : groups? (Text.split ':' (groupsText groups))
      = some groups := by
    unfold groupsText
    rw [Text.split_intercalate (by simp; rintro rfl; cases hlen)
      (by simp [colon_not_mem_toDigits]), groups?_toDigits h]
  unfold parseIpv6
  rw [hgap]
  simp only [hsplit, Option.bind_eq_bind, Option.bind_some, if_pos hlen]

/-- An IPv4 address has no colon. -/
theorem colon_not_mem_ipv4Text (ip : Ipv4Addr) : ':' ∉ ipv4Text ip := by
  unfold ipv4Text
  simp [List.intercalate_cons_cons, colon_not_mem_toDigits]

/-- And has dots. -/
theorem dot_mem_ipv4Text (ip : Ipv4Addr) : '.' ∈ ipv4Text ip := by
  unfold ipv4Text
  simp [List.intercalate_cons_cons]

/-- A mapped address ends like one. -/
theorem parseIpv6_mapped (ipv4 : Ipv4Addr) :
    parseIpv6 ("::ffff:".toList ++ ipv4Text ipv4)
      = some (ofGroups [0, 0, 0, 0, 0, 0xFFFF, ipv4.toNat / 2 ^ 16,
        ipv4.toNat % 2 ^ 16]) := by
  have hgap : splitGap ("::ffff:".toList ++ ipv4Text ipv4)
      = some ([], "ffff".toList ++ ':' :: ipv4Text ipv4) := rfl
  have hsplit : Text.split ':' ("ffff".toList ++ ':' :: ipv4Text ipv4)
      = ["ffff".toList, ipv4Text ipv4] := by
    rw [Text.split_append (by decide),
      Text.split_of_not_mem (colon_not_mem_ipv4Text ipv4)]
  have hback : side? ("ffff".toList ++ ':' :: ipv4Text ipv4)
      = some [0xFFFF, ipv4.toNat / 2 ^ 16, ipv4.toNat % 2 ^ 16] := by
    have hffff : group? "ffff".toList = some 0xFFFF := by decide
    have hnone : group? (ipv4Text ipv4) = none :=
      group?_eq_none (dot_mem_ipv4Text ipv4) (by decide)
    unfold side?
    rw [if_neg (by simp), hsplit, groups?, hffff]
    · simp [groups?, hnone, parseIpv4_text]
    · simp
  unfold parseIpv6
  rw [hgap]
  simp only [hback]
  rfl

/-- Every IPv6 address is read as it was written. -/
theorem parseIpv6_text (ip : BitVec 128) :
    parseIpv6 (ipv6Text ip) = some ip := by
  unfold ipv6Text
  split
  case h_1 ipv4 hmapped =>
    rw [parseIpv6_mapped, ← mapped_groups hmapped, ofGroups_segments]
  case h_2 =>
    have hlt := segments_lt ip
    have hrun := longestZeros_in (segments ip)
    have hlen : (segments ip).length = 8 := rfl
    simp only
    split
    case isTrue hlong =>
      have hinside := hrun.inside
      have hrestore := hrun.restore
      generalize longestZeros (segments ip) = zeros
        at hlong hinside hrestore ⊢
      have hfront : ((segments ip).take zeros.start).length
          = zeros.start := by
        rw [List.length_take]
        omega
      have hback : ((segments ip).drop (zeros.start + zeros.len)).length
          = 8 - (zeros.start + zeros.len) := by
        rw [List.length_drop, hlen]
      have hleft : 8 - zeros.start - (8 - (zeros.start + zeros.len))
          = zeros.len := by
        omega
      rw [parseIpv6_gap (fun n hn => hlt n (List.mem_of_mem_take hn))
        (fun n hn => hlt n (List.mem_of_mem_drop hn)) (by omega),
        hfront, hback, hleft, hrestore, ofGroups_segments]
    case isFalse =>
      rw [parseIpv6_full hlt hlen, ofGroups_segments]

/-- An IPv6 address is no text of an IPv4 address. -/
theorem colon_mem_ipv6Text (ip : BitVec 128) : ':' ∈ ipv6Text ip := by
  unfold ipv6Text
  split
  · simp
  · simp only
    split
    · simp
    · have hcons : segments ip = ip.toNat / 2 ^ 112 % 2 ^ 16
          :: ip.toNat / 2 ^ 96 % 2 ^ 16 :: (segments ip).drop 2 := rfl
      rw [hcons, groupsText_cons_cons]
      simp

/-- Every address is read back from its text. -/
theorem parseIpAddr_text (ip : IpAddr) :
    parseIpAddr (ipAddrText ip) = some ip := by
  unfold parseIpAddr ipAddrText
  cases ip with
  | v4 ip => rw [parseIpv4_text]
  | v6 ip =>
      rw [parseIpv4_eq_none (colon_mem_ipv6Text ip) (by decide) (by decide),
        parseIpv6_text]
      rfl

/-- No address is written with a slash. -/
theorem slash_not_mem_ipAddrText (ip : IpAddr) : '/' ∉ ipAddrText ip := by
  intro h
  have hread := parseIpAddr_text ip
  rw [parseIpAddr_slash h] at hread
  cases hread

end ZeroDpi.IpList
