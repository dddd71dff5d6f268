/-
What `InetAddress` reads and what `std::net` reads.

Both take the text forms of RFC 2373, with the same pieces (`hex4?_eq`) and
the same `::` (`compression_eq`). An IPv4 address at the end is the whole
difference: `std::net` reads its octets without leading zeros only. So a
literal without brackets that the app takes is an address of the core's if
and only if these octets are plain numerals (`parseIpv6_iff`).
-/
import ZeroDpi.Android.ListValidator
import ZeroDpi.Proofs.IpText

namespace ZeroDpi.Android.RuntimeListValidator

open Lib IpList

-- ================================================================== octets

/-- ASCII digits, without a leading zero. -/
def PlainNumeral (s : List Char) : Prop :=
  (∀ c ∈ s, (Text.digit? c).isSome = true) ∧ (s.head? = some '0' → s.length = 1)

instance (s : List Char) : Decidable (PlainNumeral s) :=
  @instDecidableAnd _ _ (List.decidableBAll _ s) _

/-- `std::net` reads plain octets only. -/
theorem octet?_plain {part : List Char} {n : Nat} (h : octet? part = some n) :
    PlainNumeral part := by
  unfold octet? at h
  split at h
  case isTrue => cases h
  case isFalse hshape =>
    obtain ⟨m, hm, -⟩ := Option.bind_eq_some_iff.mp h
    refine ⟨Text.isDigit_of_digits? hm, fun hzero => ?_⟩
    simp only [Bool.or_eq_true, Bool.and_eq_true, decide_eq_true_eq,
      List.isEmpty_iff, not_or, not_and] at hshape
    have hpos : part ≠ [] := hshape.1.1
    have hlen : ¬ 1 < part.length := fun hlong => hshape.2 hlong hzero
    have := List.length_pos_iff.mpr hpos
    omega

theorem parseIpv4_plain {s : List Char} {ip : Ipv4Addr}
    (h : parseIpv4 s = some ip) :
    ∀ part ∈ Text.split '.' s, PlainNumeral part := by
  intro part hpart
  obtain ⟨n, hn⟩ := parseIpv4_parts h part hpart
  exact octet?_plain hn

theorem parseIpv4_of_parts {s : List Char}
    (hlen : (Text.split '.' s).length = 4)
    (h : ∀ part ∈ Text.split '.' s, ∃ n, octet? part = some n) :
    ∃ ip, parseIpv4 s = some ip := by
  unfold parseIpv4
  generalize Text.split '.' s = parts at hlen h ⊢
  match parts, hlen with
  | [a, b, c, d], _ =>
      simp only [List.mem_cons, List.not_mem_nil, or_false, forall_eq_or_imp,
        forall_eq] at h
      obtain ⟨⟨na, ha⟩, ⟨nb, hb⟩, ⟨nc, hc⟩, ⟨nd, hd⟩⟩ := h
      simp only [ha, hb, hc, hd, Option.bind_eq_bind, Option.bind_some]
      exact ⟨_, rfl⟩

theorem decimalOctet?_plain {part : List Char} {n : Nat}
    (h : decimalOctet? part = some n) (hplain : PlainNumeral part) :
    octet? part = some n := by
  unfold decimalOctet? at h
  split at h
  case isTrue => cases h
  case isFalse hshort =>
    obtain ⟨hdigits, hle⟩ := Option.filter_eq_some_iff.mp h
    have hne : part ≠ [] := by
      intro heq
      subst heq
      cases hdigits
    unfold octet?
    rw [if_neg, hdigits, Option.bind_some, if_pos (of_decide_eq_true hle)]
    simp only [Bool.or_eq_true, Bool.and_eq_true, decide_eq_true_eq,
      List.isEmpty_iff, not_or, not_and]
    refine ⟨⟨hne, hshort⟩, fun hlong hzero => ?_⟩
    have := hplain.2 hzero
    omega

/-- Pieces that are read one by one are all read. -/
theorem exists_of_mapM {α β : Type} {f : α → Option β} {l : List α}
    {r : List β} (h : l.mapM f = some r) :
    r.length = l.length ∧ ∀ a ∈ l, ∃ b, f a = some b := by
  induction l generalizing r with
  | nil =>
      obtain rfl : [] = r := Option.some.inj h
      exact ⟨rfl, fun a ha => absurd ha List.not_mem_nil⟩
  | cons a l ih =>
      rw [List.mapM_cons] at h
      obtain ⟨b, hb, h⟩ := Option.bind_eq_some_iff.mp h
      obtain ⟨bs, hbs, h⟩ := Option.bind_eq_some_iff.mp h
      obtain rfl : b :: bs = r := Option.some.inj h
      obtain ⟨hlen, hall⟩ := ih hbs
      refine ⟨congrArg (· + 1) hlen, fun c hc => ?_⟩
      rcases List.mem_cons.mp hc with rfl | hc
      · exact ⟨b, hb⟩
      · exact hall c hc

/-- An embedded address stands for two pieces, and the core reads it if and
only if its octets are plain. -/
theorem embeddedIpv4?_iff {s : List Char} {pieces : List Nat}
    (h : embeddedIpv4? s = some pieces) :
    pieces.length = 2 ∧ ((∃ ip, parseIpv4 s = some ip)
      ↔ ∀ part ∈ Text.split '.' s, PlainNumeral part) := by
  unfold embeddedIpv4? at h
  split at h
  case h_1 a b c d hparts =>
    cases h
    refine ⟨rfl, fun ⟨ip, hip⟩ => parseIpv4_plain hip, fun hplain => ?_⟩
    obtain ⟨hlen, hall⟩ := exists_of_mapM hparts
    apply parseIpv4_of_parts hlen.symm
    intro part hpart
    obtain ⟨n, hn⟩ := hall part hpart
    exact ⟨n, decimalOctet?_plain hn (hplain part hpart)⟩
  case h_2 => cases h

-- ================================================================== pieces

/-- The digits of a piece are read alike. -/
theorem hex4?_eq (piece : List Char) : hex4? piece = group? piece := by
  have hfold : ∀ (s : List Char) (n : Nat),
      (s.mapM Text.hexDigit?).map (fun digits =>
          digits.foldl (fun n d => n * 16 + d) n)
        = s.foldlM (fun n c => (Text.hexDigit? c).map fun d => n * 16 + d) n := by
    intro s
    induction s with
    | nil =>
        intro n
        rfl
    | cons c rest ih =>
        intro n
        rw [List.mapM_cons, List.foldlM_cons]
        cases Text.hexDigit? c with
        | none => rfl
        | some d =>
            show _ = rest.foldlM _ (n * 16 + d)
            rw [← ih (n * 16 + d)]
            cases rest.mapM Text.hexDigit? <;> rfl
  unfold hex4? group?
  rw [hfold]

/-- The core's groups, piece by piece. -/
theorem groups?_concat {front : List (List Char)} {ns : List Nat}
    (h : front.mapM group? = some ns) (last : List Char) :
    groups? (front ++ [last]) = (groups? [last]).map fun back => ns ++ back := by
  induction front generalizing ns with
  | nil =>
      obtain rfl : [] = ns := Option.some.inj h
      rw [List.nil_append]
      cases groups? [last] <;> rfl
  | cons piece front ih =>
      rw [List.mapM_cons] at h
      obtain ⟨n, hn, h⟩ := Option.bind_eq_some_iff.mp h
      obtain ⟨rest, hrest, h⟩ := Option.bind_eq_some_iff.mp h
      obtain rfl : n :: rest = ns := Option.some.inj h
      rw [List.cons_append, groups?.eq_3, hn]
      · rw [ih hrest]
        cases groups? [last] <;> rfl
      · intro hnil
        cases front <;> cases hnil

theorem groups?_pieces {pieces : List (List Char)} {ns : List Nat}
    (h : pieces.mapM group? = some ns) : groups? pieces = some ns := by
  rcases List.eq_nil_or_concat pieces with rfl | ⟨front, last, rfl⟩
  · obtain rfl : [] = ns := Option.some.inj h
    rfl
  · rw [List.concat_eq_append] at h ⊢
    rw [List.mapM_append] at h
    obtain ⟨before, hbefore, h⟩ := Option.bind_eq_some_iff.mp h
    obtain ⟨after, hafter, h⟩ := Option.bind_eq_some_iff.mp h
    obtain rfl : before ++ after = ns := Option.some.inj h
    rw [groups?_concat hbefore]
    rw [List.mapM_cons] at hafter
    obtain ⟨n, hn, hafter⟩ := Option.bind_eq_some_iff.mp hafter
    obtain rfl : [n] = after := Option.some.inj hafter
    rw [groups?, hn]
    rfl

/-- The parts of a literal that are written in decimal. -/
def octets (s : List Char) : List (List Char) :=
  let last := (Text.split ':' s).getLastD []
  if '.' ∈ last then Text.split '.' last else []

theorem embeddedIpv4?_dot {s : List Char} {pieces : List Nat}
    (h : embeddedIpv4? s = some pieces) : '.' ∈ s := by
  apply Decidable.of_not_not
  intro hdot
  unfold embeddedIpv4? at h
  rw [Text.split_of_not_mem hdot] at h
  split at h
  case h_1 hparts => cases (exists_of_mapM hparts).1
  case h_2 => cases h

/-- The last piece: the core takes it if and only if its octets are
plain. -/
theorem groups?_last {last : List Char} {back : List Nat}
    (h : ((hex4? last).map fun n => [n]).or (embeddedIpv4? last) = some back) :
    (∃ groups, groups? [last] = some groups ∧ groups.length = back.length)
      ↔ ('.' ∈ last → ∀ part ∈ Text.split '.' last, PlainNumeral part) := by
  rw [hex4?_eq] at h
  cases hgroup : group? last with
  | some n =>
      rw [hgroup] at h
      cases h
      have hdot : '.' ∉ last := by
        intro hdot
        rw [group?_eq_none hdot (by decide)] at hgroup
        cases hgroup
      simp [groups?, hgroup, hdot]
  | none =>
      rw [hgroup] at h
      have hv4 : embeddedIpv4? last = some back := h
      obtain ⟨hlen, hiff⟩ := embeddedIpv4?_iff hv4
      rw [imp_iff_right (embeddedIpv4?_dot hv4), ← hiff]
      simp [groups?, hgroup, hlen]

-- ===================================================================== gaps

/-- Both look for the first `::`. -/
theorem compression_eq (s : List Char) : compression s = splitGap s := by
  induction s using splitGap.induct with
  | case1 rest => rfl
  | case2 => rfl
  | case3 c rest hgap ih =>
      rw [compression, if_neg, ih, splitGap]
      · exact hgap
      · intro hgiven
        obtain ⟨rfl, hhead⟩ := hgiven
        obtain ⟨tail, rfl⟩ := List.head?_eq_some_iff.mp hhead
        exact hgap tail rfl rfl

/-- In front of the gap. -/
theorem hexPieces?_side {front : List Char} {pieces : List Nat}
    (h : hexPieces? front = some pieces) :
    '.' ∉ front ∧ side? front = some pieces := by
  unfold hexPieces? at h
  unfold side?
  split at h
  case isTrue hempty =>
    rw [if_pos hempty, List.isEmpty_iff.mp hempty]
    exact ⟨List.not_mem_nil, h⟩
  case isFalse hempty =>
    rw [funext hex4?_eq] at h
    rw [if_neg hempty, groups?_pieces h]
    refine ⟨fun hdot => ?_, rfl⟩
    obtain ⟨piece, hpiece, hin⟩ := Text.exists_mem_split
      (show '.' ≠ ':' by decide) hdot
    obtain ⟨n, hn⟩ := (exists_of_mapM h).2 piece hpiece
    rw [group?_eq_none hin (by decide)] at hn
    cases hn

theorem split_concat (s : List Char) :
    ∃ front last, Text.split ':' s = front ++ [last] :=
  ⟨_, _, (List.dropLast_concat_getLast (Text.split_ne_nil ':' s)).symm⟩

theorem forall_octets {s last : List Char} {front : List (List Char)}
    (h : Text.split ':' s = front ++ [last]) :
    (∀ part ∈ octets s, PlainNumeral part)
      ↔ ('.' ∈ last → ∀ part ∈ Text.split '.' last, PlainNumeral part) := by
  unfold octets
  rw [h, List.getLastD_concat]
  by_cases hdot : '.' ∈ last <;> simp [hdot]

/-- Behind the gap, or all of a literal without one. -/
theorem groups?_closing {s : List Char} {pieces : List Nat} (hne : s ≠ [])
    (h : closingPieces? s = some pieces) :
    (∃ groups, groups? (Text.split ':' s) = some groups
        ∧ groups.length = pieces.length)
      ↔ ∀ part ∈ octets s, PlainNumeral part := by
  obtain ⟨front, last, hsplit⟩ := split_concat s
  unfold closingPieces? at h
  rw [if_neg (by simpa using hne), hsplit] at h
  dsimp only at h
  rw [List.dropLast_concat, List.getLastD_concat, funext hex4?_eq] at h
  obtain ⟨before, hbefore, h⟩ := Option.bind_eq_some_iff.mp h
  obtain ⟨back, hback, h⟩ := Option.bind_eq_some_iff.mp h
  obtain rfl : before ++ back = pieces := Option.some.inj h
  rw [← hex4?_eq last] at hback
  rw [forall_octets hsplit, ← groups?_last hback, hsplit,
    groups?_concat hbefore]
  simp

theorem groups?_last_of_concat {front : List (List Char)} {last : List Char}
    {groups : List Nat} (h : groups? (front ++ [last]) = some groups) :
    ∃ back, groups? [last] = some back := by
  induction front generalizing groups with
  | nil => exact ⟨groups, h⟩
  | cons piece front ih =>
      rw [List.cons_append, groups?.eq_3] at h
      · obtain ⟨n, -, h⟩ := Option.bind_eq_some_iff.mp h
        obtain ⟨rest, hrest, -⟩ := Option.bind_eq_some_iff.mp h
        exact ih hrest
      · intro hnil
        cases front <;> cases hnil

/-- The core reads plain octets only. -/
theorem groups?_plain {s : List Char} {groups : List Nat}
    (h : groups? (Text.split ':' s) = some groups) :
    ∀ part ∈ octets s, PlainNumeral part := by
  obtain ⟨front, last, hsplit⟩ := split_concat s
  rw [forall_octets hsplit]
  intro hdot
  rw [hsplit] at h
  obtain ⟨back, hback⟩ := groups?_last_of_concat h
  have hgroup : group? last = none := group?_eq_none hdot (by decide)
  simp only [groups?, hgroup] at hback
  obtain ⟨ip, hip, -⟩ := Option.map_eq_some_iff.mp hback
  exact parseIpv4_plain hip

/-- The last piece stands behind the gap. -/
theorem octets_gap (front back : List Char) :
    octets (front ++ ':' :: ':' :: back) = octets back := by
  have hsplit : Text.split ':' (front ++ ':' :: ':' :: back)
      = (Text.split ':' front ++ [[]]) ++ Text.split ':' back := by
    rw [Text.split_append_sep, List.append_assoc]
    congr 1
  obtain ⟨init, last, hlast⟩ := split_concat back
  unfold octets
  rw [hsplit, hlast, ← List.append_assoc, List.getLastD_concat,
    List.getLastD_concat]

theorem octets_nil : octets [] = [] := by decide

theorem side?_closing {s : List Char} {pieces : List Nat}
    (h : closingPieces? s = some pieces) :
    (∃ groups, side? s = some groups ∧ groups.length = pieces.length)
      ↔ ∀ part ∈ octets s, PlainNumeral part := by
  by_cases hnil : s = []
  · rw [hnil, octets_nil]
    rw [hnil] at h
    exact ⟨fun _ part hpart => absurd hpart List.not_mem_nil,
      fun _ => ⟨pieces, h, rfl⟩⟩
  · rw [← groups?_closing hnil h, side?, if_neg (by simpa using hnil)]

theorem side?_plain {s : List Char} {groups : List Nat}
    (h : side? s = some groups) :
    ∀ part ∈ octets s, PlainNumeral part := by
  unfold side? at h
  split at h
  case isTrue hempty =>
    rw [List.isEmpty_iff.mp hempty, octets_nil]
    exact fun part hpart => absurd hpart List.not_mem_nil
  case isFalse => exact groups?_plain h

-- ================================================================= literals

/-- A literal without brackets is an address of the core's if and only if
the octets in it are plain. -/
theorem parseIpv6_of_pieces {s : List Char} {pieces : List Nat} (hne : s ≠ [])
    (h : ipv6Pieces? s = some pieces) :
    (∃ ip, parseIpv6 s = some ip)
      ↔ ∀ part ∈ octets s, PlainNumeral part := by
  unfold ipv6Pieces? at h
  rw [compression_eq] at h
  unfold parseIpv6
  cases hgap : splitGap s with
  | none =>
      rw [hgap] at h
      obtain ⟨hclosing, hlen⟩ := Option.filter_eq_some_iff.mp h
      have height : pieces.length = 8 := of_decide_eq_true hlen
      rw [← groups?_closing hne hclosing, height]
      constructor
      · intro hgiven
        obtain ⟨ip, hip⟩ := hgiven
        obtain ⟨groups, hgroups, hip⟩ := Option.bind_eq_some_iff.mp hip
        split at hip
        case isTrue hcount => exact ⟨groups, hgroups, hcount⟩
        case isFalse => cases hip
      · intro hgiven
        obtain ⟨groups, hgroups, hcount⟩ := hgiven
        refine ⟨ofGroups groups, ?_⟩
        simp only [hgroups, Option.bind_eq_bind, Option.bind_some, if_pos hcount]
  | some sides =>
      obtain ⟨front, back⟩ := sides
      rw [hgap] at h
      obtain ⟨before, hbefore, h⟩ := Option.bind_eq_some_iff.mp h
      obtain ⟨after, hafter, h⟩ := Option.bind_eq_some_iff.mp h
      obtain ⟨hdot, hfront⟩ := hexPieces?_side hbefore
      split at h
      case isFalse => cases h
      case isTrue hroom =>
        rw [splitGap_eq hgap, octets_gap]
        simp only [List.contains_iff_mem, hdot, if_false, hfront,
          Option.bind_eq_bind, Option.bind_some]
        constructor
        · intro hgiven
          obtain ⟨ip, hip⟩ := hgiven
          obtain ⟨groups, hgroups, -⟩ := Option.bind_eq_some_iff.mp hip
          exact side?_plain hgroups
        · intro hplain
          obtain ⟨groups, hgroups, hcount⟩ := (side?_closing hafter).mpr hplain
          rw [hgroups, Option.bind_some, if_pos (by omega)]
          exact ⟨_, rfl⟩

theorem unbracket_eq {s : List Char} (h : s.head? ≠ some '[') :
    unbracket s = s := by
  cases s with
  | nil => rfl
  | cons c rest =>
      have hc : c ≠ '[' := fun heq => h (by rw [heq]; rfl)
      unfold unbracket
      split
      case h_1 heq => exact absurd (List.cons.inj heq).1 hc
      case h_2 => rfl

theorem isValidIpv6Literal_spec {s : List Char}
    (h : isValidIpv6Literal s = true) :
    ':' ∈ s ∧ ∃ pieces, ipv6Pieces? (unbracket s) = some pieces := by
  unfold isValidIpv6Literal at h
  split at h
  case isTrue => cases h
  case isFalse hcolon =>
    simp only [Bool.or_eq_true, Bool.not_eq_true', not_or,
      Bool.not_eq_false, List.contains_iff_mem] at hcolon
    refine ⟨hcolon.1, ?_⟩
    unfold isInet6Address at h
    split at h
    case h_1 pieces hpieces => exact ⟨pieces, hpieces⟩
    case h_2 => cases h

/-- An address that both sides read: without brackets, and what is decimal
in it is plain. -/
def PlainAddress (s : List Char) : Prop :=
  s.head? ≠ some '[' ∧ ∀ part ∈ octets s, PlainNumeral part

instance (s : List Char) : Decidable (PlainAddress s) :=
  @instDecidableAnd _ _ _ (List.decidableBAll _ _)

theorem parseIpv6_iff {s : List Char} (h : isValidIpv6Literal s = true) :
    (∃ ip, parseIpv6 s = some ip) ↔ PlainAddress s := by
  obtain ⟨hcolon, pieces, hpieces⟩ := isValidIpv6Literal_spec h
  constructor
  · intro hgiven
    obtain ⟨ip, hip⟩ := hgiven
    have hbracket : s.head? ≠ some '[' := by
      intro hbracket
      have hin : '[' ∈ s := List.mem_of_mem_head? hbracket
      rw [parseIpv6_foreign hin (by decide)] at hip
      cases hip
    rw [unbracket_eq hbracket] at hpieces
    exact ⟨hbracket, (parseIpv6_of_pieces (List.ne_nil_of_mem hcolon)
      hpieces).mp ⟨ip, hip⟩⟩
  · intro hgiven
    obtain ⟨hbracket, hplain⟩ := hgiven
    rw [unbracket_eq hbracket] at hpieces
    exact (parseIpv6_of_pieces (List.ne_nil_of_mem hcolon) hpieces).mpr hplain

end ZeroDpi.Android.RuntimeListValidator
