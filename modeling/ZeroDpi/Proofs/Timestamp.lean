/-
`backdate_tcp_timestamp` against the grammar of TCP options.

The loop reads options off the front of the area: where it answers, what
it passed are options of other kinds (`read_of_backdateFrom`), and an area
that starts with such options drives it to the next one
(`backdateFrom_read`). Its indexes are checked apart: a turn reads inside
the option it has just measured, and every turn moves the cursor on.
-/
import ZeroDpi.Lib.TcpOptions
import ZeroDpi.Proofs.RejectedFakes

namespace ZeroDpi

open Lib TcpOption

variable {options out : Bytes} {offset : UInt32}

-- ========================================================== the indexes

theorem indexByte_of_lt {i : Nat} (h : i < options.length) :
    indexByte options i = .ok (options.getD i 0) := by
  unfold indexByte
  rw [List.getD_eq_getElem?_getD, List.getElem?_eq_getElem h]
  rfl

theorem indexWord_of_le {i : Nat} (h : i + 4 ≤ options.length) :
    indexWord options i = .ok (be32At options i) := by
  unfold indexWord
  rw [indexByte_of_lt (by omega), indexByte_of_lt (by omega),
    indexByte_of_lt (by omega), indexByte_of_lt (by omega)]
  rfl

/-- What a turn stands for in the walk. -/
def WalkTurn.Fits (options : Bytes) (offset : UInt32) (cursor : Nat) :
    WalkTurn → Prop
  | leave result => ∀ fuel,
      backdateFrom options offset (fuel + 1) cursor = result
  | next stop => cursor < stop ∧ stop ≤ options.length
      ∧ ∀ fuel, backdateFrom options offset (fuel + 1) cursor
        = backdateFrom options offset fuel stop

/-- The walk at an option that has a length. -/
theorem backdateFrom_sized {fuel cursor : Nat} {kind : UInt8}
    (hkind : options[cursor]? = some kind) (h0 : kind ≠ 0) (h1 : kind ≠ 1) :
    backdateFrom options offset (fuel + 1) cursor
      = (options[cursor + 1]?).bind fun len =>
        if len.toNat < 2 then none
        else if cursor + len.toNat > options.length then none
        else if kind = 8 then
          if len.toNat ≠ 10 then none
          else some (overwrite options (cursor + 2)
            (toBe32 (be32At options (cursor + 2) - offset)))
        else backdateFrom options offset fuel (cursor + len.toNat) := by
  rw [backdateFrom, hkind]
  split
  · rename_i heq
    cases heq
  · rename_i heq
    exact absurd (Option.some.inj heq) h0
  · rename_i heq
    exact absurd (Option.some.inj heq) h1
  · rename_i heq
    obtain rfl := Option.some.inj heq
    rfl

/-- No turn panics, and each is a turn of the walk. -/
theorem backdateTurn_fits (options : Bytes) (offset : UInt32)
    (cursor : Nat) :
    ∃ turn, backdateTurn options offset cursor = .ok turn
      ∧ turn.Fits options offset cursor := by
  unfold backdateTurn
  by_cases hin : cursor < options.length
  · rw [if_neg (not_not_intro hin), indexByte_of_lt hin]
    have hkind : options[cursor]? = some (options.getD cursor 0) := by
      rw [List.getD_eq_getElem?_getD, List.getElem?_eq_getElem hin]
      rfl
    generalize options.getD cursor 0 = kind at hkind
    simp only [bind, Except.bind, pure, Except.pure]
    by_cases h0 : kind = 0
    · subst h0
      rw [if_pos rfl]
      refine ⟨_, rfl, fun fuel => ?_⟩
      rw [backdateFrom, hkind]
      rfl
    rw [if_neg h0]
    by_cases h1 : kind = 1
    · subst h1
      rw [if_pos rfl]
      refine ⟨_, rfl, by omega, by omega, fun fuel => ?_⟩
      rw [backdateFrom, hkind]
      rfl
    rw [if_neg h1]
    have hwalk := fun fuel =>
      @backdateFrom_sized options offset fuel cursor kind hkind h0 h1
    cases hlen : options[cursor + 1]? with
    | none =>
        refine ⟨_, rfl, fun fuel => ?_⟩
        rw [hwalk, hlen]
        rfl
    | some len =>
        simp only [hlen, Option.bind_some] at hwalk
        simp only
        by_cases hshort : len.toNat < 2
        · rw [if_pos hshort]
          exact ⟨_, rfl, fun fuel => (hwalk fuel).trans (if_pos hshort)⟩
        simp only [if_neg hshort] at hwalk ⊢
        by_cases hlong : cursor + len.toNat > options.length
        · rw [if_pos hlong]
          exact ⟨_, rfl, fun fuel => (hwalk fuel).trans (if_pos hlong)⟩
        simp only [if_neg hlong] at hwalk ⊢
        by_cases h8 : kind = 8
        · simp only [if_pos h8] at hwalk ⊢
          by_cases h10 : len.toNat ≠ 10
          · rw [if_pos h10]
            exact ⟨_, rfl, fun fuel => (hwalk fuel).trans (if_pos h10)⟩
          · simp only [if_neg h10] at hwalk ⊢
            rw [indexWord_of_le (by omega), indexWord_of_le (by omega)]
            simp only [copyWord]
            rw [if_pos (by omega)]
            exact ⟨_, rfl, hwalk⟩
        · simp only [if_neg h8] at hwalk ⊢
          exact ⟨_, rfl, by omega, by omega, hwalk⟩
  · rw [if_pos hin]
    refine ⟨_, rfl, fun fuel => ?_⟩
    rw [backdateFrom, List.getElem?_eq_none (by omega)]

/-- The loop leaves within as many turns as there are bytes, and one, with
the walk's answer. -/
theorem backdateTurns_eq {turns cursor : Nat}
    (hin : cursor ≤ options.length) (h : options.length < cursor + turns) :
    backdateTurns options offset turns cursor
      = .ok (some (backdateFrom options offset turns cursor)) := by
  induction turns generalizing cursor with
  | zero => exact absurd h (by omega)
  | succ turns ih =>
      obtain ⟨turn, hturn, hfits⟩ := backdateTurn_fits options offset cursor
      rw [backdateTurns, hturn]
      cases turn with
      | leave result =>
          rw [hfits turns]
          rfl
      | next stop =>
          obtain ⟨hlt, hstop, hstep⟩ := hfits
          rw [hstep]
          exact ih hstop (by omega)

-- ============================================================ the grammar

/-- A timestamp option. -/
def timestampOption (tsval tsecr : UInt32) : TcpOption :=
  .sized 8 (toBe32 tsval ++ toBe32 tsecr) (by decide) (by
    simp only [List.length_append, length_toBe32]
    omega)

/-- The walk passes an option of another kind. -/
theorem backdateFrom_pass {o : TcpOption} (hother : o.kind ≠ 8)
    (front tail : Bytes) (fuel : Nat) :
    backdateFrom (front ++ (o.encode ++ tail)) offset (fuel + 1) front.length
      = backdateFrom (front ++ (o.encode ++ tail)) offset fuel
          (front.length + o.encode.length) := by
  have hbyte : ∀ i, (front ++ (o.encode ++ tail))[front.length + i]?
      = (o.encode ++ tail)[i]? := by
    intro i
    rw [List.getElem?_append_right (Nat.le_add_right _ _),
      Nat.add_sub_cancel_left]
  have hkind := hbyte 0
  rw [Nat.add_zero, (head_encode o tail).1] at hkind
  cases o with
  | nop =>
      rw [backdateFrom, hkind]
      rfl
  | sized kind content named fits =>
      have h0 : kind ≠ 0 := (head_encode (.sized kind content named fits) []).2
      have h1 : kind ≠ 1 := by
        rintro rfl
        exact absurd named (by decide)
      have hlen : (content.length + 2).toUInt8.toNat = content.length + 2 :=
        toNat_lengthByte fits
      rw [backdateFrom_sized hkind h0 h1, hbyte 1]
      show (some (content.length + 2).toUInt8).bind _ = _
      rw [Option.bind_some, hlen, if_neg (by omega), if_neg, if_neg hother]
      · rfl
      · simp only [List.length_append, length_encode_sized]
        omega

/-- A content of eight bytes is two words. -/
theorem exists_words {content : Bytes} (h : content.length = 8) :
    ∃ v e, content = toBe32 v ++ toBe32 e := by
  rcases content with _ | ⟨a, _ | ⟨b, _ | ⟨c, _ | ⟨d, _ | ⟨e, _ | ⟨f,
    _ | ⟨g, _ | ⟨i, _ | ⟨j, r⟩⟩⟩⟩⟩⟩⟩⟩⟩
  all_goals simp only [List.length_cons, List.length_nil] at h
  any_goals omega
  exact ⟨be32 a b c d, be32 e f g i, by
    rw [toBe32_be32, toBe32_be32]
    rfl⟩

/-- A TSval written over the one of a timestamp. -/
theorem overwrite_timestamp (tsval tsval' tsecr : UInt32)
    (front tail : Bytes) :
    overwrite (front ++ ((timestampOption tsval tsecr).encode ++ tail))
        (front.length + 2) (toBe32 tsval')
      = front ++ ((timestampOption tsval' tsecr).encode ++ tail) := by
  have hwrite := @overwrite_append _ front
    (timestampOption tsval tsecr).encode tail (toBe32 tsval') 2
    (show 2 + (toBe32 tsval').length ≤ 10 by rw [length_toBe32]; omega)
  rw [← List.append_assoc, hwrite, List.append_assoc]
  rfl

/-- And stops at a timestamp. -/
theorem backdateFrom_timestamp (tsval tsecr : UInt32) (front tail : Bytes)
    (fuel : Nat) :
    backdateFrom (front ++ ((timestampOption tsval tsecr).encode ++ tail))
        offset (fuel + 1) front.length
      = some (front ++ ((timestampOption (tsval - offset) tsecr).encode
          ++ tail)) := by
  have hbyte : ∀ i, (front ++ ((timestampOption tsval tsecr).encode
      ++ tail))[front.length + i]?
      = ((timestampOption tsval tsecr).encode ++ tail)[i]? := by
    intro i
    rw [List.getElem?_append_right (Nat.le_add_right _ _),
      Nat.add_sub_cancel_left]
  have hread : be32At (front ++ ((timestampOption tsval tsecr).encode
      ++ tail)) (front.length + 2) = tsval := by
    rw [be32At_append_right]
    exact be32_toBe32 tsval
  have hkind : (front ++ ((timestampOption tsval tsecr).encode
      ++ tail))[front.length]? = some 8 := hbyte 0
  rw [backdateFrom_sized hkind (by decide) (by decide), hbyte 1, hread]
  show (some (10 : UInt8)).bind _ = _
  rw [Option.bind_some, if_neg (by decide), if_neg, if_pos rfl,
    if_neg (by decide), overwrite_timestamp]
  · have hlen : (timestampOption tsval tsecr).encode.length = 10 := rfl
    simp only [List.length_append, hlen]
    show ¬ front.length + 10 > _
    omega

/-- The walk over the options in front of a timestamp. -/
theorem backdateFrom_read {before : List TcpOption}
    (hother : ∀ o ∈ before, o.kind ≠ 8) (tsval tsecr : UInt32)
    (front tail : Bytes) {fuel : Nat} (hfuel : before.length < fuel) :
    backdateFrom (front ++ (encodeAll before
        ++ ((timestampOption tsval tsecr).encode ++ tail))) offset fuel
        front.length
      = some (front ++ (encodeAll before
          ++ ((timestampOption (tsval - offset) tsecr).encode ++ tail))) := by
  induction before generalizing front fuel with
  | nil =>
      obtain ⟨fuel, rfl⟩ : ∃ k, fuel = k + 1 := ⟨fuel - 1, by
        simp only [List.length_nil] at hfuel
        omega⟩
      exact backdateFrom_timestamp tsval tsecr front tail fuel
  | cons o before ih =>
      obtain ⟨fuel, rfl⟩ : ∃ k, fuel = k + 1 := ⟨fuel - 1, by omega⟩
      have hrest := ih (fun o' ho' => hother o' (List.mem_cons_of_mem o ho'))
        (front ++ o.encode) (Nat.lt_of_succ_lt_succ hfuel)
      rw [encodeAll_cons, List.append_assoc,
        backdateFrom_pass (hother o List.mem_cons_self)]
      rw [List.length_append, List.append_assoc, List.append_assoc] at hrest
      rw [hrest, List.append_assoc]

/-- What the walk answers for is options of other kinds and a timestamp,
and what it answers is the timestamp moved back. -/
theorem read_of_backdateFrom {fuel : Nat} {front tail : Bytes}
    (h : backdateFrom (front ++ tail) offset fuel front.length = some out) :
    ∃ before tsval tsecr behind, (∀ o ∈ before, o.kind ≠ 8)
      ∧ tail = encodeAll before
        ++ ((timestampOption tsval tsecr).encode ++ behind)
      ∧ out = front ++ (encodeAll before
        ++ ((timestampOption (tsval - offset) tsecr).encode ++ behind)) := by
  induction fuel generalizing front tail with
  | zero => cases h
  | succ fuel ih =>
      have hbyte : ∀ i, (front ++ tail)[front.length + i]? = tail[i]? := by
        intro i
        rw [List.getElem?_append_right (Nat.le_add_right _ _),
          Nat.add_sub_cancel_left]
      rcases backdateFrom_cases h with ⟨hnop, hstep⟩
        | ⟨kind, len, hkind, h0, h1, hlen, hmin, hin, hend⟩
      · have hhead := (hbyte 0).symm.trans hnop
        obtain ⟨rest, rfl⟩ : ∃ rest, tail = 1 :: rest := by
          cases tail with
          | nil => cases hhead
          | cons b rest => exact ⟨rest, by rw [Option.some.inj hhead]⟩
        rw [← List.singleton_append, ← List.append_assoc,
          show front.length + 1 = (front ++ [1]).length by
            rw [List.length_append, List.length_singleton]] at hstep
        obtain ⟨before, tsval, tsecr, behind, hother, rfl, rfl⟩ := ih hstep
        refine ⟨.nop :: before, tsval, tsecr, behind, ?_, rfl, ?_⟩
        · intro o ho
          rcases List.mem_cons.mp ho with rfl | ho
          · show (1 : UInt8) ≠ 8
            decide
          · exact hother o ho
        · rw [List.append_assoc]
          rfl
      · have hnamed : 2 ≤ kind.toNat := by
          have hne0 : kind.toNat ≠ 0 := fun h => h0 (UInt8.toNat_inj.mp h)
          have hne1 : kind.toNat ≠ 1 := fun h => h1 (UInt8.toNat_inj.mp h)
          omega
        obtain ⟨rest, rfl⟩ : ∃ rest, tail = kind :: len :: rest := by
          have hfirst := (hbyte 0).symm.trans hkind
          have hsecond := (hbyte 1).symm.trans hlen
          rcases tail with _ | ⟨b, _ | ⟨c, rest⟩⟩
          · cases hfirst
          · cases hsecond
          · exact ⟨rest, by
              rw [Option.some.inj hfirst, Option.some.inj hsecond]⟩
        rw [List.length_append] at hin
        simp only [List.length_cons] at hin
        obtain ⟨content, tail, fits, rfl, hcontent, hsized⟩ :=
          exists_sized hnamed hmin (show len.toNat ≤ rest.length + 2 by omega)
        rcases hend with ⟨rfl, h10, rfl⟩ | ⟨h8, hstep⟩
        · obtain ⟨tsval, tsecr, rfl⟩ :=
            exists_words (show content.length = 8 by omega)
          have hoption : (8 : UInt8) :: len :: ((toBe32 tsval ++ toBe32 tsecr)
              ++ tail) = (timestampOption tsval tsecr).encode ++ tail := hsized
          have hread : be32At (front ++ ((timestampOption tsval tsecr).encode
              ++ tail)) (front.length + 2) = tsval := by
            rw [be32At_append_right]
            exact be32_toBe32 tsval
          refine ⟨[], tsval, tsecr, tail, nofun, hoption, ?_⟩
          rw [hoption, hread, overwrite_timestamp]
          rfl
        · rw [hsized, ← List.append_assoc, ← hcontent,
            show front.length + (content.length + 2)
                = (front ++ (TcpOption.sized kind content hnamed fits).encode).length
              by rw [List.length_append, length_encode_sized]] at hstep
          obtain ⟨before, tsval, tsecr, behind, hother, rfl, rfl⟩ := ih hstep
          refine ⟨.sized kind content hnamed fits :: before, tsval, tsecr,
            behind, ?_, ?_, ?_⟩
          · intro o ho
            rcases List.mem_cons.mp ho with rfl | ho
            · exact h8
            · exact hother o ho
          · rw [hsized, encodeAll_cons, List.append_assoc]
          · rw [encodeAll_cons, List.append_assoc, List.append_assoc]

/-- A walk over the area passes `before`, none of it of kind 8, and comes
to a timestamp. -/
structure FirstTimestamp (area : Bytes) (before : List TcpOption)
    (tsval tsecr : UInt32) (behind : Bytes) : Prop where
  other : ∀ o ∈ before, o.kind ≠ 8
  reads : area = encodeAll before
    ++ ((timestampOption tsval tsecr).encode ++ behind)

/-- Backdating follows the grammar of the options: it answers exactly for
the areas whose first option of kind 8, as a walk reaches it, has the
length of a timestamp, and moves the TSval back; all other bytes stay as
they are. The loop behind it leaves for every area, with no index out of
range. -/
theorem backdateTcpTimestamp_follows_grammar (options : Bytes)
    (offset : UInt32) :
    ((∃ out, backdateTcpTimestamp options offset = some out)
      ↔ ∃ before tsval tsecr behind,
        FirstTimestamp options before tsval tsecr behind)
    ∧ (∀ before tsval tsecr behind,
        FirstTimestamp options before tsval tsecr behind →
        ∃ out, backdateTcpTimestamp options offset = some out
          ∧ FirstTimestamp out before (tsval - offset) tsecr behind
          ∧ out.length = options.length
          ∧ ∀ i, i < (encodeAll before).length + 2
              ∨ (encodeAll before).length + 6 ≤ i →
            out[i]? = options[i]?)
    ∧ backdateTurns options offset (options.length + 1) 0
        = .ok (some (backdateTcpTimestamp options offset)) := by
  have hmoves : ∀ before tsval tsecr behind,
      FirstTimestamp options before tsval tsecr behind →
      backdateTcpTimestamp options offset
        = some (encodeAll before
          ++ ((timestampOption (tsval - offset) tsecr).encode ++ behind)) := by
    rintro before tsval tsecr behind ⟨hother, rfl⟩
    refine backdateFrom_read hother tsval tsecr [] behind ?_
    have hle := TcpOption.length_le_encodeAll before
    simp only [List.length_append]
    omega
  refine ⟨⟨?_, ?_⟩, ?_, backdateTurns_eq (Nat.zero_le _) (by omega)⟩
  · rintro ⟨out, h⟩
    obtain ⟨before, tsval, tsecr, behind, hother, hreads, -⟩ :=
      @read_of_backdateFrom out offset (options.length + 1) [] options h
    exact ⟨before, tsval, tsecr, behind, hother, hreads⟩
  · rintro ⟨before, tsval, tsecr, behind, h⟩
    exact ⟨_, hmoves before tsval tsecr behind h⟩
  · intro before tsval tsecr behind h
    refine ⟨_, hmoves before tsval tsecr behind h, ⟨h.other, rfl⟩, ?_, ?_⟩
    · simp only [h.reads, List.length_append]
      rfl
    · intro i hi
      have hroom : (encodeAll before).length + 2
          + (toBe32 (tsval - offset)).length ≤ options.length := by
        have hlen : (timestampOption tsval tsecr).encode.length = 10 := rfl
        rw [h.reads, List.length_append, List.length_append, hlen,
          length_toBe32]
        omega
      rw [← overwrite_timestamp tsval, ← h.reads]
      rcases hi with hlow | hhigh
      · exact getElem?_overwrite_of_lt hroom hlow
      · exact getElem?_overwrite_of_le hroom (by rw [length_toBe32]; omega)

end ZeroDpi
