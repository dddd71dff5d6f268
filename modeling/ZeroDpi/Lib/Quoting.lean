/-
Lines with quoted strings and comments. A double quote opens a string and
closes it, a backslash in a string takes the next character with it, and a
`#` outside of the strings starts a comment.

`Inside` and `Outside` say what may stand between two quotes and before a
comment. A scanner that keeps two flags stops where the grammar says
(`commentAt_outside`, `outside_of_commentAt`), and a decoder of the escapes
stops at the closing quote (`readString_inside`, `readString_escape`).
-/

namespace ZeroDpi.Lib.Quoting

-- ================================================================= grammar

/-- What may stand between the quotes of a string. -/
inductive Inside : List Char → Prop where
  | nil : Inside []
  | char {c : Char} {s : List Char} : c ≠ '"' → c ≠ '\\' → Inside s →
      Inside (c :: s)
  | escape {c : Char} {s : List Char} : Inside s → Inside ('\\' :: c :: s)

/-- Text with its strings closed and without a comment. -/
inductive Outside : List Char → Prop where
  | nil : Outside []
  | char {c : Char} {s : List Char} : c ≠ '"' → c ≠ '#' → Outside s →
      Outside (c :: s)
  | string {body s : List Char} : Inside body → Outside s →
      Outside ('"' :: (body ++ '"' :: s))

/-- `comment` is what `s` has behind its value, from the first `#` that is
in no string. -/
def HasComment (s comment : List Char) : Prop :=
  ∃ value, Outside value ∧ s = value ++ comment ∧ comment.head? = some '#'

/-- Texts outside of strings, in sequence. -/
theorem Outside.append {s t : List Char} (hs : Outside s) (ht : Outside t) :
    Outside (s ++ t) := by
  induction hs with
  | nil => exact ht
  | char hquote hhash _ ih => exact .char hquote hhash ih
  | @string body s hbody _ ih =>
      rw [List.cons_append, List.append_assoc, List.cons_append]
      exact .string hbody ih

/-- A text without quotes. -/
theorem outside_of_plain {s : List Char}
    (h : ∀ c ∈ s, c ≠ '"' ∧ c ≠ '#') : Outside s := by
  induction s with
  | nil => exact .nil
  | cons c rest ih =>
      obtain ⟨hquote, hhash⟩ := h c List.mem_cons_self
      exact .char hquote hhash
        (ih fun d hd => h d (List.mem_cons_of_mem c hd))

/-- The inside of a string without escapes. -/
theorem inside_of_plain {s : List Char}
    (h : ∀ c ∈ s, c ≠ '"' ∧ c ≠ '\\') : Inside s := by
  induction s with
  | nil => exact .nil
  | cons c s ih =>
      obtain ⟨⟨hquote, hslash⟩, hs⟩ := List.forall_mem_cons.mp h
      exact .char hquote hslash (ih hs)

/-- A string and nothing else. -/
theorem outside_string {body : List Char} (h : Inside body) :
    Outside ('"' :: (body ++ ['"'])) := .string h .nil

-- ================================================================= scanner

/-- Where the comment of a line starts: a scan with the flags `inString` and
`escaping`. -/
def commentAt (inString escaping : Bool) : List Char → Option Nat
  | [] => none
  | c :: rest =>
      if escaping then (commentAt inString false rest).map (· + 1)
      else if c = '\\' then (commentAt inString inString rest).map (· + 1)
      else if c = '"' then (commentAt (!inString) false rest).map (· + 1)
      else if c = '#' ∧ !inString then some 0
      else (commentAt inString false rest).map (· + 1)

/-- The scanner, character by character: outside of a string, -/
theorem commentAt_char {c : Char} (hquote : c ≠ '"') (hhash : c ≠ '#')
    (s : List Char) :
    commentAt false false (c :: s)
      = (commentAt false false s).map (· + 1) := by
  by_cases hslash : c = '\\'
  · rw [hslash, commentAt]
    rfl
  · rw [commentAt]
    simp [hquote, hhash, hslash]

theorem commentAt_hash (s : List Char) :
    commentAt false false ('#' :: s) = some 0 := rfl

/-- into one, -/
theorem commentAt_open (s : List Char) :
    commentAt false false ('"' :: s)
      = (commentAt true false s).map (· + 1) := rfl

/-- out of it, -/
theorem commentAt_close (s : List Char) :
    commentAt true false ('"' :: s)
      = (commentAt false false s).map (· + 1) := rfl

/-- and inside, -/
theorem commentAt_inner {c : Char} (hquote : c ≠ '"') (hslash : c ≠ '\\')
    (s : List Char) :
    commentAt true false (c :: s)
      = (commentAt true false s).map (· + 1) := by
  rw [commentAt]
  simp [hquote, hslash]

/-- with escapes. -/
theorem commentAt_escape (c : Char) (s : List Char) :
    commentAt true false ('\\' :: c :: s)
      = (commentAt true false s).map (· + 2) := by
  have hslash : commentAt true false ('\\' :: c :: s)
      = (commentAt true true (c :: s)).map (· + 1) := rfl
  have hchar : commentAt true true (c :: s)
      = (commentAt true false s).map (· + 1) := rfl
  rw [hslash, hchar, Option.map_map]
  rfl

theorem map_add_add (o : Option Nat) (m n : Nat) :
    (o.map (· + m)).map (· + n) = o.map (· + (m + n)) := by
  cases o with
  | none => rfl
  | some i => simp [Nat.add_assoc]

/-- It passes the inside of a string. -/
theorem commentAt_inside {body : List Char} (h : Inside body)
    (s : List Char) :
    commentAt true false (body ++ '"' :: s)
      = (commentAt false false s).map (· + (body.length + 1)) := by
  induction h with
  | nil => exact commentAt_close s
  | @char c body hquote hslash _ ih =>
      rw [List.cons_append, commentAt_inner hquote hslash, ih, map_add_add]
      rfl
  | @escape c body _ ih =>
      rw [List.cons_append, List.cons_append, commentAt_escape, ih,
        map_add_add]
      rfl

/-- The scan passes a value whose strings are closed. -/
theorem commentAt_outside {value : List Char} (h : Outside value)
    (s : List Char) :
    commentAt false false (value ++ s)
      = (commentAt false false s).map (· + value.length) := by
  induction h with
  | nil => simp
  | @char c value hquote hhash _ ih =>
      rw [List.cons_append, commentAt_char hquote hhash, ih, map_add_add]
      rfl
  | @string body value hbody _ ih =>
      rw [List.cons_append, List.append_assoc, List.cons_append,
        commentAt_open, commentAt_inside hbody, ih, map_add_add, map_add_add]
      congr 1
      funext i
      simp only [List.length_cons, List.length_append]
      omega

/-- So it finds the comment behind a value. -/
theorem commentAt_comment {value rest : List Char} (h : Outside value) :
    commentAt false false (value ++ '#' :: rest) = some value.length := by
  rw [commentAt_outside h, commentAt_hash]
  simp

/-- Or none. -/
theorem commentAt_none {value : List Char} (h : Outside value) :
    commentAt false false value = none := by
  have hscan := commentAt_outside h []
  rw [List.append_nil] at hscan
  rw [hscan]
  rfl

/-- Where a scan stops: outside of a string, inside of one, and behind a
backslash there. -/
def Stops (inString escaping : Bool) (s : List Char) (i : Nat) : Prop :=
  match inString, escaping with
  | false, _ => ∃ value rest, Outside value ∧ s = value ++ '#' :: rest
      ∧ i = value.length
  | true, false => ∃ body value rest, Inside body ∧ Outside value
      ∧ s = body ++ '"' :: (value ++ '#' :: rest)
      ∧ i = body.length + 1 + value.length
  | true, true => ∃ c body value rest, Inside body ∧ Outside value
      ∧ s = c :: (body ++ '"' :: (value ++ '#' :: rest))
      ∧ i = body.length + 2 + value.length

/-- Where it stops, a comment starts. -/
theorem stops_of_commentAt {inString escaping : Bool} {s : List Char}
    {i : Nat} (hflags : escaping = true → inString = true)
    (h : commentAt inString escaping s = some i) :
    Stops inString escaping s i := by
  induction s generalizing inString escaping i with
  | nil => cases h
  | cons c rest ih =>
      unfold commentAt at h
      by_cases hescaping : escaping = true
      · -- the character behind a backslash
        rw [if_pos hescaping] at h
        obtain ⟨j, hj, rfl⟩ := Option.map_eq_some_iff.mp h
        have hin := hflags hescaping
        subst hin hescaping
        obtain ⟨body, value, tail, hbody, hvalue, rfl, rfl⟩ :=
          ih (by simp) hj
        exact ⟨c, body, value, tail, hbody, hvalue, rfl, by omega⟩
      · have hplain : escaping = false := by simpa using hescaping
        subst hplain
        rw [if_neg (by simp)] at h
        by_cases hslash : c = '\\'
        · rw [if_pos hslash] at h
          obtain ⟨j, hj, rfl⟩ := Option.map_eq_some_iff.mp h
          subst hslash
          cases inString with
          | false =>
              obtain ⟨value, tail, hvalue, rfl, rfl⟩ := ih (by simp) hj
              exact ⟨'\\' :: value, tail,
                .char (by decide) (by decide) hvalue, rfl, rfl⟩
          | true =>
              obtain ⟨d, body, value, tail, hbody, hvalue, rfl, rfl⟩ :=
                ih (by simp) hj
              refine ⟨'\\' :: d :: body, value, tail, .escape hbody, hvalue,
                rfl, ?_⟩
              simp only [List.length_cons]
              omega
        · rw [if_neg hslash] at h
          by_cases hquote : c = '"'
          · rw [if_pos hquote] at h
            obtain ⟨j, hj, rfl⟩ := Option.map_eq_some_iff.mp h
            subst hquote
            cases inString with
            | false =>
                obtain ⟨body, value, tail, hbody, hvalue, rfl, rfl⟩ :=
                  ih (by simp) hj
                refine ⟨'"' :: (body ++ '"' :: value), tail,
                  .string hbody hvalue, by simp, ?_⟩
                simp only [List.length_cons, List.length_append]
                omega
            | true =>
                obtain ⟨value, tail, hvalue, rfl, rfl⟩ := ih (by simp) hj
                refine ⟨[], value, tail, .nil, hvalue, rfl, ?_⟩
                simp only [List.length_nil]
                omega
          · rw [if_neg hquote] at h
            cases inString with
            | false =>
                by_cases hhash : c = '#'
                · rw [if_pos ⟨hhash, rfl⟩] at h
                  cases h
                  exact ⟨[], rest, .nil, by rw [hhash]; rfl, rfl⟩
                · rw [if_neg fun hc => hhash hc.1] at h
                  obtain ⟨j, hj, rfl⟩ := Option.map_eq_some_iff.mp h
                  obtain ⟨value, tail, hvalue, rfl, rfl⟩ := ih (by simp) hj
                  exact ⟨c :: value, tail, .char hquote hhash hvalue, rfl, rfl⟩
            | true =>
                rw [if_neg fun hc => Bool.noConfusion hc.2] at h
                obtain ⟨j, hj, rfl⟩ := Option.map_eq_some_iff.mp h
                obtain ⟨body, value, tail, hbody, hvalue, rfl, rfl⟩ :=
                  ih (by simp) hj
                refine ⟨c :: body, value, tail, .char hquote hslash hbody,
                  hvalue, rfl, ?_⟩
                simp only [List.length_cons]
                omega

/-- The scan stops at a comment only, and at the first one. -/
theorem outside_of_commentAt {s : List Char} {i : Nat}
    (h : commentAt false false s = some i) :
    Outside (s.take i) ∧ (s.drop i).head? = some '#' := by
  obtain ⟨value, rest, hvalue, rfl, rfl⟩ := stops_of_commentAt (by simp) h
  rw [List.take_left, List.drop_left]
  exact ⟨hvalue, rfl⟩

/-- And only there. -/
theorem hasComment_iff {s comment : List Char} :
    HasComment s comment
      ↔ ∃ i, commentAt false false s = some i ∧ comment = s.drop i := by
  constructor
  · rintro ⟨value, hvalue, rfl, hhash⟩
    obtain ⟨rest, rfl⟩ : ∃ rest, comment = '#' :: rest := by
      cases comment with
      | nil => cases hhash
      | cons c rest =>
          cases hhash
          exact ⟨rest, rfl⟩
    exact ⟨_, commentAt_comment hvalue, List.drop_left.symm⟩
  · rintro ⟨i, hi, rfl⟩
    obtain ⟨hvalue, hhash⟩ := outside_of_commentAt hi
    exact ⟨s.take i, hvalue, (List.take_append_drop i s).symm, hhash⟩

-- ================================================================= escapes

/-- What stands between the opening quote in front of `s` and the next quote
that no backslash takes, and what is behind that one. -/
def readString (unescape : Char → Option Char) :
    List Char → Option (List Char × List Char)
  | [] => none
  | ['\\'] => none
  | '\\' :: c :: rest => do
      let d ← unescape c
      let (value, behind) ← readString unescape rest
      return (d :: value, behind)
  | '"' :: rest => some ([], rest)
  | c :: rest => do
      let (value, behind) ← readString unescape rest
      return (c :: value, behind)

section

variable {unescape : Char → Option Char}

theorem readString_quote (rest : List Char) :
    readString unescape ('"' :: rest) = some ([], rest) := rfl

/-- The reader, character by character. -/
theorem readString_char {c : Char} (hquote : c ≠ '"') (hslash : c ≠ '\\')
    (rest : List Char) :
    readString unescape (c :: rest)
      = (readString unescape rest).map fun (value, behind) =>
          (c :: value, behind) := by
  rw [readString]
  · cases readString unescape rest <;> rfl
  · exact fun heq _ => hslash heq
  · exact fun _ _ heq _ => hslash heq
  · exact hquote

theorem readString_backslash (c : Char) (rest : List Char) :
    readString unescape ('\\' :: c :: rest)
      = (unescape c).bind fun d => (readString unescape rest).map
          fun (value, behind) => (d :: value, behind) := by
  show (unescape c).bind (fun d => (readString unescape rest).bind
    fun (value, behind) => some (d :: value, behind)) = _
  cases readString unescape rest <;> rfl

/-- An escape is read as what it is for. -/
theorem readString_escape {c d : Char} (hd : unescape c = some d)
    (rest : List Char) :
    readString unescape ('\\' :: c :: rest)
      = (readString unescape rest).map fun (value, behind) =>
          (d :: value, behind) := by
  rw [readString_backslash, hd, Option.bind_some]

/-- A string that can be read closes where the grammar says. -/
theorem readString_inside {s value behind : List Char}
    (h : readString unescape s = some (value, behind)) :
    ∃ body, Inside body ∧ s = body ++ '"' :: behind := by
  induction s using readString.induct generalizing value with
  | case1 => cases h
  | case2 => cases h
  | case3 c rest ih =>
      rw [readString_backslash] at h
      cases hd : unescape c with
      | none => simp [hd] at h
      | some d =>
          cases hread : readString unescape rest with
          | none => simp [hd, hread] at h
          | some read =>
              obtain ⟨value', behind'⟩ := read
              simp [hd, hread] at h
              obtain ⟨-, rfl⟩ := h
              obtain ⟨body, hbody, rfl⟩ := ih hread
              exact ⟨'\\' :: c :: body, .escape hbody, rfl⟩
  | case4 rest =>
      rw [readString_quote] at h
      cases h
      exact ⟨[], .nil, rfl⟩
  | case5 c rest hlone hslash hquote ih =>
      have hbackslash : c ≠ '\\' := by
        intro hc
        cases rest with
        | nil => exact hlone hc rfl
        | cons e rest => exact hslash e rest hc rfl
      rw [readString_char hquote hbackslash] at h
      obtain ⟨⟨value', behind'⟩, hread, heq⟩ := Option.map_eq_some_iff.mp h
      cases heq
      obtain ⟨body, hbody, rfl⟩ := ih hread
      exact ⟨c :: body, .char hquote hbackslash hbody, rfl⟩

/-- Every character is written as it is, or as an escape that is read as that
character. -/
def Escapes (escape : Char → List Char) (unescape : Char → Option Char) :
    Prop :=
  ∀ c, (escape c = [c] ∧ c ≠ '"' ∧ c ≠ '\\')
    ∨ ∃ e, escape c = ['\\', e] ∧ unescape e = some c

variable {escape : Char → List Char}

/-- What is escaped is the inside of a string. -/
theorem inside_escape (h : Escapes escape unescape) (s : List Char) :
    Inside (s.flatMap escape) := by
  induction s with
  | nil => exact .nil
  | cons c rest ih =>
      rw [List.flatMap_cons]
      rcases h c with ⟨hself, hquote, hslash⟩ | ⟨e, hescape, -⟩
      · rw [hself]
        exact .char hquote hslash ih
      · rw [hescape]
        exact .escape ih

/-- What was escaped is read as it was. -/
theorem readString_flatMap (h : Escapes escape unescape)
    (s behind : List Char) :
    readString unescape (s.flatMap escape ++ '"' :: behind)
      = some (s, behind) := by
  induction s with
  | nil => exact readString_quote behind
  | cons c rest ih =>
      rw [List.flatMap_cons, List.append_assoc]
      rcases h c with ⟨hself, hquote, hslash⟩ | ⟨e, hescape, hback⟩
      · rw [hself, List.singleton_append, readString_char hquote hslash, ih]
        rfl
      · rw [hescape, List.cons_append, List.singleton_append,
          readString_escape hback, ih]
        rfl

end

end ZeroDpi.Lib.Quoting
