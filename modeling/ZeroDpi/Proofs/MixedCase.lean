/-
Re-casing a host name: what `mixed_case_sni` changes, and the one name for
which it promises nothing and does something.

Both modes write, byte for byte, the byte itself or the letter with its
case inverted (`Recases`). The walker reads the host name for its length
only, so any name of that length in its place is found there again
(`Located.renamed`). What is left is that something changed: the random
mode makes sure of it, the other one inverts whatever letters there are.
-/
import Mathlib.Data.List.Forall2
import ZeroDpi.Proofs.SniBoundary
import ZeroDpi.Proofs.Transcript

namespace ZeroDpi

open Lib ClientHello

-- ============================================================== letters

/-- A fact of every byte, byte for byte. -/
theorem forall_byte {p : UInt8 → Prop}
    (h : ∀ n : Fin 256, p (UInt8.ofFin n)) (b : UInt8) : p b :=
  h b.toFin

/-- What the case functions make of a letter. -/
theorem asciiCase_letter : ∀ b : UInt8, isAsciiAlphabetic b = true →
    toAsciiLower (swapAsciiCase b) = toAsciiLower b
      ∧ (toAsciiLower b = b ∨ toAsciiLower b = swapAsciiCase b)
      ∧ (toAsciiUpper b = b ∨ toAsciiUpper b = swapAsciiCase b) :=
  forall_byte (by decide +kernel)

theorem toAsciiLower_swap {b : UInt8} (hb : isAsciiAlphabetic b = true) :
    toAsciiLower (swapAsciiCase b) = toAsciiLower b :=
  (asciiCase_letter b hb).1

theorem toAsciiLower_cases {b : UInt8} (hb : isAsciiAlphabetic b = true) :
    toAsciiLower b = b ∨ toAsciiLower b = swapAsciiCase b :=
  (asciiCase_letter b hb).2.1

theorem toAsciiUpper_cases {b : UInt8} (hb : isAsciiAlphabetic b = true) :
    toAsciiUpper b = b ∨ toAsciiUpper b = swapAsciiCase b :=
  (asciiCase_letter b hb).2.2

/-- A byte re-cased: itself, or a letter with its case inverted. -/
def Recases (b b' : UInt8) : Prop :=
  b' = b ∨ isAsciiAlphabetic b = true ∧ b' = swapAsciiCase b

theorem Recases.lower {b b' : UInt8} (h : Recases b b') :
    toAsciiLower b' = toAsciiLower b := by
  rcases h with rfl | ⟨hletter, rfl⟩
  · rfl
  · exact toAsciiLower_swap hletter

-- ======================================================== the two modes

/-- Every letter inverted. -/
theorem recases_flipLetters (name : Bytes) :
    List.Forall₂ Recases name (flipLetters name) := by
  induction name with
  | nil => exact .nil
  | cons b name ih =>
      refine .cons ?_ ih
      by_cases hletter : isAsciiAlphabetic b = true
      · exact .inr ⟨hletter, if_pos hletter⟩
      · exact .inl (if_neg hletter)

/-- The random pass, whatever the generator draws. -/
theorem recases_randomCase (rng : UInt64) (name : Bytes) :
    List.Forall₂ Recases name (randomCase rng name).1 := by
  induction name generalizing rng with
  | nil => exact .nil
  | cons b name ih =>
      unfold randomCase
      by_cases hletter : isAsciiAlphabetic b = true
      · rw [if_pos hletter]
        refine .cons ?_ (ih _)
        by_cases hbit : (splitmix64 rng).2 &&& 1 = 0
        · rw [if_pos hbit]
          exact (toAsciiLower_cases hletter).imp_right fun h => ⟨hletter, h⟩
        · rw [if_neg hbit]
          exact (toAsciiUpper_cases hletter).imp_right fun h => ⟨hletter, h⟩
      · rw [if_neg hletter]
        exact .cons (.inl rfl) (ih _)

/-- One letter inverted. -/
theorem recases_set {name : Bytes} {i : Nat} (hi : i < name.length)
    (hletter : isAsciiAlphabetic (name.getD i 0) = true) :
    List.Forall₂ Recases name
      (name.set i (swapAsciiCase (name.getD i 0))) := by
  induction name generalizing i with
  | nil => exact absurd hi (Nat.not_lt_zero i)
  | cons b name ih =>
      cases i with
      | zero =>
          refine .cons (.inr ⟨hletter, rfl⟩) ?_
          exact List.forall₂_same.mpr fun _ _ => .inl rfl
      | succ i => exact .cons (.inl rfl) (ih (Nat.lt_of_succ_lt_succ hi) hletter)

/-- The random mode, the forced letter included. -/
theorem recases_randomCaseName {rng : UInt64} {name out : Bytes}
    (h : randomCaseName rng name = some out) :
    List.Forall₂ Recases name out := by
  unfold randomCaseName at h
  by_cases hnone : letterPositions name = []
  · rw [hnone] at h
    cases h
  · simp only [List.isEmpty_iff, hnone, if_false] at h
    by_cases hchanged : (randomCase rng name).1 ≠ name
    · rw [if_pos hchanged] at h
      obtain rfl := Option.some.inj h
      exact recases_randomCase rng name
    · rw [if_neg hchanged] at h
      obtain rfl := Option.some.inj h
      rw [Classical.not_not] at hchanged
      rw [hchanged]
      -- the draw picks one of the letters
      have hpick : (splitmix64 (randomCase rng name).2).2.toNat
            % (letterPositions name).length
          < (letterPositions name).length :=
        Nat.mod_lt _ (List.length_pos_iff.mpr hnone)
      have hmem : (letterPositions name).getD
            ((splitmix64 (randomCase rng name).2).2.toNat
              % (letterPositions name).length) 0 ∈ letterPositions name := by
        rw [getD_of_lt hpick]
        exact List.getElem_mem hpick
      obtain ⟨hlt, hposition⟩ := mem_letterPositions.mp hmem
      exact recases_set hlt hposition

-- ======================================================== the record

/-- Any name of its length is found in the place of the host name. -/
theorem ClientHello.Located.renamed (l : Located) {name : Bytes}
    (hlen : name.length = l.names.hostName.length) :
    findSniBoundary (l.beforeName ++ (name ++ l.behindName))
      = .ok (some l.boundary) := by
  have hne : name ≠ [] := by
    rw [← List.length_pos_iff, hlen]
    exact List.length_pos_iff.mpr l.names.hostName_ne
  let names : ServerNames := ⟨name, l.names.moreNames, l.names.behindList, hne⟩
  let parts : LocatedParts := { l.toLocatedParts with names := names }
  have hlist : names.list.length = l.names.list.length := by
    simp only [names, ServerNames.list, List.length_append, length_vec, hlen]
  have hnames : names.encode.length = l.names.encode.length := by
    simp only [ServerNames.encode, List.length_append, length_vec, hlist]
    rfl
  have hblock : parts.block.length = l.block.length := by
    simp only [parts, LocatedParts.block, List.length_append, length_vec,
      hnames]
  have hmessage : parts.message.length = l.message.length := by
    simp only [LocatedParts.message, List.length_append, length_vec, hblock]
    rfl
  have hbody : parts.body.length = l.body.length := by
    simp only [LocatedParts.body, List.length_append, length_vec, hmessage]
    rfl
  let l' : Located := ⟨parts, by rw [hbody]; exact l.body_lt⟩
  have hboundary : l'.boundary = l.boundary := by
    simp only [Located.boundary, SniBoundary.mk.injEq]
    exact ⟨rfl, rfl, hlen⟩
  have hbefore : parts.beforeName = l.beforeName := by
    simp only [LocatedParts.beforeName, hbody, hmessage, hblock]
    simp only [parts, hnames, hlist, names, hlen]
  have hsame : l'.encode = l.beforeName ++ (name ++ l.behindName) := by
    show parts.encode = _
    rw [parts.encode_split, hbefore]
    rfl
  rw [← hsame, ← hboundary]
  exact findSniBoundary_located l'

/-- The record with the host name at `start` re-cased: as long as it was,
not the same, other at letters of the name only and there up to case, and
walked to the same range. -/
structure Recased (record out : Bytes) (start len : Nat) : Prop where
  length : out.length = record.length
  changed : out ≠ record
  letters : ∀ i, out[i]? ≠ record[i]? → start ≤ i ∧ i < start + len
    ∧ ∃ b, record[i]? = some b ∧ isAsciiAlphabetic b = true
  caseless : out.map toAsciiLower = record.map toAsciiLower
  range : findSniRange out = .ok (some (start, len))

theorem map_lower_of_recases {name name' : Bytes}
    (h : List.Forall₂ Recases name name') :
    name'.map toAsciiLower = name.map toAsciiLower := by
  induction h with
  | nil => rfl
  | cons hb _ ih => rw [List.map_cons, List.map_cons, hb.lower, ih]

/-- Where a re-cased name differs, the name has a letter. -/
theorem letter_of_recases {name name' : Bytes}
    (h : List.Forall₂ Recases name name') {i : Nat}
    (hi : name'[i]? ≠ name[i]?) :
    ∃ b, name[i]? = some b ∧ isAsciiAlphabetic b = true := by
  induction h generalizing i with
  | nil => exact absurd rfl hi
  | @cons b b' name name' hb _ ih =>
      cases i with
      | zero =>
          rcases hb with rfl | ⟨hletter, -⟩
          · exact absurd rfl hi
          · exact ⟨b, rfl, hletter⟩
      | succ i => exact ih hi

/-- Writing a re-cased name over the host name. -/
theorem ClientHello.Located.recased (l : Located) {name : Bytes}
    (h : List.Forall₂ Recases l.names.hostName name)
    (hne : name ≠ l.names.hostName) :
    Recased l.encode (spliceAt l.encode l.boundary.nameStart name)
      l.boundary.nameStart l.boundary.nameLen := by
  have hlen : name.length = l.names.hostName.length := h.length_eq.symm
  have hstart := l.length_beforeName
  have hsplice : spliceAt l.encode l.boundary.nameStart name
      = l.beforeName ++ (name ++ l.behindName) := by
    have hbehind : l.encode.drop (l.boundary.nameStart + name.length)
        = l.behindName := by
      rw [l.encode_split, ← hstart, hlen, ← List.drop_drop, List.drop_left,
        List.drop_left]
    rw [spliceAt, hbehind, l.encode_split, ← hstart, List.take_left,
      List.append_assoc]
  rw [hsplice]
  refine ⟨?_, ?_, ?_, ?_, ?_⟩
  · rw [l.encode_split]
    simp only [List.length_append, hlen]
  · intro heq
    rw [l.encode_split] at heq
    have htail := List.append_cancel_left heq
    exact hne (List.append_cancel_right htail)
  · intro i hi
    rw [l.encode_split] at hi ⊢
    by_cases hbefore : i < l.beforeName.length
    · rw [List.getElem?_append_left hbefore,
        List.getElem?_append_left hbefore] at hi
      exact absurd rfl hi
    · obtain ⟨j, rfl⟩ : ∃ j, i = l.beforeName.length + j :=
        ⟨i - l.beforeName.length, by omega⟩
      rw [List.getElem?_append_right (Nat.le_add_right _ _),
        List.getElem?_append_right (Nat.le_add_right _ _),
        Nat.add_sub_cancel_left] at hi
      rw [List.getElem?_append_right (Nat.le_add_right _ _),
        Nat.add_sub_cancel_left]
      by_cases hname : j < l.names.hostName.length
      · rw [List.getElem?_append_left (by omega),
          List.getElem?_append_left hname] at hi
        rw [List.getElem?_append_left hname]
        refine ⟨by omega, ?_, letter_of_recases h hi⟩
        show _ < l.boundary.nameStart + l.names.hostName.length
        omega
      · rw [List.getElem?_append_right (by omega),
          List.getElem?_append_right (by omega), hlen] at hi
        exact absurd rfl hi
  · rw [l.encode_split]
    simp only [List.map_append, map_lower_of_recases h]
  · rw [findSniRange, l.renamed hlen]
    rfl

-- ======================================================== the contract

/-- What is promised of `apply`: it answers for the records with a letter
in their host name, and what it answers is the record re-cased. -/
def MixedCaseSni.MeetsContract (t : MixedCaseSni) (rng : UInt64)
    (record : Bytes) : Prop :=
  ((∃ out, t.apply rng record = .ok (some out)) ↔ SniHasLetter record)
  ∧ ∀ out, t.apply rng record = .ok (some out) →
      ∃ start len, findSniRange record = .ok (some (start, len))
        ∧ Recased record out start len

/-- What is written over the host name. -/
def MixedCaseSni.newName (t : MixedCaseSni) (rng : UInt64) (name : Bytes) :
    Option Bytes :=
  if t.flipAll then some (flipLetters name) else randomCaseName rng name

section

variable (t : MixedCaseSni) (rng : UInt64) (l : Located)

theorem MixedCaseSni.apply_located :
    t.apply rng l.encode = .ok ((t.newName rng l.names.hostName).map
      (spliceAt l.encode l.boundary.nameStart)) := by
  unfold apply
  rw [l.findSniRange_eq]
  simp only [pure, Except.pure, bind, Except.bind, l.take_hostName]
  unfold newName
  by_cases hall : t.flipAll = true
  · rw [if_pos hall, if_pos hall]
    rfl
  · rw [if_neg hall, if_neg hall]

theorem MixedCaseSni.answers_iff :
    (∃ out, t.apply rng l.encode = .ok (some out))
      ↔ ∃ name, t.newName rng l.names.hostName = some name := by
  rw [t.apply_located]
  cases t.newName rng l.names.hostName with
  | none =>
      constructor
      · rintro ⟨_, ⟨⟩⟩
      · rintro ⟨_, ⟨⟩⟩
  | some name => exact ⟨fun _ => ⟨name, rfl⟩, fun _ => ⟨_, rfl⟩⟩

/-- A name with a letter gets a new name, another one up to case. -/
theorem MixedCaseSni.newName_letter
    {name : Bytes} (h : name.any isAsciiAlphabetic = true) :
    ∃ name', t.newName rng name = some name' ∧ name' ≠ name
      ∧ List.Forall₂ Recases name name' := by
  unfold newName
  by_cases hall : t.flipAll = true
  · rw [if_pos hall]
    exact ⟨_, rfl, flipLetters_letter h, recases_flipLetters name⟩
  · rw [if_neg hall]
    obtain ⟨name', hname, -, hne⟩ := randomCaseName_letter rng h
    exact ⟨name', hname, hne, recases_randomCaseName hname⟩

/-- A name without one gets one from the inverting mode only. -/
theorem MixedCaseSni.newName_no_letter
    {name : Bytes} (h : name.any isAsciiAlphabetic = false) :
    (∃ name', t.newName rng name = some name') ↔ t.flipAll = true := by
  unfold newName
  by_cases hall : t.flipAll = true
  · rw [if_pos hall]
    exact ⟨fun _ => hall, fun _ => ⟨_, rfl⟩⟩
  · rw [if_neg hall, randomCaseName_no_letter rng h]
    refine ⟨?_, fun h => absurd h hall⟩
    rintro ⟨_, ⟨⟩⟩

theorem sniHasLetter_located : SniHasLetter l.encode
    ↔ l.names.hostName.any isAsciiAlphabetic = true := by
  constructor
  · rintro ⟨start, len, h, hletter⟩
    rw [l.findSniRange_eq] at h
    cases h
    rwa [l.take_hostName] at hletter
  · exact fun h => ⟨_, _, l.findSniRange_eq, by rwa [l.take_hostName]⟩

end

/-- Without a name there is no answer. -/
theorem MixedCaseSni.range_of_apply {t : MixedCaseSni} {rng : UInt64}
    {record out : Bytes} (h : t.apply rng record = .ok (some out)) :
    ∃ start len, findSniRange record = .ok (some (start, len)) := by
  obtain ⟨range, hrange, h⟩ := bind_eq_ok.mp h
  cases range with
  | none => cases h
  | some range => exact ⟨range.1, range.2, hrange⟩

/-- The contract holds on every record, but for a name without letters
when all letters are to be inverted: the record is handed back as a
change of itself. -/
theorem MixedCaseSni.meetsContract_iff (t : MixedCaseSni) (rng : UInt64)
    (record : Bytes) :
    t.MeetsContract rng record
      ↔ (t.flipAll = true →
          (∃ start len, findSniRange record = .ok (some (start, len))) →
            SniHasLetter record) := by
  by_cases hrange : ∃ start len, findSniRange record = .ok (some (start, len))
  · obtain ⟨start, len, hrange'⟩ := hrange
    obtain ⟨l, rfl, -, -⟩ := located_of_findSniRange hrange'
    by_cases hletter : l.names.hostName.any isAsciiAlphabetic = true
    · obtain ⟨name, hname, hne, hcases⟩ := t.newName_letter rng hletter
      have hhas := (sniHasLetter_located l).mpr hletter
      refine ⟨fun _ _ _ => hhas, fun _ => ⟨?_, fun out hout => ?_⟩⟩
      · exact ⟨fun _ => hhas, fun _ => (t.answers_iff rng l).mpr ⟨name, hname⟩⟩
      · rw [t.apply_located, hname] at hout
        cases hout
        exact ⟨_, _, l.findSniRange_eq, l.recased hcases hne⟩
    · have hhas := mt (sniHasLetter_located l).mp hletter
      rw [Bool.not_eq_true] at hletter
      have hanswers := (t.answers_iff rng l).trans
        (t.newName_no_letter rng hletter)
      constructor
      · rintro ⟨hiff, -⟩ hall -
        exact hiff.mp (hanswers.mpr hall)
      · intro hcond
        have hrandom : t.flipAll ≠ true :=
          fun hall => hhas (hcond hall ⟨start, len, hrange'⟩)
        have hnone : ¬ ∃ out, t.apply rng l.encode = .ok (some out) :=
          mt hanswers.mp hrandom
        exact ⟨⟨fun h => absurd h hnone, fun h => absurd h hhas⟩,
          fun out h => absurd ⟨out, h⟩ hnone⟩
  · have hnone : ¬ ∃ out, t.apply rng record = .ok (some out) :=
      fun ⟨_, h⟩ => hrange (range_of_apply h)
    have hhas : ¬ SniHasLetter record :=
      fun ⟨start, len, h, _⟩ => hrange ⟨start, len, h⟩
    refine ⟨fun _ _ h => absurd h hrange, fun _ => ⟨?_, ?_⟩⟩
    · exact ⟨fun h => absurd h hnone, fun h => absurd h hhas⟩
    · exact fun out h => absurd ⟨out, h⟩ hnone

/-- A ClientHello for the host `1.23`. -/
def sampleNumericHello : Bytes :=
  [0x16, 3, 1, 0, 60, 0x01, 0, 0, 56, 3, 3]
    ++ List.replicate 32 0
    ++ [0, 0, 2, 0x13, 0x01, 1, 0, 0, 13]
    ++ [0, 0, 0, 9, 0, 7, 0, 0, 4, 0x31, 0x2E, 0x32, 0x33]

/-- With every letter to be inverted, a numeric name is answered with the
record as it came. -/
theorem flip_all_returns_numeric_name :
    findSniRange sampleNumericHello = .ok (some (61, 4))
      ∧ ((sampleNumericHello.drop 61).take 4).any isAsciiAlphabetic = false
      ∧ MixedCaseSni.apply ⟨true⟩ 0 sampleNumericHello
        = .ok (some sampleNumericHello)
      ∧ ¬ MixedCaseSni.MeetsContract ⟨true⟩ 0 sampleNumericHello := by
  have happly : MixedCaseSni.apply ⟨true⟩ 0 sampleNumericHello
      = .ok (some sampleNumericHello) := by
    decide
  refine ⟨?_, ?_, happly, ?_⟩
  · decide
  · decide
  · rintro ⟨-, h⟩
    obtain ⟨start, len, -, hrecased⟩ := h _ happly
    exact hrecased.changed rfl

end ZeroDpi
