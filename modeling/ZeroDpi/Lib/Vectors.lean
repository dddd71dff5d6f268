/-
Byte strings behind a length field, as wire formats nest them.

A vector of width `w` is its content behind the content's length in `w`
big-endian bytes. A reader that goes by offsets sees a front, a field at
its end, and room behind the field; `exists_vec` turns that into a vector
and what follows it, and `slice?_field`, `slice?_content` are the way back.
-/
import Mathlib.Algebra.Ring.Nat
import ZeroDpi.Lib.Slice

namespace ZeroDpi.Lib

-- ================================================== numbers in `w` bytes

/-- Bytes as a big-endian number. -/
def beNat : List UInt8 → Nat
  | [] => 0
  | b :: bs => b.toNat * 256 ^ bs.length + beNat bs

/-- The `w` big-endian bytes of a number, truncated to that width. -/
def beBytes : Nat → Nat → List UInt8
  | 0, _ => []
  | w + 1, n => (n / 256 ^ w).toUInt8 :: beBytes w n

@[simp] theorem length_beBytes (w n : Nat) : (beBytes w n).length = w := by
  induction w with
  | zero => rfl
  | succ w ih => rw [beBytes, List.length_cons, ih]

theorem beBytes_one (n : Nat) : beBytes 1 n = [n.toUInt8] := by
  simp [beBytes]

theorem beBytes_two (n : Nat) : beBytes 2 n = toBe16 n := by
  simp [beBytes, toBe16]

theorem beNat_singleton (a : UInt8) : beNat [a] = a.toNat := by
  simp [beNat]

theorem beNat_pair (a b : UInt8) : beNat [a, b] = be16 a b := by
  simp [beNat, be16]

theorem beNat_triple (a b c : UInt8) : beNat [a, b, c] = be24 a b c := by
  simp [beNat, be24, Nat.add_assoc]

theorem beNat_lt (bs : List UInt8) : beNat bs < 256 ^ bs.length := by
  induction bs with
  | nil => exact Nat.one_pos
  | cons b bs ih =>
      have hb := b.toNat_lt
      have hmul : b.toNat * 256 ^ bs.length ≤ 255 * 256 ^ bs.length :=
        Nat.mul_le_mul_right _ (by omega)
      rw [beNat, List.length_cons, Nat.pow_succ]
      omega

/-- Writing depends on the number below the width only. -/
theorem beBytes_add_mul (w c n : Nat) :
    beBytes w (c * 256 ^ w + n) = beBytes w n := by
  induction w generalizing c with
  | zero => rfl
  | succ w ih =>
      have hcarry : c * 256 ^ (w + 1) + n = c * 256 * 256 ^ w + n := by
        rw [Nat.pow_succ, Nat.mul_comm (256 ^ w) 256, Nat.mul_assoc]
      have hdigit : (c * 256 * 256 ^ w + n) / 256 ^ w
          = c * 256 + n / 256 ^ w := by
        rw [Nat.add_comm, Nat.add_mul_div_right _ _ (Nat.pow_pos (by omega)),
          Nat.add_comm]
      have hbyte : (c * 256 + n / 256 ^ w).toUInt8
          = (n / 256 ^ w).toUInt8 := by
        apply UInt8.toNat.inj
        show (c * 256 + n / 256 ^ w) % 256 = n / 256 ^ w % 256
        omega
      rw [beBytes, beBytes, hcarry, ih, hdigit, hbyte]

/-- Writing what was read gives the bytes back. -/
theorem beBytes_beNat (bs : List UInt8) :
    beBytes bs.length (beNat bs) = bs := by
  induction bs with
  | nil => rfl
  | cons b bs ih =>
      have hhead : (b.toNat * 256 ^ bs.length + beNat bs) / 256 ^ bs.length
          = b.toNat := by
        rw [Nat.add_comm, Nat.add_mul_div_right _ _ (Nat.pow_pos (by omega)),
          Nat.div_eq_of_lt (beNat_lt bs), Nat.zero_add]
      have hbyte : b.toNat.toUInt8 = b := UInt8.ofNat_toNat
      rw [beNat, List.length_cons, beBytes, beBytes_add_mul, ih, hhead, hbyte]

/-- Reading what was written gives the number below the width. -/
theorem beNat_beBytes {w n : Nat} (h : n < 256 ^ w) :
    beNat (beBytes w n) = n := by
  induction w generalizing n with
  | zero =>
      have : n = 0 := by simpa using h
      rw [this]
      rfl
  | succ w ih =>
      have hpos : 0 < 256 ^ w := Nat.pow_pos (by omega)
      have hsplit := Nat.div_add_mod n (256 ^ w)
      have htail : beBytes w n = beBytes w (n % 256 ^ w) := by
        have := beBytes_add_mul w (n / 256 ^ w) (n % 256 ^ w)
        rw [Nat.mul_comm, hsplit] at this
        exact this
      have hhead : n / 256 ^ w < 256 :=
        Nat.div_lt_of_lt_mul (by rw [Nat.pow_succ] at h; exact h)
      have hbyte : (n / 256 ^ w).toUInt8.toNat = n / 256 ^ w := by
        show n / 256 ^ w % 256 = n / 256 ^ w
        exact Nat.mod_eq_of_lt hhead
      rw [beBytes, beNat, length_beBytes, hbyte, htail,
        ih (Nat.mod_lt _ hpos), Nat.mul_comm, hsplit]

-- ======================================================= short lists

theorem eq_pair_of_length {α : Type _} {l : List α} (h : l.length = 2) :
    ∃ a b, l = [a, b] := by
  rcases l with _ | ⟨a, _ | ⟨b, _ | ⟨x, r⟩⟩⟩
  · cases h
  · cases h
  · exact ⟨a, b, rfl⟩
  · cases h

theorem eq_triple_of_length {α : Type _} {l : List α} (h : l.length = 3) :
    ∃ a b c, l = [a, b, c] := by
  rcases l with _ | ⟨a, l⟩
  · cases h
  · obtain ⟨b, c, rfl⟩ := eq_pair_of_length (Nat.succ.inj h)
    exact ⟨a, b, c, rfl⟩

-- ============================================================== slices

/-- A slice of a list is the middle of it. -/
theorem slice?_eq_some {α : Type _} {l m : List α} {lo hi : Nat}
    (h : slice? l lo hi = some m) :
    ∃ front back, l = front ++ (m ++ back) ∧ front.length = lo
      ∧ hi = lo + m.length := by
  unfold slice? at h
  by_cases hrange : lo ≤ hi ∧ hi ≤ l.length
  · rw [if_pos hrange] at h
    obtain rfl := Option.some.inj h
    refine ⟨l.take lo, (l.drop lo).drop (hi - lo), ?_, ?_, ?_⟩
    · rw [List.take_append_drop, List.take_append_drop]
    · rw [List.length_take]
      omega
    · rw [List.length_take, List.length_drop]
      omega
  · rw [if_neg hrange] at h
    cases h

theorem slice?_append {α : Type _} (front m back : List α) {lo hi : Nat}
    (hlo : lo = front.length) (hhi : hi = front.length + m.length) :
    slice? (front ++ (m ++ back)) lo hi = some m := by
  subst hlo hhi
  have hroom : front.length + m.length
      ≤ (front ++ (m ++ back)).length := by
    simp only [List.length_append]
    omega
  rw [slice?, if_pos ⟨Nat.le_add_right _ _, hroom⟩, List.drop_left,
    Nat.add_sub_cancel_left, List.take_left]

/-- The other way to write a slice. -/
theorem take_drop_of_slice {α : Type _} {l m : List α} {lo hi : Nat}
    (h : slice? l lo hi = some m) : (l.take hi).drop lo = m := by
  unfold slice? at h
  by_cases hrange : lo ≤ hi ∧ hi ≤ l.length
  · rw [if_pos hrange] at h
    rw [List.drop_take]
    exact Option.some.inj h
  · rw [if_neg hrange] at h
    cases h

theorem slice?_of_le {α : Type _} {l : List α} {lo hi : Nat} (hlo : lo ≤ hi)
    (hhi : hi ≤ l.length) : ∃ m, slice? l lo hi = some m :=
  ⟨_, if_pos ⟨hlo, hhi⟩⟩

theorem slice?_length {α : Type _} {l m : List α} {lo hi : Nat}
    (h : slice? l lo hi = some m) : m.length = hi - lo ∧ hi ≤ l.length := by
  obtain ⟨front, back, rfl, rfl, rfl⟩ := slice?_eq_some h
  simp only [List.length_append]
  omega

-- ============================================================== vectors

/-- A content behind its length, the length in `w` bytes. -/
def vec (w : Nat) (content : List UInt8) : List UInt8 :=
  beBytes w content.length ++ content

@[simp] theorem length_vec (w : Nat) (content : List UInt8) :
    (vec w content).length = w + content.length := by
  rw [vec, List.length_append, length_beBytes]

variable {front content back field tail : List UInt8} {w : Nat}

/-- A content behind a field that gives its length. -/
theorem vec_eq (hw : field.length = w) (h : content.length = beNat field) :
    vec w content = field ++ content := by
  rw [vec, h, ← hw, beBytes_beNat]

/-- A field with room behind it for what it announces is the field of a
vector. -/
theorem exists_vec (hw : field.length = w)
    (hroom : beNat field ≤ tail.length) :
    ∃ content back, field ++ tail = vec w content ++ back
      ∧ content.length = beNat field ∧ content.length < 256 ^ w := by
  have hlen : (tail.take (beNat field)).length = beNat field := by
    rw [List.length_take]
    omega
  refine ⟨tail.take (beNat field), tail.drop (beNat field), ?_, hlen, ?_⟩
  · rw [vec_eq hw hlen, List.append_assoc, List.take_append_drop]
  · rw [hlen, ← hw]
    exact beNat_lt field

/-- A vector and what follows it can be told apart. -/
theorem vec_append_inj {content' back' : List UInt8}
    (h : vec w content ++ back = vec w content' ++ back')
    (hlt : content.length < 256 ^ w) (hlt' : content'.length < 256 ^ w) :
    content = content' ∧ back = back' := by
  simp only [vec, List.append_assoc] at h
  obtain ⟨hfield, htail⟩ := List.append_inj h (by simp only [length_beBytes])
  have hlen : content.length = content'.length := by
    rw [← beNat_beBytes hlt, hfield, beNat_beBytes hlt']
  exact List.append_inj htail hlen

/-- The same for a field read at the end of a front. -/
theorem vec_of_slice {l : List UInt8} {lo : Nat} (hl : l = front ++ tail)
    (hlo : front.length = lo) (hfield : slice? l lo (lo + w) = some field)
    (hroom : lo + w + beNat field ≤ l.length) :
    ∃ content back, tail = vec w content ++ back
      ∧ content.length = beNat field ∧ content.length < 256 ^ w := by
  obtain ⟨front', back, hl', hlo', hhi⟩ := slice?_eq_some hfield
  have hw : field.length = w := by omega
  rw [hl'] at hroom hl
  obtain ⟨rfl, rfl⟩ := List.append_inj hl (by omega)
  simp only [List.length_append] at hroom
  exact exists_vec hw (by omega)

/-- The length field of a vector behind a front. -/
theorem slice?_field (front content back : List UInt8) {lo hi : Nat}
    (hlo : lo = front.length) (hhi : hi = lo + w) :
    slice? (front ++ (vec w content ++ back)) lo hi
      = some (beBytes w content.length) := by
  rw [vec, List.append_assoc]
  exact slice?_append _ _ _ hlo (by rw [length_beBytes]; omega)

/-- The content of a vector behind a front. -/
theorem slice?_content (front content back : List UInt8) {lo hi : Nat}
    (hlo : lo = front.length + w) (hhi : hi = lo + content.length) :
    slice? (front ++ (vec w content ++ back)) lo hi = some content := by
  have hassoc : front ++ (vec w content ++ back)
      = (front ++ beBytes w content.length) ++ (content ++ back) := by
    simp only [vec, List.append_assoc]
  rw [hassoc]
  exact slice?_append _ _ _
    (by rw [List.length_append, length_beBytes]; exact hlo)
    (by rw [List.length_append, length_beBytes]; omega)

end ZeroDpi.Lib
