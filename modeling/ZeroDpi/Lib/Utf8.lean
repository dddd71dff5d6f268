/-
Texts and their UTF-8 bytes, both as lists.

The code is read back by one rule: a text's bytes are those of no other
text, and behind the bytes of a text only bytes of a text make one again
(`decode_append`).
-/
import Mathlib.Data.List.Basic

namespace ZeroDpi.Lib.Utf8

/-- A text in UTF-8. -/
def encode (s : List Char) : List UInt8 := s.flatMap String.utf8EncodeChar

/-- The text of a list of bytes, if they are the bytes of one. -/
def decode (b : List UInt8) : Option (List Char) :=
  b.toByteArray.utf8Decode?.map Array.toList

@[simp] theorem encode_nil : encode [] = [] := rfl

@[simp] theorem encode_cons (c : Char) (s : List Char) :
    encode (c :: s) = String.utf8EncodeChar c ++ encode s :=
  List.flatMap_cons

@[simp] theorem encode_append (s t : List Char) :
    encode (s ++ t) = encode s ++ encode t :=
  List.flatMap_append

theorem encode_mono {s t : List Char} (h : s <+: t) :
    encode s <+: encode t := by
  obtain ⟨behind, rfl⟩ := h
  rw [encode_append]
  exact List.prefix_append _ _

theorem toByteArray_encode (s : List Char) :
    (encode s).toByteArray = s.utf8Encode := rfl

@[simp] theorem decode_encode (s : List Char) : decode (encode s) = some s := by
  unfold decode
  rw [toByteArray_encode, List.utf8Decode?_utf8Encode]
  simp

theorem decode_eq_some_iff {b : List UInt8} {s : List Char} :
    decode b = some s ↔ encode s = b := by
  constructor
  · intro h
    unfold decode at h
    obtain ⟨chars, hchars, rfl⟩ := Option.map_eq_some_iff.mp h
    have hvalid : b.toByteArray.utf8Decode?.isSome = true := by
      rw [hchars]
      rfl
    have hback := ByteArray.utf8Encode_get_utf8Decode? (h := hvalid)
    have hbytes : (encode chars.toList).toByteArray = b.toByteArray := by
      rw [toByteArray_encode, ← hback]
      simp only [hchars, Option.get_some]
    have hlists := congrArg (fun a : ByteArray => a.data.toList) hbytes
    simpa only [List.toList_data_toByteArray] using hlists
  · rintro rfl
    exact decode_encode s

/-- A text has no other text's bytes. -/
theorem encode_inj {s t : List Char} (h : encode s = encode t) : s = t := by
  have hs := decode_encode s
  rw [h, decode_encode] at hs
  exact (Option.some.inj hs).symm

theorem length_le_length_encode (s : List Char) :
    s.length ≤ (encode s).length := by
  induction s with
  | nil => exact Nat.le_refl 0
  | cons c s ih =>
      have hc : 0 < c.utf8Size := Char.utf8Size_pos c
      rw [encode_cons, List.length_append, String.length_utf8EncodeChar,
        List.length_cons]
      omega

/-- Behind one character's bytes. -/
theorem decode_char_append (c : Char) (b : List UInt8) :
    decode (String.utf8EncodeChar c ++ b) = (decode b).map (c :: ·) := by
  unfold decode
  have hbytes : (String.utf8EncodeChar c ++ b).toByteArray
      = [c].utf8Encode ++ b.toByteArray := by
    rw [List.utf8Encode_singleton, List.toByteArray_append]
  rw [hbytes, ByteArray.utf8Decode?_utf8Encode_singleton_append]
  cases b.toByteArray.utf8Decode? with
  | none => rfl
  | some chars => simp

/-- Behind the bytes of a text only the bytes of a text make one. -/
theorem decode_append (s : List Char) (b : List UInt8) :
    decode (encode s ++ b) = (decode b).map (s ++ ·) := by
  induction s with
  | nil => simp
  | cons c s ih =>
      rw [encode_cons, List.append_assoc, decode_char_append, ih]
      cases decode b <;> rfl

end ZeroDpi.Lib.Utf8
