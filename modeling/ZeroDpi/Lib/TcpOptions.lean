/-
The options of a TCP header as their format has them.

An option is a single NOP byte, or a kind, a length that counts kind and
length themselves, and a content. An area is read from its start, option
by option, up to an end-of-list byte or its end; what is read so is a
prefix of every other reading (`prefix_of_filled`), so that `Reaches` says
what any receiver finds.
-/
import ZeroDpi.Lib.Slice

namespace ZeroDpi.Lib

/-- One option, other than the end of the list. -/
inductive TcpOption where
  | nop
  | sized (kind : UInt8) (content : List UInt8) (named : 2 ≤ kind.toNat)
      (fits : content.length + 2 < 256)

namespace TcpOption

/-- The kind byte. -/
def kind : TcpOption → UInt8
  | nop => 1
  | sized kind _ _ _ => kind

/-- What is behind kind and length. -/
def content : TcpOption → List UInt8
  | nop => []
  | sized _ content _ _ => content

/-- The option in bytes. -/
def encode : TcpOption → List UInt8
  | nop => [1]
  | sized kind content _ _ =>
      kind :: (content.length + 2).toUInt8 :: content

/-- The options one behind the other. -/
def encodeAll (os : List TcpOption) : List UInt8 := os.flatMap encode

@[simp] theorem encodeAll_nil : encodeAll [] = [] := rfl

@[simp] theorem encodeAll_cons (o : TcpOption) (os : List TcpOption) :
    encodeAll (o :: os) = o.encode ++ encodeAll os := List.flatMap_cons

@[simp] theorem encodeAll_append (os os' : List TcpOption) :
    encodeAll (os ++ os') = encodeAll os ++ encodeAll os' :=
  List.flatMap_append

/-- The length byte of an option reads back. -/
theorem toNat_lengthByte {content : List UInt8}
    (h : content.length + 2 < 256) :
    (content.length + 2).toUInt8.toNat = content.length + 2 :=
  Nat.mod_eq_of_lt h

/-- The first byte is the kind, and no end of the list. -/
theorem head_encode (o : TcpOption) (rest : List UInt8) :
    (o.encode ++ rest)[0]? = some o.kind ∧ o.kind ≠ 0 := by
  cases o with
  | nop =>
      refine ⟨rfl, ?_⟩
      show (1 : UInt8) ≠ 0
      decide
  | sized kind content named fits =>
      refine ⟨rfl, ?_⟩
      show kind ≠ 0
      rintro rfl
      exact absurd named (by decide)

/-- An option and what follows it can be told apart. -/
theorem encode_append_inj {o o' : TcpOption} {rest rest' : List UInt8}
    (h : o.encode ++ rest = o'.encode ++ rest') : o = o' ∧ rest = rest' := by
  have hkind : o.kind = o'.kind := by
    have h1 := (head_encode o rest).1
    rw [h, (head_encode o' rest').1] at h1
    exact (Option.some.inj h1).symm
  cases o with
  | nop =>
      cases o' with
      | nop => exact ⟨rfl, (List.cons.inj h).2⟩
      | sized kind content named fits =>
          obtain rfl : 1 = kind := hkind
          exact absurd named (by decide)
  | sized kind content named fits =>
      cases o' with
      | nop =>
          obtain rfl : kind = 1 := hkind
          exact absurd named (by decide)
      | sized kind' content' named' fits' =>
          obtain ⟨hkinds, hbytes⟩ := List.cons.inj h
          obtain ⟨hlen, hcontents⟩ := List.cons.inj hbytes
          have hlength : content.length = content'.length := by
            have hnat := congrArg UInt8.toNat hlen
            rw [toNat_lengthByte fits, toNat_lengthByte fits'] at hnat
            omega
          obtain ⟨rfl, hrest⟩ := List.append_inj hcontents hlength
          obtain rfl : kind = kind' := hkinds
          exact ⟨rfl, hrest⟩

@[simp] theorem length_encode_sized {kind : UInt8} {content : List UInt8}
    (named : 2 ≤ kind.toNat) (fits : content.length + 2 < 256) :
    (sized kind content named fits).encode.length = content.length + 2 := rfl

/-- A kind, a length and room for what the length counts are an option. -/
theorem exists_sized {kind len : UInt8} {rest : List UInt8}
    (named : 2 ≤ kind.toNat) (hmin : 2 ≤ len.toNat)
    (hroom : len.toNat ≤ rest.length + 2) :
    ∃ content tail fits, rest = content ++ tail
      ∧ content.length + 2 = len.toNat
      ∧ kind :: len :: rest
        = (sized kind content named fits).encode ++ tail := by
  have hlt := len.toNat_lt
  have hlen : (rest.take (len.toNat - 2)).length + 2 = len.toNat := by
    rw [List.length_take]
    omega
  refine ⟨rest.take (len.toNat - 2), rest.drop (len.toNat - 2), by omega,
    (List.take_append_drop _ _).symm, hlen, ?_⟩
  have hbyte : len.toNat.toUInt8 = len := UInt8.ofNat_toNat
  show _ = kind :: ((rest.take _).length + 2).toUInt8 :: (_ ++ _)
  rw [hlen, hbyte, List.take_append_drop]

/-- An option takes at least a byte. -/
theorem length_le_encodeAll (os : List TcpOption) :
    os.length ≤ (encodeAll os).length := by
  induction os with
  | nil => exact Nat.le_refl _
  | cons o os ih =>
      have hpos : 1 ≤ o.encode.length := by
        cases o with
        | nop => exact Nat.le_refl _
        | sized kind content named fits =>
            rw [length_encode_sized]
            omega
      rw [encodeAll_cons, List.length_append, List.length_cons]
      omega

/-- Nothing, or an end of the list with anything behind it. -/
def Ends (pad : List UInt8) : Prop := pad = [] ∨ pad.head? = some 0

/-- What is read of an area is read of it by every reading that goes on to
where it ends. -/
theorem prefix_of_filled {os read : List TcpOption} {pad rest : List UInt8}
    (hpad : Ends pad) (h : encodeAll os ++ pad = encodeAll read ++ rest) :
    ∃ os', os = read ++ os' ∧ rest = encodeAll os' ++ pad := by
  induction read generalizing os with
  | nil => exact ⟨os, rfl, h.symm⟩
  | cons o read ih =>
      rw [encodeAll_cons, List.append_assoc] at h
      cases os with
      | nil =>
          exfalso
          obtain ⟨hhead, hne⟩ := head_encode o (encodeAll read ++ rest)
          rw [← h, encodeAll_nil, List.nil_append] at hhead
          rcases hpad with rfl | hzero
          · cases hhead
          · rw [List.head?_eq_getElem?, hhead] at hzero
            exact hne (Option.some.inj hzero)
      | cons o' os =>
          rw [encodeAll_cons, List.append_assoc] at h
          obtain ⟨hsame, htail⟩ := encode_append_inj h
          obtain ⟨os', hos, hrest⟩ := ih htail
          exact ⟨os', by rw [hsame, hos, List.cons_append], hrest⟩

/-- A walk from the start of the area comes to the option. -/
def Reaches (area : List UInt8) (o : TcpOption) : Prop :=
  ∃ read rest, area = encodeAll read ++ (o.encode ++ rest)

theorem reaches_of_mem {os : List TcpOption} {o : TcpOption} (h : o ∈ os)
    (pad : List UInt8) : Reaches (encodeAll os ++ pad) o := by
  obtain ⟨before, behind, rfl⟩ := List.append_of_mem h
  exact ⟨before, encodeAll behind ++ pad, by
    rw [encodeAll_append, encodeAll_cons, List.append_assoc,
      List.append_assoc]⟩

/-- In an area that ends there, only its options are reached. -/
theorem reaches_iff_mem {os : List TcpOption} {pad : List UInt8}
    (hpad : Ends pad) (o : TcpOption) :
    Reaches (encodeAll os ++ pad) o ↔ o ∈ os := by
  refine ⟨?_, fun h => reaches_of_mem h pad⟩
  rintro ⟨read, rest, h⟩
  have hread : encodeAll os ++ pad = encodeAll (read ++ [o]) ++ rest := by
    rw [h, encodeAll_append, encodeAll_cons, encodeAll_nil, List.append_nil,
      List.append_assoc]
  obtain ⟨os', rfl, -⟩ := prefix_of_filled hpad hread
  simp

end TcpOption

end ZeroDpi.Lib
