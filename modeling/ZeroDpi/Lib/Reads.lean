/-
A byte stream read piece by piece.

A stream that another party cuts up is the list of its pieces, in the
order they arrive. `readSome` is one read into a buffer: it returns what
fits of the next piece and puts the rest back. `readFull` reads until a
given number of elements is there, `reads` until a limit or the end. An
empty piece is no arrival, so the end of the list is the only end of the
stream.

The pieces are somebody else's choice. What the reads promise is said
of the flattened stream: what was read and what is left make it up again.

The last section is for programs that read and write in `EStateM`: a
program is run by replacing each of its steps by the step's result.
-/

namespace ZeroDpi.Lib

variable {α β ε σ : Type}

-- ============================================================= the reads

/-- The rest of a piece goes back to the front. -/
def putBack (rest : List α) (pieces : List (List α)) : List (List α) :=
  if rest.isEmpty then pieces else rest :: pieces

/-- One read into a buffer of `size` elements; nothing is read only at
the end of the stream. -/
def readSome (size : Nat) : List (List α) → List α × List (List α)
  | [] => ([], [])
  | [] :: pieces => readSome size pieces
  | (a :: piece) :: pieces =>
      ((a :: piece).take size, putBack ((a :: piece).drop size) pieces)

/-- Reads until `n` elements are there; `none` when the stream ends
first. -/
def readFull : Nat → List (List α) → Option (List α × List (List α))
  | 0, pieces => some ([], pieces)
  | _ + 1, [] => none
  | n + 1, piece :: pieces =>
      if n + 1 ≤ piece.length then
        some (piece.take (n + 1), putBack (piece.drop (n + 1)) pieces)
      else
        (readFull (n + 1 - piece.length) pieces).map
          fun r => (piece ++ r.1, r.2)

@[simp] theorem flatten_putBack (rest : List α) (pieces : List (List α)) :
    (putBack rest pieces).flatten = rest ++ pieces.flatten := by
  unfold putBack
  cases rest with
  | nil => rfl
  | cons a rest => rfl

@[simp] theorem putBack_nil (pieces : List (List α)) :
    putBack [] pieces = pieces := rfl

/-- A read takes the front of the stream. -/
theorem readSome_append (size : Nat) (pieces : List (List α)) :
    (readSome size pieces).1 ++ (readSome size pieces).2.flatten
      = pieces.flatten := by
  induction pieces with
  | nil => rfl
  | cons piece pieces ih =>
      cases piece with
      | nil => exact ih
      | cons a piece =>
          simp only [readSome, flatten_putBack, List.flatten_cons]
          rw [← List.append_assoc, List.take_append_drop]

/-- A read with room for an element is empty only at the end. -/
theorem readSome_eq_nil {size : Nat} (hsize : 0 < size)
    {pieces : List (List α)} (h : (readSome size pieces).1 = []) :
    pieces.flatten = [] := by
  induction pieces with
  | nil => rfl
  | cons piece pieces ih =>
      cases piece with
      | nil => exact ih h
      | cons a piece =>
          obtain ⟨n, rfl⟩ := Nat.exists_eq_succ_of_ne_zero
            (Nat.pos_iff_ne_zero.mp hsize)
          cases h

/-- A piece that fits the buffer is read in one go. -/
theorem readSome_piece {size : Nat} {piece : List α} (hne : piece ≠ [])
    (hfits : piece.length ≤ size) (pieces : List (List α)) :
    readSome size (piece :: pieces) = (piece, pieces) := by
  obtain ⟨a, rest, rfl⟩ := List.exists_cons_of_ne_nil hne
  simp only [readSome]
  rw [List.take_of_length_le hfits, List.drop_of_length_le hfits, putBack_nil]

/-- A long enough stream gives its first `n` elements, however it is
cut. -/
theorem readFull_spec : ∀ (pieces : List (List α)) (n : Nat),
    n ≤ pieces.flatten.length →
      ∃ left, readFull n pieces = some (pieces.flatten.take n, left)
        ∧ left.flatten = pieces.flatten.drop n := by
  intro pieces
  induction pieces with
  | nil =>
      intro n hn
      obtain rfl : n = 0 := by simpa using hn
      exact ⟨[], rfl, rfl⟩
  | cons piece pieces ih =>
      intro n hn
      cases n with
      | zero => exact ⟨piece :: pieces, rfl, rfl⟩
      | succ n =>
          rw [List.flatten_cons, List.length_append] at hn
          unfold readFull
          by_cases hfits : n + 1 ≤ piece.length
          · rw [if_pos hfits]
            refine ⟨putBack (piece.drop (n + 1)) pieces, ?_, ?_⟩
            · rw [List.flatten_cons, List.take_append_of_le_length hfits]
            · rw [flatten_putBack, List.flatten_cons,
                List.drop_append_of_le_length hfits]
          · obtain ⟨left, hleft, hrest⟩ :=
              ih (n + 1 - piece.length) (by omega)
            have hshort : piece.length ≤ n + 1 := by omega
            rw [if_neg hfits, hleft]
            refine ⟨left, ?_, ?_⟩
            · rw [List.flatten_cons, List.take_append,
                List.take_of_length_le hshort]
              rfl
            · rw [hrest, List.flatten_cons, List.drop_append,
                List.drop_of_length_le hshort, List.nil_append]

/-- Reading inside the first piece leaves the rest of it. -/
theorem readFull_piece {n : Nat} {piece : List α} (hpos : 0 < n)
    (hfits : n ≤ piece.length) (pieces : List (List α)) :
    readFull n (piece :: pieces)
      = some (piece.take n, putBack (piece.drop n) pieces) := by
  obtain ⟨n, rfl⟩ := Nat.exists_eq_succ_of_ne_zero
    (Nat.pos_iff_ne_zero.mp hpos)
  exact if_pos hfits

/-- Reading what was put back takes exactly that. -/
theorem readFull_putBack (front : List α) (pieces : List (List α)) :
    readFull front.length (putBack front pieces) = some (front, pieces) := by
  cases front with
  | nil =>
      unfold readFull
      rfl
  | cons a front =>
      have hpos : 0 < (a :: front).length := Nat.succ_pos _
      show readFull _ ((a :: front) :: pieces) = _
      rw [readFull_piece hpos (Nat.le_refl _), List.take_length,
        List.drop_length, putBack_nil]

-- ====================================================== reading to a limit

/-- What a loop reads that has room for `room` elements and reads at most
`size` at a time: it ends with the room or with the stream. -/
def reads (size : Nat) : Nat → List (List α) → List (List α)
  | 0, _ => []
  | room + 1, pieces =>
      match readSome (min size (room + 1)) pieces with
      | ([], _) => []
      | (a :: read, left) => (a :: read) :: reads size (room - read.length) left
termination_by room => room

/-- A read is as long as the buffer at most. -/
theorem readSome_length_le (size : Nat) (pieces : List (List α)) :
    (readSome size pieces).1.length ≤ size := by
  induction pieces with
  | nil => exact Nat.zero_le size
  | cons piece pieces ih =>
      cases piece with
      | nil => exact ih
      | cons a piece => exact List.length_take_le _ _

theorem length_le_of_mem_reads {size room : Nat} {pieces : List (List α)}
    {read : List α} (h : read ∈ reads size room pieces) :
    read.length ≤ size := by
  induction room using Nat.strongRecOn generalizing pieces with
  | _ room ih =>
      cases room with
      | zero =>
          rw [reads] at h
          cases h
      | succ room =>
          rw [reads] at h
          have hlength := readSome_length_le (min size (room + 1)) pieces
          revert h hlength
          rcases readSome (min size (room + 1)) pieces with ⟨_ | ⟨a, first⟩, left⟩
          · intro h _
            cases h
          · intro h hlength
            rcases List.mem_cons.mp h with rfl | hlater
            · exact Nat.le_trans hlength (Nat.min_le_left _ _)
            · exact ih (room - first.length) (by omega) hlater

/-- Together the reads are the front of the stream. -/
theorem flatten_reads {size room : Nat} (hsize : 0 < room → 0 < size)
    (pieces : List (List α)) :
    (reads size room pieces).flatten = pieces.flatten.take room := by
  induction room using Nat.strongRecOn generalizing pieces with
  | _ room ih =>
      cases room with
      | zero =>
          rw [reads]
          rfl
      | succ room =>
          have hlength := readSome_length_le (min size (room + 1)) pieces
          have hfront := readSome_append (min size (room + 1)) pieces
          have hend : (readSome (min size (room + 1)) pieces).1 = []
              → pieces.flatten = [] :=
            readSome_eq_nil
              (Nat.lt_min.mpr ⟨hsize (Nat.succ_pos room), Nat.succ_pos room⟩)
          rw [reads]
          revert hlength hfront hend
          rcases readSome (min size (room + 1)) pieces with ⟨_ | ⟨a, first⟩, left⟩
          · intro _ _ hend
            rw [hend rfl]
            rfl
          · intro hlength hfront _
            have hfits : (a :: first).length ≤ room + 1 :=
              Nat.le_trans hlength (Nat.min_le_right _ _)
            have hroom : room + 1 - (a :: first).length = room - first.length := by
              rw [List.length_cons]
              omega
            show (a :: first) ++ (reads size (room - first.length) left).flatten = _
            rw [ih (room - first.length) (by omega)
                fun _ => hsize (Nat.succ_pos room), ← hfront,
              List.take_append, List.take_of_length_le hfits, hroom]

/-- A piece that fits is the next read. -/
theorem reads_cons {size room : Nat} {piece : List α} (hne : piece ≠ [])
    (hsize : piece.length ≤ size) (hroom : piece.length ≤ room)
    (pieces : List (List α)) :
    reads size room (piece :: pieces)
      = piece :: reads size (room - piece.length) pieces := by
  obtain ⟨a, rest, rfl⟩ := List.exists_cons_of_ne_nil hne
  obtain ⟨room, rfl⟩ : ∃ n, room = n + 1 :=
    Nat.exists_eq_succ_of_ne_zero (by rintro rfl; cases hroom)
  rw [reads, readSome_piece hne (Nat.le_min.mpr ⟨hsize, hroom⟩)]
  show (a :: rest) :: reads size (room - rest.length) pieces = _
  rw [List.length_cons, Nat.add_sub_add_right]

/-- The first read is the front of a piece. -/
theorem reads_cons_take {size room : Nat} {piece : List α} (hne : piece ≠ [])
    (hsize : 0 < size) (hroom : 0 < room) (pieces : List (List α)) :
    ∃ later, reads size room (piece :: pieces)
      = piece.take (min size room) :: later := by
  obtain ⟨a, rest, rfl⟩ := List.exists_cons_of_ne_nil hne
  obtain ⟨room, rfl⟩ := Nat.exists_eq_succ_of_ne_zero
    (Nat.pos_iff_ne_zero.mp hroom)
  obtain ⟨n, hn⟩ := Nat.exists_eq_succ_of_ne_zero
    (Nat.pos_iff_ne_zero.mp (Nat.lt_min.mpr ⟨hsize, hroom⟩))
  rw [reads, readSome, hn]
  exact ⟨_, rfl⟩

-- ====================================================== stateful programs

/-- A step that succeeds hands its result and its state on. -/
theorem run_bind_ok {x : EStateM ε σ α} {f : α → EStateM ε σ β} {s s' : σ}
    {a : α} (h : x s = .ok a s') : (x >>= f) s = f a s' := by
  show EStateM.bind x f s = _
  unfold EStateM.bind
  rw [h]

/-- A step that fails ends the program. -/
theorem run_bind_error {x : EStateM ε σ α} {f : α → EStateM ε σ β}
    {s s' : σ} {e : ε} (h : x s = .error e s') :
    (x >>= f) s = .error e s' := by
  show EStateM.bind x f s = _
  unfold EStateM.bind
  rw [h]

end ZeroDpi.Lib
