/-
A TCP receiver in a 32-bit sequence space.

It expects the byte at `next`. Of a segment it keeps what is not below
that, the last copy of a byte before an earlier one, and it delivers from
`next` on for as long as it holds the byte there. A FIN stands behind the
last byte of its segment; the stream is over once `next` gets to one.

Two ways to send a payload in runs, each behind a lead of other bytes, are
undone by it. In order, a lead is below `next` and trimmed. From the end
to the front nothing is delivered before the first run is there, so a lead
only has to fit into the run that is sent after it.

Where a byte is in no segment, nothing behind it is delivered
(`delivered_le_of_missing`), and nothing behind a FIN
(`delivered_le_of_fin`).
-/
import ZeroDpi.Lib.SeqSpace

namespace ZeroDpi.Lib

/-- Bytes with their places, from `p` on. -/
def place : UInt32 → List UInt8 → List (UInt32 × UInt8)
  | _, [] => []
  | p, b :: rest => (p, b) :: place (p + 1) rest

/-- The state of one direction. -/
structure Receiver where
  next : UInt32
  delivered : List UInt8
  /-- The bytes not delivered yet, the last copies first. -/
  held : List (UInt32 × UInt8)
  fins : List UInt32
  closed : Bool
  deriving DecidableEq

namespace Receiver

/-- A receiver that holds nothing from `next` on. -/
def idle (next : UInt32) (delivered : List UInt8) : Receiver where
  next := next
  delivered := delivered
  held := []
  fins := []
  closed := false

/-- The byte at `next` is delivered. -/
def deliver (r : Receiver) (b : UInt8) : Receiver where
  next := r.next + 1
  delivered := r.delivered ++ [b]
  held := r.held.filter (·.1 ≠ r.next)
  fins := r.fins
  closed := r.closed

/-- Bytes are delivered as long as the next one is there. -/
def drainFuel : Nat → Receiver → Receiver
  | 0, r => r
  | fuel + 1, r =>
      if r.next ∈ r.fins then { r with closed := true }
      else
        match r.held.lookup r.next with
        | none => r
        | some b => drainFuel fuel (r.deliver b)

/-- Deliver what is in sequence: each turn takes a held byte. -/
def drain (r : Receiver) : Receiver := drainFuel (r.held.length + 1) r

/-- `p` is not below `next`. -/
def wants (r : Receiver) (p : UInt32) : Bool :=
  (p - r.next).toNat < 0x80000000

/-- What is kept of a segment, and of its FIN. -/
def keep (r : Receiver) (q : Segment) (fin : Bool) : Receiver where
  next := r.next
  delivered := r.delivered
  held := (place q.seq q.payload).filter (r.wants ·.1) ++ r.held
  fins := if fin then (q.seq + q.payload.length.toUInt32) :: r.fins
    else r.fins
  closed := r.closed

/-- One segment arrives. -/
def accept (r : Receiver) (q : Segment × Bool) : Receiver :=
  if r.closed then r else (r.keep q.1 q.2).drain

/-- Segments arrive one after the other. -/
def receiveAll (r : Receiver) (qs : List (Segment × Bool)) : Receiver :=
  qs.foldl accept r

end Receiver

/-- A payload in runs from `offset` on, run `k` behind the lead
`leads k`. -/
def runs (seq : UInt32) (leads : Nat → List UInt8) :
    Nat → Nat → List (List UInt8) → List Segment
  | _, _, [] => []
  | index, offset, part :: rest =>
      runAt seq offset (leads index) part
        :: runs seq leads (index + 1) (offset + part.length) rest

-- =============================================================== lookups

/-- The distance from one place further on. -/
theorem toNat_sub_succ {p q : UInt32} (h : q ≠ p) :
    0 < (q - p).toNat ∧ (q - (p + 1)).toNat = (q - p).toNat - 1 := by
  have hpos : 0 < (q - p).toNat := by
    rw [Nat.pos_iff_ne_zero]
    intro hzero
    exact h (by grind [UInt32.toNat_inj (a := q - p) (b := 0)])
  have hsub : q - (p + 1) = (q - p) - 1 := by grind
  have hone : (1 : UInt32).toNat = 1 := rfl
  have hlt := (q - p).toNat_lt
  refine ⟨hpos, ?_⟩
  rw [hsub, UInt32.toNat_sub, hone]
  omega

/-- The bytes of a segment, at their places. -/
theorem lookup_place {l : List UInt8} (h : l.length < 0x100000000)
    (p q : UInt32) : (place p l).lookup q = l[(q - p).toNat]? := by
  induction l generalizing p with
  | nil => rfl
  | cons b rest ih =>
      rw [List.length_cons] at h
      rw [place, List.lookup_cons]
      by_cases heq : q = p
      · subst heq
        simp
      · obtain ⟨hpos, hpred⟩ := toNat_sub_succ heq
        rw [beq_eq_false_iff_ne.mpr heq, ih (by omega), hpred,
          List.getElem?_cons, if_neg (Nat.pos_iff_ne_zero.mp hpos)]

/-- And nowhere else. -/
theorem place_of_mem {l : List UInt8} {p : UInt32} {x : UInt32 × UInt8}
    (h : x ∈ place p l) : ∃ i, i < l.length ∧ x.1 = p + i.toUInt32 := by
  induction l generalizing p with
  | nil => cases h
  | cons b rest ih =>
      rw [place, List.mem_cons] at h
      rcases h with rfl | h
      · exact ⟨0, by simp, by simp⟩
      · obtain ⟨i, hi, hx⟩ := ih h
        refine ⟨i + 1, by rw [List.length_cons]; omega, ?_⟩
        rw [hx]
        simp only [Nat.toUInt32_eq, UInt32.ofNat_add]
        grind

/-- A filter on keys hides the keys it drops. -/
theorem lookup_filter {α β : Type} [BEq α] [LawfulBEq α]
    (P : α → Bool) (l : List (α × β)) (k : α) :
    (l.filter (P ·.1)).lookup k = if P k then l.lookup k else none := by
  induction l with
  | nil => simp
  | cons x rest ih =>
      obtain ⟨a, b⟩ := x
      rw [List.filter_cons]
      by_cases hk : k = a
      · subst hk
        by_cases hx : P k = true
        · simp only [hx, if_true, List.lookup_cons_self]
        · simp only [hx, Bool.false_eq_true, if_false, ih]
      · have hne : (k == a) = false := beq_eq_false_iff_ne.mpr hk
        have hrest : ((a, b) :: rest).lookup k = rest.lookup k := by
          rw [List.lookup_cons, hne]
        rw [hrest, ← ih]
        by_cases hx : P a = true
        · simp only [hx, if_true, List.lookup_cons, hne]
        · simp only [hx, Bool.false_eq_true, if_false]

-- ============================================================== delivery

namespace Receiver

/-- A delivery uses up a byte. -/
theorem deliver_held_lt {r : Receiver} {b : UInt8}
    (h : r.held.lookup r.next = some b) :
    (r.deliver b).held.length < r.held.length := by
  obtain ⟨front, back, heq, -⟩ := List.lookup_eq_some_iff.mp h
  refine List.length_filter_lt_length_iff_exists.mpr ⟨(r.next, b), ?_, ?_⟩
  · rw [heq]
    simp
  · simp

/-- One turn more than there are held bytes is enough. -/
theorem drainFuel_eq {fuel fuel' : Nat} {r : Receiver}
    (h : r.held.length < fuel) (h' : r.held.length < fuel') :
    drainFuel fuel r = drainFuel fuel' r := by
  induction fuel generalizing r fuel' with
  | zero => omega
  | succ fuel ih =>
      obtain ⟨fuel', rfl⟩ : ∃ k, fuel' = k + 1 := ⟨fuel' - 1, by omega⟩
      simp only [drainFuel]
      split
      · rfl
      · cases hb : r.held.lookup r.next with
        | none => rfl
        | some b =>
            have hlt := deliver_held_lt hb
            exact ih (by omega) (by omega)

/-- Delivery byte by byte. -/
theorem drain_deliver {r : Receiver} {b : UInt8}
    (hb : r.held.lookup r.next = some b) (hfin : r.next ∉ r.fins) :
    r.drain = (r.deliver b).drain := by
  have hlt := deliver_held_lt hb
  rw [drain, drainFuel, if_neg hfin, hb]
  exact drainFuel_eq (by omega) (by omega)

/-- Nothing is delivered where the next byte is missing. -/
theorem drain_of_none {r : Receiver} (h : r.held.lookup r.next = none)
    (hfin : r.next ∉ r.fins) : r.drain = r := by
  rw [drain, drainFuel, if_neg hfin, h]

/-- Nor behind the end. -/
theorem drain_of_fin {r : Receiver} (hfin : r.next ∈ r.fins) :
    r.drain = { r with closed := true } := by
  rw [drain, drainFuel, if_pos hfin]

/-- The bytes `l` from `next` on are delivered. -/
def advance (r : Receiver) (l : List UInt8) : Receiver where
  next := r.next + l.length.toUInt32
  delivered := r.delivered ++ l
  held := r.held.filter (fun x => l.length ≤ (x.1 - r.next).toNat)
  fins := r.fins
  closed := r.closed

/-- One byte after the other. -/
theorem advance_deliver (r : Receiver) (b : UInt8) (l : List UInt8) :
    (r.deliver b).advance l = r.advance (b :: l) := by
  have hnext : r.next + 1 + l.length.toUInt32
      = r.next + (l.length + 1).toUInt32 := by
    simp only [Nat.toUInt32_eq, UInt32.ofNat_add]
    grind
  have hheld : r.held.filter (fun x =>
        decide (l.length ≤ (x.1 - (r.next + 1)).toNat)
          && decide (x.1 ≠ r.next))
      = r.held.filter (fun x => l.length + 1 ≤ (x.1 - r.next).toNat) := by
    refine List.filter_congr fun x _ => ?_
    rw [← Bool.decide_and, decide_eq_decide]
    by_cases hx : x.1 = r.next
    · simp [hx]
    · obtain ⟨hpos, hpred⟩ := toNat_sub_succ hx
      simp only [hpred, hx, ne_eq, not_false_eq_true, and_true]
      omega
  rw [advance, advance, List.length_cons, ← hheld, ← hnext]
  simp only [deliver, List.append_assoc, List.singleton_append,
    List.filter_filter]
  rfl

/-- What is in sequence is delivered before anything else happens. -/
theorem drain_advance {r : Receiver} {l : List UInt8}
    (hlen : l.length < 0x100000000)
    (h : ∀ i, i < l.length →
      r.held.lookup (r.next + i.toUInt32) = l[i]?
        ∧ r.next + i.toUInt32 ∉ r.fins) :
    r.drain = (r.advance l).drain := by
  induction l generalizing r with
  | nil =>
      have hall : r.held.filter (fun _ => true) = r.held :=
        List.filter_eq_self.mpr fun _ _ => rfl
      have hsame : r.advance [] = r := by
        simp [advance, hall]
      rw [hsame]
  | cons b rest ih =>
      rw [List.length_cons] at hlen
      obtain ⟨hb, hfin⟩ := h 0 (by simp)
      have hzero : r.next + (0 : Nat).toUInt32 = r.next :=
        UInt32.add_zero _
      rw [hzero] at hb hfin
      rw [drain_deliver hb hfin, ← advance_deliver r b rest]
      refine ih (by omega) fun i hi => ?_
      obtain ⟨hbyte, hfins⟩ := h (i + 1) (by simpa using hi)
      have hplace : r.next + (i + 1).toUInt32
          = r.next + 1 + i.toUInt32 := by
        simp only [Nat.toUInt32_eq, UInt32.ofNat_add]
        grind
      rw [hplace] at hbyte hfins
      refine ⟨?_, hfins⟩
      have hother : r.next + 1 + i.toUInt32 ≠ r.next := by
        intro hsame
        have hback : (i + 1).toUInt32 = 0 := by grind
        have hnat : (i + 1).toUInt32.toNat = i + 1 :=
          Nat.mod_eq_of_lt (by omega)
        rw [hback] at hnat
        cases hnat
      have hfilter := lookup_filter (fun p => decide (p ≠ r.next)) r.held
        (r.next + 1 + i.toUInt32)
      rw [if_pos (decide_eq_true hother)] at hfilter
      exact hfilter.trans hbyte

/-- What is held after a segment. -/
theorem lookup_keep (r : Receiver) {q : Segment}
    (h : q.payload.length < 0x100000000) (fin : Bool) (p : UInt32) :
    (r.keep q fin).held.lookup p
      = (if r.wants p then q.payload[(p - q.seq).toNat]? else none).or
          (r.held.lookup p) := by
  rw [keep, List.lookup_append, lookup_filter, lookup_place h]

-- ============================================================== in order

variable {seq next : UInt32} {lead part : List UInt8} {offset : Nat}

/-- Places that do not wrap. -/
theorem toNat_add_of_lt {a : UInt32} {n k : Nat} (ha : a.toNat = k)
    (h : k + n < 0x100000000) : (a + n.toUInt32).toNat = k + n := by
  have hn : n.toUInt32.toNat = n := Nat.mod_eq_of_lt (by omega)
  rw [UInt32.toNat_add, ha, hn]
  exact Nat.mod_eq_of_lt h

theorem toNat_ofNat_lt {n : Nat} (h : n < 0x100000000) :
    n.toUInt32.toNat = n := Nat.mod_eq_of_lt h

/-- Behind a lead that is below `next` a segment has the bytes from `next`
on: they are delivered, and nothing is held of it. -/
theorem accept_next {q : Segment} (hpay : q.payload = lead ++ part)
    (hseq : q.seq = next - lead.length.toUInt32)
    (hlead : lead.length < 0x80000000) (hpart : part.length < 0x80000000)
    (d : List UInt8) (fin : Bool) :
    (idle next d).accept (q, fin)
      = { next := next + part.length.toUInt32
          delivered := d ++ part
          held := []
          fins := if fin then [next + part.length.toUInt32] else []
          closed := fin } := by
  have hlen : q.payload.length = lead.length + part.length := by
    rw [hpay, List.length_append]
  have hend : q.seq + q.payload.length.toUInt32
      = next + part.length.toUInt32 := by
    rw [hlen, hseq]
    simp only [Nat.toUInt32_eq, UInt32.ofNat_add]
    grind
  have hdist : ∀ p, p - q.seq = (p - next) + lead.length.toUInt32 := by
    intro p
    rw [hseq]
    grind
  have hfins : ((idle next d).keep q fin).fins
      = if fin then [next + part.length.toUInt32] else [] := by
    rw [keep, hend]
    rfl
  have hseqd : ∀ i, i < part.length →
      ((idle next d).keep q fin).held.lookup (next + i.toUInt32) = part[i]?
        ∧ next + i.toUInt32 ∉ ((idle next d).keep q fin).fins := by
    intro i hi
    have hi' : (next + i.toUInt32 - next).toNat = i := by
      have hcancel : next + i.toUInt32 - next = i.toUInt32 := by grind
      rw [hcancel, toNat_ofNat_lt (by omega)]
    constructor
    · have hwants : (idle next d).wants (next + i.toUInt32) = true := by
        rw [wants, decide_eq_true_eq]
        show (next + i.toUInt32 - next).toNat < _
        omega
      rw [lookup_keep _ (by omega), if_pos hwants, hdist,
        toNat_add_of_lt hi' (by omega), hpay,
        List.getElem?_append_right (by omega), Nat.add_sub_cancel]
      exact Option.or_none
    · rw [hfins]
      cases fin with
      | false => simp
      | true =>
          simp only [if_true, List.mem_singleton]
          intro hsame
          have hback : i.toUInt32 = part.length.toUInt32 := by grind
          have hnat := congrArg UInt32.toNat hback
          rw [toNat_ofNat_lt (by omega), toNat_ofNat_lt (by omega)] at hnat
          omega
  have hheld : ((idle next d).keep q fin).held.filter
      (fun x => part.length ≤ (x.1 - next).toNat) = [] := by
    rw [List.filter_eq_nil_iff]
    intro x hx
    rw [keep, List.mem_append, List.mem_filter, wants,
      decide_eq_true_eq] at hx
    rcases hx with ⟨hx, hwants⟩ | hx
    · obtain ⟨i, hi, heq⟩ := place_of_mem hx
      have hsub : x.1 - next = i.toUInt32 - lead.length.toUInt32 := by
        rw [heq, hseq]
        grind
      have hnat := toNat_sub_eq hsub (by omega) (by omega)
      have hbelow : (x.1 - next).toNat < 0x80000000 := hwants
      rw [decide_eq_true_eq]
      omega
    · cases hx
  have hopen : ¬ (idle next d).closed = true := Bool.false_ne_true
  rw [accept, if_neg hopen, drain_advance (by omega) hseqd]
  have hadvance : ((idle next d).keep q fin).advance part
      = { next := next + part.length.toUInt32
          delivered := d ++ part
          held := []
          fins := if fin then [next + part.length.toUInt32] else []
          closed := false } := by
    rw [← hheld, ← hfins]
    rfl
  rw [hadvance]
  cases fin with
  | false => exact drain_of_none rfl List.not_mem_nil
  | true => exact drain_of_fin List.mem_cons_self

/-- Runs that come in order are delivered one by one. -/
theorem receiveAll_runs {leads : Nat → List UInt8}
    (hleads : ∀ k, (leads k).length < 0x80000000)
    {parts : List (List UInt8)} (hparts : parts.flatten.length < 0x80000000)
    (index offset : Nat) (d : List UInt8) :
    (idle (seq + offset.toUInt32) d).receiveAll
        ((runs seq leads index offset parts).map (·, false))
      = idle (seq + (offset + parts.flatten.length).toUInt32)
          (d ++ parts.flatten) := by
  induction parts generalizing index offset d with
  | nil => simp [runs, receiveAll]
  | cons part rest ih =>
      rw [List.flatten_cons, List.length_append] at hparts
      have hseq : (runAt seq offset (leads index) part).seq
          = seq + offset.toUInt32 - (leads index).length.toUInt32 := rfl
      have hplace : ∀ m n : Nat, seq + (m + n).toUInt32
          = seq + m.toUInt32 + n.toUInt32 := by
        intro m n
        simp only [Nat.toUInt32_eq, UInt32.ofNat_add]
        grind
      have hstep := accept_next rfl hseq (hleads index) (by omega) d false
      have hrest := ih (by omega) (index + 1) (offset + part.length)
        (d ++ part)
      rw [runs, List.map_cons, receiveAll, List.foldl_cons, hstep,
        List.flatten_cons, List.length_append, ← Nat.add_assoc,
        ← List.append_assoc, ← hrest, hplace]
      rfl

-- ====================================================== back to front

/-- Nothing is delivered yet, the payload is held from `off` on, and
nothing of it from before `lo`. -/
structure Holding (seq : UInt32) (payload : List UInt8) (lo off : Nat)
    (r : Receiver) : Prop where
  next : r.next = seq
  delivered : r.delivered = []
  fins : r.fins = []
  closed : r.closed = false
  right : ∀ p, off ≤ (p - seq).toNat →
    r.held.lookup p = payload[(p - seq).toNat]?
  below : ∀ p, (p - seq).toNat < lo → r.held.lookup p = none

variable {payload : List UInt8} {lo off : Nat} {r : Receiver}

/-- A run is kept in front of what is held. -/
theorem Holding.keep (h : Holding seq payload lo (offset + part.length) r)
    (hpart : part <+: payload.drop offset)
    (hpay : payload.length < 0x80000000)
    (hlo : offset ≤ lo) (hlead : lead.length ≤ offset)
    (hoff : offset + part.length ≤ payload.length) :
    Holding seq payload (offset - lead.length) offset
      (r.keep (runAt seq offset lead part) false) := by
  have hlen : (runAt seq offset lead part).payload.length
      = lead.length + part.length := by
    simp only [runAt, List.length_append]
  have hat := @lookup_keep r (runAt seq offset lead part) (by omega) false
  have hwants : ∀ p, r.wants p = true ↔ (p - seq).toNat < 0x80000000 := by
    intro p
    rw [wants, h.next, decide_eq_true_eq]
  -- the distance from the first byte of the run, lead and all
  have hdist : ∀ p, (p - seq).toNat < 0x80000000 →
      (p - (runAt seq offset lead part).seq).toNat
        = (0x100000000 - offset + ((p - seq).toNat + lead.length))
          % 0x100000000 := by
    intro p hp
    refine toNat_sub_eq ?_ (by omega) (by omega)
    have hback : (p - seq).toNat.toUInt32 = p - seq := UInt32.ofNat_toNat
    simp only [Nat.toUInt32_eq] at hback
    simp only [runAt, Nat.toUInt32_eq, UInt32.ofNat_add, hback]
    grind
  obtain ⟨rest, hrest⟩ := hpart
  refine ⟨h.next, h.delivered, h.fins, h.closed, fun p hp => ?_,
    fun p hp => ?_⟩
  · rw [hat p]
    by_cases hnear : (p - seq).toNat < 0x80000000
    · have hbyte : (lead ++ part)[(p - (runAt seq offset lead part).seq).toNat]?
          = part[(p - seq).toNat - offset]? := by
        have hindex : (p - (runAt seq offset lead part).seq).toNat
            = lead.length + ((p - seq).toNat - offset) := by
          rw [hdist p hnear]
          omega
        rw [hindex, List.getElem?_append_right (by omega),
          Nat.add_sub_cancel_left]
      rw [if_pos ((hwants p).mpr hnear)]
      by_cases hin : (p - seq).toNat - offset < part.length
      · have hpayload : part[(p - seq).toNat - offset]?
            = payload[(p - seq).toNat]? := by
          rw [← List.getElem?_append_left hin, hrest, List.getElem?_drop,
            Nat.add_sub_cancel' hp]
        have hsome := List.getElem?_eq_getElem hin
        calc ((lead ++ part)[(p
                - (runAt seq offset lead part).seq).toNat]?).or _
            = (part[(p - seq).toNat - offset]?).or _ := by rw [hbyte]
          _ = part[(p - seq).toNat - offset]? := by
              rw [hsome, Option.some_or]
          _ = payload[(p - seq).toNat]? := hpayload
      · have hnone := List.getElem?_eq_none (Nat.le_of_not_lt hin)
        calc ((lead ++ part)[(p
                - (runAt seq offset lead part).seq).toNat]?).or _
            = (part[(p - seq).toNat - offset]?).or _ := by rw [hbyte]
          _ = r.held.lookup p := by rw [hnone, Option.none_or]
          _ = payload[(p - seq).toNat]? := h.right p (by omega)
    · rw [if_neg (fun hw => hnear ((hwants p).mp hw)), Option.none_or]
      exact h.right p (by omega)
  · have hnear : (p - seq).toNat < 0x80000000 := by omega
    have hnone : (runAt seq offset lead part).payload[(p
        - (runAt seq offset lead part).seq).toNat]? = none := by
      refine List.getElem?_eq_none ?_
      rw [hdist p hnear, hlen]
      omega
    rw [hat p, if_pos ((hwants p).mpr hnear), hnone, Option.none_or]
    exact h.below p (by omega)

/-- Before the first byte is there nothing is delivered. -/
theorem Holding.drain_eq (h : Holding seq payload lo off r) (hlo : 0 < lo) :
    r.drain = r := by
  have hzero : (r.next - seq).toNat = 0 := by
    rw [h.next, UInt32.sub_self]
    rfl
  refine drain_of_none (h.below r.next (by omega)) ?_
  rw [h.fins]
  exact List.not_mem_nil

/-- Once it is, everything is. -/
theorem Holding.drain_all (h : Holding seq payload lo 0 r)
    (hpay : payload.length < 0x80000000) :
    r.drain.delivered = payload ∧ r.drain.closed = false
      ∧ r.drain.next = seq + payload.length.toUInt32 := by
  have hdist : ∀ i, i ≤ payload.length →
      (r.next + i.toUInt32 - seq).toNat = i := by
    intro i hi
    have hcancel : r.next + i.toUInt32 - seq = i.toUInt32 := by
      rw [h.next]
      grind
    rw [hcancel, toNat_ofNat_lt (by omega)]
  have hright : ∀ i, i ≤ payload.length →
      r.held.lookup (r.next + i.toUInt32) = payload[i]? := by
    intro i hi
    rw [h.right _ (Nat.zero_le _), hdist i hi]
  have hnofin : ∀ p, p ∉ r.fins := by
    intro p
    rw [h.fins]
    exact List.not_mem_nil
  have hend : (r.advance payload).held.lookup (r.advance payload).next
      = none := by
    have hfilter := lookup_filter
      (fun p => decide (payload.length ≤ (p - r.next).toNat)) r.held
      (r.next + payload.length.toUInt32)
    rw [hright _ (Nat.le_refl _), List.getElem?_eq_none (Nat.le_refl _),
      ite_self] at hfilter
    exact hfilter
  rw [drain_advance (by omega)
      (fun i hi => ⟨hright i (by omega), hnofin _⟩),
    drain_of_none hend (hnofin _)]
  refine ⟨?_, h.closed, ?_⟩
  · rw [advance, h.delivered, List.nil_append]
  · rw [advance, h.next]

/-- The runs from `offset` on, received back to front: held, since the
payload does not start there. -/
theorem holding_runs {leads : Nat → List UInt8}
    {parts : List (List UInt8)} (hpay : payload.length < 0x80000000)
    {index offset : Nat} (hrest : payload.drop offset = parts.flatten)
    (hle : offset ≤ payload.length)
    (hlead : ∀ k, (leads k).length < offset)
    (hfit : ∀ before part after, parts = before ++ part :: after →
      after ≠ [] → ∀ k, (leads k).length < part.length) :
    ∃ lo, 0 < lo ∧ offset ≤ lo + (leads index).length
      ∧ (parts = [] → lo = offset)
      ∧ Holding seq payload lo offset
          (((runs seq leads index offset parts).map (·, false)).foldr
            (fun q r => r.accept q) (idle seq [])) := by
  induction parts generalizing index offset with
  | nil =>
      have hall : payload.length ≤ offset := List.drop_eq_nil_iff.mp hrest
      refine ⟨offset, Nat.zero_lt_of_lt (hlead 0), Nat.le_add_right _ _,
        fun _ => rfl, rfl, rfl, rfl, rfl, fun p hp => ?_, fun p hp => rfl⟩
      rw [List.getElem?_eq_none (Nat.le_trans hall hp)]
      rfl
  | cons part rest ih =>
      have hsplit : payload.drop offset = part ++ rest.flatten := hrest
      have hlen := congrArg List.length hsplit
      rw [List.length_drop, List.length_append] at hlen
      have hnext : payload.drop (offset + part.length) = rest.flatten := by
        rw [← List.drop_drop, hsplit, List.drop_left]
      obtain ⟨lo, hpos, hlo, hempty, hhold⟩ := @ih (index + 1) _ hnext
        (by omega)
        (fun k => Nat.lt_of_lt_of_le (hlead k) (Nat.le_add_right _ _))
        (fun before p after hp => hfit (part :: before) p after
          (congrArg _ hp))
      -- the lead of the run behind fits into this one
      have hbelow : offset ≤ lo := by
        by_cases hlast : rest = []
        · rw [hempty hlast]
          exact Nat.le_add_right _ _
        · have := hfit [] part rest rfl hlast (index + 1)
          omega
      have hbefore := hlead index
      have hkeep : Holding seq payload (offset - (leads index).length)
          offset (keep _ (runAt seq offset (leads index) part) false) :=
        hhold.keep ⟨rest.flatten, hsplit.symm⟩ hpay hbelow (by omega)
          (by omega)
      refine ⟨offset - (leads index).length, by omega, by omega,
        fun h => (List.cons_ne_nil _ _ h).elim, ?_⟩
      have hopen : ¬ (((runs seq leads (index + 1) (offset + part.length)
          rest).map (·, false)).foldr (fun q r => r.accept q)
            (idle seq [])).closed = true := by
        rw [hhold.closed]
        exact Bool.false_ne_true
      rw [runs, List.map_cons, List.foldr_cons, accept, if_neg hopen,
        hkeep.drain_eq (by omega)]
      exact hkeep

/-- Runs that come back to front are delivered with the first of them. -/
theorem receiveAll_reverse {leads : Nat → List UInt8}
    {parts : List (List UInt8)} (hpay : parts.flatten.length < 0x80000000)
    (hfirst : leads 0 = [])
    (hne : ∀ part ∈ parts, part ≠ [])
    (hfit : ∀ before part after, parts = before ++ part :: after →
      after ≠ [] → ∀ k, (leads k).length < part.length) (seq : UInt32) :
    let r := (idle seq []).receiveAll
      ((runs seq leads 0 0 parts).reverse.map (·, false))
    r.delivered = parts.flatten ∧ r.closed = false
      ∧ r.next = seq + parts.flatten.length.toUInt32 := by
  simp only [receiveAll, List.map_reverse, List.foldl_reverse]
  cases parts with
  | nil => exact ⟨rfl, rfl, (UInt32.add_zero seq).symm⟩
  | cons part rest =>
      have hpos := List.length_pos_iff.mpr (hne part List.mem_cons_self)
      have hlen : (part :: rest).flatten.length
          = part.length + rest.flatten.length := by
        rw [List.flatten_cons, List.length_append]
      have hhold : ∃ lo, Holding seq (part :: rest).flatten lo
          (0 + part.length)
          (((runs seq leads (0 + 1) (0 + part.length) rest).map
            (·, false)).foldr (fun q r => r.accept q) (idle seq [])) := by
        rw [Nat.zero_add, Nat.zero_add]
        by_cases hlast : rest = []
        · subst hlast
          refine ⟨part.length, rfl, rfl, rfl, rfl, fun p hp => ?_,
            fun p hp => rfl⟩
          rw [List.getElem?_eq_none (by simpa using hp)]
          rfl
        · obtain ⟨lo, -, -, -, hhold⟩ := @holding_runs seq _ leads rest hpay
            1 _ List.drop_left (by omega) (hfit [] part rest rfl hlast)
            (fun before p after hp => hfit (part :: before) p after
              (congrArg _ hp))
          exact ⟨lo, hhold⟩
      obtain ⟨lo, hhold⟩ := hhold
      have hkeep : Holding seq (part :: rest).flatten
          (0 - (leads 0).length) 0
          (keep _ (runAt seq 0 (leads 0) part) false) :=
        hhold.keep (List.prefix_append _ _) hpay (Nat.zero_le _)
          (by rw [hfirst]; exact Nat.le_refl _) (by omega)
      have hopen : ¬ (((runs seq leads (0 + 1) (0 + part.length) rest).map
          (·, false)).foldr (fun q r => r.accept q)
            (idle seq [])).closed = true := by
        rw [hhold.closed]
        exact Bool.false_ne_true
      rw [runs, List.map_cons, List.foldr_cons, accept, if_neg hopen]
      exact hkeep.drain_all hpay

-- ================================================== what never gets there

/-- `next` is not past byte `k` of what begins at `seq` and does not get
past it: the byte is not there, or a FIN stands in front of it. -/
structure Stuck (seq : UInt32) (k : Nat) (r : Receiver) : Prop where
  next : r.next = seq + r.delivered.length.toUInt32
  short : r.delivered.length ≤ k
  stop : r.held.lookup (seq + k.toUInt32) = none
    ∨ seq + k.toUInt32 ∈ r.fins

variable {k : Nat}

/-- At the start nothing has passed the gap. -/
theorem stuck_idle (seq : UInt32) (k : Nat) : Stuck seq k (idle seq []) where
  next := (UInt32.add_zero seq).symm
  short := Nat.zero_le k
  stop := .inl rfl

/-- A delivery does not pass it. -/
theorem Stuck.deliver {b : UInt8} (h : Stuck seq k r)
    (hb : r.held.lookup r.next = some b) (hfin : r.next ∉ r.fins) :
    Stuck seq k (r.deliver b) := by
  have hne : r.delivered.length ≠ k := by
    intro heq
    have hat : r.next = seq + k.toUInt32 := by rw [h.next, heq]
    rcases h.stop with hnone | hend
    · rw [← hat, hb] at hnone
      cases hnone
    · exact hfin (hat ▸ hend)
  have hlen : (r.deliver b).delivered.length = r.delivered.length + 1 :=
    List.length_append
  have hshort := h.short
  refine ⟨?_, by omega, ?_⟩
  · show r.next + 1 = _
    rw [hlen, h.next]
    simp only [Nat.toUInt32_eq, UInt32.ofNat_add]
    grind
  · refine h.stop.imp_left fun hnone => ?_
    have hfilter := lookup_filter (fun p => decide (p ≠ r.next)) r.held
      (seq + k.toUInt32)
    rw [hnone, ite_self] at hfilter
    exact hfilter

/-- Nor do several. -/
theorem Stuck.drain (h : Stuck seq k r) : Stuck seq k r.drain := by
  have hfuel : ∀ (fuel : Nat) {r : Receiver}, Stuck seq k r →
      Stuck seq k (drainFuel fuel r) := by
    intro fuel
    induction fuel with
    | zero => exact fun h => h
    | succ fuel ih =>
        intro r h
        rw [drainFuel]
        split
        · exact ⟨h.next, h.short, h.stop⟩
        case isFalse hfin =>
          cases hb : r.held.lookup r.next with
          | none => exact h
          | some b => exact ih (h.deliver hb hfin)
  exact hfuel _ h

/-- Delivering forgets no end. -/
theorem drain_fins (r : Receiver) : r.drain.fins = r.fins := by
  have hfuel : ∀ (fuel : Nat) (r : Receiver),
      (drainFuel fuel r).fins = r.fins := by
    intro fuel
    induction fuel with
    | zero => exact fun _ => rfl
    | succ fuel ih =>
        intro r
        rw [drainFuel]
        split
        · rfl
        · cases r.held.lookup r.next with
          | none => rfl
          | some b => exact ih (r.deliver b)
  exact hfuel _ r

/-- A segment that lacks the byte, or comes behind the FIN, changes
nothing about that. -/
theorem Stuck.accept {q : Segment} {fin : Bool} (h : Stuck seq k r)
    (hlen : q.payload.length < 0x100000000)
    (hq : q.payload.length ≤ (seq + k.toUInt32 - q.seq).toNat
      ∨ seq + k.toUInt32 ∈ r.fins) :
    Stuck seq k (r.accept (q, fin)) := by
  rw [Receiver.accept]
  split
  · exact h
  · refine Stuck.drain ⟨h.next, h.short, ?_⟩
    have hfins : ∀ p ∈ r.fins, p ∈ (r.keep q fin).fins := by
      intro p hp
      rw [Receiver.keep]
      split
      · exact List.mem_cons_of_mem _ hp
      · exact hp
    rcases hq with hmiss | hend
    · refine h.stop.imp ?_ (hfins _)
      intro hnone
      rw [lookup_keep r hlen, List.getElem?_eq_none hmiss, ite_self, hnone]
      rfl
    · exact .inr (hfins _ hend)

/-- Nor does accepting. -/
theorem accept_fins {q : Segment × Bool} {p : UInt32} (h : p ∈ r.fins) :
    p ∈ (r.accept q).fins := by
  rw [accept]
  split
  · exact h
  · rw [drain_fins, keep]
    split
    · exact List.mem_cons_of_mem _ h
    · exact h

/-- A byte that no segment has is never passed. -/
theorem Stuck.receiveAll {qs : List (Segment × Bool)} (h : Stuck seq k r)
    (hlen : ∀ x ∈ qs, x.1.payload.length < 0x100000000)
    (hmiss : ∀ x ∈ qs,
      x.1.payload.length ≤ (seq + k.toUInt32 - x.1.seq).toNat) :
    Stuck seq k (r.receiveAll qs) := by
  induction qs generalizing r with
  | nil => exact h
  | cons x qs ih =>
      obtain ⟨hx, hqs⟩ := List.forall_mem_cons.mp hlen
      obtain ⟨hm, hms⟩ := List.forall_mem_cons.mp hmiss
      exact ih (h.accept hx (.inl hm)) hqs hms

/-- Nor is a FIN. -/
theorem Stuck.receiveAll_fin {qs : List (Segment × Bool)} (h : Stuck seq k r)
    (hend : seq + k.toUInt32 ∈ r.fins)
    (hlen : ∀ x ∈ qs, x.1.payload.length < 0x100000000) :
    Stuck seq k (r.receiveAll qs) := by
  induction qs generalizing r with
  | nil => exact h
  | cons x qs ih =>
      obtain ⟨hx, hqs⟩ := List.forall_mem_cons.mp hlen
      exact ih (h.accept hx (.inr hend)) (accept_fins hend) hqs

/-- A closed direction takes nothing more. -/
theorem receiveAll_closed {qs : List (Segment × Bool)}
    (h : r.closed = true) : r.receiveAll qs = r := by
  induction qs with
  | nil => rfl
  | cons x qs ih =>
      rw [receiveAll, List.foldl_cons, accept, if_pos h]
      exact ih

/-- What is delivered ends before a byte that no segment has. -/
theorem delivered_le_of_missing {qs : List (Segment × Bool)}
    (hlen : ∀ x ∈ qs, x.1.payload.length < 0x100000000)
    (hmiss : ∀ x ∈ qs,
      x.1.payload.length ≤ (seq + k.toUInt32 - x.1.seq).toNat) :
    ((idle seq []).receiveAll qs).delivered.length ≤ k :=
  ((stuck_idle seq k).receiveAll hlen hmiss).short

/-- It ends at the FIN of a segment too, if that one is there before the
first byte is. -/
theorem delivered_le_of_fin {before after : List (Segment × Bool)}
    {q : Segment}
    (hlen : ∀ x ∈ before ++ (q, true) :: after,
      x.1.payload.length < 0x100000000)
    (hmiss : ∀ x ∈ before, x.1.payload.length ≤ (seq - x.1.seq).toNat)
    (hq : q.seq + q.payload.length.toUInt32 = seq + k.toUInt32) :
    ((idle seq []).receiveAll (before ++ (q, true) :: after)).delivered.length
      ≤ k := by
  obtain ⟨hbefore, hrest⟩ := List.forall_mem_append.mp hlen
  obtain ⟨-, hafter⟩ := List.forall_mem_cons.mp hrest
  have hzero : seq + (0 : Nat).toUInt32 = seq := UInt32.add_zero seq
  have hstuck : Stuck seq 0 ((idle seq []).receiveAll before) :=
    (stuck_idle seq 0).receiveAll hbefore (by rw [hzero]; exact hmiss)
  rw [Receiver.receiveAll, List.foldl_append, List.foldl_cons]
  show ((Receiver.accept ((idle seq []).receiveAll before)
    (q, true)).receiveAll after).delivered.length ≤ k
  generalize (idle seq []).receiveAll before = r at hstuck ⊢
  have hnone := Nat.le_zero.mp hstuck.short
  by_cases hclosed : r.closed = true
  · rw [accept, if_pos hclosed, receiveAll_closed hclosed, hnone]
    exact Nat.zero_le k
  · have hend : seq + k.toUInt32 ∈ (r.keep q true).fins := by
      rw [← hq]
      exact List.mem_cons_self
    have hkept : Stuck seq k (r.keep q true) :=
      ⟨hstuck.next, Nat.le_trans (Nat.le_of_eq hnone) (Nat.zero_le k), .inr hend⟩
    rw [accept, if_neg hclosed]
    exact (hkept.drain.receiveAll_fin (by rw [drain_fins]; exact hend)
      hafter).short

-- ================================================ runs that are not sent

/-- A run has no byte from behind its end, and none from in front of its
lead. -/
theorem runAt_misses {offset : Nat}
    (hoff : offset + part.length < 0x80000000)
    (hlead : lead.length < 0x80000000) (hk : k < 0x80000000)
    (h : offset + part.length ≤ k ∨ k + lead.length < offset) :
    (runAt seq offset lead part).payload.length
      ≤ (seq + k.toUInt32 - (runAt seq offset lead part).seq).toNat := by
  have hdist : seq + k.toUInt32 - (runAt seq offset lead part).seq
      = (k + lead.length).toUInt32 - offset.toUInt32 := by
    simp only [runAt, Nat.toUInt32_eq, UInt32.ofNat_add]
    grind
  have hnat := toNat_sub_eq hdist (by omega) (by omega)
  rw [hnat]
  simp only [runAt, List.length_append]
  omega

/-- The first run ends at its own length. -/
theorem runAt_end (seq : UInt32) (lead part : List UInt8) :
    (runAt seq 0 lead part).seq
        + (runAt seq 0 lead part).payload.length.toUInt32
      = seq + part.length.toUInt32 := by
  have hzero : (0 : Nat).toUInt32 = 0 := rfl
  simp only [runAt, List.length_append, Nat.toUInt32_eq, UInt32.ofNat_add]
    at hzero ⊢
  grind

variable {leads : Nat → List UInt8} {parts : List (List UInt8)}

/-- Each of the runs lies in the payload. -/
theorem mem_runs {q : Segment} {index offset : Nat}
    (h : q ∈ runs seq leads index offset parts) :
    ∃ off i part, q = runAt seq off (leads i) part ∧ offset ≤ off
      ∧ off + part.length ≤ offset + parts.flatten.length := by
  induction parts generalizing index offset with
  | nil => cases h
  | cons part rest ih =>
      rw [List.flatten_cons, List.length_append]
      rcases List.mem_cons.mp h with rfl | h
      · exact ⟨offset, index, part, rfl, Nat.le_refl _, by omega⟩
      · obtain ⟨off, i, p, hq, hlow, hhigh⟩ := ih h
        exact ⟨off, i, p, hq, by omega, by omega⟩

/-- The first runs are those of the first parts. -/
theorem take_runs (k index offset : Nat) :
    (runs seq leads index offset parts).take k
      = runs seq leads index offset (parts.take k) := by
  induction parts generalizing k index offset with
  | nil => rw [List.take_nil, runs, List.take_nil]
  | cons part rest ih =>
      cases k with
      | zero => rfl
      | succ k => rw [runs, List.take_succ_cons, ih, List.take_succ_cons, runs]

/-- There is one for each part. -/
theorem length_runs (index offset : Nat) :
    (runs seq leads index offset parts).length = parts.length := by
  induction parts generalizing index offset with
  | nil => rfl
  | cons part rest ih =>
      rw [runs, List.length_cons, List.length_cons, ih]

section Runs

variable (hleads : ∀ i, (leads i).length < 0x80000000)
  (hparts : parts.flatten.length < 0x80000000)
include hleads hparts

/-- Runs are as short as their parts. -/
theorem length_lt_of_mem_runs {q : Segment} {index : Nat}
    (h : q ∈ runs seq leads index 0 parts) :
    q.payload.length < 0x100000000 := by
  obtain ⟨off, i, part, rfl, -, hhigh⟩ := mem_runs h
  have hlead := hleads i
  simp only [runAt, List.length_append]
  omega

/-- Runs that are cut off are delivered no further than they go. -/
theorem delivered_take_runs (k : Nat) (fin : Bool) :
    ((idle seq []).receiveAll (((runs seq leads 0 0 parts).take k).map
      (·, fin))).delivered.length ≤ (parts.take k).flatten.length := by
  have hle : (parts.take k).flatten.length ≤ parts.flatten.length := by
    conv => rhs; rw [← List.take_append_drop k parts]
    rw [List.flatten_append, List.length_append]
    exact Nat.le_add_right _ _
  rw [take_runs]
  refine delivered_le_of_missing ?_ ?_
  · intro x hx
    obtain ⟨q, hq, rfl⟩ := List.mem_map.mp hx
    exact length_lt_of_mem_runs hleads (by omega) hq
  · intro x hx
    obtain ⟨q, hq, rfl⟩ := List.mem_map.mp hx
    obtain ⟨off, i, part, rfl, -, hhigh⟩ := mem_runs hq
    exact runAt_misses (by omega) (hleads i) (by omega) (.inl (by omega))

end Runs

variable {part : List UInt8} {rest : List (List UInt8)}

/-- With FIN on every run, no more than the first is delivered. -/
theorem delivered_runs_fin (hleads : ∀ i, (leads i).length < 0x80000000)
    (hparts : (part :: rest).flatten.length < 0x80000000) :
    ((idle seq []).receiveAll ((runs seq leads 0 0 (part :: rest)).map
      (·, true))).delivered.length ≤ part.length := by
  have hlen : ∀ x ∈ (runs seq leads 0 0 (part :: rest)).map (·, true),
      x.1.payload.length < 0x100000000 := by
    intro x hx
    obtain ⟨q, hq, rfl⟩ := List.mem_map.mp hx
    exact length_lt_of_mem_runs hleads hparts hq
  refine @delivered_le_of_fin seq part.length []
    ((runs seq leads 1 (0 + part.length) rest).map (·, true))
    (runAt seq 0 (leads 0) part) hlen ?_ (runAt_end seq (leads 0) part)
  intro x hx
  cases hx

section Behind

variable (hshort : ∀ i, (leads i).length < part.length)
  (hparts : (part :: rest).flatten.length < 0x80000000)
include hshort hparts

/-- What is behind the first run has nothing of its first byte. -/
theorem misses_of_mem_runs {q : Segment}
    (h : q ∈ runs seq leads 1 part.length rest) :
    q.payload.length < 0x100000000
      ∧ q.payload.length ≤ (seq - q.seq).toNat := by
  rw [List.flatten_cons, List.length_append] at hparts
  obtain ⟨off, i, p, rfl, hlow, hhigh⟩ := mem_runs h
  have hlead := hshort i
  have hzero : seq + (0 : Nat).toUInt32 = seq := UInt32.add_zero seq
  have hmiss := @runAt_misses seq (leads i) p 0 off (by omega) (by omega)
    (by omega) (.inr (by omega))
  rw [hzero] at hmiss
  refine ⟨?_, hmiss⟩
  simp only [runAt, List.length_append]
  omega

/-- Back to front, nothing is delivered without the first run. -/
theorem delivered_take_reverse {k : Nat} (hk : k ≤ rest.length)
    (fin : Bool) :
    ((idle seq []).receiveAll (((runs seq leads 0 0
      (part :: rest)).reverse.take k).map (·, fin))).delivered = [] := by
  have htake : (runs seq leads 0 0 (part :: rest)).reverse.take k
      = (runs seq leads 1 part.length rest).reverse.take k := by
    rw [runs, List.reverse_cons, List.take_append_of_le_length, Nat.zero_add,
      Nat.zero_add]
    rw [List.length_reverse, length_runs]
    exact hk
  have hmem : ∀ x ∈ ((runs seq leads 1 part.length rest).reverse.take k).map
      (·, fin), x.1.payload.length < 0x100000000
        ∧ x.1.payload.length ≤ (seq - x.1.seq).toNat := by
    intro x hx
    obtain ⟨q, hq, rfl⟩ := List.mem_map.mp hx
    exact misses_of_mem_runs hshort hparts
      (List.mem_reverse.mp (List.mem_of_mem_take hq))
  have hzero : seq + (0 : Nat).toUInt32 = seq := UInt32.add_zero seq
  rw [htake]
  exact List.length_eq_zero_iff.mp (Nat.le_zero.mp (delivered_le_of_missing
    (fun x hx => (hmem x hx).1)
    (fun x hx => by rw [hzero]; exact (hmem x hx).2)))

/-- Nor is more than it delivered with FIN on every run. -/
theorem delivered_reverse_fin :
    ((idle seq []).receiveAll ((runs seq leads 0 0 (part :: rest)).reverse.map
      (·, true))).delivered.length ≤ part.length := by
  have hleads : ∀ i, (leads i).length < 0x80000000 := by
    rw [List.flatten_cons, List.length_append] at hparts
    intro i
    have hlead := hshort i
    omega
  have hlen : ∀ x ∈ ((runs seq leads 0 0 (part :: rest)).reverse.map
      (·, true)), x.1.payload.length < 0x100000000 := by
    intro x hx
    obtain ⟨q, hq, rfl⟩ := List.mem_map.mp hx
    exact length_lt_of_mem_runs hleads hparts (List.mem_reverse.mp hq)
  rw [runs, List.reverse_cons, List.map_append, Nat.zero_add,
    Nat.zero_add] at hlen ⊢
  refine delivered_le_of_fin hlen ?_ (runAt_end seq (leads 0) part)
  intro x hx
  obtain ⟨q, hq, rfl⟩ := List.mem_map.mp hx
  exact (misses_of_mem_runs hshort hparts (List.mem_reverse.mp hq)).2

end Behind

end Receiver

end ZeroDpi.Lib
