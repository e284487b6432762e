import Mathlib.Data.List.Basic
import SchemaQueries.Checksum

/-!
# What the checksum tells apart

Two messages of one length that differ within a window of four bytes have different checksums. Four bytes
fill the register: what they add to it is one word, in which nothing overlaps and nothing is lost. No
shift loses anything either, so two registers that differ go on to differ.

## Main definitions

* `Checksum.word` — the bytes of a window as one word.
* `Checksum.DifferWithin` — two messages differ, and only within a window.

## Main results

* `Checksum.foldl_feed` — a window is fed as one word.
* `Checksum.differWithin_iff` — such messages have different windows between the same bytes.
* `Checksum.crc32_ne_of_differWithin` — a difference within four bytes changes the checksum.
-/

set_option autoImplicit false
set_option relaxedAutoImplicit false

namespace SchemaQueries.Checksum

/-! ### Shifts lose nothing -/

/-- Only the empty register becomes the empty one: what falls out of any other one brings in the highest
bit of the polynomial, or something is left. -/
theorem eq_zero_of_shift {r : BitVec 32} (h : shift r = 0#32) : r = 0#32 := by
  unfold shift at h
  split at h
  · have hbit := congrArg (BitVec.getLsbD · 31) h
    simp [polynomial] at hbit
  · next hlow =>
    refine BitVec.eq_of_getLsbD_eq fun i hi => ?_
    cases i with
    | zero => simpa using hlow
    | succ i =>
      have hbit := congrArg (BitVec.getLsbD · i) h
      simpa [Nat.add_comm] using hbit

/-- Different registers are different after a shift. -/
theorem shift_injective {r s : BitVec 32} (h : shift r = shift s) : r = s := by
  have hzero : shift (r ^^^ s) = 0#32 := by rw [shift_xor, h, BitVec.xor_self]
  exact BitVec.xor_eq_zero_iff.mp (eq_zero_of_shift hzero)

/-- Different registers are different after any number of shifts. -/
theorem shifts_injective {n : Nat} {r s : BitVec 32} (h : shifts n r = shifts n s) : r = s := by
  induction n generalizing r s with
  | zero => exact h
  | succ n ih => exact shift_injective (ih h)

/-- Shifts add up. -/
theorem shifts_add (m n : Nat) (r : BitVec 32) : shifts (m + n) r = shifts n (shifts m r) := by
  induction m generalizing r with
  | zero => rw [Nat.zero_add, shifts]
  | succ m ih => rw [Nat.succ_add, shifts, shifts, ih]

/-- As long as nothing but zeros fall out, the register only moves down. -/
theorem shifts_eq_ushiftRight {n : Nat} {r : BitVec 32} (h : ∀ i < n, r.getLsbD i = false) :
    shifts n r = r >>> n := by
  induction n generalizing r with
  | zero => rfl
  | succ n ih =>
    have hlow : r.getLsbD 0 = false := h 0 n.succ_pos
    have hrest : ∀ i < n, (r >>> 1).getLsbD i = false := fun i hi => by
      rw [BitVec.getLsbD_ushiftRight, Nat.add_comm]
      exact h _ (Nat.succ_lt_succ hi)
    rw [shifts, shift, hlow, if_neg Bool.false_ne_true, ih hrest, ← BitVec.shiftRight_add, Nat.add_comm]

/-! ### A window as one word -/

/-- The bytes of a window as one word, the first of them in the lowest place. -/
def word : Bytes → BitVec 32
  | [] => 0#32
  | b :: rest => word rest <<< 8 ^^^ b.toBitVec.setWidth 32

/-- There is nothing above the bytes of the window. -/
theorem getLsbD_word {a : Bytes} {i : Nat} (h : 8 * a.length ≤ i) : (word a).getLsbD i = false := by
  induction a generalizing i with
  | nil => exact BitVec.getLsbD_zero
  | cons b rest ih =>
    rw [List.length_cons] at h
    have hrest : (word rest).getLsbD (i - 8) = false := ih (by omega)
    have hbyte : b.toBitVec.getLsbD i = false := BitVec.getLsbD_of_ge _ _ (by omega)
    simp [word, hrest, hbyte]

/-- Behind the first byte are the others, unless the window is longer than the register. -/
theorem ushiftRight_word {b : UInt8} {rest : Bytes} (h : rest.length < 4) :
    word (b :: rest) >>> 8 = word rest := by
  refine BitVec.eq_of_getLsbD_eq fun i hi => ?_
  by_cases htop : 8 + i < 32
  · have hhigh : ¬ 8 + i < 8 := by omega
    simp [word, htop, hhigh, BitVec.getLsbD_eq_getElem hi]
  · have hrest : (word rest).getLsbD i = false := getLsbD_word (by omega)
    simp [BitVec.getLsbD_of_ge (word (b :: rest)) (8 + i) (by omega), hrest]

/-- The lowest place is that of the first byte. -/
theorem setWidth_word (b : UInt8) (rest : Bytes) : (word (b :: rest)).setWidth 8 = b.toBitVec := by
  refine BitVec.eq_of_getLsbD_eq fun i hi => ?_
  simp [word, hi]

/-- Windows of one length that fit into the register are told apart by their words. -/
theorem word_injective {a b : Bytes} (hlength : a.length = b.length) (hfour : a.length ≤ 4)
    (h : word a = word b) : a = b := by
  induction a generalizing b with
  | nil => exact (List.length_eq_zero_iff.mp hlength.symm).symm
  | cons x a ih =>
    obtain ⟨y, b, rfl⟩ := List.exists_cons_of_length_eq_add_one hlength.symm
    have hrest : a.length = b.length := Nat.succ.inj hlength
    have hfirst : x.toBitVec = y.toBitVec := by rw [← setWidth_word x a, h, setWidth_word]
    have hwords : word a = word b := by
      rw [← ushiftRight_word (b := x) hfour, h, ushiftRight_word (hrest ▸ hfour)]
    rw [UInt8.toBitVec_inj.mp hfirst, ih hrest (Nat.le_of_succ_le hfour) hwords]

/-- A window is fed as one word.

**Proof sketch.** By induction on the window. The word of what follows the first byte can as well be
added eight shifts earlier, eight places higher: what falls out on its way down is nothing but zeros. -/
theorem foldl_feed {a : Bytes} (r : BitVec 32) (h : a.length ≤ 4) :
    a.foldl feed r = shifts (8 * a.length) (r ^^^ word a) := by
  induction a generalizing r with
  | nil => exact (BitVec.xor_zero).symm
  | cons b rest ih =>
    have hlow : ∀ i < 8, (word rest <<< 8).getLsbD i = false := fun i hi => by simp [hi]
    have hdown : shifts 8 (word rest <<< 8) = word rest := by
      have hword : word (0 :: rest) = word rest <<< 8 := BitVec.xor_zero
      rw [shifts_eq_ushiftRight hlow, ← hword, ushiftRight_word h]
    have hfeed : feed r b ^^^ word rest = shifts 8 (r ^^^ word (b :: rest)) := by
      have hword : word (b :: rest) = b.toBitVec.setWidth 32 ^^^ word rest <<< 8 := BitVec.xor_comm _ _
      rw [feed, hword, ← BitVec.xor_assoc, shifts_xor 8 _ (word rest <<< 8), hdown]
    calc (b :: rest).foldl feed r
        = shifts (8 * rest.length) (feed r b ^^^ word rest) := ih _ (Nat.le_of_succ_le h)
      _ = shifts (8 * rest.length) (shifts 8 (r ^^^ word (b :: rest))) := by rw [hfeed]
      _ = shifts (8 * (b :: rest).length) (r ^^^ word (b :: rest)) := by
          rw [← shifts_add, List.length_cons, Nat.mul_succ, Nat.add_comm]

/-! ### Messages -/

/-- Different registers are different after any message. -/
theorem foldl_feed_injective {message : Bytes} {r s : BitVec 32}
    (h : message.foldl feed r = message.foldl feed s) : r = s := by
  induction message generalizing r s with
  | nil => exact h
  | cons b message ih => exact (BitVec.xor_left_inj _).mp (shifts_injective (ih h))

/-- Different windows between the same bytes change the checksum. -/
theorem crc32_append_ne {front a b back : Bytes} (hlength : a.length = b.length) (hfour : a.length ≤ 4)
    (hne : a ≠ b) : crc32 (front ++ (a ++ back)) ≠ crc32 (front ++ (b ++ back)) := by
  intro h
  have hfold := BitVec.not_inj.mp h
  simp only [List.foldl_append] at hfold
  have hwindow := foldl_feed_injective hfold
  have hfour' : b.length ≤ 4 := hlength ▸ hfour
  rw [foldl_feed _ hfour, foldl_feed _ hfour', hlength] at hwindow
  exact hne (word_injective hlength hfour ((BitVec.xor_right_inj _).mp (shifts_injective hwindow)))

/-- Two messages of one length differ, and only within a window of so many bytes. -/
structure DifferWithin (size : Nat) (first second : Bytes) : Prop where
  length_eq : first.length = second.length
  ne : first ≠ second
  within : ∃ start, ∀ i, i < start ∨ start + size ≤ i → first[i]? = second[i]?

/-- Such messages have different windows of one length between the same bytes.

**Proof sketch.** From the start of the window on, cut both messages into what stands in front of it,
the window, and what stands behind it. Position by position the outer parts agree, so the windows
differ. Conversely, a position outside two windows of one length shows the same byte in both messages.
-/
theorem differWithin_iff {size : Nat} {first second : Bytes} :
    DifferWithin size first second ↔ ∃ front a b back, first = front ++ (a ++ back) ∧
      second = front ++ (b ++ back) ∧ a.length = b.length ∧ a.length ≤ size ∧ a ≠ b := by
  constructor
  · rintro ⟨hlength, hne, start, hsame⟩
    have hfront : first.take start = second.take start := List.ext_getElem? fun i => by
      rw [List.getElem?_take, List.getElem?_take]
      split
      · next hi => exact hsame i (.inl hi)
      · rfl
    have hback : (first.drop start).drop size = (second.drop start).drop size :=
      List.ext_getElem? fun i => by
        rw [List.drop_drop, List.drop_drop, List.getElem?_drop, List.getElem?_drop]
        exact hsame _ (.inr (Nat.le_add_right _ _))
    have hsplit (message : Bytes) : message = message.take start ++
        ((message.drop start).take size ++ (message.drop start).drop size) := by
      rw [List.take_append_drop, List.take_append_drop]
    refine ⟨first.take start, (first.drop start).take size, (second.drop start).take size,
      (first.drop start).drop size, hsplit first, ?_, ?_, List.length_take_le _ _, fun heq => ?_⟩
    · rw [hfront, hback]
      exact hsplit second
    · rw [List.length_take, List.length_take, List.length_drop, List.length_drop, hlength]
    · exact hne (by rw [hsplit first, hsplit second, hfront, heq, hback])
  · rintro ⟨front, a, b, back, rfl, rfl, hlength, hsize, hne⟩
    refine ⟨by simp only [List.length_append, hlength], fun heq => ?_, front.length, fun i hi => ?_⟩
    · exact hne (List.append_cancel_right (List.append_cancel_left heq))
    · rcases hi with hi | hi
      · rw [List.getElem?_append_left hi, List.getElem?_append_left hi]
      · rw [List.getElem?_append_right (by omega), List.getElem?_append_right (by omega),
          List.getElem?_append_right (by omega), List.getElem?_append_right (by omega), hlength]

/-- A difference within four bytes changes the checksum. -/
theorem crc32_ne_of_differWithin {first second : Bytes} (h : DifferWithin 4 first second) :
    crc32 first ≠ crc32 second := by
  obtain ⟨front, a, b, back, rfl, rfl, hlength, hfour, hne⟩ := differWithin_iff.mp h
  exact crc32_append_ne hlength hfour hne

end SchemaQueries.Checksum
