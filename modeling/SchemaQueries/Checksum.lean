import SchemaQueries.Text.Bytes

/-!
# The CRC-32 checksum

The cyclic redundancy check of IEEE 802.3 with reflected bits: the remainder of the message's
polynomial, kept in a register that is shifted one bit at a time.

## Main definitions

* `Checksum.shift` — one bit of the division.
* `Checksum.feed` — one byte of the message.
* `Checksum.crc32` — the checksum of a message.

## Main results

* `Checksum.shift_xor` — a shift is linear in exclusive or, so the difference of two registers
  develops as a register by itself.
-/

set_option autoImplicit false
set_option relaxedAutoImplicit false

namespace SchemaQueries.Checksum

/-- The generating polynomial with its bits reflected. -/
def polynomial : BitVec 32 := 0xEDB88320#32

/-- One bit of the division: the register moves down, and the polynomial is subtracted if a one
falls out. -/
def shift (r : BitVec 32) : BitVec 32 :=
  if r.getLsbD 0 then (r >>> 1) ^^^ polynomial else r >>> 1

/-- `n` bits of the division. -/
def shifts : Nat → BitVec 32 → BitVec 32
  | 0, r => r
  | n + 1, r => shifts n (shift r)

/-- One byte of the message. -/
def feed (r : BitVec 32) (b : UInt8) : BitVec 32 :=
  shifts 8 (r ^^^ b.toBitVec.setWidth 32)

/-- The checksum of a message. -/
def crc32 (message : Bytes) : BitVec 32 :=
  ~~~ message.foldl feed (BitVec.allOnes 32)

/-- A shift is linear in exclusive or. -/
theorem shift_xor (a b : BitVec 32) : shift (a ^^^ b) = shift a ^^^ shift b := by
  unfold shift
  rw [BitVec.getLsbD_xor, BitVec.ushiftRight_xor_distrib]
  cases a.getLsbD 0 <;> cases b.getLsbD 0 <;> simp
  · ac_rfl
  · ac_rfl
  · rw [show a >>> 1 ^^^ polynomial ^^^ (b >>> 1 ^^^ polynomial) =
      a >>> 1 ^^^ b >>> 1 ^^^ (polynomial ^^^ polynomial) by ac_rfl]
    simp

/-- Shifts are linear in exclusive or. -/
theorem shifts_xor (n : Nat) (a b : BitVec 32) :
    shifts n (a ^^^ b) = shifts n a ^^^ shifts n b := by
  induction n generalizing a b with
  | zero => rfl
  | succ n ih => simp only [shifts, shift_xor, ih]

end SchemaQueries.Checksum
