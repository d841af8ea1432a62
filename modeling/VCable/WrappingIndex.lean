import Mathlib.Data.Int.ModEq
import Mathlib.Data.Nat.Bitwise
import Mathlib.Tactic.Common

/-!
# Wrapping indices into a power-of-two buffer

Two machine words that only ever grow, modulo `2 ^ w`, number the positions of
a stream; the low `k` bits of a word are a slot of a buffer.  Counting both
words from a common start relates them to plain natural-number positions.
-/

namespace WrappingIndex

variable {w : Nat}

/-- The word that numbers stream position `count`, counted from `start`. -/
def index (start : BitVec w) (count : Nat) : BitVec w :=
  start + BitVec.ofNat w count

/-- The buffer slot of stream position `count`. -/
def slot (k : Nat) (start : BitVec w) (count : Nat) : Nat :=
  (start.toNat + count) % 2 ^ k

@[simp]
theorem index_zero (start : BitVec w) : index start 0 = start := by
  simp [index]

theorem index_add (start : BitVec w) (count more : Nat) :
    index start count + BitVec.ofNat w more = index start (count + more) := by
  unfold index
  rw [BitVec.add_assoc, ← BitVec.ofNat_add]

/-- The wrapping difference of two words is the plain difference of their
positions while that fits in a word. -/
theorem toNat_index_sub {start : BitVec w} {count earlier : Nat} (ordered : earlier ≤ count)
    (fits : count - earlier < 2 ^ w) :
    (index start count - index start earlier).toNat = count - earlier := by
  obtain ⟨gap, rfl⟩ := Nat.exists_eq_add_of_le ordered
  rw [Nat.add_sub_cancel_left] at fits ⊢
  have difference :
      index start (earlier + gap) - index start earlier = BitVec.ofNat w gap := by
    rw [← index_add, BitVec.add_comm, BitVec.add_sub_cancel]
  rw [difference, BitVec.toNat_ofNat, Nat.mod_eq_of_lt fits]

/-- Masking a word with `2 ^ k - 1` gives the slot of its position. -/
theorem toNat_index_and_mask {k : Nat} (narrower : k ≤ w) (start : BitVec w) (count : Nat) :
    (index start count &&& BitVec.ofNat w (2 ^ k - 1)).toNat = slot k start count := by
  have divides : 2 ^ k ∣ 2 ^ w := pow_dvd_pow 2 narrower
  have maskFits : 2 ^ k - 1 < 2 ^ w := by
    have := Nat.le_of_dvd (Nat.two_pow_pos w) divides
    have := Nat.two_pow_pos k
    omega
  rw [BitVec.toNat_and, BitVec.toNat_ofNat, Nat.mod_eq_of_lt maskFits,
    Nat.and_two_pow_sub_one_eq_mod, index, BitVec.toNat_add, BitVec.toNat_ofNat,
    Nat.mod_mod_of_dvd _ divides, slot, Nat.add_mod, Nat.mod_mod_of_dvd _ divides, ← Nat.add_mod]

theorem slot_lt (k : Nat) (start : BitVec w) (count : Nat) : slot k start count < 2 ^ k :=
  Nat.mod_lt _ (Nat.two_pow_pos k)

/-- Different positions less than a buffer apart have different slots. -/
theorem slot_ne {k : Nat} {start : BitVec w} {first second : Nat} (ordered : first < second)
    (near : second < first + 2 ^ k) : slot k start first ≠ slot k start second := by
  intro same
  have divides : 2 ^ k ∣ (start.toNat + second) - (start.toNat + first) :=
    (Nat.modEq_iff_dvd' (by omega)).mp same
  have := Nat.le_of_dvd (by omega) divides
  omega

end WrappingIndex
