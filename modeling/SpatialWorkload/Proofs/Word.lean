/-!
# Words and the numbers they stand for

A word stands for a number below `2 ^ 64`.  A sum of words stands for the sum of the numbers
as long as that is one of them, and a number that is none is cut to the last word.
-/

namespace SpatialWorkload.Word

theorem toNat_pos {word : UInt64} (some : word ≠ 0) : 0 < word.toNat :=
  Nat.pos_of_ne_zero fun zero => some (UInt64.toNat_inj.mp zero)

/-- A sum that does not come round. -/
theorem toNat_add {first second : UInt64}
    (fits : first.toNat + second.toNat < UInt64.size) :
    (first + second).toNat = first.toNat + second.toNat := by
  rw [UInt64.toNat_add]
  exact Nat.mod_eq_of_lt fits

theorem toNat_add_ofNat {word : UInt64} {count : Nat}
    (fits : word.toNat + count < UInt64.size) :
    (word + UInt64.ofNat count).toNat = word.toNat + count := by
  have counted : (UInt64.ofNat count).toNat = count :=
    UInt64.toNat_ofNat_of_lt' (Nat.lt_of_le_of_lt (Nat.le_add_left _ _) fits)
  rw [toNat_add (by rwa [counted]), counted]

/-- The way from a word to where words come round leads to the first of them. -/
theorem add_ofNat_size_sub (word : UInt64) :
    word + UInt64.ofNat (UInt64.size - word.toNat) = 0 := by
  have below : word.toNat ≤ UInt64.size := Nat.le_of_lt word.toNat_lt
  refine UInt64.toNat_inj.mp ?_
  rw [UInt64.toNat_add, UInt64.toNat_ofNat']
  change (word.toNat + (UInt64.size - word.toNat) % UInt64.size) % UInt64.size = 0
  rw [Nat.add_mod_mod, Nat.add_sub_cancel' below, Nat.mod_self]

theorem toNat_ofNat_min (number : Nat) :
    (UInt64.ofNat (min number (UInt64.size - 1))).toNat = min number (UInt64.size - 1) :=
  UInt64.toNat_ofNat_of_lt' (Nat.lt_of_le_of_lt (Nat.min_le_right _ _) (by decide))

theorem toNat_ofNatClamp (number : Nat) :
    (UInt64.ofNatClamp number).toNat = min number (UInt64.size - 1) := by
  unfold UInt64.ofNatClamp
  split
  · rename_i small
    rw [Nat.min_eq_left (Nat.le_sub_one_of_lt small)]
    exact UInt64.toNat_ofNatLT ..
  · rename_i large
    rw [Nat.min_eq_right (Nat.le_trans (Nat.sub_le _ _) (Nat.le_of_not_lt large))]
    exact UInt64.toNat_ofNatLT ..

end SpatialWorkload.Word
