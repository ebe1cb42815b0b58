import SpatialWorkload.Proofs.Scalar.Double

/-!
# Rounding by place

A double that is not negative has a place among all of these: its bits, read as a number.
The place to which a number is rounded depends on the number alone and grows with it.
-/

namespace SpatialWorkload.Double

open Float.Model (UnpackedFloat Format)
open Float.Model.UnpackedFloat

/-- Mantissa, round bit and sticky bit as one number, in quarters of the last place. -/
def quarters (extended : ExtendedMantissa) : Nat :=
  4 * extended.mantissa + 2 * extended.roundBit.toNat + extended.stickyBit.toNat

theorem quarters_exact (mantissa : Nat) :
    quarters (.ofMantissaAndAccuracy mantissa .exact) = 4 * mantissa :=
  rfl

theorem quarters_shiftRightOne {first second : ExtendedMantissa}
    (le : quarters first ≤ quarters second) :
    quarters first.shiftRightOne ≤ quarters second.shiftRightOne := by
  obtain ⟨firstMantissa, firstRound, firstSticky⟩ := first
  obtain ⟨secondMantissa, secondRound, secondSticky⟩ := second
  have odd (mantissa : Nat) : (mantissa % 2 != 0).toNat = mantissa % 2 := by
    rcases Nat.mod_two_eq_zero_or_one mantissa with even | odd
    · rw [even]
      rfl
    · rw [odd]
      rfl
  simp only [quarters, ExtendedMantissa.shiftRightOne, odd] at le ⊢
  cases firstRound <;> cases firstSticky <;> cases secondRound <;> cases secondSticky <;>
    simp only [Bool.toNat_true, Bool.toNat_false, Bool.or_true, Bool.or_false] at le ⊢ <;>
    omega

theorem quarters_shiftRight {first second : ExtendedMantissa}
    (le : quarters first ≤ quarters second) (count : Nat) :
    quarters (first >>> count) ≤ quarters (second >>> count) := by
  change quarters (Nat.repeat ExtendedMantissa.shiftRightOne count first) ≤
    quarters (Nat.repeat ExtendedMantissa.shiftRightOne count second)
  induction count with
  | zero => exact le
  | succ count ih => exact quarters_shiftRightOne ih

theorem roundedMantissa_bounds (extended : ExtendedMantissa) :
    extended.mantissa ≤ extended.roundedMantissa ∧
      extended.roundedMantissa ≤ extended.mantissa + 1 := by
  obtain ⟨mantissa, round, sticky⟩ := extended
  have parity := Nat.mod_lt mantissa (Nat.zero_lt_two)
  cases round <;> cases sticky <;>
    simp only [ExtendedMantissa.roundedMantissa, ExtendedMantissa.accuracy,
      Accuracy.roundToNearestEven] <;>
    omega

theorem roundedMantissa_mono {first second : ExtendedMantissa}
    (le : quarters first ≤ quarters second) :
    first.roundedMantissa ≤ second.roundedMantissa := by
  by_cases same : first.mantissa = second.mantissa
  · obtain ⟨firstMantissa, firstRound, firstSticky⟩ := first
    obtain ⟨secondMantissa, secondRound, secondSticky⟩ := second
    change firstMantissa = secondMantissa at same
    subst same
    have parity := Nat.mod_lt firstMantissa (Nat.zero_lt_two)
    cases firstRound <;> cases firstSticky <;> cases secondRound <;> cases secondSticky <;>
      simp only [quarters, Bool.toNat_true, Bool.toNat_false, ExtendedMantissa.roundedMantissa,
        ExtendedMantissa.accuracy, Accuracy.roundToNearestEven] at le ⊢ <;>
      omega
  · have less : first.mantissa < second.mantissa := by
      have firstBits := Bool.toNat_le first.roundBit
      have secondBits := Bool.toNat_le second.roundBit
      have firstLast := Bool.toNat_le first.stickyBit
      have secondLast := Bool.toNat_le second.stickyBit
      simp only [quarters] at le
      omega
    calc first.roundedMantissa
        ≤ first.mantissa + 1 := (roundedMantissa_bounds first).2
      _ ≤ second.mantissa := less
      _ ≤ second.roundedMantissa := (roundedMantissa_bounds second).1

/-- The nearest natural to `mantissa / 2 ^ shift`, a half to the even one. -/
def nearest (mantissa shift : Nat) : Nat :=
  (ExtendedMantissa.ofMantissaAndAccuracy mantissa .exact >>> shift).roundedMantissa

theorem nearest_mono {first second : Nat} (le : first ≤ second) (shift : Nat) :
    nearest first shift ≤ nearest second shift := by
  refine roundedMantissa_mono (quarters_shiftRight ?_ shift)
  rw [quarters_exact, quarters_exact]
  exact Nat.mul_le_mul_left 4 le

theorem nearest_bounds (mantissa shift : Nat) :
    mantissa >>> shift ≤ nearest mantissa shift ∧
      nearest mantissa shift ≤ mantissa >>> shift + 1 := by
  have bounds := roundedMantissa_bounds
    (ExtendedMantissa.ofMantissaAndAccuracy mantissa .exact >>> shift)
  rwa [shift_mantissa] at bounds

/-- A zero at the end of the mantissa is shifted out unseen. -/
theorem nearest_double (mantissa shift : Nat) :
    nearest (2 * mantissa) (shift + 1) = nearest mantissa shift := by
  have first : (ExtendedMantissa.ofMantissaAndAccuracy (2 * mantissa) .exact).shiftRightOne =
      .ofMantissaAndAccuracy mantissa .exact := by
    simp [ExtendedMantissa.shiftRightOne, ExtendedMantissa.ofMantissaAndAccuracy]
  have shifted : ExtendedMantissa.ofMantissaAndAccuracy (2 * mantissa) .exact >>> (shift + 1) =
      ExtendedMantissa.ofMantissaAndAccuracy mantissa .exact >>> shift := by
    change Nat.repeat ExtendedMantissa.shiftRightOne (shift + 1) _ =
      Nat.repeat ExtendedMantissa.shiftRightOne shift _
    induction shift with
    | zero => exact first
    | succ shift ih =>
        rw [Nat.repeat, ih]
        rfl
  rw [nearest, shifted]
  rfl

def target (mantissa : Nat) (exponent : Int) : Int :=
  Format.binary64.targetExponent (Float.Model.totalExponent mantissa exponent)

theorem target_eq (mantissa : Nat) (exponent : Int) :
    target mantissa exponent = max ((mantissa.log2 : Int) + 1 + exponent - 53) (-1074) :=
  rfl

theorem leastExponent_le_target (mantissa : Nat) (exponent : Int) :
    leastExponent ≤ target mantissa exponent :=
  Int.le_max_right _ _

theorem log2_mono {first second : Nat} (positive : 0 < first) (le : first ≤ second) :
    first.log2 ≤ second.log2 := by
  have nonzero : second ≠ 0 := by omega
  refine (Nat.le_log2 nonzero).mpr ?_
  exact Nat.le_trans (Nat.log2_self_le (Nat.ne_of_gt positive)) le

theorem target_mono {first second : Nat} (positive : 0 < first) (le : first ≤ second)
    (exponent : Int) : target first exponent ≤ target second exponent := by
  have logs := log2_mono positive le
  rw [target_eq, target_eq]
  omega

theorem target_double {mantissa : Nat} (positive : 0 < mantissa) (exponent : Int) :
    target (2 * mantissa) exponent = target mantissa (exponent + 1) := by
  rw [target_eq, target_eq, Nat.log2_two_mul (Nat.ne_of_gt positive)]
  omega

/-- The place of a mantissa and an exponent in the order of exponent first. -/
def place (mantissa : Nat) (exponent : Int) : Nat :=
  (exponent - leastExponent).toNat * leastNormal + mantissa

def roundedPlace (mantissa : Nat) (exponent : Int) : Nat :=
  place (nearest mantissa (target mantissa exponent - exponent).toNat) (target mantissa exponent)

theorem roundedPlace_double {mantissa : Nat} {exponent : Int} (positive : 0 < mantissa)
    (above : exponent + 1 ≤ target mantissa (exponent + 1)) :
    roundedPlace (2 * mantissa) exponent = roundedPlace mantissa (exponent + 1) := by
  have shift : (target mantissa (exponent + 1) - exponent).toNat =
      (target mantissa (exponent + 1) - (exponent + 1)).toNat + 1 := by
    omega
  rw [roundedPlace, roundedPlace, target_double positive, shift, nearest_double]

/-- Zeros at the end of the mantissa do not count. -/
theorem roundedPlace_shift {mantissa : Nat} (positive : 0 < mantissa) (count : Nat)
    (exponent : Int) (above : exponent + count ≤ target mantissa (exponent + count)) :
    roundedPlace (mantissa <<< count) exponent = roundedPlace mantissa (exponent + count) := by
  induction count generalizing mantissa with
  | zero => simp
  | succ count ih =>
      have next : exponent + (count + 1 : Nat) = exponent + count + 1 := by omega
      rw [next] at above ⊢
      have doubled : 0 < 2 * mantissa := by omega
      have shifted : mantissa <<< (count + 1) = (2 * mantissa) <<< count := by
        rw [Nat.add_comm count 1, Nat.shiftLeft_add, Nat.shiftLeft_eq mantissa 1, Nat.pow_one,
          Nat.mul_comm mantissa 2]
      have still : exponent + count ≤ target (2 * mantissa) (exponent + count) := by
        rw [target_double positive]
        omega
      rw [shifted, ih doubled still, roundedPlace_double positive above]

/-- Rounded to its target a mantissa has at most 53 bits, and so many above the least. -/
theorem nearest_target_bounds {mantissa : Nat} {exponent : Int} (positive : 0 < mantissa)
    (above : exponent ≤ target mantissa exponent) :
    nearest mantissa (target mantissa exponent - exponent).toNat ≤ 2 * leastNormal ∧
      (leastExponent < target mantissa exponent →
        leastNormal ≤ nearest mantissa (target mantissa exponent - exponent).toNat) := by
  obtain ⟨low, high⟩ := nearest_bounds mantissa (target mantissa exponent - exponent).toNat
  have eq := target_eq mantissa exponent
  generalize shifts : (target mantissa exponent - exponent).toNat = shift at low high ⊢
  have nonzero : mantissa ≠ 0 := Nat.ne_of_gt positive
  rw [Nat.shiftRight_eq_div_pow] at low high
  constructor
  · have bits : mantissa.log2 < 53 + shift := by omega
    have below := (Nat.log2_lt nonzero).mp bits
    rw [Nat.pow_add] at below
    have quotient := Nat.div_lt_of_lt_mul (Nat.mul_comm _ _ ▸ below)
    change _ < 2 * leastNormal at quotient
    omega
  · intro larger
    change -1074 < target mantissa exponent at larger
    have bits : 52 + shift ≤ mantissa.log2 := by omega
    have atLeast := (Nat.le_log2 nonzero).mp bits
    rw [Nat.pow_add] at atLeast
    have quotient := (Nat.le_div_iff_mul_le (Nat.two_pow_pos shift)).mpr atLeast
    change leastNormal ≤ _ at quotient
    omega

/-- A larger number is rounded to no lower place. -/
theorem roundedPlace_mono {first second : Nat} {exponent : Int} (positive : 0 < first)
    (le : first ≤ second) (above : exponent ≤ target first exponent) :
    roundedPlace first exponent ≤ roundedPlace second exponent := by
  have targets := target_mono positive le exponent
  have least := leastExponent_le_target first exponent
  rcases Int.lt_or_eq_of_le targets with less | equal
  · obtain ⟨atMost, -⟩ := nearest_target_bounds positive above
    obtain ⟨-, atLeast⟩ := nearest_target_bounds (Nat.lt_of_lt_of_le positive le)
      (Int.le_trans above targets)
    have normal := atLeast (Int.lt_of_le_of_lt least less)
    have steps : (target first exponent - leastExponent).toNat + 1 ≤
        (target second exponent - leastExponent).toNat := by
      omega
    have products := Nat.mul_le_mul_right leastNormal steps
    rw [Nat.add_mul] at products
    simp only [roundedPlace, place]
    omega
  · simp only [roundedPlace, ← equal]
    exact Nat.add_le_add_left (nearest_mono le _) _

theorem place_pos {mantissa : Nat} (positive : 0 < mantissa) (exponent : Int) :
    0 < place mantissa exponent :=
  Nat.lt_of_lt_of_le positive (Nat.le_add_left _ _)

theorem roundedPlace_zero {low : Int} (least : low ≤ leastExponent) : roundedPlace 0 low = 0 := by
  have lowest : target 0 low = leastExponent := by
    change low ≤ -1074 at least
    change max (((0 : Nat).log2 : Int) + 1 + low - 53) (-1074) = -1074
    rw [Nat.log2_zero]
    omega
  have none (count : Nat) : nearest 0 count = 0 := by
    have shifted :
        ExtendedMantissa.ofMantissaAndAccuracy 0 .exact >>> count = ⟨0, false, false⟩ := by
      change Nat.repeat ExtendedMantissa.shiftRightOne count _ = _
      induction count with
      | zero => rfl
      | succ count ih =>
          rw [Nat.repeat, ih]
          rfl
    rw [nearest, shifted]
    rfl
  rw [roundedPlace, lowest, none, place, Int.sub_self]
  rfl

def infinityPlace : Nat := 2047 * leastNormal

def placeOf : UnpackedFloat → Nat
  | .finite _ mantissa exponent _ => place mantissa exponent
  | .infinity _ => infinityPlace
  | _ => 0

/-- The kinds of numbers that are not negative, mantissas shifted up as far as they go. -/
inductive IsMagnitude : UnpackedFloat → Prop where
  | zero (sign : Sign) : IsMagnitude (.zero sign)
  | finite {mantissa : Nat} {exponent : Int} (positive : 0 < mantissa)
      (canonical : IsCanonical mantissa exponent) :
      IsMagnitude (.finite .positive mantissa exponent positive)
  | infinity : IsMagnitude (.infinity .positive)

theorem shiftToTargetExponent_eq (mantissa : Nat) (exponent : Int)
    (above : exponent ≤ target mantissa exponent) :
    shiftToTargetExponent .binary64 mantissa exponent .exact =
      (ExtendedMantissa.ofMantissaAndAccuracy mantissa .exact >>>
        (target mantissa exponent - exponent).toNat, target mantissa exponent) := by
  refine Prod.ext rfl ?_
  change exponent + ((target mantissa exponent - exponent).toNat : Int) = _
  omega

/-- A rounded mantissa that has come to 54 bits is a power of two and is shifted once more. -/
theorem shiftToTargetExponent_rounded {rounded : Nat} {exponent : Int}
    (least : leastExponent ≤ exponent) (atMost : rounded ≤ 2 * leastNormal)
    (atLeast : leastExponent < exponent → leastNormal ≤ rounded) :
    ∃ extended last, shiftToTargetExponent .binary64 rounded exponent .exact = (extended, last) ∧
      IsCanonical extended.mantissa last ∧
      place extended.mantissa last = place rounded exponent := by
  change -1074 ≤ exponent at least
  rcases Nat.lt_or_eq_of_le atMost with below | equal
  · have bits : rounded.log2 ≤ 52 := by
      rcases Nat.eq_zero_or_pos rounded with zero | positive
      · rw [zero]
        decide
      · have := (Nat.log2_lt (k := 53) (Nat.ne_of_gt positive)).mpr below
        omega
    have normal : leastExponent < exponent → rounded.log2 = 52 :=
      fun larger => log2_eq_of_bounds (atLeast larger) below
    have stays : target rounded exponent = exponent := by
      rw [target_eq]
      change (-1074 < exponent → _) at normal
      omega
    refine ⟨_, _, shiftToTargetExponent_eq rounded exponent (Int.le_of_eq stays.symm), ?_⟩
    rw [shift_mantissa, stays, Int.sub_self]
    exact ⟨⟨below, least, atLeast⟩, rfl⟩
  · subst equal
    have next : target (2 * leastNormal) exponent = exponent + 1 := by
      have bits : (2 * leastNormal).log2 = 53 := by decide
      rw [target_eq, bits]
      omega
    refine ⟨_, _, shiftToTargetExponent_eq _ exponent (by omega), ?_⟩
    have once : (exponent + 1 - exponent).toNat = 1 := by omega
    have half : (2 * leastNormal) >>> 1 = leastNormal := by decide
    rw [shift_mantissa, next, once, half]
    refine ⟨⟨by decide, ?_, fun _ => Nat.le_refl _⟩, ?_⟩
    · change -1074 ≤ exponent + 1
      omega
    · have steps : (exponent + 1 - leastExponent).toNat =
          (exponent - leastExponent).toNat + 1 := by
        change (exponent + 1 - -1074).toNat = (exponent - -1074).toNat + 1
        omega
      rw [place, place, steps, Nat.add_mul]
      omega

/-- Rounding yields a magnitude, at the place that belongs to the exact number. -/
theorem roundWithAccuracy_spec {mantissa : Nat} {exponent : Int} (positive : 0 < mantissa)
    (above : exponent ≤ target mantissa exponent) :
    IsMagnitude (roundWithAccuracy .binary64 .positive mantissa exponent .exact) ∧
      placeOf (roundWithAccuracy .binary64 .positive mantissa exponent .exact) =
        roundedPlace mantissa exponent := by
  obtain ⟨atMost, atLeast⟩ := nearest_target_bounds positive above
  have least := leastExponent_le_target mantissa exponent
  obtain ⟨extended, last, shifted, canonical, same⟩ :=
    shiftToTargetExponent_rounded least atMost atLeast
  rw [nearest] at shifted
  simp only [roundWithAccuracy, shiftToTargetExponent_eq mantissa exponent above, shifted]
  rw [roundedPlace, ← same]
  by_cases nothing : extended.mantissa = 0
  · have lowest : last ≤ leastExponent := by
      refine Int.not_lt.mp fun larger => ?_
      have normal := canonical.normal larger
      rw [nothing] at normal
      cases normal
    rw [dif_pos nothing, nothing, place, Int.toNat_of_nonpos (Int.sub_nonpos_of_le lowest)]
    exact ⟨.zero _, rfl⟩
  · rw [dif_neg nothing]
    exact ⟨.finite _ canonical, rfl⟩

theorem unpack_pack_infinite {mantissa : Nat} {exponent : Int} (positive : 0 < mantissa)
    (large : 971 < exponent) :
    unpack .binary64 (pack .binary64 (.finite .positive mantissa exponent positive)) =
      .infinity .positive := by
  have biased : 2 ^ Format.binary64.exponentBits ≤
      (exponent + (Format.binary64.exponentBias : Nat) +
        (Format.binary64.mantissaBitsWithoutImplicit : Nat)).toNat + 1 := by
    change 2048 ≤ (exponent + (1023 : Nat) + (52 : Nat)).toNat + 1
    omega
  simp only [pack, if_pos biased]
  rfl

theorem unpack_pack_subnormal {mantissa : Nat} (positive : 0 < mantissa)
    (small : mantissa < leastNormal) :
    unpack .binary64 (pack .binary64 (.finite .positive mantissa leastExponent positive)) =
      .finite .positive mantissa leastExponent positive := by
  have bits : mantissa.log2 < 52 := (Nat.log2_lt (Nat.ne_of_gt positive)).mpr small
  have packed : pack .binary64 (.finite .positive mantissa leastExponent positive) =
      packComponents .binary64 .positive 0#11 (BitVec.ofNat 52 mantissa) := by
    have moderate : ¬2 ^ Format.binary64.exponentBits ≤
        (leastExponent + (Format.binary64.exponentBias : Nat) +
          (Format.binary64.mantissaBitsWithoutImplicit : Nat)).toNat + 1 := by
      decide
    have short : ¬mantissa.log2 + 1 = Format.binary64.mantissaBits := by
      change ¬mantissa.log2 + 1 = 53
      omega
    simp only [pack, if_neg moderate, if_neg short]
  have value : (BitVec.ofNat 52 mantissa).toNat = mantissa :=
    (BitVec.toNat_ofNat mantissa 52).trans (Nat.mod_eq_of_lt small)
  have nonzero : BitVec.ofNat 52 mantissa ≠ 0#52 := by
    intro zero
    have values := congrArg BitVec.toNat zero
    rw [value] at values
    exact Nat.ne_of_gt positive values
  have signBit : unpackSign (packComponents .binary64 .positive 0#11
      (BitVec.ofNat 52 mantissa)) = 0#1 :=
    unpackSign_packComponents _ _ _
  have notSpecial : (0#11 : BitVec 11) ≠ -1#11 := by decide
  rw [packed]
  simp only [unpack, unpackMantissa_packComponents, unpackExponent_packComponents, signBit]
  rw [if_neg notSpecial, if_pos trivial, dif_neg nonzero]
  congr 1

/-- Packing keeps the place of a magnitude, up to that of infinity. -/
theorem unpack_pack_spec {unpacked : UnpackedFloat} (magnitude : IsMagnitude unpacked) :
    IsMagnitude (unpack .binary64 (pack .binary64 unpacked)) ∧
      placeOf (unpack .binary64 (pack .binary64 unpacked)) =
        min (placeOf unpacked) infinityPlace := by
  cases magnitude with
  | zero sign => cases sign <;> exact ⟨.zero _, rfl⟩
  | infinity => exact ⟨.infinity, (Nat.min_self infinityPlace).symm⟩
  | finite positive canonical =>
      rename_i mantissa exponent
      have least := canonical.least_le
      have high := canonical.mantissa_lt
      change -1074 ≤ exponent at least
      rcases Int.lt_or_le 971 exponent with large | moderate
      · have normal := canonical.normal (by change -1074 < exponent; omega)
        have steps : 2046 ≤ (exponent - leastExponent).toNat := by
          change 2046 ≤ (exponent - -1074).toNat
          omega
        have products := Nat.mul_le_mul_right leastNormal steps
        rw [unpack_pack_infinite positive large]
        refine ⟨.infinity, (Nat.min_eq_right ?_).symm⟩
        simp only [placeOf, place, infinityPlace]
        omega
      · have same : unpack .binary64
            (pack .binary64 (.finite .positive mantissa exponent positive)) =
              .finite .positive mantissa exponent positive := by
          rcases Nat.lt_or_ge mantissa leastNormal with small | normal
          · have lowest : exponent = leastExponent := by
              refine Int.le_antisymm (Int.not_lt.mp fun larger => ?_) canonical.least_le
              exact Nat.not_lt.mpr (canonical.normal larger) small
            subst lowest
            exact unpack_pack_subnormal positive small
          · exact unpack_pack positive normal high canonical.least_le moderate
        have steps : (exponent - leastExponent).toNat ≤ 2045 := by
          change (exponent - -1074).toNat ≤ 2045
          omega
        have products := Nat.mul_le_mul_right leastNormal steps
        rw [same]
        refine ⟨.finite positive canonical, (Nat.min_eq_left ?_).symm⟩
        simp only [placeOf, place, infinityPlace]
        omega

/-- The place of a rounded number, with the number written to a low exponent. -/
theorem roundWithAccuracy_low {mantissa : Nat} {exponent low : Int} (positive : 0 < mantissa)
    (above : exponent ≤ target mantissa exponent) (below : low ≤ exponent) :
    IsMagnitude (roundWithAccuracy .binary64 .positive mantissa exponent .exact) ∧
      placeOf (roundWithAccuracy .binary64 .positive mantissa exponent .exact) =
        roundedPlace (mantissa <<< (exponent - low).toNat) low := by
  have whole : low + ((exponent - low).toNat : Int) = exponent := by omega
  rw [roundedPlace_shift positive _ low (by rw [whole]; exact above), whole]
  exact roundWithAccuracy_spec positive above

theorem log2_shiftLeft {mantissa : Nat} (positive : 0 < mantissa) (count : Nat) :
    (mantissa <<< count).log2 = mantissa.log2 + count := by
  rw [Nat.shiftLeft_eq]
  induction count with
  | zero => simp
  | succ count ih =>
      have nonzero : mantissa * 2 ^ count ≠ 0 :=
        Nat.ne_of_gt (Nat.mul_pos positive (Nat.two_pow_pos count))
      rw [Nat.pow_succ, ← Nat.mul_assoc, Nat.mul_comm _ 2, Nat.log2_two_mul nonzero, ih,
        Nat.add_assoc]

/-- Rounding a number of any exponent, which is lowered first where it is too high. -/
theorem round_low {mantissa : Nat} {exponent low : Int} (positive : 0 < mantissa)
    (below : low ≤ exponent) (least : low ≤ leastExponent) :
    IsMagnitude (UnpackedFloat.round .binary64 .positive mantissa exponent) ∧
      placeOf (UnpackedFloat.round .binary64 .positive mantissa exponent) =
        roundedPlace (mantissa <<< (exponent - low).toNat) low := by
  have targets := leastExponent_le_target mantissa exponent
  generalize counted : (exponent - target mantissa exponent).toNat = count
  have shifted : 0 < mantissa <<< count := by
    rw [Nat.shiftLeft_eq]
    exact Nat.mul_pos positive (Nat.two_pow_pos count)
  have same : target (mantissa <<< count) (exponent - count) = target mantissa exponent := by
    rw [target_eq, target_eq, log2_shiftLeft positive]
    omega
  have all : mantissa <<< (exponent - low).toNat =
      mantissa <<< count <<< (exponent - count - low).toNat := by
    rw [← Nat.shiftLeft_add]
    congr 1
    omega
  have lowered : UnpackedFloat.round .binary64 .positive mantissa exponent =
      roundWithAccuracy .binary64 .positive (mantissa <<< count) (exponent - count) .exact := by
    rw [← counted]
    rfl
  rw [lowered, all]
  exact roundWithAccuracy_low shifted (by omega) (by omega)

/-- The larger of two canonical numbers has the larger mantissa, at the lower exponent. -/
theorem IsCanonical.le_shift {firstMantissa secondMantissa : Nat}
    {firstExponent secondExponent : Int} (first : IsCanonical firstMantissa firstExponent)
    (second : IsCanonical secondMantissa secondExponent)
    (le : place firstMantissa firstExponent ≤ place secondMantissa secondExponent) :
    firstExponent ≤ secondExponent ∧
      firstMantissa ≤ secondMantissa <<< (secondExponent - firstExponent).toNat := by
  have firstLeast := first.least_le
  have secondLeast := second.least_le
  have firstHigh := first.mantissa_lt
  have secondHigh := second.mantissa_lt
  rw [place, place] at le
  rcases Int.lt_trichotomy firstExponent secondExponent with less | equal | greater
  · have normal := second.normal (by omega)
    obtain ⟨count, counted⟩ : ∃ count, (secondExponent - firstExponent).toNat = count + 1 :=
      ⟨(secondExponent - firstExponent).toNat - 1, by omega⟩
    have power := Nat.two_pow_pos count
    refine ⟨Int.le_of_lt less, ?_⟩
    rw [counted, Nat.shiftLeft_eq, Nat.pow_succ]
    calc firstMantissa
        ≤ secondMantissa * 2 := by omega
      _ ≤ secondMantissa * (2 ^ count * 2) := Nat.mul_le_mul_left _ (by omega)
  · subst equal
    refine ⟨Int.le_refl _, ?_⟩
    rw [Int.sub_self]
    exact Nat.le_of_add_le_add_left le
  · have normal := first.normal (by omega)
    have steps : (secondExponent - leastExponent).toNat + 1 ≤
        (firstExponent - leastExponent).toNat := by
      omega
    have products := Nat.mul_le_mul_right leastNormal steps
    rw [Nat.add_mul] at products
    omega

/-- A product of canonical numbers has bits enough to be rounded as it is. -/
theorem IsCanonical.mul_above {firstMantissa secondMantissa : Nat}
    {firstExponent secondExponent : Int} (first : IsCanonical firstMantissa firstExponent)
    (second : IsCanonical secondMantissa secondExponent) (firstPositive : 0 < firstMantissa)
    (secondPositive : 0 < secondMantissa) :
    firstExponent + secondExponent ≤
      target (firstMantissa * secondMantissa) (firstExponent + secondExponent) := by
  have firstLeast := first.least_le
  have secondLeast := second.least_le
  have positive := Nat.mul_pos firstPositive secondPositive
  change -1074 ≤ firstExponent at firstLeast
  change -1074 ≤ secondExponent at secondLeast
  rw [target_eq]
  by_cases normal : leastNormal ≤ firstMantissa * secondMantissa
  · have bits : 52 ≤ (firstMantissa * secondMantissa).log2 :=
      (Nat.le_log2 (Nat.ne_of_gt positive)).mpr normal
    omega
  · have firstSmall : firstExponent = leastExponent := by
      refine Int.le_antisymm (Int.not_lt.mp fun larger => normal ?_) firstLeast
      exact Nat.le_trans (first.normal larger) (Nat.le_mul_of_pos_right _ secondPositive)
    have secondSmall : secondExponent = leastExponent := by
      refine Int.le_antisymm (Int.not_lt.mp fun larger => normal ?_) secondLeast
      exact Nat.le_trans (second.normal larger) (Nat.le_mul_of_pos_left _ firstPositive)
    rw [firstSmall, secondSmall]
    exact Int.le_trans (by decide) (Int.le_max_right _ _)

/-- A canonical number is rounded to its own place. -/
theorem IsCanonical.roundedPlace {mantissa : Nat} {exponent low : Int}
    (canonical : IsCanonical mantissa exponent) (positive : 0 < mantissa)
    (below : low ≤ exponent) :
    roundedPlace (mantissa <<< (exponent - low).toNat) low = place mantissa exponent := by
  have least := canonical.least_le
  have stays : target mantissa exponent = exponent := by
    have high : mantissa.log2 < 53 :=
      (Nat.log2_lt (Nat.ne_of_gt positive)).mpr canonical.mantissa_lt
    have normal : leastExponent < exponent → 52 ≤ mantissa.log2 := fun larger =>
      (Nat.le_log2 (Nat.ne_of_gt positive)).mpr (canonical.normal larger)
    change -1074 ≤ exponent at least
    change -1074 < exponent → _ at normal
    rw [target_eq]
    omega
  have whole : low + ((exponent - low).toNat : Int) = exponent := by omega
  rw [roundedPlace_shift positive _ low (by rw [whole, stays]), whole, Double.roundedPlace, stays,
    Int.sub_self]
  rfl

/-- A finite number packs to infinity or to components that are not those of infinity. -/
theorem pack_finite_cases (mantissa : Nat) (exponent : Int) (positive : 0 < mantissa) :
    pack .binary64 (.finite .positive mantissa exponent positive) =
        packedInfinity .binary64 .positive ∨
      ∃ exponentBits mantissaBits, exponentBits ≠ -1#11 ∧
        pack .binary64 (.finite .positive mantissa exponent positive) =
          packComponents .binary64 .positive exponentBits mantissaBits := by
  simp only [pack]
  split
  · exact Or.inl rfl
  · rename_i moderate
    refine Or.inr ?_
    split
    · refine ⟨_, _, ?_, rfl⟩
      intro special
      have values := congrArg BitVec.toNat special
      rw [BitVec.toNat_ofNat] at values
      change ¬2048 ≤ _ + 1 at moderate
      change _ % 2048 = 2047 at values
      omega
    · exact ⟨0#11, _, by decide, rfl⟩

/-- Whatever was rounded to a positive number is not negative once it is packed. -/
theorem isMagnitude_of_pack_finite (mantissa : Nat) (exponent : Int) (positive : 0 < mantissa) :
    IsMagnitude (unpack .binary64
      (pack .binary64 (.finite .positive mantissa exponent positive))) := by
  rcases pack_finite_cases mantissa exponent positive with
    infinite | ⟨exponentBits, mantissaBits, notSpecial, components⟩
  · rw [infinite]
    exact .infinity
  · have signBit : unpackSign (packComponents .binary64 .positive exponentBits mantissaBits) =
        0#1 :=
      unpackSign_packComponents _ _ _
    have exponents : unpackExponent
        (packComponents .binary64 .positive exponentBits mantissaBits) = exponentBits :=
      unpackExponent_packComponents
    rw [components]
    cases unpacked : unpack .binary64
      (packComponents .binary64 .positive exponentBits mantissaBits) with
    | zero sign => exact .zero sign
    | notANumber =>
        simp only [unpack, exponents, if_neg notSpecial] at unpacked
        split at unpacked
        · split at unpacked <;> cases unpacked
        · cases unpacked
    | infinity sign =>
        simp only [unpack, exponents, if_neg notSpecial] at unpacked
        split at unpacked
        · split at unpacked <;> cases unpacked
        · cases unpacked
    | finite sign other power otherPositive =>
        have canonical := isCanonical_of_unpack unpacked
        simp only [unpack, exponents, if_neg notSpecial, signBit] at unpacked
        split at unpacked
        · split at unpacked <;> cases unpacked
          exact .finite _ canonical
        · cases unpacked
          exact .finite _ canonical

end SpatialWorkload.Double
