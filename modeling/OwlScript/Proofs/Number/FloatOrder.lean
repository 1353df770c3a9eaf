import OwlScript.Run.Operators

namespace OwlScript

/-!
# The order of floating-point numbers

The comparisons of floating-point numbers all come from one partial order on
them, in which two numbers are not ordered exactly if one of them is not a
number.  Both zeros are one number in it.
-/

namespace Number

open Float.Model

/-- Compared the other way round, numbers come out in the opposite order. -/
theorem unpacked_compare_swap (left right : UnpackedFloat) :
    right.compare left = (left.compare right).map Ordering.swap := by
  cases left with
  | notANumber =>
      cases right <;> rfl
  | infinity leftSign =>
      cases right with
      | infinity rightSign =>
          cases leftSign <;> cases rightSign <;> rfl
      | notANumber =>
          cases leftSign <;> rfl
      | zero rightSign =>
          cases leftSign <;> rfl
      | finite rightSign _ _ _ =>
          cases leftSign <;> cases rightSign <;> rfl
  | zero leftSign =>
      cases right with
      | infinity rightSign =>
          cases rightSign <;> rfl
      | notANumber =>
          rfl
      | zero rightSign =>
          rfl
      | finite rightSign _ _ _ =>
          cases rightSign <;> rfl
  | finite leftSign leftMantissa leftExponent _ =>
      cases right with
      | infinity rightSign =>
          cases leftSign <;> cases rightSign <;> rfl
      | notANumber =>
          cases leftSign <;> rfl
      | zero rightSign =>
          cases leftSign <;> rfl
      | finite rightSign rightMantissa rightExponent _ =>
          have exponents :
              compare rightExponent leftExponent =
                (compare leftExponent rightExponent).swap :=
            Std.OrientedCmp.eq_swap
          have mantissas :
              compare rightMantissa leftMantissa =
                (compare leftMantissa rightMantissa).swap :=
            Std.OrientedCmp.eq_swap
          have magnitudes :
              (compare rightExponent leftExponent).then
                  (compare rightMantissa leftMantissa) =
                ((compare leftExponent rightExponent).then
                  (compare leftMantissa rightMantissa)).swap := by
            rw [exponents, mantissas, Ordering.swap_then]
          cases leftSign with
          | negative =>
              cases rightSign with
              | negative =>
                  exact congrArg (fun ordering => some ordering.swap)
                    magnitudes
              | positive =>
                  rfl
          | positive =>
              cases rightSign with
              | negative =>
                  rfl
              | positive =>
                  exact congrArg some magnitudes

/-- What is a number is equal to itself. -/
theorem unpacked_compare_self
    {number : UnpackedFloat}
    (isNumber : number.isNaN = false) :
    number.compare number = some .eq := by
  cases number with
  | notANumber =>
      cases isNumber
  | infinity sign =>
      cases sign <;> rfl
  | zero sign =>
      rfl
  | finite sign mantissa exponent _ =>
      have magnitudes :
          (compare exponent exponent).then (compare mantissa mantissa) =
            .eq := by
        rw [Std.compare_self, Std.compare_self]
        rfl
      cases sign with
      | negative =>
          exact congrArg (fun ordering => some ordering.swap) magnitudes
      | positive =>
          exact congrArg some magnitudes

/-- Of two numbers that are numbers it can be said which is the greater. -/
theorem exists_unpacked_compare
    {left right : UnpackedFloat}
    (leftIsNumber : left.isNaN = false)
    (rightIsNumber : right.isNaN = false) :
    ∃ ordering, left.compare right = some ordering := by
  cases left with
  | notANumber =>
      cases leftIsNumber
  | infinity leftSign =>
      cases right with
      | notANumber =>
          cases rightIsNumber
      | _ =>
          cases leftSign <;> exact ⟨_, rfl⟩
  | zero leftSign =>
      cases right with
      | notANumber =>
          cases rightIsNumber
      | infinity rightSign =>
          cases rightSign <;> exact ⟨_, rfl⟩
      | zero rightSign =>
          exact ⟨_, rfl⟩
      | finite rightSign _ _ _ =>
          cases rightSign <;> exact ⟨_, rfl⟩
  | finite leftSign _ _ _ =>
      cases right with
      | notANumber =>
          cases rightIsNumber
      | infinity rightSign =>
          cases leftSign <;> cases rightSign <;> exact ⟨_, rfl⟩
      | zero rightSign =>
          cases leftSign <;> exact ⟨_, rfl⟩
      | finite rightSign _ _ _ =>
          cases leftSign <;> cases rightSign <;> exact ⟨_, rfl⟩

/-- Only the greatest exponent is used for what is not a number. -/
theorem isNaN_unpack_of_unpackExponent_ne
    {bits : BitVec Format.binary64.numBits}
    (finite : UnpackedFloat.unpackExponent bits ≠ -1#11) :
    (UnpackedFloat.unpack Format.binary64 bits).isNaN = false := by
  delta UnpackedFloat.unpack
  dsimp only
  rw [if_neg finite]
  by_cases isLeast : UnpackedFloat.unpackExponent bits = 0#11
  · rw [if_pos isLeast]
    by_cases isZero : UnpackedFloat.unpackMantissa bits = 0#52
    · rw [dif_pos isZero]
      rfl
    · rw [dif_neg isZero]
      rfl
  · rw [if_neg isLeast]
    rfl

/-- A number that is packed is still one, though it may be infinite. -/
theorem isNaN_unpack_pack (number : UnpackedFloat) :
    (UnpackedFloat.unpack Format.binary64
      (UnpackedFloat.pack Format.binary64 number)).isNaN = number.isNaN := by
  cases number with
  | notANumber =>
      rfl
  | infinity sign =>
      cases sign <;> rfl
  | zero sign =>
      cases sign <;> rfl
  | finite sign mantissa exponent positive =>
      change
        (UnpackedFloat.unpack _ (UnpackedFloat.pack _ _)).isNaN = false
      delta UnpackedFloat.pack
      dsimp only
      split
      · cases sign <;> rfl
      · next fits =>
          split
          · apply isNaN_unpack_of_unpackExponent_ne
            rw [UnpackedFloat.unpackExponent_packComponents]
            intro isGreatest
            have same := congrArg BitVec.toNat isGreatest
            simp at same
            omega
          · apply isNaN_unpack_of_unpackExponent_ne
            rw [UnpackedFloat.unpackExponent_packComponents]
            decide

/-- A finite number is a number, and so is a zero. -/
theorem isNaN_finiteOrZero
    (sign : UnpackedFloat.Sign)
    (mantissa : Nat)
    (exponent : Int) :
    UnpackedFloat.isNaN
      (if isZero : mantissa = 0 then
        .zero sign
      else
        .finite sign mantissa exponent (Nat.pos_of_ne_zero isZero)) =
      false := by
  by_cases isZero : mantissa = 0
  · rw [dif_pos isZero]
    rfl
  · rw [dif_neg isZero]
    rfl

/-- Rounding a finite number never gives what is not a number. -/
theorem isNaN_normalize
    (mantissa exponent : Int)
    (zeroSign : UnpackedFloat.Sign) :
    (UnpackedFloat.normalize Format.binary64 mantissa exponent
      zeroSign).isNaN = false := by
  unfold UnpackedFloat.normalize
  cases compare mantissa 0 with
  | lt =>
      exact isNaN_finiteOrZero _ _ _
  | eq =>
      rfl
  | gt =>
      exact isNaN_finiteOrZero _ _ _

/-- An integer as a double is a number. -/
theorem isNaN_toFloat (number : UInt64) : number.toFloat.isNaN = false := by
  have packed := isNaN_unpack_pack (UnpackedFloat.ofUInt64 .binary64 number)
  exact packed.trans (isNaN_normalize _ _ _)

/-- A change of sign neither makes nor removes what is not a number. -/
theorem isNaN_unpacked_neg (number : UnpackedFloat) :
    number.neg.isNaN = number.isNaN := by
  cases number <;> rfl

/-- The same holds of doubles. -/
theorem isNaN_neg (number : Float) : (-number).isNaN = number.isNaN := by
  have packed := isNaN_unpack_pack number.toModel.unpack.neg
  exact packed.trans (isNaN_unpacked_neg number.toModel.unpack)

/-- The double nearest to an integer is a number. -/
theorem isNaN_floatOfInt (number : Int64) :
    (Value.floatOfInt number).isNaN = false := by
  unfold Value.floatOfInt
  split
  · rw [isNaN_neg, isNaN_toFloat]
  · exact isNaN_toFloat _

/-- One double is less than another if comparing them says so. -/
theorem float_lt_iff (left right : Float) :
    left < right ↔ left.toModel.compare right.toModel = some .lt := by
  have less :
      left < right ↔
        (left.toModel.compare right.toModel == some .lt) = true :=
    decide_eq_true_iff
  rw [less, beq_iff_eq]

/-- Two doubles are equal if comparing them says so. -/
theorem float_beq_iff (left right : Float) :
    (left == right) = true ↔
      left.toModel.compare right.toModel = some .eq := by
  have equal :
      (left == right) =
        (left.toModel.compare right.toModel == some .eq) :=
    rfl
  rw [equal, beq_iff_eq]

/-- Strictly less, equal and strictly greater come from the same order. -/
theorem floatOrdering?_eq_compare (left right : Float) :
    Value.floatOrdering? left right = left.toModel.compare right.toModel := by
  have less := float_lt_iff left right
  have equal := float_beq_iff left right
  have greater :
      right < left ↔ left.toModel.compare right.toModel = some .gt := by
    have swapped :
        right.toModel.compare left.toModel =
          (left.toModel.compare right.toModel).map Ordering.swap :=
      unpacked_compare_swap _ _
    rw [float_lt_iff, swapped]
    cases left.toModel.compare right.toModel with
    | none =>
        simp
    | some ordering =>
        cases ordering <;> simp
  simp only [Value.floatOrdering?, less, equal, greater]
  cases left.toModel.compare right.toModel with
  | none =>
      rfl
  | some ordering =>
      cases ordering <;> rfl

/-- Doubles compared the other way round come out in the opposite order. -/
theorem floatOrdering?_swap (left right : Float) :
    Value.floatOrdering? right left =
      (Value.floatOrdering? left right).map Ordering.swap := by
  rw [floatOrdering?_eq_compare, floatOrdering?_eq_compare]
  exact unpacked_compare_swap _ _

/-- A double that is a number is equal to itself. -/
theorem floatOrdering?_self
    {number : Float}
    (isNumber : number.isNaN = false) :
    Value.floatOrdering? number number = some .eq := by
  rw [floatOrdering?_eq_compare]
  exact unpacked_compare_self isNumber

/-- Two doubles that are numbers can be compared. -/
theorem exists_floatOrdering?
    {left right : Float}
    (leftIsNumber : left.isNaN = false)
    (rightIsNumber : right.isNaN = false) :
    ∃ ordering, Value.floatOrdering? left right = some ordering := by
  rw [floatOrdering?_eq_compare]
  exact exists_unpacked_compare leftIsNumber rightIsNumber

/-- Two floating-point numbers are equal if neither comes first. -/
theorem float_beq_iff_floatOrdering? (left right : Float) :
    (left == right) = true ↔
      Value.floatOrdering? left right = some .eq := by
  rw [floatOrdering?_eq_compare, float_beq_iff]

end Number

end OwlScript
