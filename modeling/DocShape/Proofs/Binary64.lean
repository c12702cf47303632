import DocShape.Number.Binary64

namespace DocShape.Binary64

/-! Rounding keeps the sign of an integer. -/

theorem two_pow_pos (exponent : Nat) : 0 < Nat.pow 2 exponent := Nat.pow_pos Nat.two_pos

theorem one_pos : 0 < one := by
  unfold one
  generalize 1074 = exponent
  exact two_pow_pos exponent

theorem limit_pos : 0 < limit := by
  unfold limit
  generalize 2098 = exponent
  exact two_pow_pos exponent

/-- Neighbours are no further apart than the magnitude at which they stand. -/
theorem gap_le {units : Nat} (positive : 0 < units) : Nat.pow 2 (spacing units) ≤ units := by
  have whole : 2 ^ units.log2 ≤ units := Nat.log2_self_le (Nat.ne_of_gt positive)
  have finer : 2 ^ spacing units ≤ 2 ^ units.log2 :=
    Nat.pow_le_pow_right Nat.two_pos (Nat.sub_le _ _)
  exact Nat.le_trans finer whole

theorem div_le_roundQuotient (numerator denominator : Nat) :
    numerator / denominator ≤ roundQuotient numerator denominator := by
  unfold roundQuotient
  dsimp only
  split
  · exact Nat.le_refl _
  · exact Nat.le_succ _
  · split
    · exact Nat.le_refl _
    · exact Nat.le_succ _

theorem zero_le_iff {number : Binary64} {place : Int} (stands : number.position? = some place) :
    (finite false 0).le number = true ↔ 0 ≤ place := by
  have zero : (finite false 0).position? = some 0 := rfl
  simp only [le, zero, stands, decide_eq_true_eq]

/-- A whole number stands on its own side of zero, and at zero only if it is zero. -/
theorem nearest_position (negative : Bool) (magnitude : Nat) :
    ∃ distance : Nat, (nearest negative magnitude 1).position? =
        some (if negative then -(distance : Int) else distance) ∧
      (0 < magnitude → 0 < distance) := by
  have scaled (positive : 0 < magnitude) : 0 < magnitude * one := Nat.mul_pos positive one_pos
  have gap := two_pow_pos (spacing (magnitude * one))
  have rounded (positive : 0 < magnitude) :
      0 < roundQuotient (magnitude * one) (Nat.pow 2 (spacing (magnitude * one))) :=
    Nat.lt_of_lt_of_le (Nat.div_pos (gap_le (scaled positive)) gap) (div_le_roundQuotient _ _)
  simp only [nearest, Nat.div_one, Nat.one_mul]
  split
  · exact ⟨_, rfl, fun positive => Nat.mul_pos (rounded positive) gap⟩
  · exact ⟨_, rfl, fun _ => limit_pos⟩

theorem zero_le_ofInt_iff {value : Int} : (finite false 0).le (ofInt value) = true ↔ 0 ≤ value := by
  obtain ⟨distance, stands, apart⟩ := nearest_position (decide (value < 0)) value.natAbs
  rw [ofInt, zero_le_iff stands]
  by_cases below : value < 0
  · simp only [below, decide_true, if_true]
    omega
  · simp only [below, decide_false, Bool.false_eq_true, if_false]
    omega

end DocShape.Binary64
