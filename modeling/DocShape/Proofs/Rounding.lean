import DocShape.Proofs.Binary64
import Mathlib.Algebra.Group.Nat.Defs
import Mathlib.Data.Nat.Log

namespace DocShape.Binary64

/-! Rounding integers: their order is kept, and two of them meet only past 53 bits. -/

section Quotient

variable {numerator larger denominator : Nat}

theorem roundQuotient_le_succ (numerator denominator : Nat) :
    roundQuotient numerator denominator ≤ numerator / denominator + 1 := by
  unfold roundQuotient
  dsimp only
  split
  · exact Nat.le_succ _
  · exact Nat.le_refl _
  · split
    · exact Nat.le_succ _
    · exact Nat.le_refl _

theorem roundQuotient_mul (whole : Nat) (positive : 0 < denominator) :
    roundQuotient (whole * denominator) denominator = whole := by
  have below : compare (2 * 0) denominator = .lt := Nat.compare_eq_lt.mpr (by omega)
  simp only [roundQuotient, Nat.mul_mod_left, Nat.mul_div_cancel whole positive, below]

/-- With equal wholes the larger remainder is not rounded further down. -/
theorem roundQuotient_mono_of_div_eq (ordered : numerator ≤ larger)
    (same : numerator / denominator = larger / denominator) :
    roundQuotient numerator denominator ≤ roundQuotient larger denominator := by
  have rest : numerator % denominator ≤ larger % denominator := by
    have here := Nat.div_add_mod numerator denominator
    have there := Nat.div_add_mod larger denominator
    rw [same] at here
    omega
  unfold roundQuotient
  rw [same]
  dsimp only
  split <;> split <;> simp only [Nat.compare_eq_lt, Nat.compare_eq_gt, Nat.compare_eq_eq] at * <;>
    grind

theorem roundQuotient_mono (ordered : numerator ≤ larger) :
    roundQuotient numerator denominator ≤ roundQuotient larger denominator := by
  have wholes : numerator / denominator ≤ larger / denominator := Nat.div_le_div_right ordered
  rcases Nat.lt_or_eq_of_le wholes with earlier | same
  · calc
      roundQuotient numerator denominator ≤ numerator / denominator + 1 :=
        roundQuotient_le_succ _ _
      _ ≤ larger / denominator := earlier
      _ ≤ roundQuotient larger denominator := div_le_roundQuotient _ _
  · exact roundQuotient_mono_of_div_eq ordered same

end Quotient

section Units

variable {units larger : Nat}

/-- The nearest magnitude that a finite number of any size could have. -/
def rounded (units : Nat) : Nat :=
  roundQuotient units (2 ^ spacing units) * 2 ^ spacing units

theorem rounded_of_dvd (multiple : 2 ^ spacing units ∣ units) : rounded units = units := by
  obtain ⟨whole, same⟩ := multiple
  have positive : 0 < 2 ^ spacing units := Nat.two_pow_pos _
  unfold rounded
  generalize 2 ^ spacing units = gap at same positive
  rw [same, Nat.mul_comm gap whole, roundQuotient_mul whole positive]

/-- Rounding does not go past a power of two. -/
theorem rounded_le_pow {exponent : Nat} (coarser : spacing units ≤ exponent)
    (below : units ≤ 2 ^ exponent) : rounded units ≤ 2 ^ exponent := by
  obtain ⟨more, rfl⟩ := Nat.exists_eq_add_of_le coarser
  rw [Nat.pow_add, Nat.mul_comm] at below ⊢
  refine Nat.mul_le_mul_right _ ?_
  calc
    roundQuotient units (2 ^ spacing units)
        ≤ roundQuotient (2 ^ more * 2 ^ spacing units) (2 ^ spacing units) :=
      roundQuotient_mono below
    _ = 2 ^ more := roundQuotient_mul _ (Nat.two_pow_pos _)

theorem pow_le_rounded {exponent : Nat} (coarser : spacing units ≤ exponent)
    (above : 2 ^ exponent ≤ units) : 2 ^ exponent ≤ rounded units := by
  obtain ⟨more, rfl⟩ := Nat.exists_eq_add_of_le coarser
  rw [Nat.pow_add, Nat.mul_comm] at above ⊢
  refine Nat.mul_le_mul_right _ ?_
  calc
    2 ^ more = roundQuotient (2 ^ more * 2 ^ spacing units) (2 ^ spacing units) :=
      (roundQuotient_mul _ (Nat.two_pow_pos _)).symm
    _ ≤ roundQuotient units (2 ^ spacing units) := roundQuotient_mono above

theorem spacing_le_log2 (units : Nat) : spacing units ≤ units.log2 := Nat.sub_le _ _

/-- Rounding leaves no more bits than the format has at that magnitude. -/
theorem dvd_rounded (units : Nat) : 2 ^ spacing (rounded units) ∣ rounded units := by
  by_cases zero : units = 0
  · have nothing : rounded units = 0 := by
      rw [zero]
      decide
    rw [nothing]
    exact Nat.dvd_zero _
  · have lower : 2 ^ units.log2 ≤ rounded units :=
      pow_le_rounded (spacing_le_log2 units) (Nat.log2_self_le zero)
    have upper : rounded units ≤ 2 ^ (units.log2 + 1) :=
      rounded_le_pow (Nat.le_succ_of_le (spacing_le_log2 units)) (Nat.le_of_lt Nat.lt_log2_self)
    obtain shorter | same := Nat.lt_or_eq_of_le upper
    · have positive : rounded units ≠ 0 :=
        Nat.ne_of_gt (Nat.lt_of_lt_of_le (Nat.two_pow_pos _) lower)
      have length := (Nat.log2_lt positive).mpr shorter
      have finer : spacing (rounded units) ≤ spacing units :=
        Nat.sub_le_sub_right (Nat.le_of_lt_succ length) 52
      exact Nat.dvd_trans (Nat.pow_dvd_pow 2 finer) (Nat.dvd_mul_left _ _)
    · rw [same, spacing, Nat.log2_two_pow]
      exact Nat.pow_dvd_pow 2 (Nat.sub_le _ _)

theorem rounded_mono (ordered : units ≤ larger) : rounded units ≤ rounded larger := by
  have logs : units.log2 ≤ larger.log2 := by
    rw [Nat.log2_eq_log_two, Nat.log2_eq_log_two]
    exact Nat.log_mono_right ordered
  rcases Nat.lt_or_eq_of_le logs with earlier | same
  · -- A power of two lies between magnitudes of different lengths.
    have fits : units ≤ 2 ^ larger.log2 :=
      Nat.le_of_lt (Nat.lt_of_lt_of_le Nat.lt_log2_self (Nat.pow_le_pow_right Nat.two_pos earlier))
    have positive : larger ≠ 0 := by
      rintro rfl
      simp at earlier
    calc
      rounded units ≤ 2 ^ larger.log2 :=
        rounded_le_pow (Nat.le_trans (spacing_le_log2 units) logs) fits
      _ ≤ rounded larger := pow_le_rounded (spacing_le_log2 larger) (Nat.log2_self_le positive)
  · unfold rounded spacing
    rw [same]
    exact Nat.mul_le_mul_right _ (roundQuotient_mono ordered)

/-- A magnitude up to the first of 54 bits stays what it is, also when it is scaled. -/
theorem rounded_scaled {magnitude exponent : Nat} (enough : 52 ≤ exponent)
    (fits : magnitude ≤ 2 ^ 53) :
    rounded (magnitude * 2 ^ exponent) = magnitude * 2 ^ exponent := by
  apply rounded_of_dvd
  rcases Nat.lt_or_eq_of_le fits with shorter | rfl
  · have bounded : magnitude * 2 ^ exponent < 2 ^ (53 + exponent) := by
      rw [Nat.pow_add]
      exact Nat.mul_lt_mul_of_pos_right shorter (Nat.two_pow_pos exponent)
    have fine : spacing (magnitude * 2 ^ exponent) ≤ exponent := by
      by_cases zero : magnitude * 2 ^ exponent = 0
      · simp [spacing, zero]
      · have length := (Nat.log2_lt zero).mpr bounded
        unfold spacing
        omega
    exact Nat.dvd_trans (Nat.pow_dvd_pow 2 fine) (Nat.dvd_mul_left _ _)
  · rw [← Nat.pow_add, spacing, Nat.log2_two_pow]
    exact Nat.pow_dvd_pow 2 (by omega)

end Units

/-- How far from zero the number nearest to a whole magnitude stands. -/
def distance (magnitude : Nat) : Nat := min (rounded (magnitude * one)) limit

def place (value : Int) : Int :=
  if value < 0 then -(distance value.natAbs : Int) else distance value.natAbs

variable {left right : Int} {magnitude : Nat}

/-- A number that the format can hold: a finite one is below the limit and has no more bits
than there are at its magnitude. -/
inductive Representable : Binary64 → Prop where
  | unordered : Representable .nan
  | endless (negative : Bool) : Representable (.infinite negative)
  | bounded (negative : Bool) {units : Nat} (fits : units < limit)
      (bits : 2 ^ spacing units ∣ units) : Representable (.finite negative units)

theorem ofInt_cases (value : Int) :
    (ofInt value = .finite (decide (value < 0)) (rounded (value.natAbs * one)) ∧
      rounded (value.natAbs * one) < limit) ∨
    ofInt value = .infinite (decide (value < 0)) ∧ limit ≤ rounded (value.natAbs * one) := by
  have nearby : ofInt value =
      if rounded (value.natAbs * one) < limit then
        .finite (decide (value < 0)) (rounded (value.natAbs * one))
      else .infinite (decide (value < 0)) := by
    simp only [ofInt, nearest, Nat.div_one, Nat.one_mul]
    rfl
  by_cases fits : rounded (value.natAbs * one) < limit
  · exact .inl ⟨nearby.trans (if_pos fits), fits⟩
  · exact .inr ⟨nearby.trans (if_neg fits), Nat.le_of_not_lt fits⟩

theorem position?_ofInt (value : Int) : (ofInt value).position? = some (place value) := by
  rw [place, distance]
  obtain ⟨finite, fits⟩ | ⟨infinite, far⟩ := ofInt_cases value
  · rw [finite, Nat.min_eq_left (Nat.le_of_lt fits)]
    simp only [position?, decide_eq_true_eq]
  · rw [infinite, Nat.min_eq_right far]
    simp only [position?, decide_eq_true_eq]

theorem ofInt_ne_nan (value : Int) : ofInt value ≠ .nan := by
  intro isNan
  have stands := position?_ofInt value
  rw [isNan] at stands
  cases stands

theorem ofNat_eq_ofInt (value : Nat) : ofNat value = ofInt value := by
  have positive : decide ((value : Int) < 0) = false := by simp
  rw [ofNat, ofInt, positive, Int.natAbs_natCast]

theorem representable_ofInt (value : Int) : (ofInt value).Representable := by
  obtain ⟨isFinite, fits⟩ | ⟨isInfinite, _⟩ := ofInt_cases value
  · rw [isFinite]
    exact .bounded _ fits (dvd_rounded _)
  · rw [isInfinite]
    exact .endless _

/-- A finite number stands short of the places of the infinite ones. -/
theorem Representable.position {number : Binary64} (representable : number.Representable)
    (isFinite : number.isFinite = true) :
    ∃ place, number.position? = some place ∧ -(limit : Int) < place ∧ place < limit := by
  cases representable with
  | bounded negative fits =>
      generalize limit = last at fits ⊢
      refine ⟨_, rfl, ?_⟩
      cases negative with
      | true =>
          rw [if_pos rfl]
          omega
      | false =>
          rw [if_neg Bool.false_ne_true]
          omega
  | _ => cases isFinite

theorem distance_mono {larger : Nat} (ordered : magnitude ≤ larger) :
    distance magnitude ≤ distance larger := by
  have units : rounded (magnitude * one) ≤ rounded (larger * one) :=
    rounded_mono (Nat.mul_le_mul_right one ordered)
  unfold distance
  omega

theorem place_mono (ordered : left ≤ right) : place left ≤ place right := by
  have nearer : right.natAbs ≤ left.natAbs → distance right.natAbs ≤ distance left.natAbs :=
    distance_mono
  have further : left.natAbs ≤ right.natAbs → distance left.natAbs ≤ distance right.natAbs :=
    distance_mono
  unfold place
  split <;> split <;> omega

theorem scaled_le_limit (fits : magnitude ≤ 2 ^ 53) : magnitude * one ≤ limit := by
  have room : 53 + 1074 ≤ 2098 := by decide
  unfold one limit
  generalize 1074 = exponent at room ⊢
  generalize 2098 = last at room ⊢
  calc
    magnitude * 2 ^ exponent ≤ 2 ^ 53 * 2 ^ exponent := Nat.mul_le_mul_right _ fits
    _ = 2 ^ (53 + exponent) := (Nat.pow_add _ _ _).symm
    _ ≤ 2 ^ last := Nat.pow_le_pow_right Nat.two_pos room

theorem rounded_of_le (fits : magnitude ≤ 2 ^ 53) :
    rounded (magnitude * one) = magnitude * one := by
  have enough : 52 ≤ 1074 := by decide
  unfold one
  generalize 1074 = exponent at enough ⊢
  exact rounded_scaled enough fits

/-- Whole numbers up to the first of 54 bits are kept. -/
theorem distance_of_le (fits : magnitude ≤ 2 ^ 53) : distance magnitude = magnitude * one := by
  rw [distance, rounded_of_le fits, Nat.min_eq_left (scaled_le_limit fits)]

theorem place_of_le (fits : left.natAbs ≤ 2 ^ 53) : place left = left * one := by
  unfold place
  rw [distance_of_le fits]
  split
  · rw [Int.natCast_mul, ← Int.neg_mul]
    congr 1
    omega
  · rw [Int.natCast_mul]
    congr 1
    omega

/-- An integer of at most 53 bits shares its place with no other. -/
theorem place_ne_of_lt (fits : left.natAbs < 2 ^ 53) (apart : left ≠ right) :
    place left ≠ place right := by
  by_cases short : right.natAbs ≤ 2 ^ 53
  · rw [place_of_le (Nat.le_of_lt fits), place_of_le short]
    intro same
    exact apart (Int.eq_of_mul_eq_mul_right (Int.ne_of_gt (Int.ofNat_lt.mpr one_pos)) same)
  · -- Past 53 bits everything stands further out.
    have further : 2 ^ 53 * one ≤ distance right.natAbs := by
      rw [← distance_of_le (Nat.le_refl (2 ^ 53))]
      exact distance_mono (Nat.le_of_not_le short)
    have nearer : distance left.natAbs < 2 ^ 53 * one := by
      rw [distance_of_le (Nat.le_of_lt fits)]
      exact Nat.mul_lt_mul_of_pos_right fits one_pos
    unfold place
    generalize 2 ^ 53 * one = far at further nearer
    split <;> split <;> omega

section Comparison

variable {first second : Binary64} {here there : Int}
  (stands : first.position? = some here) (other : second.position? = some there)

include stands other

theorem lt_iff_of_position? : first.lt second = true ↔ here < there := by
  simp only [lt, stands, other, decide_eq_true_eq]

theorem le_iff_of_position? : first.le second = true ↔ here ≤ there := by
  simp only [le, stands, other, decide_eq_true_eq]

theorem same_iff_of_position? : first.same second = true ↔ here = there := by
  simp only [same, stands, other, beq_iff_eq]

end Comparison

theorem exists_position {number : Binary64} (placed : number ≠ .nan) :
    ∃ place, number.position? = some place := by
  cases number with
  | nan => exact absurd rfl placed
  | _ => exact ⟨_, rfl⟩

theorem same_self {number : Binary64} (placed : number ≠ .nan) : number.same number = true := by
  obtain ⟨place, stands⟩ := exists_position placed
  exact (same_iff_of_position? stands stands).mpr rfl

/-- Numbers with a place are ordered one way or the other. -/
theorem le_eq_false_iff {first second : Binary64} (placed : first ≠ .nan)
    (otherPlaced : second ≠ .nan) : first.le second = false ↔ second.lt first = true := by
  obtain ⟨here, stands⟩ := exists_position placed
  obtain ⟨there, other⟩ := exists_position otherPlaced
  rw [← Bool.not_eq_true, le_iff_of_position? stands other, lt_iff_of_position? other stands,
    Int.not_le]

/-- Whatever is finite lies between the infinite numbers. -/
theorem Representable.between_infinite {number : Binary64} (representable : number.Representable)
    (isFinite : number.isFinite = true) :
    (infinite true).lt number = true ∧ number.lt (infinite false) = true := by
  obtain ⟨place, stands, above, below⟩ := representable.position isFinite
  have bottom : (infinite true).position? = some (-(limit : Int)) := rfl
  have top : (infinite false).position? = some (limit : Int) := rfl
  exact ⟨(lt_iff_of_position? bottom stands).mpr above, (lt_iff_of_position? stands top).mpr below⟩

theorem ofInt_lt_iff : (ofInt left).lt (ofInt right) = true ↔ place left < place right :=
  lt_iff_of_position? (position?_ofInt left) (position?_ofInt right)

/-- Two integers meet where the nearest numbers of this format are the same. -/
def Meet (left right : Int) : Prop := (ofInt left).same (ofInt right) = true

theorem meet_iff : Meet left right ↔ place left = place right :=
  same_iff_of_position? (position?_ofInt left) (position?_ofInt right)

/-- Integers that do not meet in rounding are compared as they are. -/
theorem ofInt_lt_iff_of_apart (apart : left ≠ right → ¬ Meet left right) :
    (ofInt left).lt (ofInt right) = true ↔ left < right := by
  rw [ofInt_lt_iff]
  constructor
  · intro below
    by_contra above
    have ordered := place_mono (Int.not_lt.mp above)
    omega
  · intro below
    have ordered := place_mono (Int.le_of_lt below)
    have different := mt meet_iff.mpr (apart (Int.ne_of_lt below))
    omega

theorem Meet.symm (meet : Meet left right) : Meet right left :=
  meet_iff.mpr (meet_iff.mp meet).symm

/-- Different integers that meet in rounding have more than 53 bits, both of them. -/
theorem Meet.le_natAbs (meet : Meet left right) (apart : left ≠ right) :
    2 ^ 53 ≤ left.natAbs ∧ 2 ^ 53 ≤ right.natAbs := by
  constructor
  · by_contra short
    exact place_ne_of_lt (Nat.lt_of_not_le short) apart (meet_iff.mp meet)
  · by_contra short
    exact place_ne_of_lt (Nat.lt_of_not_le short) apart.symm (meet_iff.mp meet.symm)

end DocShape.Binary64
