import Mathlib.Data.Rat.Floor
import TapeCalc.Value.Arithmetic

/-!
The remainder of two integers. The machine's own remainder has the sign of the dividend, and the
divisor is added where the two signs differ, so that the result goes with the quotient rounded
down. Opposite signs are also why this addition stays within 64 bits.
-/

namespace TapeCalc.Value

section Exact

variable {a b q r : Int}

/-- A remainder between zero and the divisor goes with the quotient rounded down. -/
theorem floor_div_eq (split : a = b * q + r) (between : 0 ≤ r ∧ r < b ∨ b < r ∧ r ≤ 0) :
    ⌊(a : ℚ) / b⌋ = q := by
  rw [Int.floor_eq_iff, split]
  push_cast
  obtain ⟨low, high⟩ | ⟨low, high⟩ := between
  · have positive : (0 : ℚ) < b := by exact_mod_cast Int.lt_of_le_of_lt low high
    have low' : (0 : ℚ) ≤ r := by exact_mod_cast low
    have high' : (r : ℚ) < b := by exact_mod_cast high
    rw [le_div_iff₀ positive, div_lt_iff₀ positive]
    constructor <;> linarith
  · have negative : (b : ℚ) < 0 := by exact_mod_cast Int.lt_of_lt_of_le low high
    have low' : (b : ℚ) < r := by exact_mod_cast low
    have high' : (r : ℚ) ≤ 0 := by exact_mod_cast high
    rw [le_div_iff_of_neg negative, div_lt_iff_of_neg negative]
    constructor <;> linarith

theorem natAbs_tmod_lt (a : Int) (nonzero : b ≠ 0) : (a.tmod b).natAbs < b.natAbs := by
  rw [Int.natAbs_tmod]
  exact Nat.mod_lt _ (Int.natAbs_pos.2 nonzero)

end Exact

section Words

variable {a b : Int64}

theorem toInt_eq_zero_iff : a.toInt = 0 ↔ a = 0 :=
  Int64.toInt_inj (y := 0)

theorem opposite_iff : decide (a < 0) ≠ decide (b < 0) ↔ ¬ (a.toInt < 0 ↔ b.toInt < 0) := by
  have zero : (0 : Int64).toInt = 0 := rfl
  rw [ne_eq, decide_eq_decide, Int64.lt_iff_toInt_lt, Int64.lt_iff_toInt_lt, zero]

theorem toInt_add_of_opposite (opposite : decide (a < 0) ≠ decide (b < 0)) :
    (a + b).toInt = a.toInt + b.toInt := by
  rw [opposite_iff] at opposite
  have low := a.le_toInt
  have high := a.toInt_lt
  have low' := b.le_toInt
  have high' := b.toInt_lt
  rw [Int64.toInt_add]
  exact Int.bmod_eq_of_le (by omega) (by omega)

variable (a b) in
theorem toInt_remainder :
    (remainder a b).toInt =
      if a.toInt.tmod b.toInt ≠ 0 ∧ ¬ (a.toInt.tmod b.toInt < 0 ↔ b.toInt < 0) then
        a.toInt.tmod b.toInt + b.toInt
      else a.toInt.tmod b.toInt := by
  have condition : (a % b ≠ 0 ∧ decide (a % b < 0) ≠ decide (b < 0)) ↔
      (a % b).toInt ≠ 0 ∧ ¬ ((a % b).toInt < 0 ↔ b.toInt < 0) := by
    rw [opposite_iff, ne_eq, ne_eq, toInt_eq_zero_iff]
  rw [← Int64.toInt_mod]
  by_cases shifts : a % b ≠ 0 ∧ decide (a % b < 0) ≠ decide (b < 0)
  · rw [remainder, if_pos shifts, if_pos (condition.1 shifts), toInt_add_of_opposite shifts.2]
  · rw [remainder, if_neg shifts, if_neg (shifts ∘ condition.2)]

/-- The remainder lies between zero and the divisor, and differs from the dividend by a multiple
of the divisor. -/
theorem remainder_between (a : Int64) (nonzero : b ≠ 0) :
    b.toInt ∣ a.toInt - (remainder a b).toInt ∧
      (0 ≤ (remainder a b).toInt ∧ (remainder a b).toInt < b.toInt ∨
        b.toInt < (remainder a b).toInt ∧ (remainder a b).toInt ≤ 0) := by
  have nonzero' : b.toInt ≠ 0 := fun zero => nonzero (toInt_eq_zero_iff.1 zero)
  have multiple : b.toInt ∣ a.toInt - a.toInt.tmod b.toInt := Int.dvd_self_sub_tmod
  have small := natAbs_tmod_lt a.toInt nonzero'
  rw [toInt_remainder]
  -- A remainder of the other sign, and smaller than the divisor, gets past zero by adding it.
  split
  · rw [← Int.sub_sub]
    exact ⟨Int.dvd_sub multiple (Int.dvd_refl _), by omega⟩
  · exact ⟨multiple, by omega⟩

end Words

/-- The remainder of two integers is the one of the division rounded down: it differs from the
dividend by a multiple of the divisor, is smaller than the divisor, and is zero or has its sign.
Neither of the two steps leaves the 64-bit range. Without a divisor, and with floats, there is no
remainder. -/
theorem modulo_rounds_down (a b : Int64) :
    (b ≠ 0 → ∃ r : Int64, modulo (.int a) (.int b) = .int r ∧
      r.toInt = a.toInt - b.toInt * ⌊(a.toInt : ℚ) / b.toInt⌋ ∧
      b.toInt ∣ a.toInt - r.toInt ∧ |r.toInt| < |b.toInt| ∧ (r = 0 ∨ (r < 0 ↔ b < 0)) ∧
      (a % b).toInt = a.toInt.tmod b.toInt ∧
      if a % b ≠ 0 ∧ decide (a % b < 0) ≠ decide (b < 0) then
        r = a % b + b ∧ r.toInt = (a % b).toInt + b.toInt
      else r = a % b) ∧
    modulo (.int Int64.minValue) (.int (-1)) = .int 0 ∧
    modulo (.int a) (.int 0) = .empty ∧
    ∀ (x : Float) (v : Value), modulo (.float x) v = .empty ∧ modulo v (.float x) = .empty := by
  refine ⟨?_, rfl, rfl, ?_⟩
  · intro nonzero
    obtain ⟨⟨q, multiple⟩, between⟩ := remainder_between a nonzero
    have split : a.toInt = b.toInt * q + (remainder a b).toInt := by omega
    have zero : (0 : Int64).toInt = 0 := rfl
    refine ⟨remainder a b, if_neg nonzero, ?_, ⟨q, multiple⟩, ?_, ?_, Int64.toInt_mod a b, ?_⟩
    · rw [floor_div_eq split between]
      omega
    · rw [Int.abs_eq_natAbs, Int.abs_eq_natAbs]
      omega
    · rw [← toInt_eq_zero_iff, Int64.lt_iff_toInt_lt, Int64.lt_iff_toInt_lt, zero]
      omega
    · split
      · rename_i shifts
        have sum : remainder a b = a % b + b := if_pos shifts
        exact ⟨sum, sum ▸ toInt_add_of_opposite shifts.2⟩
      · rename_i keeps
        exact if_neg keeps
  · intro x v
    exact ⟨by cases v <;> rfl, by cases v <;> rfl⟩

/-- The least integer by the greatest, where the divisor is added to a remainder of `-1`. -/
theorem modulo_rounds_down_extremes : (Int64.maxValue : Int64) ≠ 0 ∧
    ∃ r : Int64, modulo (.int Int64.minValue) (.int Int64.maxValue) = .int r ∧
      r.toInt = 9223372036854775806 ∧ ¬ r < 0 := by
  have nonzero : (Int64.maxValue : Int64) ≠ 0 := by decide
  obtain ⟨r, result, _, _, _, sign, _, steps⟩ :=
    (modulo_rounds_down Int64.minValue Int64.maxValue).1 nonzero
  rw [if_pos (by decide)] at steps
  refine ⟨nonzero, r, result, steps.2, ?_⟩
  rw [steps.1]
  decide

end TapeCalc.Value
