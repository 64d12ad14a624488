import Mathlib.Data.Nat.BitIndices
import TapeCalc.Mode

/-!
What a digit behind a point is multiplied by. The power of ten is computed by squaring, so it is
the product of those squares of squares of ten that stand at the binary digits of the place. As
long as a float can hold the power it is the power itself; after that every product is rounded.
-/

namespace TapeCalc.Mode

def square (x : Float) : Float :=
  x * x

/-- The float power `10 ^ j`, as the squares at the binary digits of `j` make it. -/
def powerOfTen (j : Nat) : Float :=
  (j.bitIndices.map fun k => square^[k] 10).foldl (· * ·) 1

theorem timesPower_two_mul (r a : Float) {n : Nat} (positive : 0 < n) :
    timesPower r a (2 * n) = timesPower r (a * a) n := by
  have even : 2 * n % 2 ≠ 1 := by omega
  have half : 2 * n / 2 = n := by omega
  rw [timesPower, if_neg even, if_neg (by omega), half]

theorem timesPower_two_mul_add_one (r a : Float) {n : Nat} (positive : 0 < n) :
    timesPower r a (2 * n + 1) = timesPower (r * a) (a * a) n := by
  have odd : (2 * n + 1) % 2 = 1 := by omega
  have half : (2 * n + 1) / 2 = n := by omega
  rw [timesPower, if_pos odd, if_neg (by omega), half]

/-- Squaring along the bits multiplies by the squares that stand at them, in ascending order. -/
theorem timesPower_eq (r a : Float) (b : Nat) :
    timesPower r a b = (b.bitIndices.map fun k => square^[k] a).foldl (· * ·) r := by
  induction b using Nat.strongRecOn generalizing r a with
  | ind b ih =>
      match b with
      | 0 | 1 => simp [timesPower]
      | b + 2 =>
          obtain ⟨n, even | odd⟩ : ∃ n, b + 2 = 2 * n ∨ b + 2 = 2 * n + 1 :=
            ⟨(b + 2) / 2, by omega⟩
          · rw [even, timesPower_two_mul r a (by omega), ih n (by omega),
              Nat.bitIndices_two_mul, List.map_map]
            rfl
          · rw [odd, timesPower_two_mul_add_one r a (by omega), ih n (by omega),
              Nat.bitIndices_two_mul_add_one, List.map_cons, List.map_map]
            rfl

/-- A double holds the powers of ten up to this one without rounding. -/
theorem powerOfTen_exact : ∀ j ≤ 22, powerOfTen j = Float.ofNat (10 ^ j) := by
  decide +kernel

theorem weight_eq {j : Nat} (inside : j ≤ 2147483647) : weight j = 1 / powerOfTen j := by
  have negated : (-(j : Int)).bmod 4294967296 = -j := by
    rw [Int.bmod_def]
    omega
  have power : timesPower 1 10 j = powerOfTen j := timesPower_eq 1 10 j
  rw [weight, negated, Int.natAbs_neg, Int.natAbs_natCast, power]
  by_cases first : j = 0
  · rw [first]
    decide +kernel
  · exact if_pos (by omega)

end TapeCalc.Mode
