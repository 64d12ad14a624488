import TapeCalc.Proofs.Operator
import TapeCalc.Proofs.Order
import TapeCalc.Proofs.Run

/-!
Infinite floats in comparisons. Compared exactly, every finite number lies between the two
infinities. Up to a margin it does not: the margin grows with the larger magnitude and is infinite
where one of the floats is, and so is their distance. So an infinity counts as equal to every
number, to the other infinity too, and is never less or greater.
-/

namespace TapeCalc

namespace Unpacked

open Float.Model (Format UnpackedFloat)
open Float.Model.UnpackedFloat (Sign packComponents packedInfinity pack unpack)

theorem unpack_packedInfinity {spec : Format} (s : Sign) :
    unpack spec (packedInfinity spec s) = .infinity s := by
  simp only [packedInfinity, unpack, UnpackedFloat.unpackMantissa_packComponents,
    UnpackedFloat.unpackExponent_packComponents, UnpackedFloat.unpackSign_packComponents,
    Sign.ofBitVec_toBitVec]
  rw [if_pos trivial, if_pos (by rfl)]

theorem isInf_iff {x : Float} : x.isInf = true ↔ ∃ s, x.toModel.unpack = .infinity s := by
  change x.toModel.unpack.isInf = true ↔ _
  cases x.toModel.unpack <;> simp [UnpackedFloat.isInf]

theorem isFinite_iff {x : Float} : x.isFinite = true ↔
    x.toModel.unpack ≠ .notANumber ∧ ∀ s, x.toModel.unpack ≠ .infinity s := by
  change x.toModel.unpack.isFinite = true ↔ _
  cases x.toModel.unpack <;> simp [UnpackedFloat.isFinite]

theorem sub_infinity {spec : Format} {a : UnpackedFloat} {s : Sign} (number : a ≠ .notANumber)
    (other : a ≠ .infinity s) : UnpackedFloat.sub spec a (.infinity s) = .infinity (-s) := by
  cases a with
  | notANumber => exact absurd rfl number
  | infinity t =>
      cases s <;> cases t
      · exact absurd rfl other
      · rfl
      · rfl
      · exact absurd rfl other
  | zero t | finite t m e positive => rfl

theorem tolerance_finite : ∃ m e positive,
    Value.tolerance.toModel.unpack = .finite .positive m e positive :=
  ⟨0x1b7cdfd9d7bdbb, -86, by decide, by rfl⟩

theorem unpack_ne_notANumber {x : Float} (number : x.isNaN = false) :
    x.toModel.unpack ≠ .notANumber := by
  rw [ne_eq, ← isNaN_iff, number]
  exact Bool.false_ne_true

theorem unpack_abs_infinity {x : Float} {s : Sign} (infinite : x.toModel.unpack = .infinity s) :
    x.abs.toModel.unpack = .infinity .positive := by
  rw [unpack_abs, infinite]
  rfl

/-- An infinity is infinitely far from every number that is not the same infinity. -/
theorem distance_infinity {x y : Float} {s : Sign} (number : x.isNaN = false)
    (infinite : y.toModel.unpack = .infinity s) (other : x.toModel.unpack ≠ .infinity s) :
    (x - y).abs.toModel.unpack = .infinity .positive := by
  have packed : (x - y).toModel.unpack = unpack .binary64 (pack .binary64
      (UnpackedFloat.sub .binary64 x.toModel.unpack y.toModel.unpack)) := rfl
  rw [unpack_abs, packed, infinite, sub_infinity (unpack_ne_notANumber number) other]
  exact congrArg UnpackedFloat.abs (unpack_packedInfinity _)

theorem largerMagnitude_infinity {x y : Float} {s : Sign} (number : x.isNaN = false)
    (infinite : y.toModel.unpack = .infinity s) :
    (Value.largerMagnitude x y).toModel.unpack = .infinity .positive := by
  have magnitude := unpack_abs_infinity infinite
  have real : y.abs.isNaN = false := by
    rw [Bool.eq_false_iff, ne_eq, isNaN_iff, magnitude]
    nofun
  simp only [Value.largerMagnitude, isNaN_abs x, number, real, Bool.false_eq_true, if_false]
  split
  · exact magnitude
  · rename_i large
    rw [lt_iff, magnitude, unpack_abs] at large
    rw [unpack_abs]
    cases h : x.toModel.unpack with
    | notANumber => exact absurd h (unpack_ne_notANumber number)
    | infinity t => rfl
    | zero t | finite t m e positive => exact absurd (by rw [h]; rfl) large

theorem margin_infinity {x y : Float} {s : Sign} (number : x.isNaN = false)
    (infinite : y.toModel.unpack = .infinity s) :
    (Value.margin x y).toModel.unpack = .infinity .positive := by
  have large : ¬ y.abs ≤ 1 := by
    rw [le_iff, unpack_abs_infinity infinite]
    decide
  obtain ⟨m, e, positive, finite⟩ := tolerance_finite
  have packed (a b : Float) : (a * b).toModel.unpack = unpack .binary64 (pack .binary64
      (UnpackedFloat.mul .binary64 a.toModel.unpack b.toModel.unpack)) := rfl
  rw [Value.margin, if_neg fun small => large small.2, packed, finite,
    largerMagnitude_infinity number infinite]
  exact unpack_packedInfinity _

end Unpacked

namespace Value

open Unpacked

theorem floatOrder_infinity {x y : Float} (number : x.isNaN = false) (infinite : y.isInf = true) :
    floatOrder x y = some .eq := by
  obtain ⟨s, unpacked⟩ := isInf_iff.1 infinite
  rw [floatOrder]
  by_cases same : x.toModel.unpack = .infinity s
  · -- The difference of an infinity from itself is no number, so the exact comparison decides.
    split
    · rfl
    · rw [exactOrder_eq_compare, same, unpacked]
      cases s <;> rfl
  · have close : (x - y).abs ≤ margin x y := by
      rw [le_iff, distance_infinity number unpacked same, margin_infinity number unpacked]
      rfl
    rw [if_pos close]

theorem exactOrder_infinity {x : Float} (finite : x.isFinite = true) :
    exactOrder x Float.inf = some .lt ∧ exactOrder x (-Float.inf) = some .gt := by
  obtain ⟨number, bounded⟩ := isFinite_iff.1 finite
  have above : Float.inf.toModel.unpack = .infinity .positive := by rfl
  have below : (-Float.inf).toModel.unpack = .infinity .negative := by rfl
  rw [exactOrder_eq_compare, exactOrder_eq_compare, above, below]
  cases h : x.toModel.unpack with
  | notANumber => exact absurd h number
  | infinity s => exact absurd h (bounded s)
  | zero s | finite s m e positive => exact ⟨by cases s <;> rfl, by cases s <;> rfl⟩

theorem order_infinity {v : Value} {y : Float} (number : v.isNumeric = true)
    (ordered : v.isNaN = false) (infinite : y.isInf = true) :
    order v (.float y) = some .eq := by
  cases v with
  | text s => cases number
  | int n => exact floatOrder_infinity (isNaN_ofInt n.toInt) infinite
  | float x => exact floatOrder_infinity ordered infinite

/-- An infinity counts as equal to every number, in either place and to the other infinity too, so
that none is less or greater, and a program that compares the two is told so. The exact comparison,
which is asked only beyond the margin, has every finite float between the two infinities. -/
theorem infinity_equals_numbers {v : Value} {y : Float} (number : v.isNumeric = true)
    (ordered : v.isNaN = false) (infinite : y.isInf = true) :
    (∀ op, comparison op v (.float y) = decide (op = .equal) ∧
      comparison op (.float y) v = decide (op = .equal)) ∧
    (∀ {κ : Type} [Console κ] (e : Engine κ) (below : Stack) (op : Op),
      op ∈ [Op.equal, .less, .greater] → e.stack = (below.push v).push (.float y) →
      e.perform op = .done { e with stack := below.push (flag (op = .equal)) }) ∧
    (∀ x : Float, x.isFinite = true →
      exactOrder x Float.inf = some .lt ∧ exactOrder x (-Float.inf) = some .gt) ∧
    exactOrder (-Float.inf) Float.inf = some .lt := by
  have equal := order_infinity number ordered infinite
  have swapped : order (.float y) v = some .eq := by
    rw [order_swap v, equal]
    rfl
  have left (op : Op) : comparison op v (.float y) = decide (op = .equal) := by
    cases op <;> simp [comparison, equal]
  have right (op : Op) : comparison op (.float y) v = decide (op = .equal) := by
    cases op <;> simp [comparison, swapped]
  refine ⟨fun op => ⟨left op, right op⟩, ?_, fun x finite => exactOrder_infinity finite, by rfl⟩
  intro κ _ e below op compares stack
  have performs : e.perform op = e.onPair op (fun l r => flag (comparison op l r)) := by
    simp only [List.mem_cons, List.not_mem_nil, or_false] at compares
    obtain rfl | rfl | rfl := compares <;> rfl
  rw [performs, Engine.onPair_of_stack stack, left]

/-- The product of two floats that overflows, against the largest integer. -/
theorem infinity_equals_numbers_overflow : ∃ y : Float,
    multiply (.float 1e200) (.float 1e200) = .float y ∧
    comparison .less (.int Int64.maxValue) (.float y) = false ∧
    comparison .equal (.int Int64.maxValue) (.float y) = true ∧
    exactOrder (Float.ofInt Int64.maxValue.toInt) Float.inf = some .lt := by
  have infinite : ((1e200 : Float) * 1e200).isInf = true := by decide +kernel
  obtain ⟨equal, _, between, _⟩ :=
    infinity_equals_numbers (v := .int Int64.maxValue) rfl rfl infinite
  exact ⟨_, rfl, (equal .less).1, (equal .equal).1, (between _ (by decide +kernel)).1⟩

/-- A line that is read as an infinity and compared with one: `1 < ∞` does not hold. -/
theorem infinity_not_above_one : ∃ e e' : Engine Script,
    e.tape = .ofText "1'<".toList ∧ e.console.lines = ["1e999".toList] ∧
    ofLine "1e999".toList = .float Float.inf ∧ Engine.Halts e (.done e') ∧
    e'.stack.values = [.int 0] ∧
    comparison .less (.int 1) (.float Float.inf) = false ∧
    comparison .greater (.int 1) (.float (-Float.inf)) = false ∧
    comparison .less (.float (-Float.inf)) (.float Float.inf) = false ∧
    comparison .equal (.int 1) (.float Float.inf) = true := by
  let e : Engine Script :=
    (Engine.boot .empty 'z' { lines := ["1e999".toList] }).load "1'<".toList
  have halts : Engine.Halts e (.done { Engine.boot .empty 'z' {} with
      stack := .ofList [.int 0] }) := ⟨3, by rfl⟩
  exact ⟨e, _, rfl, rfl, by rfl, halts, rfl, by rfl, by rfl, by rfl, by rfl⟩

end Value

end TapeCalc
