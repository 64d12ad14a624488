import Mathlib
import TapeCalc.Value.Comparison

/-!
How floats compare. Every operation unpacks its operands, works on signs, significands and
exponents, and packs the result, so the facts are proved of the unpacked form first. Reversing a
pair reverses the exact comparison; it changes neither the distance of two floats nor the margin
within which they count as equal, and so it reverses the comparison up to a margin as well. Only
what is no number is left unordered, and an integer never becomes such a float.
-/

namespace TapeCalc

namespace Unpacked

open Float.Model (Format UnpackedFloat)
open Float.Model.UnpackedFloat (Sign Accuracy packComponents pack unpack roundWithAccuracy)

theorem compare_swap (a b : UnpackedFloat) : b.compare a = (a.compare b).map Ordering.swap := by
  cases a with
  | notANumber => cases b <;> rfl
  | infinity s =>
      cases s <;> cases b with
      | infinity t => cases t <;> rfl
      | _ => rfl
  | zero s =>
      cases b with
      | infinity t | finite t _ _ _ => cases t <;> rfl
      | _ => rfl
  | finite s m e positive =>
      cases b with
      | notANumber => rfl
      | infinity t | zero t => cases s <;> cases t <;> rfl
      | finite t m' e' positive' =>
          have swapped : (compare e' e).then (compare m' m) =
              ((compare e e').then (compare m m')).swap := by
            rw [Ordering.swap_then, ← Std.OrientedOrd.eq_swap, ← Std.OrientedOrd.eq_swap]
          cases s <;> cases t
          · simp [UnpackedFloat.compare, swapped]
          · rfl
          · rfl
          · simp [UnpackedFloat.compare, swapped]

theorem compare_eq_none_iff {a b : UnpackedFloat} :
    a.compare b = none ↔ a = .notANumber ∨ b = .notANumber := by
  fun_cases UnpackedFloat.compare a b <;> simp_all

section Packing

variable {spec : Format}

theorem abs_unpack_packComponents (s : Sign) (e : BitVec spec.exponentBits)
    (m : BitVec spec.mantissaBitsWithoutImplicit) :
    (unpack spec (packComponents spec s e m)).abs =
      unpack spec (packComponents spec .positive e m) := by
  simp only [unpack, UnpackedFloat.unpackMantissa_packComponents,
    UnpackedFloat.unpackExponent_packComponents, UnpackedFloat.unpackSign_packComponents,
    Sign.ofBitVec_toBitVec]
  split
  · split <;> rfl
  · split
    · split <;> rfl
    · rfl

/-- The sign can be dropped before packing or after it. -/
theorem abs_unpack_pack (u : UnpackedFloat) :
    (unpack spec (pack spec u)).abs = unpack spec (pack spec u.abs) := by
  cases u with
  | notANumber | infinity s | zero s => exact abs_unpack_packComponents _ _ _
  | finite s m e positive =>
      -- None of the tests of `pack` looks at the sign.
      have unsigned : UnpackedFloat.abs (.finite s m e positive) = .finite .positive m e positive :=
        rfl
      rw [unsigned, pack, pack]
      split
      · exact abs_unpack_packComponents _ _ _
      · split
        · exact abs_unpack_packComponents _ _ _
        · exact abs_unpack_packComponents _ _ _

theorem unpack_packComponents_eq_notANumber_iff (s : Sign) (e : BitVec spec.exponentBits)
    (m : BitVec spec.mantissaBitsWithoutImplicit) :
    unpack spec (packComponents spec s e m) = .notANumber ↔ e = -1#_ ∧ m ≠ 0#_ := by
  simp only [unpack, UnpackedFloat.unpackMantissa_packComponents,
    UnpackedFloat.unpackExponent_packComponents]
  split
  · split <;> simp_all
  · split
    · split <;> simp_all
    · simp_all

/-- Packing may overflow to an infinity, but it makes no number into something else. -/
theorem unpack_pack_eq_notANumber_iff {u : UnpackedFloat} :
    unpack spec (pack spec u) = .notANumber ↔ u = .notANumber := by
  have infinite (s : Sign) : unpack spec (UnpackedFloat.packedInfinity spec s) ≠ .notANumber := by
    simp [UnpackedFloat.packedInfinity, unpack_packComponents_eq_notANumber_iff]
  cases u with
  | notANumber | zero s => simp [pack]
  | infinity s => simpa [pack] using infinite s
  | finite s m e positive =>
      simp only [reduceCtorEq, iff_false]
      rw [pack]
      split
      · exact infinite s
      · rename_i small
        split
        · rw [unpack_packComponents_eq_notANumber_iff]
          rintro ⟨top, -⟩
          have top := congrArg BitVec.toNat top
          rw [BitVec.neg_one_eq_allOnes, BitVec.toNat_allOnes, BitVec.toNat_ofNat,
            Nat.mod_eq_of_lt (by omega)] at top
          omega
        · rw [unpack_packComponents_eq_notANumber_iff]
          rintro ⟨top, -⟩
          simp [Nat.ne_of_gt spec.he] at top

theorem abs_round (s : Sign) (m : Nat) (e : Int) :
    (UnpackedFloat.round spec s m e).abs = UnpackedFloat.round spec .positive m e := by
  simp only [UnpackedFloat.round, roundWithAccuracy]
  split <;> rfl

theorem abs_normalize_neg (m e : Int) (zero : Sign) :
    (UnpackedFloat.normalize spec (-m) e zero).abs =
      (UnpackedFloat.normalize spec m e zero).abs := by
  unfold UnpackedFloat.normalize
  obtain negative | none | positive := Int.lt_trichotomy m 0
  · rw [Int.compare_eq_gt.2 (by omega), Int.compare_eq_lt.2 negative]
    simp only [abs_round]
  · simp [none]
  · rw [Int.compare_eq_lt.2 (by omega), Int.compare_eq_gt.2 positive]
    simp only [abs_round, Int.neg_neg]

theorem abs_sub_comm (a b : UnpackedFloat) :
    (UnpackedFloat.sub spec a b).abs = (UnpackedFloat.sub spec b a).abs := by
  cases a with
  | notANumber => cases b <;> rfl
  | infinity s =>
      cases b with
      | infinity t => cases s <;> cases t <;> rfl
      | _ => rfl
  | zero s =>
      cases b with
      | zero t => cases s <;> cases t <;> rfl
      | _ => rfl
  | finite s m e positive =>
      cases b with
      | finite t m' e' positive' =>
          simp only [UnpackedFloat.sub]
          rw [Int.min_comm e' e, ← abs_normalize_neg, Int.neg_sub]
      | _ => rfl

theorem roundWithAccuracy_ne_notANumber (s : Sign) (m : Nat) (e : Int) (accuracy : Accuracy) :
    roundWithAccuracy spec s m e accuracy ≠ .notANumber := by
  simp only [roundWithAccuracy]
  split <;> nofun

theorem normalize_ne_notANumber (m e : Int) (zero : Sign) :
    UnpackedFloat.normalize spec m e zero ≠ .notANumber := by
  unfold UnpackedFloat.normalize
  split
  · exact roundWithAccuracy_ne_notANumber _ _ _ _
  · nofun
  · exact roundWithAccuracy_ne_notANumber _ _ _ _

theorem ofScientific_ne_notANumber (m : Nat) (e : Int) :
    UnpackedFloat.ofScientific spec m e ≠ .notANumber := by
  unfold UnpackedFloat.ofScientific
  split
  · nofun
  · split
    · nofun
    · split
      · nofun
      · split
        · exact roundWithAccuracy_ne_notANumber _ _ _ _
        · exact roundWithAccuracy_ne_notANumber _ _ _ _

end Packing

theorem unpack_abs (x : Float) : x.abs.toModel.unpack = x.toModel.unpack.abs := by
  have packed := UnpackedFloat.pack_unpack_of_valid x.toModel.valid
  have same := @abs_unpack_pack .binary64 x.toModel.unpack
  rw [Float.Model.unpack, packed] at same
  exact same.symm

theorem float_eq_of_unpack_eq {x y : Float} (h : x.toModel.unpack = y.toModel.unpack) : x = y := by
  have bits := (UnpackedFloat.unpack_inj_of_valid x.toModel.valid y.toModel.valid).1 h
  exact Float.toBits_inj.1 (UInt64.toBitVec_inj.1 bits)

theorem isNaN_iff {x : Float} : x.isNaN = true ↔ x.toModel.unpack = .notANumber :=
  UnpackedFloat.isNaN_iff

theorem lt_iff {x y : Float} :
    x < y ↔ x.toModel.unpack.compare y.toModel.unpack = some .lt := by
  change decide (UnpackedFloat.lt _ _ = true) = true ↔ _
  rw [decide_eq_true_eq, UnpackedFloat.lt, beq_iff_eq]

theorem le_iff {x y : Float} :
    x ≤ y ↔ (x.toModel.unpack.compare y.toModel.unpack).any Ordering.isLE = true := by
  change decide (UnpackedFloat.le _ _ = true) = true ↔ _
  rw [decide_eq_true_eq]
  rfl

theorem beq_iff {x y : Float} :
    (x == y) = true ↔ x.toModel.unpack.compare y.toModel.unpack = some .eq := by
  change UnpackedFloat.beq _ _ = true ↔ _
  rw [UnpackedFloat.beq, beq_iff_eq]

theorem not_le_of_isNaN {x : Float} (h : x.isNaN = true) (y : Float) : ¬ x ≤ y := by
  rw [le_iff, isNaN_iff.1 h]
  nofun

theorem isNaN_abs (x : Float) : x.abs.isNaN = x.isNaN := by
  rw [Bool.eq_iff_iff, isNaN_iff, isNaN_iff, unpack_abs]
  cases x.toModel.unpack <;> simp [UnpackedFloat.abs]

theorem isNaN_neg (x : Float) : x.neg.isNaN = x.isNaN := by
  rw [Bool.eq_iff_iff, isNaN_iff, isNaN_iff]
  refine unpack_pack_eq_notANumber_iff.trans ?_
  cases x.toModel.unpack <;> simp [UnpackedFloat.neg]

theorem isNaN_sub {x y : Float} (h : x.isNaN = true ∨ y.isNaN = true) :
    (x - y).isNaN = true := by
  rw [isNaN_iff, isNaN_iff] at h
  refine isNaN_iff.2 (unpack_pack_eq_notANumber_iff.2 ?_)
  obtain h | h := h
  · rw [h]
    rfl
  · rw [h]
    cases x.toModel.unpack <;> rfl

theorem isNaN_mul_one (x : Float) : (x * 1).isNaN = x.isNaN := by
  obtain ⟨m, e, positive, one⟩ :
      ∃ m e positive, (1 : Float).toModel.unpack = .finite .positive m e positive :=
    ⟨2 ^ 52, -52, by decide, by rfl⟩
  rw [Bool.eq_iff_iff, isNaN_iff, isNaN_iff]
  refine unpack_pack_eq_notANumber_iff.trans ?_
  rw [one]
  cases x.toModel.unpack <;> simp [UnpackedFloat.mul, roundWithAccuracy_ne_notANumber]

theorem isNaN_ofNat (n : Nat) : (Float.ofNat n).isNaN = false := by
  change (Float.ofScientific n false 0).isNaN = false
  unfold Float.ofScientific
  split
  · have unit : Float.exactlyRepresentablePowersOfTen[0] = 1 := by rfl
    simp only [Bool.false_eq_true, if_false, unit, isNaN_mul_one]
    rw [Bool.eq_false_iff, ne_eq, isNaN_iff]
    intro nan
    exact normalize_ne_notANumber _ _ _ (unpack_pack_eq_notANumber_iff.1 nan)
  · rw [Bool.eq_false_iff, ne_eq, isNaN_iff]
    intro nan
    exact ofScientific_ne_notANumber n _ (unpack_pack_eq_notANumber_iff.1 nan)

theorem isNaN_ofInt (n : Int) : (Float.ofInt n).isNaN = false := by
  cases n with
  | ofNat n => exact isNaN_ofNat n
  | negSucc n => exact (isNaN_neg _).trans (isNaN_ofNat _)

/-- Two floats are equally far apart in both directions. -/
theorem abs_float_sub_comm (x y : Float) : (x - y).abs = (y - x).abs := by
  apply float_eq_of_unpack_eq
  have unpacked (x y : Float) : (x - y).abs.toModel.unpack =
      unpack .binary64 (pack .binary64 (UnpackedFloat.sub .binary64 x.toModel.unpack
        y.toModel.unpack).abs) := by
    rw [unpack_abs, ← abs_unpack_pack]
    rfl
  rw [unpacked, unpacked, abs_sub_comm]

/-- Magnitudes that compare as equal are the same: the zeros of both signs have one magnitude. -/
theorem abs_eq_of_compare {x y : Float}
    (h : x.abs.toModel.unpack.compare y.abs.toModel.unpack = some .eq) : x.abs = y.abs := by
  have unsigned (x : Float) : x.abs.toModel.unpack ≠ .zero .negative := by
    rw [unpack_abs]
    cases x.toModel.unpack <;> nofun
  obtain ⟨_, _, same | ⟨_, negative⟩ | ⟨negative, _⟩⟩ :=
    (UnpackedFloat.beq_iff_ne_notANumber_and_eq _ _).1 (beq_iff_eq.2 h)
  · exact float_eq_of_unpack_eq same
  · exact absurd negative (unsigned y)
  · exact absurd negative (unsigned x)

end Unpacked

namespace Value

open Unpacked

theorem exactOrder_eq_compare (x y : Float) :
    exactOrder x y = x.toModel.unpack.compare y.toModel.unpack := by
  have swap := compare_swap x.toModel.unpack y.toModel.unpack
  simp only [exactOrder, lt_iff, beq_iff]
  rw [swap]
  cases x.toModel.unpack.compare y.toModel.unpack with
  | none => rfl
  | some o => cases o <;> rfl

theorem exactOrder_swap (x y : Float) : exactOrder y x = (exactOrder x y).map Ordering.swap := by
  rw [exactOrder_eq_compare, exactOrder_eq_compare]
  exact compare_swap _ _

theorem exactOrder_eq_none_iff {x y : Float} :
    exactOrder x y = none ↔ x.isNaN = true ∨ y.isNaN = true := by
  rw [exactOrder_eq_compare, compare_eq_none_iff, isNaN_iff, isNaN_iff]

theorem largerMagnitude_comm (x y : Float) : largerMagnitude x y = largerMagnitude y x := by
  unfold largerMagnitude
  by_cases nx : x.abs.isNaN = true
  · by_cases ny : y.abs.isNaN = true
    · -- There is only one float that is no number.
      rw [float_eq_of_unpack_eq ((isNaN_iff.1 nx).trans (isNaN_iff.1 ny).symm)]
    · simp [nx, ny, -Float.isNaN_eq_decide_eq_nan]
  · by_cases ny : y.abs.isNaN = true
    · simp [nx, ny, -Float.isNaN_eq_decide_eq_nan]
    · have swap := compare_swap x.abs.toModel.unpack y.abs.toModel.unpack
      simp only [nx, ny, lt_iff]
      rw [swap]
      cases h : x.abs.toModel.unpack.compare y.abs.toModel.unpack with
      | none =>
          obtain nan | nan := compare_eq_none_iff.1 h
          · exact absurd (isNaN_iff.2 nan) nx
          · exact absurd (isNaN_iff.2 nan) ny
      | some o =>
          cases o with
          | lt | gt => simp
          | eq => simpa using abs_eq_of_compare h

theorem margin_comm (x y : Float) : margin x y = margin y x := by
  simp only [margin, and_comm, largerMagnitude_comm]

theorem floatOrder_swap (x y : Float) : floatOrder y x = (floatOrder x y).map Ordering.swap := by
  rw [floatOrder, floatOrder, abs_float_sub_comm, margin_comm, exactOrder_swap]
  split <;> rfl

theorem floatOrder_eq_none_iff {x y : Float} :
    floatOrder x y = none ↔ x.isNaN = true ∨ y.isNaN = true := by
  rw [floatOrder, ← exactOrder_eq_none_iff]
  split
  · rename_i close
    simp only [reduceCtorEq, false_iff, exactOrder_eq_none_iff]
    intro nan
    refine not_le_of_isNaN ?_ _ close
    rw [isNaN_abs]
    exact isNaN_sub nan
  · rfl

end Value

end TapeCalc
