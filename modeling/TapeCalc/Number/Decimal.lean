import TapeCalc.Number.Parts

/-!
The shortest decimal that reads back as a given float: fewest digits first, then nearest to
the float's exact value. All comparisons are between natural numbers.
-/

namespace TapeCalc

structure Decimal where
  coefficient : Nat
  exponent : Int

namespace Decimal

def dropZeros : Nat → Decimal → Decimal
  | 0, d => d
  | n + 1, d =>
    if d.coefficient ≠ 0 ∧ d.coefficient % 10 = 0 then
      dropZeros n ⟨d.coefficient / 10, d.exponent + 1⟩
    else d

/-- A positive number and the interval of numbers that round to it, all in units of
`1 / den`. The ends belong to the interval when `closed` holds. -/
structure Rounding where
  low : Nat
  value : Nat
  high : Nat
  den : Nat
  closed : Bool

/-- The interval of `m · 2 ^ q`. Its lower half is shorter where the spacing of floats
changes, at the least significand of a binade. -/
def Rounding.ofParts (m : Nat) (q : Int) : Rounding :=
  let below := if m = FloatParts.leastNormal ∧ -1074 < q then 1 else 2
  let scale := Nat.pow 2 (q - 2).toNat
  { low := (4 * m - below) * scale
    value := 4 * m * scale
    high := (4 * m + 2) * scale
    den := Nat.pow 2 (2 - q).toNat
    closed := m % 2 == 0 }

def Rounding.magnitude (t : Rounding) : Int :=
  (Nat.toDigits 10 (t.value * Nat.pow 10 340 / t.den)).length - 340

/-- The multiple of `10 ^ g` inside the interval that is nearest to the value. Of two equally
near ones, `tieUp` chooses the larger, and otherwise the even one is taken. -/
def Rounding.onGrid? (t : Rounding) (tieUp : Bool) (g : Int) : Option Nat :=
  let fine := Nat.pow 10 (-g).toNat
  let step := t.den * Nat.pow 10 g.toNat
  let value := t.value * fine
  let inside (d : Nat) : Bool :=
    let x := d * step
    if t.closed then t.low * fine ≤ x && x ≤ t.high * fine
    else t.low * fine < x && x < t.high * fine
  let down := value / step
  let rest := value % step
  match inside down, inside (down + 1) with
  | false, false => none
  | true, false => some down
  | false, true => some (down + 1)
  | true, true =>
    if 2 * rest < step then some down
    else if step < 2 * rest then some (down + 1)
    else if tieUp || down % 2 == 1 then some (down + 1)
    else some down

def shortest (tieUp : Bool) (m : Nat) (q : Int) : Decimal :=
  let t := Rounding.ofParts m q
  let p := t.magnitude
  let hit := (List.range 17).findSome? fun (k : Nat) =>
    let g := p - 1 - k
    (t.onGrid? tieUp g).map (Decimal.mk · g)
  match hit with
  | some d => dropZeros 17 d
  | none => ⟨0, 0⟩

end Decimal

end TapeCalc
