import TapeCalc.Op
import TapeCalc.Value.Basic

/-!
The comparison operators `= < >`. Texts are ordered by character code and stand above all
numbers; two integers compare exactly; a pair with a float compares up to a tolerance that
grows with the larger magnitude, and not at all if one is no number.
-/

namespace TapeCalc.Value

/-- The larger magnitude; an operand that is no number yields to the other. -/
def largerMagnitude (a b : Float) : Float :=
  let a := a.abs
  let b := b.abs
  if a.isNaN then b
  else if b.isNaN then a
  else if a < b then b
  else a

def margin (a b : Float) : Float :=
  if a.abs ≤ 1 ∧ b.abs ≤ 1 then tolerance
  else tolerance * largerMagnitude a b

def exactOrder (a b : Float) : Option Ordering :=
  if a < b then some .lt
  else if b < a then some .gt
  else if a == b then some .eq
  else none

def floatOrder (a b : Float) : Option Ordering :=
  if (a - b).abs ≤ margin a b then some .eq else exactOrder a b

def order : Value → Value → Option Ordering
  | text a, text b => some (compare a b)
  | text _, _ => some .gt
  | _, text _ => some .lt
  | int a, int b => some (compare a b)
  | l, r =>
    match l.toFloat?, r.toFloat? with
    | some a, some b => floatOrder a b
    | _, _ => none

/-- The comparison operator `op`; another operator never holds. -/
def comparison (op : Op) (l r : Value) : Bool :=
  match op with
  | .equal => order l r = some .eq
  | .less => order l r = some .lt
  | .greater => order l r = some .gt
  | _ => false

end TapeCalc.Value
