/-!
What the bits of a 64-bit float denote, and the whole numbers among them. Everything about
the text of a float starts from here, in exact integer arithmetic.
-/

namespace TapeCalc

/-- A finite float denotes `± m · 2 ^ q`. -/
inductive FloatParts
  | nan
  | infinite (negative : Bool)
  | finite (negative : Bool) (m : Nat) (q : Int)

namespace FloatParts

def leastNormal : Nat := 0x10000000000000

/-- The top bit is the sign, eleven bits are the exponent and the others the fraction. -/
def ofFloat (x : Float) : FloatParts :=
  let bits := x.toBits.toNat
  let negative := bits / 0x8000000000000000 == 1
  let exponent := bits / leastNormal % 2048
  let fraction := bits % leastNormal
  if exponent = 2047 then
    if fraction = 0 then infinite negative else nan
  else if exponent = 0 then
    finite negative fraction (-1074)
  else
    finite negative (leastNormal + fraction) ((exponent : Int) - 1075)

def wholePart (m : Nat) (q : Int) : Nat :=
  if 0 ≤ q then m * Nat.pow 2 q.toNat else m / Nat.pow 2 (-q).toNat

def isWhole (m : Nat) (q : Int) : Bool :=
  0 ≤ q || m % Nat.pow 2 (-q).toNat == 0

end FloatParts

def clampInt64 (n : Int) : Int64 :=
  Int64.ofInt (max Int64.minValue.toInt (min n Int64.maxValue.toInt))

/-- Cut off the fraction; what is too large stops at the ends of the range, and a value that
is no number counts as zero. -/
def truncateFloat (x : Float) : Int64 :=
  match FloatParts.ofFloat x with
  | .nan => 0
  | .infinite true => Int64.minValue
  | .infinite false => Int64.maxValue
  | .finite true m q => clampInt64 (-(FloatParts.wholePart m q : Int))
  | .finite false m q => clampInt64 (FloatParts.wholePart m q)

def wholeFloat? (x : Float) : Option Int64 :=
  match FloatParts.ofFloat x with
  | .finite _ m q =>
    if FloatParts.isWhole m q && FloatParts.wholePart m q < 0x8000000000000000 then
      some (truncateFloat x)
    else none
  | _ => none

end TapeCalc
