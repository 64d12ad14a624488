import TapeCalc.Text.Basic

/-!
Reading numbers from text. An integer is an optional sign and digits, inside the 64-bit
range; a float has digits around an optional point, and an optional exponent. The whole text
must match.
-/

namespace TapeCalc.Numeral

/-- Take an optional sign off the front; `true` is for a minus. -/
def takeSign : Text → Bool × Text
  | '-' :: s => (true, s)
  | '+' :: s => (false, s)
  | s => (false, s)

def value (ds : Text) : Nat :=
  Nat.ofDigitChars 10 ds 0

theorem value_ofNat (n : Nat) : value (Text.ofNat n) = n :=
  Nat.ofDigitChars_ten_toDigits

def signed (negative : Bool) (n : Nat) : Int :=
  if negative then -(n : Int) else n

def readNat? (s : Text) : Option Nat :=
  if !s.isEmpty && s.all Char.isDigit then some (value s) else none

def readInt? (s : Text) : Option Int :=
  let (negative, ds) := takeSign s
  (readNat? ds).map (signed negative)

def readInt64? (s : Text) : Option Int64 :=
  match readInt? s with
  | none => none
  | some n =>
    if Int64.minValue.toInt ≤ n ∧ n ≤ Int64.maxValue.toInt then some (Int64.ofInt n) else none

/-- The float nearest to `n · 10 ^ e`. Far outside the range of floats the answer is known
without building the power. -/
def nearestFloat (n : Nat) (e : Int) : Float :=
  let size := (Text.ofNat n).length + e
  if n = 0 ∨ size < -400 then 0
  else if 400 < size then Float.ofBits 0x7ff0000000000000
  else Float.ofScientific n (e < 0) e.natAbs

def readExponent? : Text → Option Int
  | [] => some 0
  | c :: s => if c = 'e' ∨ c = 'E' then readInt? s else none

def takeFraction : Text → Text × Text
  | '.' :: s => (s.takeWhile Char.isDigit, s.dropWhile Char.isDigit)
  | s => ([], s)

def readFloat? (s : Text) : Option Float :=
  let (negative, s) := takeSign s
  let whole := s.takeWhile Char.isDigit
  let (fraction, s) := takeFraction (s.dropWhile Char.isDigit)
  if whole.isEmpty && fraction.isEmpty then none
  else
    (readExponent? s).map fun e =>
      let x := nearestFloat (value (whole ++ fraction)) (e - fraction.length)
      if negative then -x else x

end TapeCalc.Numeral
