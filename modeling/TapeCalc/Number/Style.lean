import TapeCalc.Text.Basic
import TapeCalc.Number.Decimal

/-!
How a float is written once its shortest digits are known. Each place that prints floats
chooses one `Style`.
-/

namespace TapeCalc

structure Style where
  /-- Whether the number `d.ddd · 10 ^ e` is written without an exponent. -/
  positional : Int → Bool
  /-- Written after a positional number that has no fraction. -/
  wholeTail : Text
  /-- Written before an exponent that is not negative. -/
  plus : Text
  /-- Which of two equally near shortest decimals is taken. -/
  tieUp : Bool
  nan : Text
  infinity : Text
  minusInfinity : Text

namespace Style

def zeros (n : Nat) : Text :=
  List.replicate n '0'

/-- The digits `ds` times `10 ^ g`, written with a point or padded with zeros. -/
def writePositional (style : Style) (ds : Text) (g : Int) : Text :=
  if 0 ≤ g then
    ds ++ zeros g.toNat ++ style.wholeTail
  else
    let places := (-g).toNat
    if places < ds.length then
      ds.take (ds.length - places) ++ '.' :: ds.drop (ds.length - places)
    else
      '0' :: '.' :: (zeros (places - ds.length) ++ ds)

/-- One digit, the others after a point, and the exponent `e`. -/
def writeScientific (style : Style) (ds : Text) (e : Int) : Text :=
  let rest := ds.drop 1
  let fraction := if rest.isEmpty then [] else '.' :: rest
  let sign := if 0 ≤ e then style.plus else []
  ds.take 1 ++ fraction ++ 'e' :: (sign ++ Text.ofInt e)

def writeDecimal (style : Style) (d : Decimal) : Text :=
  let ds := Text.ofNat d.coefficient
  let e := d.exponent + ds.length - 1
  if style.positional e then style.writePositional ds d.exponent
  else style.writeScientific ds e

def write (style : Style) (x : Float) : Text :=
  match FloatParts.ofFloat x with
  | .nan => style.nan
  | .infinite true => style.minusInfinity
  | .infinite false => style.infinity
  | .finite negative m q =>
    let d := if m = 0 then ⟨0, 0⟩ else Decimal.shortest style.tieUp m q
    let s := style.writeDecimal d
    if negative then '-' :: s else s

end Style

end TapeCalc
