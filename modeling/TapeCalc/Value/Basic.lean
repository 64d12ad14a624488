import TapeCalc.Text.Quoted
import TapeCalc.Number.Style
import TapeCalc.Number.Numeral

/-!
The values on the stack: 64-bit integers, 64-bit floats and texts. The empty text doubles as
the answer of an operator that cannot use its operands. Each value has a printed text, a text
taken when it is joined to another text, and a listed form.
-/

namespace TapeCalc

inductive Kind
  | integer
  | float
  | string
deriving DecidableEq

def Kind.name : Kind → String
  | integer => "integer"
  | float => "float"
  | string => "string"

inductive Value
  | int (n : Int64)
  | float (x : Float)
  | text (s : Text)
deriving DecidableEq

namespace Value

def empty : Value := .text []

def kind : Value → Kind
  | int _ => .integer
  | float _ => .float
  | text _ => .string

def isNumeric : Value → Bool
  | text _ => false
  | _ => true

def isText : Value → Bool
  | text _ => true
  | _ => false

def isEmpty : Value → Bool
  | text s => s.isEmpty
  | _ => false

def toFloat? : Value → Option Float
  | int n => some (Float.ofInt n.toInt)
  | float x => some x
  | text _ => none

/-- Floats closer than this to zero count as zero. -/
def tolerance : Float := 1e-10

def isFalsy : Value → Bool
  | int n => n == 0
  | float x => x.abs ≤ tolerance
  | text s => s.isEmpty

def flag (b : Bool) : Value :=
  .int (if b then 1 else 0)

/-- A printed float has no exponent however long it gets. -/
def printed : Style where
  positional := fun _ => true
  wholeTail := []
  plus := []
  tieUp := true
  nan := "NaN".toList
  infinity := "inf".toList
  minusInfinity := "-inf".toList

/-- A float joined to a text shows that it is no integer, and takes an exponent below
`10 ^ -4` and from `10 ^ 16` on. -/
def joined : Style where
  positional := fun e => -4 ≤ e && e < 16
  wholeTail := ".0".toList
  plus := []
  tieUp := true
  nan := "NaN".toList
  infinity := "inf".toList
  minusInfinity := "-inf".toList

/-- What the write operator prints. A float that is a 64-bit integer is printed as one. -/
def toText : Value → Text
  | int n => Text.ofInt n.toInt
  | float x =>
    match wholeFloat? x with
    | some n => Text.ofInt n.toInt
    | none => printed.write x
  | text s => s

/-- What a value contributes when it is added to a text. -/
def joinText : Value → Text
  | int n => Text.ofInt n.toInt
  | float x => joined.write x
  | text s => s

def listed : Value → Text
  | text s => s.quote
  | v => v.toText

/-- A line of input is an integer or a float if it reads as one, and else a text; blanks around
it do not count. Only a line with a point or an exponent mark can be a float. -/
def ofLine (line : Text) : Value :=
  let s := line.trim
  if s.any fun c => c = '.' || c = 'e' || c = 'E' then
    match Numeral.readFloat? s with
    | some x => .float x
    | none => .text s
  else
    match Numeral.readInt64? s with
    | some n => .int n
    | none => .text s

end Value

end TapeCalc
