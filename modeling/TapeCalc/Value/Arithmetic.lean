import TapeCalc.Op
import TapeCalc.Text.Search
import TapeCalc.Value.Basic

/-!
The arithmetic operators `+ - * / %`. Each takes the value pushed first on the left. Two
integers wrap around at 64 bits, a float operand makes the result a float, and texts have
forms of their own: joining, trimming at either end, adding one character, searching, and the
code of one character. Any other pair gives the empty text.
-/

namespace TapeCalc.Value

/-- The largest code that `*` attaches to a text. -/
def maxCharCode : Int64 := 128

def onNumbers (onInt : Int64 → Int64 → Int64) (onFloat : Float → Float → Float) :
    Value → Value → Value
  | int a, int b => int (onInt a b)
  | l, r =>
    match l.toFloat?, r.toFloat? with
    | some a, some b => float (onFloat a b)
    | _, _ => empty

def add : Value → Value → Value
  | text s, r => text (s ++ r.joinText)
  | l, text s => text (l.joinText ++ s)
  | l, r => onNumbers (· + ·) (· + ·) l r

def trimCount (n : Int64) : Nat :=
  n.toInt.toNat

def subtract : Value → Value → Value
  | text s, int n => if 0 ≤ n then text (s.take (s.length - trimCount n)) else empty
  | int n, text s => if 0 ≤ n then text (s.drop (trimCount n)) else empty
  | l, r => onNumbers (· - ·) (· - ·) l r

/-- The character with code `n`, among those that `*` attaches. -/
def charOfCode? (n : Int64) : Option Char :=
  if 0 ≤ n ∧ n ≤ maxCharCode then some (Char.ofNat n.toInt.toNat) else none

def multiply : Value → Value → Value
  | text s, int n =>
    match charOfCode? n with
    | some c => text (s ++ [c])
    | none => empty
  | int n, text s =>
    match charOfCode? n with
    | some c => text (c :: s)
    | none => empty
  | l, r => onNumbers (· * ·) (· * ·) l r

def divide : Value → Value → Value
  | text s, text needle =>
    match Text.search? needle s with
    | some k => int (Int64.ofNat k)
    | none => int (-1)
  | l, r =>
    match l.toFloat?, r.toFloat? with
    | some n, some d => if d.abs < tolerance then empty else float (n / d)
    | _, _ => empty

/-- The remainder that has the sign of the divisor. -/
def remainder (a b : Int64) : Int64 :=
  let r := a % b
  if r ≠ 0 ∧ decide (r < 0) ≠ decide (b < 0) then r + b else r

def charCodeAt? (s : Text) (i : Int64) : Option Int64 :=
  if 0 ≤ i then (s[i.toInt.toNat]?).map fun c => Int64.ofNat c.toNat else none

def modulo : Value → Value → Value
  | text s, int i =>
    match charCodeAt? s i with
    | some code => int code
    | none => empty
  | int a, int b => if b = 0 then empty else int (remainder a b)
  | _, _ => empty

/-- The arithmetic operator `op`; another operator computes nothing here. -/
def arithmetic : Op → Value → Value → Value
  | .add, l, r => add l r
  | .subtract, l, r => subtract l r
  | .multiply, l, r => multiply l r
  | .divide, l, r => divide l r
  | .modulo, l, r => modulo l r
  | _, _, _ => empty

end TapeCalc.Value
