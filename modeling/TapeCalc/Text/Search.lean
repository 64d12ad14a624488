import TapeCalc.Text.Basic

/-!
Finding a text in another one. `indexOf?` says what is meant: the least position at which the
needle stands. `search?` gives the same answer in time that does not multiply the two lengths:
it carries a hash of the window along and compares characters only where the hashes agree.
-/

namespace TapeCalc.Text

/-- The least position at which `needle` occurs as a run of characters. -/
def indexOf? (needle : Text) : Text → Option Nat
  | [] => if needle.isEmpty then some 0 else none
  | c :: rest =>
    if needle.isPrefixOf (c :: rest) then some 0
    else (indexOf? needle rest).map (· + 1)

namespace Hash

def modulus : Nat := 2147483647

def base : Nat := 1000003

def push (h : Nat) (c : Char) : Nat :=
  (h * base + c.toNat) % modulus

/-- The hash of a text reads it as a number in `base`, up to multiples of `modulus`. -/
def ofText (s : Text) : Nat :=
  s.foldl push 0

/-- What a character weighs when the characters of `s` stand after it. -/
def weight (s : Text) : Nat :=
  s.foldl (fun w _ => w * base % modulus) 1

/-- The hash when the window drops `out`, which has the weight `w`, and takes `c` in. -/
def roll (w h : Nat) (out c : Char) : Nat :=
  push (h + (modulus - out.toNat * w % modulus)) c

end Hash

/-- Search from position `k` on. The window at the beginning of the first text has the hash `h`,
and the second text is what follows the window. -/
def searchFrom (needle : Text) (target w k h : Nat) : Text → Text → Option Nat
  | s, [] => if h = target ∧ needle.isPrefixOf s then some k else none
  | [], _ :: _ => none
  | c :: s, d :: ahead =>
    if h = target ∧ needle.isPrefixOf (c :: s) then some k
    else searchFrom needle target w (k + 1) (Hash.roll w h c d) s ahead

def search? (needle s : Text) : Option Nat :=
  let size := needle.length
  let window := s.take size
  if window.length < size then none
  else
    searchFrom needle (Hash.ofText needle) (Hash.weight needle.tail) 0 (Hash.ofText window) s
      (s.drop size)

end TapeCalc.Text
