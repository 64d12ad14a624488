/-!
Text is a list of Unicode scalar values, so that counting, cutting and indexing go by
character. Here are ranges of characters, the blank ones, trimming, and the decimal text of
integers.
-/

namespace TapeCalc

abbrev Text := List Char

namespace Text

/-- Whether `n` lies in one of the ranges, each given by its first and last member, ascending. -/
def inRanges (n : Nat) : List (Nat × Nat) → Bool
  | [] => false
  | (first, last) :: rest => first ≤ n && (n ≤ last || inRanges n rest)

/-- The characters with the Unicode property White_Space. -/
def isBlank (c : Char) : Bool :=
  let n := c.toNat
  (0x9 ≤ n && n ≤ 0xD) || n == 0x20 || n == 0x85 || n == 0xA0 || n == 0x1680 ||
    (0x2000 ≤ n && n ≤ 0x200A) || n == 0x2028 || n == 0x2029 || n == 0x202F ||
    n == 0x205F || n == 0x3000

def dropEndWhile (p : Char → Bool) (s : Text) : Text :=
  (s.reverse.dropWhile p).reverse

def trim (s : Text) : Text :=
  dropEndWhile isBlank (s.dropWhile isBlank)

def ofNat (n : Nat) : Text :=
  Nat.toDigits 10 n

theorem isDigit_of_mem_ofNat {n : Nat} {c : Char} (h : c ∈ ofNat n) : c.isDigit = true :=
  Nat.isDigit_of_mem_toDigits (by decide) (by decide) h

theorem ofNat_ne_nil (n : Nat) : ofNat n ≠ [] :=
  List.ne_nil_of_length_pos Nat.length_toDigits_pos

def ofInt : Int → Text
  | .ofNat n => ofNat n
  | .negSucc n => '-' :: ofNat (n + 1)

def join (sep : Text) (parts : List Text) : Text :=
  sep.intercalate parts

end Text

end TapeCalc
