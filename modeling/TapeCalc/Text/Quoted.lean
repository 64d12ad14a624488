import TapeCalc.Text.Basic
import TapeCalc.Text.Hidden

/-!
The quoted form of a text in stack listings, where every hidden character is spelled by its code.
-/

namespace TapeCalc.Text

def hexDigits (n : Nat) : Text :=
  Nat.toDigits 16 n

/-- One character of a listed text. -/
def escape (c : Char) : Text :=
  if c = '\x00' then "\\0".toList
  else if c = '\t' then "\\t".toList
  else if c = '\r' then "\\r".toList
  else if c = '\n' then "\\n".toList
  else if c = '"' then "\\\"".toList
  else if c = '\\' then "\\\\".toList
  else if isHidden c then "\\u\x7b".toList ++ hexDigits c.toNat ++ "\x7d".toList
  else [c]

def quote (s : Text) : Text :=
  '"' :: (s.flatMap escape ++ ['"'])

end TapeCalc.Text
