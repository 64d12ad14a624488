import TapeCalc.Stack

/-!
JSON without blanks, as the process writes it: controls are the only characters spelled by their
codes, and a float that is not finite has no text of its own.
-/

namespace TapeCalc

namespace Text

def escapeJson (c : Char) : Text :=
  if c = '"' then "\\\"".toList
  else if c = '\\' then "\\\\".toList
  else if c = '\x08' then "\\b".toList
  else if c = '\t' then "\\t".toList
  else if c = '\n' then "\\n".toList
  else if c = '\x0c' then "\\f".toList
  else if c = '\r' then "\\r".toList
  else if c.toNat < 0x20 then
    "\\u00".toList ++ [Nat.digitChar (c.toNat / 16), Nat.digitChar (c.toNat % 16)]
  else [c]

def quoteJson (s : Text) : Text :=
  '"' :: (s.flatMap escapeJson ++ ['"'])

end Text

namespace Value

def jsonFloat : Style where
  positional := fun e => -5 ≤ e && e < 16
  wholeTail := ".0".toList
  plus := "+".toList
  tieUp := false
  nan := "null".toList
  infinity := "null".toList
  minusInfinity := "null".toList

def toJson : Value → Text
  | int n => Text.ofInt n.toInt
  | float x => jsonFloat.write x
  | text s => s.quoteJson

def rowJson (vs : List Value) : Text :=
  '[' :: (Text.join ",".toList (vs.map toJson) ++ [']'])

end Value

def Stack.toJson (s : Stack) : Text :=
  Value.rowJson s.bottomUp

end TapeCalc
