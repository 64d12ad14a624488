import TapeCalc.Text.Basic

/-!
What a finished command leaves: the text on both output streams and the exit code.
-/

namespace TapeCalc.Command

structure Report where
  shown : Text := []
  errors : Text := []
  code : Nat := 0

def version : Text :=
  "0.4.1".toList

def line (text : Text) : Text :=
  text ++ ['\n']

def errorLine (message : String) : Text :=
  line ("Error: ".toList ++ message.toList)

def Report.ofError (message : String) : Report where
  errors := errorLine message
  code := 1

end TapeCalc.Command
