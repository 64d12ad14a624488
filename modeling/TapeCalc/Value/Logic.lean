import TapeCalc.Op
import TapeCalc.Value.Basic

/-!
The logic operators `& |`, which want two integers, and the operators on one value `_ ~ ?`.
-/

namespace TapeCalc.Value

/-- The logic operator `op`; another operator computes nothing here. -/
def logic (op : Op) : Value → Value → Value
  | int a, int b =>
    match op with
    | .and => flag (a != 0 && b != 0)
    | .or => flag (a != 0 || b != 0)
    | _ => empty
  | _, _ => empty

def falsyFlag (v : Value) : Value :=
  flag v.isFalsy

def negate : Value → Value
  | int n => int (-n)
  | float x => float (-x)
  | text _ => empty

def truncate : Value → Value
  | float x => int (truncateFloat x)
  | _ => empty

end TapeCalc.Value
