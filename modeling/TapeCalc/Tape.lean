import TapeCalc.Text.Ribbon

/-!
The tape holds the characters still to be executed. A text can be put in front, to run next,
or behind everything that is pending; loops and conditionals are built from these two.
-/

namespace TapeCalc

abbrev Tape := Ribbon

end TapeCalc
