import TapeCalc.Register

/-!
The programs that the registers hold when nothing is configured: an interactive loop, an
analysis of a line of text, and a helper that chooses one of two texts. A loop re-enters itself
by reading its own register and dropping what stands before its body, so each offset is
computed from the text it skips.
-/

namespace TapeCalc.Preset

def loopRegister : Register := ⟨'a', rfl⟩

def analysisRegister : Register := ⟨'b', rfl⟩

def conditionalRegister : Register := ⟨'c', rfl⟩

def bootRegister : Register := loopRegister

/-- On `cond (then) (else)` it deletes the condition and the text not chosen, and puts the other
in front of the tape. -/
def conditional : Text :=
  "3!_1+$2$@".toList

def newline : Text :=
  "()10*\"".toList

/-- Re-enter the program of `r` after its first `offset` characters. -/
def jump (offset : Nat) (r : Register) : Text :=
  Text.ofNat offset ++ r.letter :: "-@".toList

def choose : Text :=
  [conditionalRegister.letter, '@']

def loopBanner : Text :=
  "(Postfix calculator)\"".toList ++ newline ++
    "(Enter a program per line, an empty line quits)\"".toList ++ newline

/-- Prompt, read a line, run it, report the depth, and start over; an empty line ends. The line
is joined to an empty text first, so that a `0` is run and not taken for nothing. -/
def loopBody : Text :=
  "(> )\"'()+1!_(1$(Goodbye!)\"".toList ++ newline ++ ")(@(Stack size: )\"#\"".toList ++
    newline ++ jump loopBanner.length loopRegister ++ ")".toList ++ choose

def interactiveLoop : Text :=
  loopBanner ++ loopBody

/-- Leaves `reversed letters digits whitespace special rest`, the rest being the whole line. -/
def analysisSetup : Text :=
  "(String analysis)\"".toList ++ newline ++
    "(Enter a line to analyze: )\"'()+()0 0 0 0 6!7$".toList

def analysisReport : Text :=
  "1$(Reversed: )\"5!\"".toList ++ newline ++ "(Letters: )\"4!\"".toList ++ newline ++
    "(Digits: )\"3!\"".toList ++ newline ++ "(Whitespace: )\"2!\"".toList ++ newline ++
    "(Special: )\"1!\"".toList ++ newline

/-- The code of the first character of the rest, then a flag for each class. -/
def analysisClassify : Text :=
  "1!0%".toList ++ "1!64>2!91<&2!96>3!123<&|".toList ++ "2!47>3!58<&".toList ++
    "3!32=4!9=|".toList ++ "1!3!5!||_".toList

/-- The new reversed text, each count plus its flag, and the rest without its first character. -/
def analysisUpdate : Text :=
  "5!12!*".toList ++ (List.replicate 4 "5!12!+".toList).flatten ++ "1 12!-".toList

def analysisDiscard : Text :=
  (List.replicate 11 "7$".toList).flatten

def analysisStep : Text :=
  analysisClassify ++ analysisUpdate ++ analysisDiscard ++
    jump analysisSetup.length analysisRegister

def analysisBody : Text :=
  "1!_(".toList ++ analysisReport ++ ")(".toList ++ analysisStep ++ ")".toList ++ choose

/-- Read a line and take it apart character by character. It leaves the reversed line and the
counts of letters, digits, blanks and others, and prints them. -/
def stringAnalysis : Text :=
  analysisSetup ++ analysisBody

def bank : Bank :=
  ((Bank.empty.set loopRegister (.text interactiveLoop)).set
    analysisRegister (.text stringAnalysis)).set conditionalRegister (.text conditional)

end TapeCalc.Preset
