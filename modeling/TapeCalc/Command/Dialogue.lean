import TapeCalc.Op
import TapeCalc.Register
import TapeCalc.Command.Report

/-!
The lines of a dialogue: a command that starts with a colon, or a program. Here are what a line
asks for and the texts that the commands show.
-/

namespace TapeCalc.Command.Dialogue

inductive Entry
  | blank
  | quit
  | stack
  | clear
  | registers
  | ops
  | help
  | unknown (line : Text)
  | program (line : Text)
deriving DecidableEq

/-- What a line asks for; blanks around it do not count. -/
def Entry.ofLine (s : Text) : Entry :=
  let line := s.trim
  if line.isEmpty then blank
  else if line = ":quit".toList ∨ line = ":q".toList then quit
  else if line = ":stack".toList then stack
  else if line = ":clear".toList then clear
  else if line = ":registers".toList then registers
  else if line = ":ops".toList then ops
  else if line = ":help".toList ∨ line = ":h".toList then help
  else if line.head? = some ':' then unknown line
  else program line

def greeting : Text :=
  line ("Postfix calculator ".toList ++ version ++
    ". Type :help for commands, :quit to exit.\n".toList)

def farewell : Text :=
  "Goodbye!".toList

def helpText : Text := [
  "",
  "Postfix REPL Commands:",
  "  :quit, :q     Exit the REPL",
  "  :stack        Show the stack",
  "  :clear        Empty the stack",
  "  :registers    List registers that hold a value",
  "  :ops          List operators with their stack effects",
  "  :help, :h     Show this help",
  "",
  "Anything else is run as a program against the current stack:",
  "  1 2+          push 1 and 2, add",
  "  (hi)\"         write a string",
  "  1(8)(9)c@     conditional: run (8) if the flag is truthy, else (9)",
  "  '             read a line from input",
  ""].flatMap fun s => line s.toList

/-- The most characters of a register's text that are shown. -/
def previewLength : Nat := 60

def preview (v : Value) : Text :=
  let text := v.toText
  if previewLength < text.length then text.take previewLength ++ "...".toList else text

def registerLines (bank : Bank) : Text :=
  bank.occupied.flatMap fun (r, v) =>
    line ("  ".toList ++ r.letter :: ("  ".toList ++ preview v))

/-- Fill up with spaces on the right. -/
def padRight (width : Nat) (s : Text) : Text :=
  s ++ List.replicate (width - s.length) ' '

def opLines : Text :=
  Op.all.flatMap fun op =>
    line ("  ".toList ++ op.symbol :: ("  ".toList ++ padRight 12 op.name.toList ++
      ' ' :: op.effect.toList))

def unknownText (line : Text) : Text :=
  "Unknown command: ".toList ++ line ++ ". Type :help for commands.".toList

end TapeCalc.Command.Dialogue
