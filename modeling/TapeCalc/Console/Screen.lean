import TapeCalc.Console

/-!
The console of a process: lines of standard input with their ends still on, and the text shown
on standard output. It remembers whether the last output of a program left its line open, so
that a listing can start on a line of its own. Either stream may be broken.
-/

namespace TapeCalc

structure Screen where
  lines : List Text := []
  output : Ribbon := .empty
  midLine : Bool := false
  readFault : Option Text := none
  writeFault : Option Text := none

namespace Screen

def shown (k : Screen) : Text :=
  k.output.toText

def isLineEnd (c : Char) : Bool :=
  c = '\n' || c = '\r'

/-- Reading closes the line of output, as the line end typed by a user would. -/
def readLine (k : Screen) : Except Text (Option Text) × Screen :=
  let k := { k with midLine := false }
  match k.readFault with
  | some reason => (.error reason, k)
  | none =>
    match k.lines with
    | [] => (.ok none, k)
    | line :: rest => (.ok (some (Text.dropEndWhile isLineEnd line)), { k with lines := rest })

def put (k : Screen) (text : Text) : Screen :=
  { k with output := k.output.putBack text }

/-- Why the text cannot be shown. An empty text asks nothing of the output. -/
def refusal? (k : Screen) (text : Text) : Option Text :=
  if text.isEmpty then none else k.writeFault

/-- An empty text leaves the line as it was; a text that is refused does not. -/
def write (k : Screen) (text : Text) : Except Text Unit × Screen :=
  let midLine : Bool :=
    match text.getLast? with
    | some c => c ≠ '\n'
    | none => k.midLine
  let k := { k with midLine := midLine }
  match k.refusal? text with
  | some reason => (.error reason, k)
  | none => (.ok (), k.put text)

instance : Console Screen where
  readLine := readLine
  write := write

/-- What ends the line if a program left it open. -/
def lineEnd (k : Screen) : Text :=
  if k.midLine then ['\n'] else []

def finishLine (k : Screen) : Screen :=
  { k.put k.lineEnd with midLine := false }

/-- The lines of a text that goes on after `line`, which holds its last character first. -/
def linesAfter (line : Text) : Text → List Text
  | [] => if line.isEmpty then [] else [line.reverse]
  | c :: s =>
    if c = '\n' then (c :: line).reverse :: linesAfter [] s else linesAfter (c :: line) s

def linesOf (s : Text) : List Text :=
  linesAfter [] s

def addLine (k : Screen) (line : Text) : Screen :=
  { k with lines := k.lines ++ [line] }

end Screen

end TapeCalc
