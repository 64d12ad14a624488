import TapeCalc.Command.Args
import TapeCalc.Command.Dialogue
import TapeCalc.Config.Basic
import TapeCalc.Console.Screen

/-!
The commands that run programs on the process console: `run` takes one tape to its end, and
`repl` runs the lines of the input one after another on a single engine. Both advance by single
strides or lines, so that whoever drives them can supply input and pass on output as they go.
How a typed line is edited and how a stack is written as JSON is left to libraries.
-/

namespace TapeCalc.Command

structure Library where
  /-- The line that is left of what was typed, if the editor can carry it out. -/
  edited? : Text → Option Text
  /-- What the editor says when the input cannot be read. -/
  readError : Text → String
  json : List Value → Except String Text

def Library.entry? (lib : Library) (raw : Text) : Option Dialogue.Entry :=
  (lib.edited? raw).map Dialogue.Entry.ofLine

inductive Phase
  /-- Running a program; at its end the stack is shown. -/
  | program (display : Display)
  /-- About to take a line of the dialogue. -/
  | prompt
  /-- Running a line of the dialogue. -/
  | dialogue
  | ended (code : Nat)

structure Session where
  engine : Engine Screen
  phase : Phase
  errors : Text := []

namespace Session

def ofProgram (engine : Engine Screen) (display : Display) : Session where
  engine := engine
  phase := .program display

def mapScreen (s : Session) (f : Screen → Screen) : Session :=
  { s with engine := { s.engine with console := f s.engine.console } }

/-- A session that has ended stays so. -/
def enter (s : Session) (phase : Phase) : Session :=
  { s with
    phase :=
      match s.phase with
      | .ended code => .ended code
      | _ => phase }

/-- The code of a process that breaks off. -/
def panicCode : Nat := 101

/-- Show a text that no program wrote, by `f`. A process that cannot show it breaks off. -/
def showing (s : Session) (text : Text) (f : Screen → Screen) : Session :=
  match s.engine.console.refusal? text with
  | none => s.mapScreen f
  | some _ => s.enter (.ended panicCode)

def put (s : Session) (text : Text) : Session :=
  s.showing text fun k => k.put text

def finishLine (s : Session) : Session :=
  s.showing s.engine.console.lineEnd Screen.finishLine

def putError (s : Session) (message : String) : Session :=
  { s with
    errors :=
      match s.phase with
      | .ended _ => s.errors
      | _ => s.errors ++ errorLine message }

/-- A dialogue does not run the boot register. -/
def ofDialogue (engine : Engine Screen) : Session :=
  { engine := engine.load [], phase := .prompt : Session }.put Dialogue.greeting

def quit (s : Session) : Session :=
  (s.put (line Dialogue.farewell)).enter (.ended 0)

def respond (s : Session) : Dialogue.Entry → Session
  | .blank => s
  | .quit => s.quit
  | .stack => s.put (line s.engine.stack.listing)
  | .clear => { s with engine := s.engine.reset }.put (line "Stack cleared.".toList)
  | .registers => s.put (Dialogue.registerLines s.engine.bank)
  | .ops => s.put Dialogue.opLines
  | .help => s.put Dialogue.helpText
  | .unknown text => s.put (line (Dialogue.unknownText text))
  | .program text => { s with engine := s.engine.load text }.enter .dialogue

/-- The line of the dialogue has ended; an error does not end the dialogue. -/
def endLine (s : Session) (error : Option RuntimeError) : Session :=
  let s := s.finishLine
  let s := error.elim s fun err => s.putError err.message
  (s.put (line s.engine.stack.listing)).enter .prompt

/-- One stride, and `atEnd` when the program has ended. -/
def advance (s : Session) (atEnd : Session → Option RuntimeError → Session) : Session :=
  match s.engine.stride? with
  | none => atEnd s none
  | some (.done e) => { s with engine := e }
  | some (.failed err e) => atEnd { s with engine := e } (some err)

section Library

variable (lib : Library)

def putStack (s : Session) (display : Display) : Session :=
  if display.json then
    match lib.json s.engine.stack.bottomUp with
    | .ok text => s.put (line text)
    | .error message => (s.putError message).enter (.ended 1)
  else if display.stack then s.put (line s.engine.stack.listing)
  else s

def endProgram (s : Session) (display : Display) (error : Option RuntimeError) : Session :=
  let s := s.finishLine.putStack lib display
  match error with
  | none => s.enter (.ended 0)
  | some err => (s.putError err.message).enter (.ended 1)

/-- Take the next line of input as a line of the dialogue; the end of the input quits. The editor
breaks off at a line that it cannot carry out. -/
def takeLine (s : Session) : Session :=
  match s.engine.console.readFault, s.engine.console.lines with
  | some reason, _ => (s.putError (lib.readError reason)).enter (.ended 0)
  | none, [] => s.quit
  | none, raw :: rest =>
    let s := s.mapScreen fun k => { k with lines := rest }
    match lib.entry? raw with
    | some entry => s.respond entry
    | none => s.enter (.ended panicCode)

def tick (s : Session) : Session :=
  match s.phase with
  | .program display => s.advance fun s => s.endProgram lib display
  | .dialogue => s.advance endLine
  | .prompt => s.takeLine lib
  | .ended _ => s

end Library

def readsNext (e : Engine Screen) : Bool :=
  match e.mode, e.tape.next? with
  | .string _, _ => false
  | _, some (c, _) => c = Op.read.symbol
  | _, none => false

/-- The next tick needs a line of input, and none is waiting. -/
def wantsLine (s : Session) : Bool :=
  s.engine.console.readFault.isNone && s.engine.console.lines.isEmpty &&
    match s.phase with
    | .prompt => true
    | .ended _ => false
    | _ => readsNext s.engine

end Session

end TapeCalc.Command
