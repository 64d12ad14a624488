import TapeCalc.Stack
import TapeCalc.Text.Ribbon

/-!
Where programs read lines and write text. A console is a state with two operations, either of
which may fail with a reason. `Script` is a console in memory: lines waiting to be read, the
text written so far, and faults that can be switched on.
-/

namespace TapeCalc

/-- A result that keeps the state also when it is a failure. -/
inductive Outcome (σ : Type)
  | done (state : σ)
  | failed (error : RuntimeError) (state : σ)

def Outcome.map {σ τ : Type} (f : σ → τ) : Outcome σ → Outcome τ
  | done s => done (f s)
  | failed e s => failed e (f s)

class Console (κ : Type) where
  /-- The next line without its end, or nothing at the end of the input. -/
  readLine : κ → Except Text (Option Text) × κ
  /-- Write the text as it is. -/
  write : κ → Text → Except Text Unit × κ

namespace Console

variable {κ : Type} [Console κ]

/-- Push the value of the next line, and the empty text at the end of the input. -/
def readValue (s : Stack) (console : κ) : Outcome (Stack × κ) :=
  match readLine console with
  | (.ok (some line), console) => .done (s.push (.ofLine line), console)
  | (.ok none, console) => .done (s.push .empty, console)
  | (.error reason, console) => .failed (.console reason) (s, console)

/-- Pop a value and print it. The value is gone even if printing fails. -/
def writeValue (s : Stack) (console : κ) : Outcome (Stack × κ) :=
  match s.pop Op.write.symbol with
  | .error e => .failed e (s, console)
  | .ok (v, s) =>
    match write console v.toText with
    | (.ok (), console) => .done (s, console)
    | (.error reason, console) => .failed (.console reason) (s, console)

end Console

structure Script where
  lines : List Text := []
  output : Ribbon := .empty
  readFault : Option Text := none
  writeFault : Option Text := none

namespace Script

def written (k : Script) : Text :=
  k.output.toText

def readLine (k : Script) : Except Text (Option Text) × Script :=
  match k.readFault with
  | some reason => (.error reason, k)
  | none =>
    match k.lines with
    | [] => (.ok none, k)
    | line :: rest => (.ok (some line), { k with lines := rest })

def write (k : Script) (text : Text) : Except Text Unit × Script :=
  match k.writeFault with
  | some reason => (.error reason, k)
  | none => (.ok (), { k with output := k.output.putBack text })

instance : Console Script where
  readLine := readLine
  write := write

def addLine (k : Script) (line : Text) : Script :=
  { k with lines := k.lines ++ [line] }

def takeWritten (k : Script) : Text × Script :=
  (k.written, { k with output := .empty })

end Script

end TapeCalc
