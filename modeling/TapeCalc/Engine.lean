import TapeCalc.Console
import TapeCalc.Mode
import TapeCalc.Preset
import TapeCalc.Tape
import TapeCalc.Value.Arithmetic
import TapeCalc.Value.Comparison
import TapeCalc.Value.Logic

/-!
The engine fetches characters from the front of its tape and feeds them through the mode to
the operators until the tape is empty or something fails. Programs extend the tape themselves,
so a run need not end: `run` takes the number of strides it may make, and answers `none` when
they do not suffice. A stride is one fetch, or several that only lengthen a text literal.
-/

namespace TapeCalc

structure Engine (κ : Type) where
  stack : Stack
  bank : Bank
  tape : Tape
  mode : Mode
  console : κ

namespace Engine

variable {κ : Type}

/-- An engine at rest, its tape the text under `key`; any other value leaves the tape empty. -/
def boot (bank : Bank) (key : Char) (console : κ) : Engine κ where
  stack := .empty
  bank := bank
  tape :=
    match bank.read key with
    | .text program => .ofText program
    | _ => .empty
  mode := .execution
  console := console

def ofPreset (console : κ) : Engine κ :=
  boot Preset.bank Preset.bootRegister.letter console

/-- Replace what is pending; the stack and the mode stay. -/
def load (e : Engine κ) (program : Text) : Engine κ :=
  { e with tape := .ofText program }

def reset (e : Engine κ) : Engine κ :=
  { e with stack := .empty, tape := .empty, mode := .execution }

/-- Drop what is pending and leave any literal; the stack stays. -/
def discard (e : Engine κ) : Engine κ :=
  { e with tape := .empty, mode := .execution }

def withStack (e : Engine κ) : Except RuntimeError Stack → Outcome (Engine κ)
  | .ok s => .done { e with stack := s }
  | .error err => .failed err e

def onTop (e : Engine κ) (op : Op) (f : Value → Value) : Outcome (Engine κ) :=
  e.withStack ((e.stack.pop op.symbol).map fun (v, s) => s.push (f v))

def onPair (e : Engine κ) (op : Op) (f : Value → Value → Value) : Outcome (Engine κ) :=
  e.withStack ((e.stack.popTwo op.symbol).map fun (l, r, s) => s.push (f l r))

/-- Pop a text and put it on the tape; any other value is dropped. -/
def splice (e : Engine κ) (op : Op) (put : Tape → Text → Tape) : Outcome (Engine κ) :=
  match e.stack.pop op.symbol with
  | .error err => .failed err e
  | .ok (.text program, s) => .done { e with stack := s, tape := put e.tape program }
  | .ok (_, s) => .done { e with stack := s }

variable [Console κ]

def perform (e : Engine κ) (op : Op) : Outcome (Engine κ) :=
  match op with
  | .add | .subtract | .multiply | .divide | .modulo => e.onPair op (Value.arithmetic op)
  | .equal | .less | .greater => e.onPair op fun l r => .flag (Value.comparison op l r)
  | .and | .or => e.onPair op (Value.logic op)
  | .isFalsy => e.onTop op Value.falsyFlag
  | .negate => e.onTop op Value.negate
  | .truncate => e.onTop op Value.truncate
  | .copy => e.withStack e.stack.copy
  | .delete => e.withStack e.stack.delete
  | .depth => .done { e with stack := e.stack.pushDepth }
  | .applyNow => e.splice op Ribbon.putFront
  | .applyLater => e.splice op Ribbon.putBack
  | .read =>
    (Console.readValue e.stack e.console).map fun (s, k) => { e with stack := s, console := k }
  | .write =>
    (Console.writeValue e.stack e.console).map fun (s, k) => { e with stack := s, console := k }

/-- Carry out a character outside any literal: a letter reads its register, an operator runs if
its operands are there, and anything else does nothing. -/
def dispatch (e : Engine κ) (c : Char) : Outcome (Engine κ) :=
  match Register.ofChar? c with
  | some r => .done { e with stack := e.stack.push (e.bank r) }
  | none =>
    match Op.ofChar? c with
    | none => .done e
    | some op =>
      match e.stack.require c op.arity with
      | .error err => .failed err e
      | .ok () => e.perform op

/-- Feed one character, which need not come from the tape. -/
def step (e : Engine κ) (c : Char) : Outcome (Engine κ) :=
  match e.mode.advance c e.stack with
  | .error err => .failed err e
  | .ok (.building mode s) => .done { e with mode := mode, stack := s }
  | .ok .command => dispatch { e with mode := .execution } c

/-- Take one character off the tape and feed it; a failure discards the rest of the tape. There
is nothing to do when the tape is empty. -/
def fetch? (e : Engine κ) : Option (Outcome (Engine κ)) :=
  match e.tape.next? with
  | none => none
  | some (c, rest) =>
    match step { e with tape := rest } c with
    | .done e => some (.done e)
    | .failed err e => some (.failed err e.discard)

def strideLength : Nat := 65536

/-- As many fetches as can be made at once: inside a text literal all up to its end, but no more
than `strideLength`, and a single one elsewhere. -/
def stride? (e : Engine κ) : Option (Outcome (Engine κ)) :=
  match e.mode, e.stack.pop? with
  | .string depth, some (.text t, below) =>
    match Mode.inside strideLength [] depth e.tape with
    | ([], _, _) => e.fetch?
    | (taken, depth, rest) =>
      let stack := below.push (.text (t ++ taken.reverse))
      some (.done { e with stack := stack, mode := .string depth, tape := rest })
  | _, _ => e.fetch?

/-- Run until the tape is empty or a character fails, with at most `fuel` strides. -/
def run : Nat → Engine κ → Option (Outcome (Engine κ))
  | 0, e => if e.tape.next?.isNone then some (.done e) else none
  | fuel + 1, e =>
    match e.stride? with
    | none => some (.done e)
    | some (.failed err e) => some (.failed err e)
    | some (.done e) => run fuel e

def execute (fuel : Nat) (e : Engine κ) (program : Text) : Option (Outcome (Engine κ)) :=
  run fuel (e.load program)

end Engine

end TapeCalc
