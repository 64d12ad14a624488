import TapeCalc.Engine
import TapeCalc.Command.Report

/-!
The command `test`: small programs with what each must leave, run one after another on a single
engine that is reset in between.
-/

namespace TapeCalc.Command

inductive Wanted
  | stack (values : List Value)
  | top (value : Value)
  /-- A float on top, within `1e-9`. -/
  | near (x : Float)
  | written (text : Text)
  | underflow (op : Char)

structure Check where
  name : String
  program : String
  input : List String := []
  wanted : Wanted

namespace Check

def ints (values : List Int64) : Wanted :=
  .stack (values.map .int)

def text (s : String) : Wanted :=
  .top (.text s.toList)

def int (n : Int64) : Wanted :=
  .top (.int n)

def all : List Check := [
  { name := "addition", program := "1 2+", wanted := ints [3] },
  { name := "nested arithmetic", program := "15 2 3 4+*-", wanted := ints [1] },
  { name := "float addition", program := "5.1 12.3+", wanted := .near 17.4 },
  { name := "true division", program := "7 2/", wanted := .near 3.5 },
  { name := "division gives float", program := "6 2/", wanted := .stack [.float 3.0] },
  { name := "floored modulo", program := "7~ 2%", wanted := ints [1] },
  { name := "multi-digit integer", program := "123", wanted := ints [123] },
  { name := "decimal", program := "12.34", wanted := .near 12.34 },
  { name := "copy", program := "5 3 7 2!", wanted := ints [5, 3, 7, 3] },
  { name := "delete", program := "5 3 7 2$", wanted := ints [5, 7] },
  { name := "depth", program := "5 3 7#", wanted := ints [5, 3, 7, 3] },
  { name := "copy out of range", program := "5 9!", wanted := ints [5] },
  { name := "apply now", program := "4 3(2*)@+", wanted := ints [10] },
  { name := "nested parens", program := "(a(b)c)", wanted := text "a(b)c" },
  { name := "conditional then", program := "1(8)(9~)c@", wanted := int 8 },
  { name := "conditional else", program := "0(8)(9~)c@", wanted := int (-9) },
  { name := "append char", program := "(hello)65*", wanted := text "helloA" },
  { name := "prepend char", program := "65(hello)*", wanted := text "Ahello" },
  { name := "char code", program := "(hello)1%", wanted := int 101 },
  { name := "substring search", program := "(ab)(b)/", wanted := int 1 },
  { name := "trim end", program := "(abc)2-", wanted := text "a" },
  { name := "trim start", program := "2(abc)-", wanted := text "c" },
  { name := "concatenation", program := "3(x)+", wanted := text "3x" },
  { name := "float concatenation", program := "3.0(x)+", wanted := text "3.0x" },
  { name := "float tolerance", program := "0.1 0.2+0.3=", wanted := int 1 },
  { name := "number below string", program := "1(a)<", wanted := int 1 },
  { name := "division by zero", program := "7 0/", wanted := .stack [.empty] },
  { name := "float modulo", program := "7.5 2%", wanted := .stack [.empty] },
  { name := "logic on strings", program := "(x)1&", wanted := .stack [.empty] },
  { name := "underflow", program := "1+", wanted := .underflow '+' },
  { name := "write", program := "2.5\" 3.0\"", wanted := .written "2.53".toList },
  { name := "read", program := "'1+", input := ["41"], wanted := ints [42] },
  { name := "apply later loop", program := "(1!\"1- 1!0>(2!\\)()c@)3 2!\\",
    wanted := .written "321".toList }]

def fuel : Nat := 100000

def isNear (x y : Float) : Bool :=
  (x - y).abs < 1e-9

def satisfied (wanted : Wanted) : Outcome (Engine Script) → Bool
  | .failed (.underflow op _ _) _ =>
    match wanted with
    | .underflow op' => op' = op
    | _ => false
  | .failed _ _ => false
  | .done e =>
    match wanted with
    | .stack values => e.stack.bottomUp = values
    | .top v => e.stack.top? = some v
    | .near y =>
      match e.stack.top? with
      | some (.float x) => isNear x y
      | _ => false
    | .written text => e.console.written = text
    | .underflow _ => false

/-- A fresh start for one check on a used engine. -/
def prepare (check : Check) (e : Engine Script) : Engine Script :=
  let e := e.reset
  { e with
    console := { e.console with
      lines := e.console.lines ++ check.input.map String.toList
      output := .empty } }

/-- The line reported for a check, whether it passed, and the engine afterwards. -/
def perform (check : Check) (e : Engine Script) : Text × Bool × Engine Script :=
  let e := check.prepare e
  let failure (reason : String) : Text :=
    line ("  FAILED  ".toList ++ check.name.toList ++ ": ".toList ++ reason.toList)
  match e.execute fuel check.program.toList with
  | none => (failure "did not end", false, e)
  | some outcome =>
    let passed := satisfied check.wanted outcome
    let report :=
      if passed then line ("  ok      ".toList ++ check.name.toList)
      else
        match outcome with
        | .failed err _ => failure ("fatal error: " ++ err.message)
        | .done e => failure ("unexpected " ++ String.ofList e.stack.listing)
    match outcome with
    | .done e | .failed _ e => (report, passed, e)

def performAll : List Check → Engine Script → List (Text × Bool)
  | [], _ => []
  | check :: rest, e =>
    let (report, passed, e) := check.perform e
    (report, passed) :: performAll rest e

end Check

def testReport : Report :=
  let results := Check.performAll Check.all (Engine.ofPreset {})
  let failed := (results.filter fun result => !result.2).length
  let summary := s!"{results.length - failed} passed, {failed} failed ({results.length} total)"
  { shown := (results.map Prod.fst).flatten ++ '\n' :: line summary.toList
    code := if failed = 0 then 0 else 1 }

end TapeCalc.Command
