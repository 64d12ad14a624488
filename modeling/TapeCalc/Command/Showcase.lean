import TapeCalc.Engine
import TapeCalc.Command.Report

/-!
The command `demo`: programs with a title, run one after another with scripted input, each shown
with what it wrote and the stack it left.
-/

namespace TapeCalc.Command

structure Exhibit where
  title : String
  program : String
  input : List String := []

namespace Exhibit

def all : List Exhibit := [
  { title := "Arithmetic: (15 - (2 * (3 + 4)))", program := "15 2 3 4+*-" },
  { title := "Mixed integer and float", program := "5.1 12.3+ 2/" },
  { title := "Apply a string as code", program := "4 3(2*)@+" },
  { title := "Conditional with the helper in register c",
    program := "3 2>((bigger))((smaller))c@" },
  { title := "Building a string from character codes", program := "()72*105*33*1!\"" },
  { title := "Countdown loop re-queued with apply-later",
    program := "(1!\" 1- 1!0>(2!\\)()c@)5 2!\\" },
  { title := "Reading input", program := "(Squaring )\"'1!\"(: )\"1!*1!\"", input := ["12"] },
  { title := "String analysis (register b)", program := "b@", input := ["Hello, World 42"] }]

/-- Fetches enough for any of the programs here. -/
def fuel : Nat := 100000

/-- The lines of a text without their ends; nothing follows the last line end. -/
def textLines (s : Text) : List Text :=
  let parts := s.splitOn '\n'
  let parts := if parts.getLast? = some [] then parts.dropLast else parts
  parts.map fun part => if part.getLast? = some '\r' then part.dropLast else part

def row (label : String) (text : Text) : Text :=
  line (label.toList ++ text)

def prepare (exhibit : Exhibit) (e : Engine Script) : Engine Script :=
  let e := e.reset
  { e with
    console := { e.console with
      lines := e.console.lines ++ exhibit.input.map String.toList
      output := .empty } }

/-- What is shown of one program, and the engine afterwards. -/
def perform (exhibit : Exhibit) (e : Engine Script) : Text × Engine Script :=
  let e := exhibit.prepare e
  let heading := row "== " exhibit.title.toList ++ row "   program: " exhibit.program.toList ++
    (exhibit.input.map fun s => row "   input:   " s.toList).flatten
  let rows (e : Engine Script) (result : Text) : Text :=
    heading ++ ((textLines e.console.written).map (row "   output:  ")).flatten ++ line result
  match e.execute fuel exhibit.program.toList with
  | none => (rows e (row "   error:   " "did not end".toList), e)
  | some (.done e) => (rows e (row "   stack:   " e.stack.listing), e)
  | some (.failed err e) => (rows e (row "   error:   " err.message.toList), e)

def performAll : List Exhibit → Engine Script → Text
  | [], _ => []
  | exhibit :: rest, e =>
    let (shown, e) := exhibit.perform e
    shown ++ performAll rest e

end Exhibit

def demoReport : Report where
  shown := Exhibit.performAll Exhibit.all (Engine.ofPreset {})

end TapeCalc.Command
