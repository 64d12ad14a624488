import TapeCalc.Proofs.Instruction

/-!
Arithmetic expressions written after their operands. The text of an expression is a straight-line
program that pushes one value, the value of the expression over the integers brought into the
64-bit range. Each operation may wrap, and each literal may wrap while its digits are read, but
all of them respect equality modulo `2 ^ 64`, so that one wrap at the end gives the same.
-/

namespace TapeCalc

namespace Expr

inductive Binary
  | add
  | subtract
  | multiply

namespace Binary

def op : Binary → Op
  | add => .add
  | subtract => .subtract
  | multiply => .multiply

def onInt : Binary → Int → Int → Int
  | add, a, b => a + b
  | subtract, a, b => a - b
  | multiply, a, b => a * b

end Binary

end Expr

inductive Expr
  | literal (n : Nat)
  | binary (op : Expr.Binary) (l r : Expr)
  | negate (x : Expr)

namespace Expr

/-- The value over the integers, which never wraps. -/
def value : Expr → Int
  | literal n => n
  | binary op l r => op.onInt l.value r.value
  | negate x => -x.value

/-- The operands first and then their operator; a literal ends with a blank. -/
def text : Expr → Text
  | literal n => Text.ofNat n ++ [' ']
  | binary op l r => l.text ++ r.text ++ [op.op.symbol]
  | negate x => x.text ++ [Op.negate.symbol]

def program : Expr → Program
  | literal n => [{ operand := some n, action := .blank }]
  | binary op l r => l.program ++ r.program ++ [{ action := .op op.op }]
  | negate x => x.program ++ [{ action := .op .negate }]

theorem text_program (t : Expr) : t.program.text = t.text := by
  induction t with
  | literal n => simp [program, Program.text, Instruction.text, Action.text, text]
  | binary op l r ihl ihr =>
      simp only [program, Program.text, List.flatMap_append, text] at ihl ihr ⊢
      rw [ihl, ihr]
      rfl
  | negate x ih =>
      simp only [program, Program.text, List.flatMap_append, text] at ih ⊢
      rw [ih]
      rfl

theorem eval?_binary (bank : Bank) (op : Binary) (a b : Int) (vs : List Value) :
    Instruction.eval? bank { action := .op op.op }
        (.int (Int64.ofInt b) :: .int (Int64.ofInt a) :: vs) =
      some (.int (Int64.ofInt (op.onInt a b)) :: vs, []) := by
  cases op with
  | add =>
      rw [Binary.onInt, Int64.ofInt_add]
      rfl
  | subtract =>
      rw [Binary.onInt, Int64.ofInt_sub]
      rfl
  | multiply =>
      rw [Binary.onInt, Int64.ofInt_mul]
      rfl

theorem eval?_negate (bank : Bank) (a : Int) (vs : List Value) :
    Instruction.eval? bank { action := .op .negate } (.int (Int64.ofInt a) :: vs) =
      some (.int (Int64.ofInt (-a)) :: vs, []) := by
  rw [Int64.ofInt_neg]
  rfl

/-- The program of an expression, and whatever follows it, is what follows with the value of the
expression pushed. -/
theorem eval?_program_append (bank : Bank) (t : Expr) (p : Program) (vs : List Value) :
    Program.eval? bank (t.program ++ p) vs =
      Program.eval? bank p (.int (Int64.ofInt t.value) :: vs) := by
  induction t generalizing p vs with
  | literal n =>
      rw [value, Int64.ofInt_eq_ofNat]
      exact Program.eval?_cons_silent rfl
  | binary op l r ihl ihr =>
      rw [program, List.append_assoc, List.append_assoc, ihl, ihr, value]
      exact Program.eval?_cons_silent (eval?_binary bank op l.value r.value vs)
  | negate x ih =>
      rw [program, List.append_assoc, ih, value]
      exact Program.eval?_cons_silent (eval?_negate bank x.value vs)

end Expr

namespace Engine

variable {κ : Type} [Console κ]

/-- Executing the text of an expression outside any literal ends well and pushes one integer: the
value of the expression reduced to 64 bits. Nothing else changes, and the console is not used. -/
theorem executes_expression (t : Expr) (e : Engine κ) (outside : e.mode = .execution) :
    ∃ v : Int64, v.toInt = t.value.bmod (2 ^ 64) ∧
      Executes e t.text
        (.done { e with stack := e.stack.push (.int v), tape := .empty }) := by
  refine ⟨Int64.ofInt t.value, Int64.toInt_ofInt, ?_⟩
  have evaluated := Expr.eval?_program_append e.bank t [] []
  rw [List.append_nil] at evaluated
  have reaches := reaches_program (k := e.console) evaluated rfl e.stack []
  rw [Expr.text_program, List.append_nil, Stack.ofList_singleton_above,
    Stack.ofList_nil_above] at reaches
  rw [executes_iff_halts, load_eq_ready outside, reaches.halts_iff, outside]
  exact halts_of_exhausted rfl

/-- A literal one above the largest integer, negated: it wraps as it is read and once more. -/
theorem executes_expression_least_integer : ∃ v : Int64, v.toInt = -9223372036854775808 ∧
    Executes (ofPreset ({} : Script)) "9223372036854775808 ~".toList
      (.done { ofPreset ({} : Script) with
        stack := Stack.empty.push (.int v), tape := .empty }) := by
  obtain ⟨v, value, executes⟩ :=
    executes_expression (.negate (.literal 9223372036854775808)) (ofPreset ({} : Script)) rfl
  exact ⟨v, value, executes⟩

end Engine

end TapeCalc
