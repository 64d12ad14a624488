import TapeCalc.Proofs.Literal
import TapeCalc.Proofs.Operator

/-!
Single characters. On a stack that fits the mode, a character fails exactly where `Fault` says:
an operator finds too few operands, or the console refuses a line or a text. Whatever it does, it
leaves a stack that fits the mode.
-/

namespace TapeCalc

theorem Mode.start_symbol (op : Op) (s : Stack) : start op.symbol s = .command := by
  cases op <;> rfl

namespace Engine

variable {κ : Type} [Console κ]

/-- The ways in which the character `c` can fail, each with its error and the engine it leaves.
Only a refused text costs the value on top. -/
inductive Fault (e : Engine κ) (c : Char) : RuntimeError → Engine κ → Prop
  | operands {op : Op} (symbol : c = op.symbol) (few : e.stack.depth < op.arity) :
      Fault e c (.underflow c op.arity e.stack.depth) { e with mode := .execution }
  | line {reason : Text} {k : κ} (symbol : c = Op.read.symbol)
      (refused : Console.readLine e.console = (.error reason, k)) :
      Fault e c (.console reason) { e with mode := .execution, console := k }
  | output {below : Stack} {v : Value} {reason : Text} {k : κ} (symbol : c = Op.write.symbol)
      (top : e.stack = below.push v)
      (refused : Console.write e.console v.toText = (.error reason, k)) :
      Fault e c (.console reason) { e with mode := .execution, stack := below, console := k }

theorem Fault.exists_symbol {e e' : Engine κ} {c : Char} {err : RuntimeError}
    (h : Fault e c err e') : ∃ op : Op, c = op.symbol := by
  cases h with
  | operands symbol _ | line symbol _ | output symbol _ _ => exact ⟨_, symbol⟩

theorem dispatch_symbol (e : Engine κ) (op : Op) :
    e.dispatch op.symbol =
      if e.stack.depth < op.arity then
        .failed (.underflow op.symbol op.arity e.stack.depth) e
      else e.perform op := by
  simp only [dispatch, Register.ofChar?_symbol, Op.ofChar?_eq_some_iff.2 rfl, Stack.require]
  by_cases few : e.stack.depth < op.arity
  · simp only [few, if_true]
  · simp only [few, if_false]

theorem dispatch_symbol_of_arity (e : Engine κ) (op : Op) (h : op.arity ≤ e.stack.depth) :
    e.dispatch op.symbol = e.perform op :=
  (dispatch_symbol e op).trans (if_neg (Nat.not_lt.2 h))

theorem dispatch_keeps (e : Engine κ) (c : Char) :
    (e.dispatch c).state.mode = e.mode ∧ (e.dispatch c).state.bank = e.bank := by
  unfold dispatch
  split
  · exact ⟨rfl, rfl⟩
  · split
    · exact ⟨rfl, rfl⟩
    · split
      · exact ⟨rfl, rfl⟩
      · exact perform_keeps e _

/-- A character that fails outside any literal is an operator. -/
theorem exists_symbol_of_dispatch_failed {e e' : Engine κ} {c : Char} {err : RuntimeError}
    (h : e.dispatch c = .failed err e') : ∃ op : Op, c = op.symbol := by
  unfold dispatch at h
  split at h
  · cases h
  · split at h
    · cases h
    · rename_i op hop
      exact ⟨op, Op.ofChar?_eq_some_iff.1 hop⟩

theorem dispatch_failed_iff {e e' : Engine κ} {c : Char} {err : RuntimeError} :
    dispatch { e with mode := .execution } c = .failed err e' ↔ Fault e c err e' := by
  constructor
  · intro failed
    obtain ⟨op, rfl⟩ := exists_symbol_of_dispatch_failed failed
    rw [dispatch_symbol] at failed
    split at failed
    · rename_i few
      cases failed
      exact .operands rfl few
    · rename_i enough
      obtain ⟨rfl, _, _, refused, rfl, rfl⟩ | ⟨rfl, _, _, _, _, top, refused, rfl, rfl⟩ :=
        (perform_failed_iff (Nat.le_of_not_lt enough)).1 failed
      · exact .line rfl refused
      · exact .output rfl top refused
  · intro fault
    cases fault with
    | operands symbol few =>
        subst symbol
        rw [dispatch_symbol, if_pos few]
    | line symbol refused =>
        subst symbol
        refine (dispatch_symbol_of_arity _ .read (Nat.zero_le _)).trans ?_
        exact perform_read_failed_iff.2 ⟨_, _, refused, rfl, rfl⟩
    | output symbol top refused =>
        subst symbol
        have enough : Op.write.arity ≤ ({ e with mode := .execution } : Engine κ).stack.depth := by
          simp [top, Op.arity]
        refine (dispatch_symbol_of_arity _ .write enough).trans ?_
        exact (perform_write_failed_iff enough).2 ⟨_, _, _, _, top, refused, rfl, rfl⟩

theorem step_failed_iff {e e' : Engine κ} {c : Char} {err : RuntimeError}
    (h : e.mode.Fits e.stack) :
    e.step c = .failed err e' ↔ (∀ depth, e.mode ≠ .string depth) ∧ Fault e c err e' := by
  obtain ⟨progress, advance, _⟩ := h.advance c
  simp only [step, advance]
  cases progress with
  | building mode s =>
      simp only [reduceCtorEq, false_iff, not_and]
      -- An operator outside a text literal is left to be carried out, and this one was not.
      rintro outside fault
      obtain ⟨op, rfl⟩ := fault.exists_symbol
      have command := Mode.advance_eq_command_iff.2 ⟨outside, Mode.start_symbol op e.stack⟩
      rw [advance] at command
      cases command
  | command =>
      have outside := (Mode.advance_eq_command_iff.1 advance).1
      exact dispatch_failed_iff.trans ⟨fun fault => ⟨outside, fault⟩, And.right⟩

/-- Whether it fails or not, a character leaves a stack that fits the mode. -/
theorem step_fits {e : Engine κ} (h : e.mode.Fits e.stack) (c : Char) :
    (e.step c).state.mode.Fits (e.step c).state.stack := by
  obtain ⟨progress, advance, fits⟩ := h.advance c
  simp only [step, advance]
  cases progress with
  | building mode s => exact fits mode s rfl
  | command =>
      rw [Mode.Fits.eq_def, (dispatch_keeps _ c).1]
      trivial

end Engine

end TapeCalc
