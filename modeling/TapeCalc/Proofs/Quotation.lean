import TapeCalc.Proofs.Run
import TapeCalc.Proofs.Step
import TapeCalc.Proofs.TextLiteral

/-!
Quoted programs. A text literal with balanced parentheses puts exactly its text on the stack, and
the two splices take it from there to the tape. So quoting a program and splicing it in front is
the same as writing it there, and splicing it behind is the same as writing it at the end.
-/

namespace TapeCalc

namespace Engine

variable {κ : Type} [Console κ]

theorem fetch?_building {mode mode' : Mode} {s s' : Stack} {c : Char}
    (h : mode.advance c s = .ok (.building mode' s')) (e : Engine κ) (t : Text) :
    (load { e with mode := mode, stack := s } (c :: t)).fetch? =
      some (.done (load { e with mode := mode', stack := s' } t)) := by
  rw [fetch?_done_iff (Ribbon.next?_ofText_cons c t)]
  simp only [step, load, h]

/-- What a text builds on the stack, an engine builds that has the text on its tape. -/
theorem reaches_of_builds {mode mode' : Mode} {s s' : Stack} {w : Text}
    (h : mode.Builds s w mode' s') (e : Engine κ) (t : Text) :
    Reaches (load { e with mode := mode, stack := s } (w ++ t))
      (load { e with mode := mode', stack := s' } t) := by
  induction h with
  | nil mode s => exact .refl _
  | cons first _ ih => exact .head (fetch?_building first e _) ih

theorem reaches_literal {e : Engine κ} (outside : ∀ depth, e.mode ≠ .string depth) {p : Text}
    (balanced : p.Balanced) (t : Text) :
    Reaches (e.load ('(' :: (p ++ ')' :: t)))
      (load { e with stack := e.stack.push (.text p), mode := .execution } t) := by
  have pushed := reaches_of_builds (Mode.builds_quoted outside e.stack balanced) e t
  rw [List.cons_append, List.append_assoc, List.singleton_append] at pushed
  exact pushed

/-- An unfinished literal takes in a balanced text and stays unfinished. -/
theorem reaches_unclosed (e : Engine κ) (below : Stack) (v : Text) {depth : Nat}
    (positive : 1 ≤ depth) {p : Text} (balanced : p.Balanced) (t : Text) :
    Reaches (e.quoting below v depth (.ofText (p ++ t)))
      (e.quoting below (v ++ p) depth (.ofText t)) := by
  have taken := reaches_of_builds (Mode.builds_nested below v positive balanced.1) e t
  rw [balanced.2, Nat.add_sub_cancel] at taken
  exact taken

theorem fetch?_symbol_done_iff {e e' : Engine κ} {op : Op} (mode : e.mode = .execution)
    (enough : op.arity ≤ e.stack.depth) (t : Text) :
    (e.load (op.symbol :: t)).fetch? = some (.done e') ↔ (e.load t).perform op = .done e' := by
  rw [fetch?_done_iff (Ribbon.next?_ofText_cons op.symbol t)]
  obtain ⟨stack, bank, tape, _, console⟩ := e
  cases mode
  have carried := dispatch_symbol_of_arity
    (load ⟨stack, bank, tape, .execution, console⟩ t) op enough
  simp only [step, load, Mode.advance, Mode.start_symbol]
  exact ⟨fun h => carried.symm.trans h, fun h => carried.trans h⟩

section Splice

variable {e : Engine κ} {below : Stack} {p : Text}

theorem reaches_applyNow (mode : e.mode = .execution) (top : e.stack = below.push (.text p))
    (t : Text) :
    Reaches (e.load (Op.applyNow.symbol :: t)) (load { e with stack := below } (p ++ t)) := by
  have enough : Op.applyNow.arity ≤ e.stack.depth := by simp [top, Op.arity]
  refine .single ((fetch?_symbol_done_iff mode enough t).2 ?_)
  rw [perform, splice_of_stack (e := e.load t) top]
  simp [spliced, load]

theorem reaches_applyLater (mode : e.mode = .execution) (top : e.stack = below.push (.text p))
    (t : Text) :
    Reaches (e.load (Op.applyLater.symbol :: t)) (load { e with stack := below } (t ++ p)) := by
  have enough : Op.applyLater.arity ≤ e.stack.depth := by simp [top, Op.arity]
  refine .single ((fetch?_symbol_done_iff mode enough t).2 ?_)
  rw [perform, splice_of_stack (e := e.load t) top]
  simp [spliced, load]

end Splice

/-- Quoting a program and splicing it is inlining it: in front of what follows with `@`, behind it
with a backslash. The two executions have the same outcome, or neither has one. -/
theorem executes_quotation_iff (e : Engine κ) (outside : ∀ depth, e.mode ≠ .string depth)
    {p : Text} (balanced : p.Balanced) (q : Text) (o : Outcome (Engine κ)) :
    (Executes e ('(' :: (p ++ ')' :: '@' :: q)) o ↔
      Executes { e with mode := .execution } (p ++ q) o) ∧
    (Executes e ('(' :: (p ++ ')' :: '\\' :: q)) o ↔
      Executes { e with mode := .execution } (q ++ p) o) := by
  constructor
  · have pushed := reaches_literal outside balanced ('@' :: q)
    exact (pushed.trans (reaches_applyNow rfl rfl q)).halts_iff
  · have pushed := reaches_literal outside balanced ('\\' :: q)
    exact (pushed.trans (reaches_applyLater rfl rfl q)).halts_iff

/-- A quoted program that itself quotes one, in the middle of a number. -/
theorem executes_quotation_nested : ∃ e : Engine Script,
    e.mode = .integer ∧ Text.Balanced "(2*)@".toList ∧ ∀ o,
      (Executes e ('(' :: ("(2*)@".toList ++ ')' :: '@' :: "1+".toList)) o ↔
        Executes { e with mode := .execution } ("(2*)@".toList ++ "1+".toList) o) ∧
      (Executes e ('(' :: ("(2*)@".toList ++ ')' :: '\\' :: "1+".toList)) o ↔
        Executes { e with mode := .execution } ("1+".toList ++ "(2*)@".toList) o) := by
  let e : Engine Script := ((boot .empty 'z' ({} : Script)).step '4').state
  have outside (depth : Nat) : e.mode ≠ .string depth := by
    intro h
    cases h
  have balanced : Text.Balanced "(2*)@".toList := by decide
  exact ⟨e, rfl, balanced, executes_quotation_iff e outside balanced "1+".toList⟩

end Engine

end TapeCalc
