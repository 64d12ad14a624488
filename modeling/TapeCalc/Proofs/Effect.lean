import TapeCalc.Proofs.Run
import TapeCalc.Proofs.Step

/-!
What a run leaves behind outside its stack, tape and mode. Registers are only read, so the bank at
any moment of a run is the one it began with. The console changes by reading and writing alone: a
relation that reading and writing respect holds between the consoles of any two moments. On a
console in memory this says that lines are only taken off the front and text is only added at the
end.
-/

namespace TapeCalc

/-- A relation that holds between a console and what any reading and writing make of it. -/
structure Console.Respected {κ : Type} [Console κ] (R : κ → κ → Prop) : Prop where
  refl (k : κ) : R k k
  trans {k k' k'' : κ} : R k k' → R k' k'' → R k k''
  readLine (k : κ) : R k (Console.readLine k).2
  write (k : κ) (t : Text) : R k (Console.write k t).2

namespace Engine

variable {κ : Type} {R : κ → κ → Prop}

/-- The same bank, and a console that may come after the one of `e`. -/
def Precedes (R : κ → κ → Prop) (e e' : Engine κ) : Prop :=
  e'.bank = e.bank ∧ R e.console e'.console

theorem withStack_console (e : Engine κ) (r : Except RuntimeError Stack) :
    (e.withStack r).state.console = e.console := by
  cases r <;> rfl

theorem splice_console (e : Engine κ) (op : Op) (put : Tape → Text → Tape) :
    (e.splice op put).state.console = e.console := by
  unfold splice
  split <;> rfl

variable [Console κ]

theorem perform_respects (h : Console.Respected R) (e : Engine κ) (op : Op) :
    R e.console (e.perform op).state.console := by
  cases op with
  | read =>
      have read := h.readLine e.console
      simp only [perform, Outcome.state_map, Console.readValue]
      split <;> simp_all [Outcome.state]
  | write =>
      simp only [perform, Outcome.state_map, Console.writeValue]
      split
      · exact h.refl e.console
      · rename_i v s _
        have written := h.write e.console v.toText
        split <;> simp_all [Outcome.state]
  | depth => exact h.refl e.console
  | applyNow | applyLater =>
      rw [perform, splice_console]
      exact h.refl e.console
  | _ =>
      simp only [perform, onPair, onTop, withStack_console]
      exact h.refl e.console

theorem dispatch_respects (h : Console.Respected R) (e : Engine κ) (c : Char) :
    R e.console (e.dispatch c).state.console := by
  unfold dispatch
  split
  · exact h.refl e.console
  · split
    · exact h.refl e.console
    · split
      · exact h.refl e.console
      · exact perform_respects h e _

theorem precedes_step (h : Console.Respected R) (e : Engine κ) (c : Char) :
    Precedes R e (e.step c).state := by
  unfold step
  split
  · exact ⟨rfl, h.refl e.console⟩
  · exact ⟨rfl, h.refl e.console⟩
  · let outside : Engine κ := { e with mode := .execution }
    exact ⟨(dispatch_keeps outside c).2, dispatch_respects h outside c⟩

theorem precedes_fetch? (h : Console.Respected R) {e : Engine κ} {o : Outcome (Engine κ)}
    (fetched : e.fetch? = some o) : Precedes R e o.state := by
  cases o with
  | done e' =>
      obtain ⟨c, rest, _, stepped⟩ := exists_step_of_fetch?_done fetched
      have after := precedes_step h { e with tape := rest } c
      rw [stepped] at after
      exact after
  | failed err e' =>
      obtain ⟨c, rest, e₁, _, stepped, rfl⟩ := exists_step_of_fetch?_failed fetched
      have after := precedes_step h { e with tape := rest } c
      rw [stepped] at after
      exact after

theorem Reaches.precedes (h : Console.Respected R) {e e' : Engine κ} (reaches : Reaches e e') :
    Precedes R e e' := by
  refine reaches.keeps (P := Precedes R e) ?_ ⟨rfl, h.refl e.console⟩
  intro e₁ e₂ before fetched
  have after := precedes_fetch? h fetched
  exact ⟨after.1.trans before.1, h.trans before.2 after.2⟩

/-- However a run ends, the registers are what they were and the console has been used only by
reading and writing. -/
theorem Halts.precedes (h : Console.Respected R) {e : Engine κ} {o : Outcome (Engine κ)}
    (halts : Halts e o) : Precedes R e o.state := by
  obtain ⟨e', rfl, reaches, _⟩ | ⟨e₀, err, e', rfl, reaches, failed⟩ := halts.cases_last
  · exact reaches.precedes h
  · have before := reaches.precedes h
    have after := precedes_fetch? h failed
    exact ⟨after.1.trans before.1, h.trans before.2 after.2⟩

end Engine

/-- Some lines taken off the front, some text added at the end, and the same faults. -/
structure Script.Later (k k' : Script) : Prop where
  lines : k'.lines <:+ k.lines
  written : k.written <+: k'.written
  readFault : k'.readFault = k.readFault
  writeFault : k'.writeFault = k.writeFault

namespace Script

theorem Later.refl (k : Script) : Later k k :=
  ⟨List.suffix_refl _, List.prefix_refl _, rfl, rfl⟩

theorem Later.trans {k k' k'' : Script} (h : Later k k') (h' : Later k' k'') : Later k k'' where
  lines := h'.lines.trans h.lines
  written := h.written.trans h'.written
  readFault := h'.readFault.trans h.readFault
  writeFault := h'.writeFault.trans h.writeFault

theorem later_readLine (k : Script) : Later k k.readLine.2 := by
  unfold readLine
  split
  · exact .refl k
  · split
    · exact .refl k
    · rename_i line rest hlines
      exact ⟨by simp [hlines], List.prefix_refl _, rfl, rfl⟩

theorem later_write (k : Script) (t : Text) : Later k (k.write t).2 := by
  unfold write
  split
  · exact .refl k
  · refine ⟨List.suffix_refl _, ?_, rfl, rfl⟩
    simp only [written, Ribbon.toText_putBack]
    exact List.prefix_append _ _

theorem respected_later : Console.Respected Later where
  refl := .refl
  trans := .trans
  readLine := later_readLine
  write := later_write

end Script

end TapeCalc
