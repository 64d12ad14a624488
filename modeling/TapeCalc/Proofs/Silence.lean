import TapeCalc.Proofs.Deferral
import TapeCalc.Proofs.Dialogue

/-!
Runs that leave the console alone. `Silently` follows a run fetch by fetch and asks that none of
them reads a line or writes a text. It need not be proved along with each run. A console that
counts its uses can be put in the place of any other, and what is reached silently is just what
is reached there with none counted. So a statement about every console, in which the console is
left as it was, says that the console is not used.
-/

namespace TapeCalc

/-- A console and how often it has been used. -/
structure Counted (κ : Type) where
  console : κ
  uses : Nat := 0

namespace Counted

variable {κ : Type} [Console κ]

instance : Console (Counted κ) where
  readLine k := ((Console.readLine k.console).1, ⟨(Console.readLine k.console).2, k.uses + 1⟩)
  write k t := ((Console.write k.console t).1, ⟨(Console.write k.console t).2, k.uses + 1⟩)

theorem faithful_console : Console.Faithful (console : Counted κ → κ) where
  readLine _ := rfl
  write _ _ := rfl

theorem respected_uses : Console.Respected fun k k' : Counted κ => k.uses ≤ k'.uses where
  refl _ := Nat.le_refl _
  trans := Nat.le_trans
  readLine _ := Nat.le_succ _
  write _ _ := Nat.le_succ _

end Counted

namespace Engine

variable {κ : Type}

def usesConsole (e : Engine κ) : Bool :=
  e.dispatched? = some Op.read.symbol || e.dispatched? = some Op.write.symbol

/-- The same engine, on a console whose uses are counted from here. -/
def counted (e : Engine κ) : Engine (Counted κ) :=
  e.mapConsole fun k => ⟨k, 0⟩

variable [Console κ]

/-- From `e` to `e'` all fetches succeed, and none of them uses the console. -/
inductive Silently : Engine κ → Engine κ → Prop
  | refl (e : Engine κ) : Silently e e
  | head {e e' e'' : Engine κ} (silent : e.usesConsole = false)
      (first : e.fetch? = some (.done e')) (rest : Silently e' e'') : Silently e e''

theorem Silently.mapConsole {κ' : Type} [Console κ'] {g : κ → κ'} (faithful : Console.Faithful g)
    {e e' : Engine κ} (h : Silently e e') : Silently (e.mapConsole g) (e'.mapConsole g) := by
  induction h with
  | refl e => exact .refl _
  | @head e e₁ _ silent first _ ih =>
      have first' : (e.mapConsole g).fetch? = some (.done (e₁.mapConsole g)) := by
        rw [fetch?_mapConsole faithful, first]
        rfl
      exact .head silent first' ih

/-- An operator that is fetched and succeeds is carried out, on the same console. -/
theorem exists_perform_of_dispatched? {e e' : Engine κ} {op : Op}
    (dispatched : e.dispatched? = some op.symbol) (h : e.fetch? = some (.done e')) :
    ∃ e₁ : Engine κ, e₁.console = e.console ∧ e₁.perform op = .done e' := by
  obtain ⟨rest, next, command⟩ := exists_of_dispatched? dispatched
  have stepped := (fetch?_done_iff next).1 h
  refine ⟨{ e with tape := rest, mode := .execution }, rfl, ?_⟩
  simp only [step, command, dispatch_symbol] at stepped
  split at stepped
  · cases stepped
  · exact stepped

section Uses

variable {e e' : Engine (Counted κ)}

theorem uses_of_perform_read (h : e.perform .read = .done e') :
    e'.console.uses = e.console.uses + 1 := by
  rcases answer : Console.readLine e.console.console with ⟨reason | line, k⟩
  · simp [perform, Console.readValue, Console.readLine, answer, Outcome.map] at h
  · cases line <;>
      simp only [perform, Console.readValue, Console.readLine, answer, Outcome.map] at h <;>
      cases h <;> rfl

theorem uses_of_perform_write (h : e.perform .write = .done e') :
    e'.console.uses = e.console.uses + 1 := by
  cases stack : e.stack with
  | empty => simp [perform, Console.writeValue, stack, Stack.pop, Outcome.map] at h
  | push below v =>
      rcases answer : Console.write e.console.console v.toText with ⟨reason | _, k⟩
      · simp [perform, Console.writeValue, stack, Console.write, answer, Outcome.map] at h
      · simp only [perform, Console.writeValue, stack, Stack.pop_push, Console.write, answer,
          Outcome.map] at h
        cases h
        rfl

theorem uses_of_usesConsole (used : e.usesConsole = true) (h : e.fetch? = some (.done e')) :
    e'.console.uses = e.console.uses + 1 := by
  rw [usesConsole, Bool.or_eq_true, decide_eq_true_iff, decide_eq_true_iff] at used
  obtain read | written := used
  · obtain ⟨e₁, same, performed⟩ := exists_perform_of_dispatched? read h
    rw [← same]
    exact uses_of_perform_read performed
  · obtain ⟨e₁, same, performed⟩ := exists_perform_of_dispatched? written h
    rw [← same]
    exact uses_of_perform_write performed

/-- The count never falls, so that one use on the way would be seen at the end. -/
theorem Fetches.silently {n : Nat} (h : Fetches n e e')
    (unused : e'.console.uses = e.console.uses) : Silently e e' := by
  induction h with
  | refl e => exact .refl e
  | @head n e e₁ e' first rest ih =>
      have before : e.console.uses ≤ e₁.console.uses :=
        (precedes_fetch? Counted.respected_uses first).2
      have after : e₁.console.uses ≤ e'.console.uses :=
        (Reaches.precedes Counted.respected_uses ⟨n, rest⟩).2
      have silent : e.usesConsole = false := by
        rw [Bool.eq_false_iff]
        intro used
        have once := uses_of_usesConsole used first
        omega
      exact .head silent first (ih (by omega))

end Uses

section Quiet

variable {e e' : Engine κ}

theorem perform_console {op : Op} (read : op ≠ .read) (write : op ≠ .write) :
    (e.perform op).state.console = e.console := by
  cases op with
  | read => exact absurd rfl read
  | write => exact absurd rfl write
  | depth => rfl
  | applyNow | applyLater => exact splice_console e _ _
  | _ => exact withStack_console e _

theorem dispatch_console {c : Char} (read : c ≠ Op.read.symbol) (write : c ≠ Op.write.symbol) :
    (e.dispatch c).state.console = e.console := by
  unfold dispatch
  split
  · rfl
  · split
    · rfl
    · rename_i op symbol
      obtain rfl := Op.ofChar?_eq_some_iff.1 symbol
      split
      · rfl
      · exact perform_console (fun same => read (congrArg Op.symbol same))
          (fun same => write (congrArg Op.symbol same))

theorem fetch?_console (silent : e.usesConsole = false) (h : e.fetch? = some (.done e')) :
    e'.console = e.console := by
  obtain ⟨c, rest, next, stepped⟩ := exists_step_of_fetch?_done h
  unfold step at stepped
  split at stepped
  · cases stepped
  · cases stepped
    rfl
  · rename_i command
    rw [usesConsole, dispatched?_of_command next command, Bool.or_eq_false_iff,
      decide_eq_false_iff_not, decide_eq_false_iff_not, Option.some.injEq,
      Option.some.injEq] at silent
    have kept := dispatch_console (e := { e with tape := rest, mode := .execution }) silent.1
      silent.2
    rw [stepped] at kept
    exact kept

theorem fetch?_counted (silent : e.usesConsole = false) (h : e.fetch? = some (.done e')) :
    e.counted.fetch? = some (.done e'.counted) := by
  have projected : e.fetch? = e.counted.fetch?.map (Outcome.map (mapConsole Counted.console)) :=
    fetch?_mapConsole Counted.faithful_console e.counted
  rw [h] at projected
  obtain ⟨o, fetched, mapped⟩ := Option.map_eq_some_iff.1 projected.symm
  cases o with
  | failed err e₁ => cases mapped
  | done e₁ =>
      cases mapped
      have uncounted : e.counted.usesConsole = false := silent
      have kept : e₁.console = ⟨e₁.console.console, 0⟩ := by
        rw [fetch?_console uncounted fetched]
        rfl
      have same : e₁ = (e₁.mapConsole Counted.console).counted := by
        rw [counted, mapConsole, mapConsole, exchange, exchange, ← kept]
      rwa [← same]

end Quiet

/-- What is reached without using the console is what is reached on a console that counts its
uses, with none counted. -/
theorem silently_iff_counted {e e' : Engine κ} : Silently e e' ↔ Reaches e.counted e'.counted := by
  constructor
  · intro h
    induction h with
    | refl e => exact .refl _
    | head silent first _ ih => exact .head (fetch?_counted silent first) ih
  · rintro ⟨n, fetches⟩
    exact (fetches.silently rfl).mapConsole Counted.faithful_console

end Engine

end TapeCalc
