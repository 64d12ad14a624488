import TapeCalc.Config.Basic
import TapeCalc.Proofs.Run
import TapeCalc.Proofs.Step

/-!
Engines over their whole life: built in one of the three ways, then used by any calls in any
order, whatever the calls answer. The stack fits the mode at every moment of such a life, so no
literal ever finds a foreign value on top, and a failure is always one of those in `Fault`.
-/

namespace TapeCalc.Engine

variable {κ : Type}

/-- Engines that have just been built. -/
inductive Built : Engine κ → Prop
  | preset (console : κ) : Built (ofPreset console)
  | boot (bank : Bank) (key : Char) (console : κ) : Built (boot bank key console)
  | config {config : Config} {console : κ} {e : Engine κ}
      (accepted : Engine.ofConfig config console = .ok e) : Built e

theorem exists_boot_of_ofConfig {config : Config} {console : κ} {e : Engine κ}
    (accepted : Engine.ofConfig config console = .ok e) :
    ∃ bank key, e = Engine.boot bank key console := by
  unfold Engine.ofConfig at accepted
  cases hb : config.bank with
  | error err =>
      rw [hb] at accepted
      cases accepted
  | ok bank =>
      cases hr : config.bootRegister with
      | error err =>
          rw [hb, hr] at accepted
          cases accepted
      | ok r =>
          rw [hb, hr] at accepted
          cases accepted
          exact ⟨bank, r.letter, rfl⟩

theorem Built.exists_boot {e : Engine κ} (h : Built e) :
    ∃ bank key console, e = Engine.boot bank key console := by
  cases h with
  | preset console => exact ⟨_, _, console, rfl⟩
  | boot bank key console => exact ⟨bank, key, console, rfl⟩
  | @config config console _ accepted =>
      obtain ⟨bank, key, rfl⟩ := exists_boot_of_ofConfig accepted
      exact ⟨bank, key, console, rfl⟩

variable [Console κ]

/-- What the owner of an engine can ask of it. The console may be changed between calls. -/
inductive Call (κ : Type)
  | step (c : Char)
  | load (program : Text)
  | execute (program : Text)
  | run
  | reset
  | exchange (console : κ)

/-- The call answers with `o`. A run that does not end has no answer. -/
def Answers (e : Engine κ) : Call κ → Outcome (Engine κ) → Prop
  | .step c, o => o = e.step c
  | .load program, o => o = .done (e.load program)
  | .execute program, o => Executes e program o
  | .run, o => Halts e o
  | .reset, o => o = .done e.reset
  | .exchange console, o => o = .done { e with console := console }

/-- Engines that some history of calls leads to. -/
inductive Reachable : Engine κ → Prop
  | built {e : Engine κ} (h : Built e) : Reachable e
  | called {e : Engine κ} {o : Outcome (Engine κ)} (before : Reachable e) (call : Call κ)
      (h : Answers e call o) : Reachable o.state

theorem fetch?_fits {e : Engine κ} {o : Outcome (Engine κ)} (h : e.mode.Fits e.stack)
    (fetched : e.fetch? = some o) : o.state.mode.Fits o.state.stack := by
  cases o with
  | done e' =>
      obtain ⟨c, rest, _, stepped⟩ := exists_step_of_fetch?_done fetched
      have fits := step_fits (e := { e with tape := rest }) h c
      rw [stepped] at fits
      exact fits
  | failed err e' =>
      obtain ⟨_, _, e₁, _, _, rfl⟩ := exists_step_of_fetch?_failed fetched
      trivial

theorem Reaches.fits {e e' : Engine κ} (h : Reaches e e') (fits : e.mode.Fits e.stack) :
    e'.mode.Fits e'.stack := by
  refine h.keeps (P := fun e => e.mode.Fits e.stack) ?_ fits
  intro e e' before fetched
  exact fetch?_fits before fetched

theorem Halts.fits {e : Engine κ} {o : Outcome (Engine κ)} (h : Halts e o)
    (fits : e.mode.Fits e.stack) : o.state.mode.Fits o.state.stack := by
  obtain ⟨e', rfl, reaches, _⟩ | ⟨e₀, err, e', rfl, reaches, failed⟩ := h.cases_last
  · exact reaches.fits fits
  · exact fetch?_fits (reaches.fits fits) failed

theorem Answers.fits {e : Engine κ} {call : Call κ} {o : Outcome (Engine κ)}
    (h : Answers e call o) (fits : e.mode.Fits e.stack) : o.state.mode.Fits o.state.stack := by
  cases call with
  | step c =>
      cases h
      exact step_fits fits c
  | load program | exchange console =>
      cases h
      exact fits
  | execute program =>
      exact Halts.fits (e := e.load program) h fits
  | run => exact Halts.fits h fits
  | reset =>
      cases h
      trivial

theorem Reachable.fits {e : Engine κ} (h : Reachable e) : e.mode.Fits e.stack := by
  induction h with
  | built built =>
      obtain ⟨bank, key, console, rfl⟩ := built.exists_boot
      trivial
  | called _ _ answers ih => exact answers.fits ih

theorem Reachable.of_reaches {e e' : Engine κ} (h : Reachable e) (reaches : Reaches e e') :
    Reachable e' := by
  refine reaches.keeps ?_ h
  intro e e' before fetched
  obtain ⟨c, rest, _, stepped⟩ := exists_step_of_fetch?_done fetched
  have loaded := before.called (.load rest.toText) rfl
  have fed := loaded.called (.step c) rfl
  simp only [Outcome.state, load, Ribbon.ofText_toText, stepped] at fed
  exact fed

theorem Fault.ne_wrongTop {e e' : Engine κ} {c : Char} {literal : Literal} {found : Option Kind} :
    ¬ Fault e c (.wrongTop literal found) e' := by
  intro fault
  cases fault

theorem Halts.exists_step {e e' : Engine κ} {err : RuntimeError} (h : Halts e (.failed err e')) :
    ∃ e₀ c rest e₁, Reaches e e₀ ∧ e₀.tape.next? = some (c, rest) ∧
      step { e₀ with tape := rest } c = .failed err e₁ ∧ e' = e₁.discard := by
  obtain ⟨_, ⟨⟩, _⟩ | ⟨e₀, _, _, ⟨⟩, reaches, failed⟩ := h.cases_last
  obtain ⟨c, rest, e₁, next, stepped, rfl⟩ := exists_step_of_fetch?_failed failed
  exact ⟨e₀, c, rest, e₁, reaches, next, stepped, rfl⟩

theorem Halts.ne_wrongTop {e e' : Engine κ} {literal : Literal} {found : Option Kind}
    (fits : e.mode.Fits e.stack) : ¬ Halts e (.failed (.wrongTop literal found) e') := by
  intro h
  obtain ⟨e₀, c, rest, e₁, reaches, _, stepped, _⟩ := h.exists_step
  have fits₀ : e₀.mode.Fits e₀.stack := reaches.fits fits
  exact Fault.ne_wrongTop ((step_failed_iff (e := { e₀ with tape := rest }) fits₀).1 stepped).2

theorem Answers.ne_wrongTop {e e' : Engine κ} {call : Call κ} {literal : Literal}
    {found : Option Kind} (fits : e.mode.Fits e.stack) :
    ¬ Answers e call (.failed (.wrongTop literal found) e') := by
  intro h
  cases call with
  | step c => exact Fault.ne_wrongTop ((step_failed_iff fits).1 h.symm).2
  | load program | reset | exchange console => cases h
  | execute program => exact Halts.ne_wrongTop (e := e.load program) fits h
  | run => exact Halts.ne_wrongTop fits h

theorem topInteger_of_fits {s : Stack} (h : Mode.integer.Fits s) (c : Char) :
    ∃ n below, Mode.topInteger c s = .ok (n, below) := by
  obtain ⟨n, top⟩ := h
  obtain ⟨below, rfl⟩ := Stack.top?_eq_some_iff.1 top
  exact ⟨n, below, rfl⟩

/-- The stack fits the mode after every history. No call answers that a literal found a foreign
value on top, and wherever a run passes, an integer literal finds its integer. -/
theorem reachable_fits {e : Engine κ} (h : Reachable e) :
    e.mode.Fits e.stack ∧
      (∀ call literal found e', ¬ Answers e call (.failed (.wrongTop literal found) e')) ∧
      ∀ e', Reaches e e' → e'.mode = .integer →
        ∀ c, ∃ n below, Mode.topInteger c e'.stack = .ok (n, below) := by
  refine ⟨h.fits, fun _ _ _ _ => Answers.ne_wrongTop h.fits, ?_⟩
  intro e' reaches integer c
  have fits := (h.of_reaches reaches).fits
  rw [integer] at fits
  exact topInteger_of_fits fits c

/-- Inside a text literal whose text has opened one parenthesis more. -/
theorem reachable_fits_nested_text : ∃ e : Engine Script,
    Reachable e ∧ e.mode = .string 2 ∧ e.stack.top? = some (.text ['(']) ∧
      e.mode.Fits e.stack ∧
      (∀ call literal found e', ¬ Answers e call (.failed (.wrongTop literal found) e')) ∧
      ∀ e', Reaches e e' → e'.mode = .integer →
        ∀ c, ∃ n below, Mode.topInteger c e'.stack = .ok (n, below) := by
  have built : Reachable (ofPreset ({} : Script)) := .built (.preset _)
  have quoted := built.called (.step '(') rfl
  have nested := quoted.called (.step '(') rfl
  exact ⟨_, nested, rfl, rfl, reachable_fits nested⟩

theorem Fault.keeps {e e' : Engine κ} {c : Char} {err : RuntimeError} (h : Fault e c err e') :
    e'.mode = .execution ∧ e'.tape = e.tape ∧ e'.bank = e.bank := by
  cases h with
  | operands | line | output => exact ⟨rfl, rfl, rfl⟩

theorem Fault.stack_of_output {e e' : Engine κ} {reason : Text}
    (h : Fault e Op.write.symbol (.console reason) e') : ∃ v, e.stack = e'.stack.push v := by
  cases h with
  | line symbol _ => cases symbol
  | output _ top _ => exact ⟨_, top⟩

theorem Fault.stack_eq {e e' : Engine κ} {c : Char} {err : RuntimeError} (h : Fault e c err e')
    (other : ∀ reason, ¬ (c = Op.write.symbol ∧ err = .console reason)) : e'.stack = e.stack := by
  cases h with
  | operands | line => rfl
  | output symbol _ _ => exact absurd ⟨symbol, rfl⟩ (other _)

/-- The checked arity covers every pop: what fails after the check is the console. -/
theorem perform_ne_underflow {e e' : Engine κ} {op : Op} {c : Char}
    (checked : e.stack.require c op.arity = .ok ()) (c' : Char) (needed found : Nat) :
    e.perform op ≠ .failed (.underflow c' needed found) e' := by
  intro failed
  have enough := Stack.require_eq_ok_iff.1 checked
  obtain ⟨_, _, _, _, ⟨⟩, _⟩ | ⟨_, _, _, _, _, _, _, ⟨⟩, _⟩ := (perform_failed_iff enough).1 failed

/-- When a character fails and what it leaves. It fails exactly outside text literals, where an
operator is short of operands or the console refuses; the stack is untouched, except that a text
which the console refuses is gone from it. A failed run has failed at one of its characters. -/
theorem reachable_failure {e : Engine κ} (h : Reachable e) :
    (∀ c err e', e.step c = .failed err e' ↔
      (∀ depth, e.mode ≠ .string depth) ∧ Fault e c err e') ∧
    (∀ c err e', e.step c = .failed err e' →
      (e'.mode = .execution ∧ e'.tape = e.tape ∧ e'.bank = e.bank) ∧
      ((∀ reason, ¬ (c = Op.write.symbol ∧ err = .console reason)) → e'.stack = e.stack) ∧
      (∀ reason, c = Op.write.symbol → err = .console reason →
        ∃ v, e.stack = e'.stack.push v)) ∧
    (∀ err e', Halts e (.failed err e') →
      ∃ e₀ c rest e₁, Reaches e e₀ ∧ e₀.tape.next? = some (c, rest) ∧
        step { e₀ with tape := rest } c = .failed err e₁ ∧
        e' = { e₁ with tape := .empty, mode := .execution }) ∧
    ∀ (op : Op) (c : Char), e.stack.require c op.arity = .ok () →
      ∀ c' needed found e', e.perform op ≠ .failed (.underflow c' needed found) e' := by
  have fails (c : Char) (err : RuntimeError) (e' : Engine κ) : e.step c = .failed err e' ↔
      (∀ depth, e.mode ≠ .string depth) ∧ Fault e c err e' :=
    step_failed_iff h.fits
  refine ⟨fails, ?_, fun _ _ => Halts.exists_step, ?_⟩
  · intro c err e' failed
    have fault := ((fails c err e').1 failed).2
    refine ⟨fault.keeps, fault.stack_eq, ?_⟩
    rintro reason rfl rfl
    exact fault.stack_of_output
  · intro op c checked c' needed found e'
    exact perform_ne_underflow checked c' needed found

/-- A console that refuses every text: the number just typed is gone, the tape is not. -/
theorem reachable_failure_refused_output : ∃ e e' : Engine Script,
    Reachable e ∧ e.mode = .integer ∧ e.tape = .ofText ['1'] ∧
      e.step '"' = .failed (.console ['f', 'u', 'l', 'l']) e' ∧
      (∃ v, e.stack = e'.stack.push v) ∧ e'.mode = .execution ∧ e'.tape = e.tape := by
  let console : Script := { writeFault := some ['f', 'u', 'l', 'l'] }
  have built : Reachable (boot .empty 'z' console) := .built (.boot _ _ _)
  have typed := built.called (.step '7') rfl
  have loaded := typed.called (.load ['1']) rfl
  have failure := (reachable_failure loaded).2.1 '"' _ _ rfl
  exact ⟨_, _, loaded, rfl, rfl, rfl, failure.2.2 _ rfl rfl, failure.1.1, failure.1.2.1⟩

end TapeCalc.Engine
