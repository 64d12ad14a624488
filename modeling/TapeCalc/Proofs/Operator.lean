import TapeCalc.Engine

/-!
What operators can do to an engine. All but the two that put a text on the tape work on the stack
and the console alone: the bank, the tape and the mode can be exchanged before or after. With the
operands that its arity asks for on the stack, an operator fails only with its console.
-/

namespace TapeCalc

theorem Op.ofChar?_eq_some_iff {c : Char} {op : Op} : Op.ofChar? c = some op ↔ c = op.symbol := by
  constructor
  · intro h
    have found := List.find?_some h
    exact (of_decide_eq_true found).symm
  · rintro rfl
    cases op <;> rfl

theorem Register.ofChar?_symbol (op : Op) : Register.ofChar? op.symbol = none := by
  cases op <;> rfl

namespace Stack

theorem exists_push {s : Stack} (h : 1 ≤ s.depth) : ∃ below v, s = push below v := by
  cases s with
  | empty => cases h
  | push below v => exact ⟨below, v, rfl⟩

theorem exists_push_push {s : Stack} (h : 2 ≤ s.depth) :
    ∃ below l r, s = push (push below l) r := by
  obtain ⟨above, r, rfl⟩ := exists_push (Nat.le_of_succ_le h)
  obtain ⟨below, l, rfl⟩ := exists_push (Nat.le_of_succ_le_succ h)
  exact ⟨below, l, r, rfl⟩

end Stack

/-- The state that an outcome leaves, also when it is a failure. -/
def Outcome.state {σ : Type} : Outcome σ → σ
  | done s => s
  | failed _ s => s

theorem Outcome.map_map {σ τ υ : Type} (f : σ → τ) (g : τ → υ) (o : Outcome σ) :
    (o.map f).map g = o.map (g ∘ f) := by
  cases o <;> rfl

theorem Outcome.state_map {σ τ : Type} (f : σ → τ) (o : Outcome σ) :
    (o.map f).state = f o.state := by
  cases o <;> rfl

namespace Engine

variable {κ : Type}

/-- Exchange all that lies outside the stack and the console. -/
def mapContext (bank : Bank → Bank) (tape : Tape → Tape) (mode : Mode → Mode) (e : Engine κ) :
    Engine κ :=
  { e with bank := bank e.bank, tape := tape e.tape, mode := mode e.mode }

section Context

variable (bank : Bank → Bank) (tape : Tape → Tape) (mode : Mode → Mode) (e : Engine κ)

theorem withStack_mapContext (r : Except RuntimeError Stack) :
    (e.mapContext bank tape mode).withStack r =
      (e.withStack r).map (mapContext bank tape mode) := by
  cases r <;> rfl

variable [Console κ]

theorem perform_mapContext (op : Op) (now : op ≠ .applyNow) (later : op ≠ .applyLater) :
    (e.mapContext bank tape mode).perform op =
      (e.perform op).map (mapContext bank tape mode) := by
  cases op with
  | applyNow => exact absurd rfl now
  | applyLater => exact absurd rfl later
  | depth => rfl
  | read | write =>
      simp only [perform, Outcome.map_map]
      rfl
  | _ => exact withStack_mapContext bank tape mode e _

end Context

section Operands

variable {e : Engine κ} {below : Stack}

theorem onPair_of_stack {l r : Value} (h : e.stack = (below.push l).push r) (op : Op)
    (f : Value → Value → Value) :
    e.onPair op f = .done { e with stack := below.push (f l r) } := by
  rw [onPair, h]
  rfl

theorem onTop_of_stack {v : Value} (h : e.stack = below.push v) (op : Op) (f : Value → Value) :
    e.onTop op f = .done { e with stack := below.push (f v) } := by
  rw [onTop, h]
  rfl

/-- The tape after a value is spliced onto it: only a text is put there. -/
def spliced (put : Tape → Text → Tape) (tape : Tape) : Value → Tape
  | .text program => put tape program
  | _ => tape

theorem splice_of_stack {v : Value} (h : e.stack = below.push v) (op : Op)
    (put : Tape → Text → Tape) :
    e.splice op put = .done { e with stack := below, tape := spliced put e.tape v } := by
  rw [splice, h, Stack.pop_push]
  cases v <;> rfl

end Operands

variable [Console κ] {e e' : Engine κ} {op : Op} {err : RuntimeError}

/-- With its operands in place, an operator that leaves the console alone succeeds. -/
theorem perform_done (h : op.arity ≤ e.stack.depth) (read : op ≠ .read) (write : op ≠ .write) :
    ∃ e', e.perform op = .done e' := by
  cases op with
  | add | subtract | multiply | divide | modulo | equal | less | greater | and | or =>
      obtain ⟨below, l, r, hs⟩ := Stack.exists_push_push h
      rw [perform]
      exact ⟨_, onPair_of_stack hs _ _⟩
  | isFalsy | negate | truncate =>
      obtain ⟨below, v, hs⟩ := Stack.exists_push h
      exact ⟨_, onTop_of_stack hs _ _⟩
  | copy | delete =>
      obtain ⟨below, v, hs⟩ := Stack.exists_push h
      rw [perform, hs]
      exact ⟨_, rfl⟩
  | applyNow | applyLater =>
      obtain ⟨below, v, hs⟩ := Stack.exists_push h
      exact ⟨_, splice_of_stack hs _ _⟩
  | depth => exact ⟨_, rfl⟩
  | read => exact absurd rfl read
  | write => exact absurd rfl write

theorem perform_read_failed_iff :
    e.perform .read = .failed err e' ↔
      ∃ reason k, Console.readLine e.console = (.error reason, k) ∧
        err = .console reason ∧ e' = { e with console := k } := by
  rcases hk : Console.readLine e.console with ⟨reason | line, k⟩
  · simp only [perform, Console.readValue, hk, Outcome.map, Outcome.failed.injEq, Prod.mk.injEq,
      Except.error.injEq]
    constructor
    · rintro ⟨rfl, rfl⟩
      exact ⟨reason, k, ⟨rfl, rfl⟩, rfl, rfl⟩
    · rintro ⟨_, _, ⟨rfl, rfl⟩, rfl, rfl⟩
      exact ⟨rfl, rfl⟩
  · cases line <;> simp [perform, Console.readValue, hk, Outcome.map]

theorem perform_write_failed_iff (h : 1 ≤ e.stack.depth) :
    e.perform .write = .failed err e' ↔
      ∃ (below : Stack) (v : Value) (reason : Text) (k : κ),
        e.stack = below.push v ∧ Console.write e.console v.toText = (.error reason, k) ∧
        err = .console reason ∧ e' = { e with stack := below, console := k } := by
  obtain ⟨below, v, hs⟩ := Stack.exists_push h
  constructor
  · intro failed
    rcases hk : Console.write e.console v.toText with ⟨reason | _, k⟩
    · simp only [perform, Console.writeValue, hs, Stack.pop_push, hk, Outcome.map,
        Outcome.failed.injEq] at failed
      exact ⟨below, v, reason, k, hs, hk, failed.1.symm, failed.2.symm⟩
    · simp [perform, Console.writeValue, hs, hk, Outcome.map] at failed
  · rintro ⟨below, v, reason, k, hs, hk, rfl, rfl⟩
    simp [perform, Console.writeValue, hs, hk, Outcome.map]

/-- After the check of its operands, an operator can only fail with its console. -/
theorem perform_failed_iff (h : op.arity ≤ e.stack.depth) :
    e.perform op = .failed err e' ↔
      (op = .read ∧ ∃ reason k, Console.readLine e.console = (.error reason, k) ∧
        err = .console reason ∧ e' = { e with console := k }) ∨
      (op = .write ∧ ∃ (below : Stack) (v : Value) (reason : Text) (k : κ),
        e.stack = below.push v ∧ Console.write e.console v.toText = (.error reason, k) ∧
        err = .console reason ∧ e' = { e with stack := below, console := k }) := by
  by_cases read : op = .read
  · subst read
    rw [perform_read_failed_iff]
    simp
  · by_cases write : op = .write
    · subst write
      rw [perform_write_failed_iff h]
      simp
    · obtain ⟨e₁, done⟩ := perform_done h read write
      simp [done, read, write]

/-- No operator leaves the mode or writes a register. -/
theorem perform_keeps (e : Engine κ) (op : Op) :
    (e.perform op).state.mode = e.mode ∧ (e.perform op).state.bank = e.bank := by
  by_cases splices : op = .applyNow ∨ op = .applyLater
  · obtain rfl | rfl := splices
    all_goals
      simp only [perform, splice]
      split <;> exact ⟨rfl, rfl⟩
  · rw [not_or] at splices
    have frame := perform_mapContext (fun _ => e.bank) id (fun _ => e.mode) e op splices.1 splices.2
    have self : e.mapContext (fun _ => e.bank) id (fun _ => e.mode) = e := rfl
    rw [self] at frame
    rw [frame, Outcome.state_map]
    exact ⟨rfl, rfl⟩

end Engine

end TapeCalc
