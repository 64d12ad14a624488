import TapeCalc.Proofs.Run
import TapeCalc.Proofs.Step

/-!
Values that lie below a program's own. A program that never asks for the depth of the stack, and
never addresses a value deeper than its own stack goes, cannot tell whether others lie below: with
more values below, the same run happens above them, and they are still there at its end. Nothing
is asked of the mode, since a literal that finds no value to grow ends the run with a failure.
-/

namespace TapeCalc

namespace Stack

/-- The stack on top of `base`. -/
def above (s base : Stack) : Stack :=
  ofList (s.values ++ base.values)

@[simp] theorem depth_above (s base : Stack) : (s.above base).depth = s.depth + base.depth := by
  simp [above, ofList, s.depth_eq, base.depth_eq]

@[simp] theorem push_above (s base : Stack) (v : Value) :
    (s.push v).above base = (s.above base).push v :=
  ext rfl

/-- The value on top is a depth, and it goes beyond what lies below it. -/
def pointsBeyond (s : Stack) : Bool :=
  match s.pop? with
  | some (v, below) => (depthOf? v).any fun n => below.depth < n
  | none => false

theorem le_depth_of_pointsBeyond {s : Stack} {v : Value} {n : Nat} (h : depthOf? v = some n)
    (inside : (s.push v).pointsBeyond = false) : n ≤ s.depth := by
  simpa [pointsBeyond, h] using inside

theorem pick?_above {s : Stack} {n : Nat} (inside : n ≤ s.depth) (base : Stack) :
    (s.above base).pick? n = (s.pick? n).map (·.above base) := by
  cases n with
  | zero => rfl
  | succ n =>
      have found : (s.values ++ base.values)[n]? = s.values[n]? :=
        List.getElem?_append_left (by rw [← s.depth_eq]; omega)
      cases hv : s.values[n]? <;> simp [pick?, at?, above, ofList, found, hv]
      exact ext rfl

theorem remove?_above {s : Stack} {n : Nat} (inside : n ≤ s.depth) (base : Stack) :
    (s.above base).remove? n = (s.remove? n).map fun (v, below) => (v, below.above base) := by
  by_cases positive : 1 ≤ n
  · have within : n - 1 < s.values.length := by
      rw [← s.depth_eq]
      omega
    have beyond : n ≤ s.depth + base.depth := by omega
    simp only [remove?, depth_above, positive, inside, beyond, and_self, dif_pos, Option.map_some]
    congr 2
    · exact List.getElem_append_left within
    · exact ext (List.eraseIdx_append_of_lt_length within _)
  · simp [remove?, positive]

theorem copy_above {s : Stack} {v : Value} (inside : (s.push v).pointsBeyond = false)
    (base : Stack) : ((s.push v).above base).copy = (s.push v).copy.map (·.above base) := by
  cases hn : depthOf? v with
  | none => simp [copy, hn, Except.map]
  | some n =>
      have picked := pick?_above (le_depth_of_pointsBeyond hn inside) base
      cases hp : s.pick? n <;> simp [copy, hn, picked, hp, Except.map]

theorem delete_above {s : Stack} {v : Value} (inside : (s.push v).pointsBeyond = false)
    (base : Stack) : ((s.push v).above base).delete = (s.push v).delete.map (·.above base) := by
  cases hn : depthOf? v with
  | none => simp [delete, hn, Except.map]
  | some n =>
      have removed := remove?_above (le_depth_of_pointsBeyond hn inside) base
      cases hp : s.remove? n <;> simp [delete, hn, removed, hp, Except.map]

end Stack

namespace Mode

def Progress.above (base : Stack) : Progress → Progress
  | building mode s => building mode (s.above base)
  | command => command

theorem start_above (c : Char) (s base : Stack) :
    start c (s.above base) = (start c s).above base := by
  unfold start
  split
  · simp [Progress.above]
  · split
    · simp [Progress.above]
    · split
      · simp [Progress.above]
      · rfl

theorem topInteger_above {c : Char} {s below : Stack} {n : Int64}
    (h : topInteger c s = .ok (n, below)) (base : Stack) :
    topInteger c (s.above base) = .ok (n, below.above base) := by
  cases s with
  | empty => cases h
  | push s v =>
      rw [Stack.push_above]
      cases v with
      | int m =>
          cases h
          rfl
      | float x | text t => cases h

theorem inInteger_above {c : Char} {s : Stack} {progress : Progress}
    (h : inInteger c s = .ok progress) (base : Stack) :
    inInteger c (s.above base) = .ok (progress.above base) := by
  unfold inInteger at h ⊢
  by_cases grows : c.isDigit = true ∨ c = '.'
  · cases ht : topInteger c s with
    | error err =>
        obtain digit | rfl := grows
        · simp [digit, ht, bind, Except.bind] at h
        · simp [ht, bind, Except.bind] at h
    | ok top =>
        have ht' := topInteger_above ht base
        obtain digit | rfl := grows
        · simp only [digit, ht, ht', if_true, bind, Except.bind] at h ⊢
          cases h
          simp [Progress.above, pure, Except.pure]
        · simp only [ht, ht', bind, Except.bind] at h ⊢
          cases h
          simp [Progress.above, pure, Except.pure]
  · rw [not_or] at grows
    simp only [grows.1, grows.2, Bool.false_eq_true, if_false] at h ⊢
    cases h
    rw [start_above]
    rfl

theorem inDecimal_above {place : Int} {c : Char} {s : Stack} {progress : Progress}
    (h : inDecimal place c s = .ok progress) (base : Stack) :
    inDecimal place c (s.above base) = .ok (progress.above base) := by
  unfold inDecimal at h ⊢
  by_cases digit : c.isDigit
  · simp only [digit, if_true] at h ⊢
    cases s with
    | empty => cases h
    | push s v =>
        rw [Stack.push_above]
        cases v with
        | float x =>
            cases h
            simp [Progress.above]
        | int n | text t => cases h
  · simp only [digit, Bool.false_eq_true, if_false] at h ⊢
    cases h
    rw [start_above]

theorem inString_above {depth : Nat} {c : Char} {s : Stack} {progress : Progress}
    (h : inString depth c s = .ok progress) (base : Stack) :
    inString depth c (s.above base) = .ok (progress.above base) := by
  cases s with
  | empty => cases h
  | push s v =>
      rw [Stack.push_above]
      cases v with
      | int n | float x => cases h
      | text t =>
          rw [inString_push_text] at h ⊢
          cases h
          by_cases opening : c = '('
          · simp [opening, Progress.above]
          · by_cases closing : c = ')'
            · by_cases inner : 1 < depth <;> simp [closing, inner, Progress.above]
            · simp [opening, closing, Progress.above]

/-- What a literal makes of a character depends on its own value alone. -/
theorem advance_above {mode : Mode} {c : Char} {s : Stack} {progress : Progress}
    (h : mode.advance c s = .ok progress) (base : Stack) :
    mode.advance c (s.above base) = .ok (progress.above base) := by
  cases mode with
  | execution =>
      cases h
      exact congrArg Except.ok (start_above c s base)
  | integer => exact inInteger_above h base
  | decimal place => exact inDecimal_above h base
  | string depth => exact inString_above h base

end Mode

namespace Engine

variable {κ : Type}

/-- The engine with `base` below its stack. -/
def above (base : Stack) (e : Engine κ) : Engine κ :=
  { e with stack := e.stack.above base }

/-- The next fetch asks how much lies on the stack: for the depth itself, or for a value beyond
the last. -/
def looksBelow (e : Engine κ) : Bool :=
  match e.dispatched?.bind Op.ofChar? with
  | some .depth => true
  | some .copy | some .delete => e.stack.pointsBeyond
  | _ => false

section Operators

variable {e : Engine κ} (base : Stack)

theorem onPair_above (op : Op) (f : Value → Value → Value) (h : 2 ≤ e.stack.depth) :
    (e.above base).onPair op f = (e.onPair op f).map (above base) := by
  obtain ⟨below, l, r, hs⟩ := Stack.exists_push_push h
  have hs' : (e.above base).stack = ((below.above base).push l).push r := by simp [above, hs]
  rw [onPair_of_stack hs, onPair_of_stack hs']
  simp [Outcome.map, above]

theorem onTop_above (op : Op) (f : Value → Value) (h : 1 ≤ e.stack.depth) :
    (e.above base).onTop op f = (e.onTop op f).map (above base) := by
  obtain ⟨below, v, hs⟩ := Stack.exists_push h
  have hs' : (e.above base).stack = (below.above base).push v := by simp [above, hs]
  rw [onTop_of_stack hs, onTop_of_stack hs']
  simp [Outcome.map, above]

theorem splice_above (op : Op) (put : Tape → Text → Tape) (h : 1 ≤ e.stack.depth) :
    (e.above base).splice op put = (e.splice op put).map (above base) := by
  obtain ⟨below, v, hs⟩ := Stack.exists_push h
  have hs' : (e.above base).stack = (below.above base).push v := by simp [above, hs]
  rw [splice_of_stack hs, splice_of_stack hs']
  rfl

theorem withStack_above (r : Except RuntimeError Stack) :
    (e.above base).withStack (r.map (·.above base)) = (e.withStack r).map (above base) := by
  cases r <;> rfl

variable [Console κ]

theorem perform_read_above : (e.above base).perform .read = (e.perform .read).map (above base) := by
  simp only [perform, Console.readValue, above]
  rcases Console.readLine e.console with ⟨_ | line, k⟩
  · rfl
  · cases line <;> simp [Outcome.map, above]

theorem perform_write_above (h : 1 ≤ e.stack.depth) :
    (e.above base).perform .write = (e.perform .write).map (above base) := by
  obtain ⟨below, v, hs⟩ := Stack.exists_push h
  simp only [perform, Console.writeValue, above, hs, Stack.push_above, Stack.pop_push]
  rcases Console.write e.console v.toText with ⟨_ | _, k⟩ <;> rfl

/-- With its operands above them, an operator leaves the values below where they are. -/
theorem perform_above {op : Op} (enough : op.arity ≤ e.stack.depth) (depth : op ≠ .depth)
    (inside : op = .copy ∨ op = .delete → e.stack.pointsBeyond = false) :
    (e.above base).perform op = (e.perform op).map (above base) := by
  cases op with
  | add | subtract | multiply | divide | modulo | equal | less | greater | and | or =>
      rw [perform, perform]
      exact onPair_above base _ _ enough
  | isFalsy | negate | truncate => exact onTop_above base _ _ enough
  | copy =>
      obtain ⟨below, v, hs⟩ := Stack.exists_push enough
      have copied := Stack.copy_above (hs ▸ inside (.inl rfl)) base
      rw [← hs] at copied
      rw [perform, perform, ← withStack_above, ← copied]
      rfl
  | delete =>
      obtain ⟨below, v, hs⟩ := Stack.exists_push enough
      have deleted := Stack.delete_above (hs ▸ inside (.inr rfl)) base
      rw [← hs] at deleted
      rw [perform, perform, ← withStack_above, ← deleted]
      rfl
  | applyNow | applyLater => exact splice_above base _ _ enough
  | depth => exact absurd rfl depth
  | read => exact perform_read_above base
  | write => exact perform_write_above base enough

end Operators

variable [Console κ]

theorem dispatch_above {e e' : Engine κ} {c : Char} (base : Stack) (h : e.dispatch c = .done e')
    (depth : c ≠ Op.depth.symbol)
    (inside : c = Op.copy.symbol ∨ c = Op.delete.symbol → e.stack.pointsBeyond = false) :
    (e.above base).dispatch c = .done (e'.above base) := by
  simp only [dispatch] at h ⊢
  cases hr : Register.ofChar? c with
  | some r =>
      simp only [hr] at h ⊢
      cases h
      simp [above]
  | none =>
      cases hop : Op.ofChar? c with
      | none =>
          simp only [hr, hop] at h ⊢
          cases h
          rfl
      | some op =>
          simp only [hr, hop] at h ⊢
          rw [Op.ofChar?_eq_some_iff] at hop
          cases hq : e.stack.require c op.arity with
          | error err =>
              rw [hq] at h
              cases h
          | ok _ =>
              have enough : op.arity ≤ e.stack.depth := Stack.require_eq_ok_iff.1 hq
              have enough' : (e.above base).stack.require c op.arity = .ok () := by
                rw [Stack.require_eq_ok_iff]
                exact Nat.le_trans enough (by simp [above])
              simp only [hq] at h
              simp only [enough']
              have other : op ≠ .depth := by
                rintro rfl
                exact depth hop
              have inside' : op = .copy ∨ op = .delete → e.stack.pointsBeyond = false := by
                rintro (rfl | rfl)
                · exact inside (.inl hop)
                · exact inside (.inr hop)
              rw [perform_above base enough other inside', h]
              rfl

theorem fetch?_above {e e' : Engine κ} (base : Stack) (h : e.fetch? = some (.done e'))
    (blind : e.looksBelow = false) : (e.above base).fetch? = some (.done (e'.above base)) := by
  obtain ⟨c, rest, next, stepped⟩ := exists_step_of_fetch?_done h
  have next' : (e.above base).tape.next? = some (c, rest) := next
  rw [fetch?_done_iff next']
  unfold step at stepped ⊢
  cases ha : e.mode.advance c e.stack with
  | error err => simp [ha] at stepped
  | ok progress =>
      have framed := Mode.advance_above ha base
      simp only [above, framed]
      simp only [ha] at stepped
      cases progress with
      | building mode s =>
          cases stepped
          rfl
      | command =>
          have dispatched := dispatched?_of_command next ha
          have depth : c ≠ Op.depth.symbol := by
            rintro rfl
            simp [looksBelow, dispatched, Op.ofChar?_eq_some_iff.2 rfl] at blind
          have inside : c = Op.copy.symbol ∨ c = Op.delete.symbol →
              e.stack.pointsBeyond = false := by
            rintro (rfl | rfl) <;>
              simpa [looksBelow, dispatched, Op.ofChar?_eq_some_iff.2 rfl] using blind
          exact dispatch_above base stepped depth inside

theorem Reaches.above {e e' : Engine κ} (base : Stack) (h : Reaches e e')
    (blind : ∀ e₁, Reaches e e₁ → e₁.looksBelow = false) :
    Reaches (e.above base) (e'.above base) := by
  obtain ⟨n, fetches⟩ := h
  induction fetches with
  | refl e => exact .refl _
  | @head _ e _ _ first _ ih =>
      have first' := fetch?_above base first (blind e (.refl e))
      exact .head first' (ih fun e₁ reaches => blind e₁ (.head first reaches))

/-- The frame rule. A run that ends well and never looks below its own stack ends in the same way
with any stack below it, and leaves that stack as it was. -/
theorem halts_above (base : Stack) {e e' : Engine κ} (ends : Halts e (.done e'))
    (blind : ∀ e₁, Reaches e e₁ → e₁.looksBelow = false) :
    Halts (e.above base) (.done (e'.above base)) := by
  obtain ⟨_, ⟨⟩, reaches, stop⟩ | ⟨_, _, _, ⟨⟩, _⟩ := ends.cases_last
  exact (reaches.above base blind).halts_iff.2 (halts_of_exhausted stop)

/-- In the middle of a number, with a copy of the deepest value and a spliced text. -/
theorem halts_above_unfinished_number : ∃ e e' : Engine Script,
    e.mode = .integer ∧ e.stack.values = [.int 3, .int 5] ∧ e'.stack.values = [.int 155] ∧
      Halts e (.done e') ∧ (∀ e₁, Reaches e e₁ → e₁.looksBelow = false) ∧
      ∀ base, Halts (e.above base) (.done (e'.above base)) := by
  let e : Engine Script :=
    { stack := .ofList [.int 3, .int 5], bank := .empty, mode := .integer, console := {}
      tape := .ofText "1 2!(1$*)@".toList }
  have ends : Halts e (.done _) := ⟨14, rfl⟩
  have blind (e₁ : Engine Script) (h : Reaches e e₁) : e₁.looksBelow = false := by
    simpa using holdsAlong_reaches (fun e => !e.looksBelow) 14 rfl h
  exact ⟨e, _, rfl, rfl, rfl, ends, blind, fun base => halts_above base ends blind⟩

end Engine

end TapeCalc
