import TapeCalc.Proofs.Run
import TapeCalc.Proofs.Slots
import TapeCalc.Proofs.Step

/-!
Programs that compute with integers and texts only. Floats come from three places: a point outside
text literals, the division of two numbers, and a line that reads as a float. As long as a run
meets none of them, it passes from a stack without floats to stacks without floats, however it
goes on and however it ends: no operator makes a float of other values, not even where it cannot
use its operands, and nothing else puts a value on the stack that was not there or in a register.
-/

namespace TapeCalc

namespace Value

variable {l r : Value}

section Pair

variable (hl : l.kind ≠ .float) (hr : r.kind ≠ .float)
include hl hr

theorem kind_onNumbers_ne_float (f : Int64 → Int64 → Int64) (g : Float → Float → Float) :
    (onNumbers f g l r).kind ≠ .float := by
  cases l with
  | float x => exact absurd rfl hl
  | int m =>
      cases r with
      | float y => exact absurd rfl hr
      | int n | text t => nofun
  | text s => nofun

theorem kind_add_ne_float : (add l r).kind ≠ .float := by
  unfold add
  split
  · nofun
  · nofun
  · exact kind_onNumbers_ne_float hl hr _ _

theorem kind_subtract_ne_float : (subtract l r).kind ≠ .float := by
  unfold subtract
  split
  · split <;> nofun
  · split <;> nofun
  · exact kind_onNumbers_ne_float hl hr _ _

theorem kind_multiply_ne_float : (multiply l r).kind ≠ .float := by
  unfold multiply
  split
  · split <;> nofun
  · split <;> nofun
  · exact kind_onNumbers_ne_float hl hr _ _

end Pair

/-- Of two values that are not both numbers, no quotient is taken. -/
theorem kind_divide_ne_float (h : (l.isNumeric && r.isNumeric) = false) :
    (divide l r).kind ≠ .float := by
  unfold divide
  split
  · split <;> nofun
  · cases l with
    | text s => nofun
    | int m | float x =>
        cases r with
        | text t => nofun
        | int n | float y => cases h

theorem kind_modulo_ne_float (l r : Value) : (modulo l r).kind ≠ .float := by
  unfold modulo
  split
  · split <;> nofun
  · split <;> nofun
  · nofun

theorem kind_flag_ne_float (b : Bool) : (flag b).kind ≠ .float := by
  nofun

theorem kind_logic_ne_float (op : Op) (l r : Value) : (logic op l r).kind ≠ .float := by
  unfold logic
  split
  · split <;> nofun
  · nofun

theorem kind_arithmetic_ne_float {op : Op} (hl : l.kind ≠ .float) (hr : r.kind ≠ .float)
    (h : op = .divide → (l.isNumeric && r.isNumeric) = false) :
    (arithmetic op l r).kind ≠ .float := by
  cases op with
  | add => exact kind_add_ne_float hl hr
  | subtract => exact kind_subtract_ne_float hl hr
  | multiply => exact kind_multiply_ne_float hl hr
  | divide => exact kind_divide_ne_float (h rfl)
  | modulo => exact kind_modulo_ne_float l r
  | _ => nofun

theorem kind_negate_ne_float {v : Value} (h : v.kind ≠ .float) : v.negate.kind ≠ .float := by
  cases v with
  | float x => exact absurd rfl h
  | int n | text s => nofun

theorem kind_truncate_ne_float (v : Value) : v.truncate.kind ≠ .float := by
  cases v <;> nofun

end Value

namespace Stack

/-- The stack holds integers and texts only. -/
def Exact (s : Stack) : Prop :=
  ∀ v ∈ s.values, v.kind ≠ .float

/-- The two topmost values are numbers. -/
def endsInNumbers (s : Stack) : Bool :=
  match s.values with
  | r :: l :: _ => l.isNumeric && r.isNumeric
  | _ => false

theorem exact_push_iff {s : Stack} {v : Value} : (s.push v).Exact ↔ v.kind ≠ .float ∧ s.Exact :=
  List.forall_mem_cons

theorem Exact.pick? {s s' : Stack} (h : s.Exact) {n : Nat} (picked : s.pick? n = some s') :
    s'.Exact := by
  obtain ⟨v, found, rfl⟩ := Option.map_eq_some_iff.1 picked
  refine exact_push_iff.2 ⟨?_, h⟩
  cases n with
  | zero => cases found
  | succ n => exact h v (List.mem_of_getElem? found)

theorem Exact.remove? {s s' : Stack} (h : s.Exact) {n : Nat} {v : Value}
    (removed : s.remove? n = some (v, s')) : s'.Exact := by
  unfold Stack.remove? at removed
  split at removed
  · cases removed
    intro w inside
    exact h w (List.mem_of_mem_eraseIdx inside)
  · cases removed

theorem Exact.copy {s s' : Stack} (h : s.Exact) (copied : s.copy = .ok s') : s'.Exact := by
  cases s with
  | empty => cases copied
  | push below v =>
      have floatless := (exact_push_iff.1 h).2
      cases copied
      cases found : (depthOf? v).bind below.pick? with
      | none => simpa [found] using floatless
      | some s =>
          obtain ⟨n, _, picked⟩ := Option.bind_eq_some_iff.1 found
          simpa [found] using floatless.pick? picked

theorem Exact.delete {s s' : Stack} (h : s.Exact) (deleted : s.delete = .ok s') : s'.Exact := by
  cases s with
  | empty => cases deleted
  | push below v =>
      have floatless := (exact_push_iff.1 h).2
      cases deleted
      cases found : (depthOf? v).bind below.remove? with
      | none => simpa [found] using floatless
      | some removed =>
          obtain ⟨n, _, removed⟩ := Option.bind_eq_some_iff.1 found
          simpa [found] using floatless.remove? removed

end Stack

namespace Mode

variable {c : Char} {s s' : Stack} {mode mode' : Mode}

/-- The mode of a number with a fraction. -/
def isDecimal : Mode → Bool
  | decimal _ => true
  | _ => false

theorem exact_of_start (hs : s.Exact) (point : c ≠ '.')
    (h : start c s = .building mode' s') : s'.Exact ∧ mode'.isDecimal = false := by
  unfold start at h
  split at h
  · cases h
    exact ⟨Stack.exact_push_iff.2 ⟨nofun, hs⟩, rfl⟩
  · split at h
    · cases h
      exact ⟨Stack.exact_push_iff.2 ⟨nofun, hs⟩, rfl⟩
    · cases h

theorem exact_of_inInteger (hs : s.Exact) (point : c ≠ '.')
    (h : inInteger c s = .ok (.building mode' s')) : s'.Exact ∧ mode'.isDecimal = false := by
  unfold inInteger at h
  split at h
  · cases s with
    | empty => cases h
    | push below v =>
        cases v with
        | float x | text t => cases h
        | int n =>
            cases h
            have floatless := (Stack.exact_push_iff.1 hs).2
            exact ⟨Stack.exact_push_iff.2 ⟨nofun, floatless⟩, rfl⟩
  · exact exact_of_start hs point (Except.ok.inj h)

theorem exact_of_inString {depth : Nat} (hs : s.Exact)
    (h : inString depth c s = .ok (.building mode' s')) : s'.Exact ∧ mode'.isDecimal = false := by
  cases s with
  | empty => cases h
  | push below v =>
      cases v with
      | int n | float x => cases h
      | text w =>
          have floatless := (Stack.exact_push_iff.1 hs).2
          have grown (w : Text) : (below.push (.text w)).Exact :=
            Stack.exact_push_iff.2 ⟨nofun, floatless⟩
          rw [inString_push_text] at h
          have built := Except.ok.inj h
          split at built
          · cases built
            exact ⟨grown _, rfl⟩
          · split at built
            · split at built <;>
              · cases built
                exact ⟨grown _, rfl⟩
            · cases built
              exact ⟨grown _, rfl⟩

/-- Only a point makes a float of a literal. -/
theorem exact_of_advance (hs : s.Exact) (whole : mode.isDecimal = false)
    (point : (∀ depth, mode ≠ .string depth) → c ≠ '.')
    (h : mode.advance c s = .ok (.building mode' s')) : s'.Exact ∧ mode'.isDecimal = false := by
  cases mode with
  | execution => exact exact_of_start hs (point nofun) (Except.ok.inj h)
  | integer => exact exact_of_inInteger hs (point nofun) h
  | decimal place => cases whole
  | string depth => exact exact_of_inString hs h

end Mode

/-- The next line reads as a float. -/
def Console.offersFloat {κ : Type} [Console κ] (k : κ) : Bool :=
  match (readLine k).1 with
  | .ok (some line) => (Value.ofLine line).kind = .float
  | _ => false

namespace Engine

variable {κ : Type}

/-- No float on the stack, none in a register, and none in the making. -/
structure Exact (e : Engine κ) : Prop where
  stack : e.stack.Exact
  bank (r : Register) : (e.bank r).kind ≠ .float
  mode : e.mode.isDecimal = false

/-- The next fetch takes a point outside text literals. -/
def meetsPoint (e : Engine κ) : Bool :=
  match e.mode, e.tape.next? with
  | .string _, _ => false
  | _, some (c, _) => c = '.'
  | _, none => false

theorem meetsPoint_of_outside {e : Engine κ} (outside : ∀ depth, e.mode ≠ .string depth) {c : Char}
    {rest : Tape} (next : e.tape.next? = some (c, rest)) : e.meetsPoint = decide (c = '.') := by
  rw [meetsPoint, next]
  cases mode : e.mode with
  | string depth => exact absurd mode (outside depth)
  | execution | integer | decimal place => rfl

/-- The next fetch divides a number by another. -/
def dividesNumbers (e : Engine κ) : Bool :=
  e.dispatched? = some Op.divide.symbol && e.stack.endsInNumbers

theorem exact_withStack {e : Engine κ} (h : e.stack.Exact) {r : Except RuntimeError Stack}
    (hr : ∀ s, r = .ok s → s.Exact) : (e.withStack r).state.stack.Exact := by
  cases r with
  | error err => exact h
  | ok s => exact hr s rfl

theorem exact_onPair {e : Engine κ} (h : e.stack.Exact) (op : Op) {f : Value → Value → Value}
    (hf : ∀ (below : Stack) (l r : Value), e.stack = (below.push l).push r → l.kind ≠ .float →
      r.kind ≠ .float → (f l r).kind ≠ .float) : (e.onPair op f).state.stack.Exact := by
  refine exact_withStack h ?_
  intro s computed
  cases hs : e.stack with
  | empty =>
      rw [hs] at computed
      cases computed
  | push above r =>
      cases above with
      | empty =>
          rw [hs] at computed
          cases computed
      | push below l =>
          rw [hs] at computed
          cases computed
          rw [hs, Stack.exact_push_iff, Stack.exact_push_iff] at h
          exact Stack.exact_push_iff.2 ⟨hf below l r hs h.2.1 h.1, h.2.2⟩

theorem exact_onTop {e : Engine κ} (h : e.stack.Exact) (op : Op) {f : Value → Value}
    (hf : ∀ v : Value, v.kind ≠ .float → (f v).kind ≠ .float) :
    (e.onTop op f).state.stack.Exact := by
  refine exact_withStack h ?_
  intro s computed
  cases hs : e.stack with
  | empty =>
      rw [hs] at computed
      cases computed
  | push below v =>
      rw [hs] at computed
      cases computed
      rw [hs, Stack.exact_push_iff] at h
      exact Stack.exact_push_iff.2 ⟨hf v h.1, h.2⟩

theorem exact_splice {e : Engine κ} (h : e.stack.Exact) (op : Op) (put : Tape → Text → Tape) :
    (e.splice op put).state.stack.Exact := by
  cases hs : e.stack with
  | empty => simpa [splice, hs, Stack.pop, Outcome.state] using h
  | push below v =>
      rw [splice_of_stack hs]
      rw [hs] at h
      exact (Stack.exact_push_iff.1 h).2

variable [Console κ]

/-- The next fetch reads a line that is a float. -/
def readsFloat (e : Engine κ) : Bool :=
  e.dispatched? = some Op.read.symbol && Console.offersFloat e.console

/-- The next fetch may put a float on the stack. -/
def admitsFloat (e : Engine κ) : Bool :=
  e.meetsPoint || e.dividesNumbers || e.readsFloat

theorem exact_read {e : Engine κ} (h : e.stack.Exact)
    (line : Console.offersFloat e.console = false) : (e.perform .read).state.stack.Exact := by
  simp only [perform, Outcome.state_map, Console.readValue]
  unfold Console.offersFloat at line
  generalize Console.readLine e.console = read at line ⊢
  obtain ⟨answer, k⟩ := read
  cases answer with
  | error reason => exact h
  | ok next =>
      cases next with
      | none => exact Stack.exact_push_iff.2 ⟨by decide, h⟩
      | some text => exact Stack.exact_push_iff.2 ⟨of_decide_eq_false line, h⟩

theorem exact_write {e : Engine κ} (h : e.stack.Exact) :
    (e.perform .write).state.stack.Exact := by
  simp only [perform, Outcome.state_map, Console.writeValue]
  cases hs : e.stack with
  | empty =>
      rw [hs] at h
      exact h
  | push below v =>
      rw [hs] at h
      have floatless := (Stack.exact_push_iff.1 h).2
      simp only [Stack.pop_push]
      split <;> exact floatless

theorem exact_perform {e : Engine κ} {op : Op} (h : e.stack.Exact)
    (divide : op = .divide → e.stack.endsInNumbers = false)
    (read : op = .read → Console.offersFloat e.console = false) :
    (e.perform op).state.stack.Exact := by
  cases op with
  | add | subtract | multiply | divide | modulo =>
      refine exact_onPair h _ ?_
      intro below l r hs hl hr
      refine Value.kind_arithmetic_ne_float hl hr ?_
      intro divides
      have numbers := divide divides
      rw [hs] at numbers
      exact numbers
  | equal | less | greater => exact exact_onPair h _ fun _ _ _ _ _ _ => Value.kind_flag_ne_float _
  | and | or => exact exact_onPair h _ fun _ l r _ _ _ => Value.kind_logic_ne_float _ l r
  | isFalsy => exact exact_onTop h _ fun v _ => Value.kind_flag_ne_float v.isFalsy
  | negate => exact exact_onTop h _ fun _ => Value.kind_negate_ne_float
  | truncate => exact exact_onTop h _ fun v _ => Value.kind_truncate_ne_float v
  | copy => exact exact_withStack h fun _ => h.copy
  | delete => exact exact_withStack h fun _ => h.delete
  | applyNow | applyLater => exact exact_splice h _ _
  | depth => exact Stack.exact_push_iff.2 ⟨nofun, h⟩
  | read => exact exact_read h (read rfl)
  | write => exact exact_write h

theorem exact_dispatch {e : Engine κ} {c : Char} (h : e.Exact)
    (divide : c = Op.divide.symbol → e.stack.endsInNumbers = false)
    (read : c = Op.read.symbol → Console.offersFloat e.console = false) :
    (e.dispatch c).state.Exact := by
  obtain ⟨mode, bank⟩ := dispatch_keeps e c
  refine ⟨?_, bank ▸ h.bank, mode ▸ h.mode⟩
  unfold dispatch
  split
  · rename_i r _
    exact Stack.exact_push_iff.2 ⟨h.bank r, h.stack⟩
  · split
    · exact h.stack
    · rename_i op hop
      obtain rfl := Op.ofChar?_eq_some_iff.1 hop
      split
      · exact h.stack
      · refine exact_perform h.stack ?_ ?_
        · rintro rfl
          exact divide rfl
        · rintro rfl
          exact read rfl

/-- A character that brings in no float leaves none behind, also where it fails. -/
theorem exact_step {e : Engine κ} {c : Char} (h : e.Exact)
    (point : (∀ depth, e.mode ≠ .string depth) → c ≠ '.')
    (divide : e.mode.advance c e.stack = .ok .command → c = Op.divide.symbol →
      e.stack.endsInNumbers = false)
    (read : e.mode.advance c e.stack = .ok .command → c = Op.read.symbol →
      Console.offersFloat e.console = false) : (e.step c).state.Exact := by
  unfold step
  split
  · exact h
  · rename_i built
    obtain ⟨stack, mode⟩ := Mode.exact_of_advance h.stack h.mode point built
    exact ⟨stack, h.bank, mode⟩
  · rename_i command
    exact exact_dispatch ⟨h.stack, h.bank, rfl⟩ (divide command) (read command)

theorem exact_fetch? {e : Engine κ} {o : Outcome (Engine κ)} (h : e.Exact)
    (quiet : e.admitsFloat = false) (fetched : e.fetch? = some o) : o.state.Exact := by
  simp only [admitsFloat, Bool.or_eq_false_iff] at quiet
  obtain ⟨⟨point, divide⟩, read⟩ := quiet
  have stepped {c : Char} {rest : Tape} (next : e.tape.next? = some (c, rest)) :
      (step { e with tape := rest } c).state.Exact := by
    refine exact_step ⟨h.stack, h.bank, h.mode⟩ ?_ ?_ ?_
    · rintro outside rfl
      rw [meetsPoint_of_outside (e := e) outside next] at point
      cases point
    · rintro command rfl
      simpa [dividesNumbers, dispatched?_of_command next command] using divide
    · rintro command rfl
      simpa [readsFloat, dispatched?_of_command next command] using read
  cases o with
  | done e' =>
      obtain ⟨c, rest, next, done⟩ := exists_step_of_fetch?_done fetched
      have floatless := stepped next
      rw [done] at floatless
      exact floatless
  | failed err e' =>
      obtain ⟨c, rest, e₁, next, failed, rfl⟩ := exists_step_of_fetch?_failed fetched
      have floatless := stepped next
      rw [failed] at floatless
      exact ⟨floatless.stack, floatless.bank, rfl⟩

/-- What the first `n` fetches do not admit is not there after them. -/
theorem Fetches.exact {n : Nat} {e e' : Engine κ} (h : Fetches n e e') (floatless : e.Exact)
    (quiet : ∀ m e₁, m < n → Fetches m e e₁ → e₁.admitsFloat = false) : e'.Exact := by
  induction h with
  | refl e => exact floatless
  | @head n e e₁ e' first _ ih =>
      have begun : e.admitsFloat = false := quiet 0 e (Nat.zero_lt_succ n) (.refl e)
      have next : e₁.Exact := exact_fetch? floatless begun first
      refine ih next ?_
      intro m e₂ less fetches
      exact quiet (m + 1) e₂ (Nat.succ_lt_succ less) (.head first fetches)

/-- However a run goes on and ends, as long as it meets no point outside text literals, divides no
numbers and reads no line that is a float, there is no float on its stack and none in the making.
The first part is about any number of fetches, the second about the end of the run, also where it
fails. -/
theorem exact_throughout {e : Engine κ} (floatless : e.Exact) :
    (∀ n e', Fetches n e e' →
      (∀ m e₁, m < n → Fetches m e e₁ → e₁.admitsFloat = false) → e'.Exact) ∧
    ∀ o, Halts e o → (∀ e₁, Reaches e e₁ → e₁.admitsFloat = false) → o.state.Exact := by
  refine ⟨fun _ _ fetches => fetches.exact floatless, ?_⟩
  intro o halts quiet
  have reached {e' : Engine κ} : Reaches e e' → e'.Exact := by
    rintro ⟨n, fetches⟩
    exact fetches.exact floatless fun m e₁ _ fetches => quiet e₁ ⟨m, fetches⟩
  obtain ⟨e', rfl, reaches, _⟩ | ⟨e₀, err, e', rfl, reaches, failed⟩ := halts.cases_last
  · exact reached reaches
  · exact exact_fetch? (reached reaches) (quiet e₀ reaches) failed

/-- Points inside texts, a search written like a division, a line that only looks like a float, and
a remainder that cannot be taken. -/
theorem exact_throughout_texts : ∃ e e' : Engine Script,
    e.tape = .ofText "(1.5)(.)/'+7 0%".toList ∧ e.console.lines = ["e".toList] ∧ e.Exact ∧
      (∀ e₁, Reaches e e₁ → e₁.admitsFloat = false) ∧ Halts e (.done e') ∧
      e'.stack.values = [.empty, .text "1e".toList] ∧ e'.Exact := by
  let e : Engine Script := (boot .empty 'z' { lines := ["e".toList] }).load "(1.5)(.)/'+7 0%".toList
  have unset (r : Register) : (Bank.empty r).kind ≠ .float := by
    rw [Bank.get_empty]
    nofun
  have floatless : e.Exact := ⟨nofun, unset, rfl⟩
  have quiet (e₁ : Engine Script) (h : Reaches e e₁) : e₁.admitsFloat = false := by
    simpa using holdsAlong_reaches (fun e => !e.admitsFloat) 15 (by decide +kernel) h
  have halts : Halts e (.done { boot .empty 'z' {} with
      stack := .ofList [.empty, .text "1e".toList] }) := ⟨15, rfl⟩
  exact ⟨e, _, rfl, rfl, floatless, quiet, halts, rfl, (exact_throughout floatless).2 _ halts quiet⟩

end Engine

end TapeCalc
