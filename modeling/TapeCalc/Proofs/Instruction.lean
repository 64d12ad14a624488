import Mathlib.Algebra.Group.Nat.Defs
import TapeCalc.Proofs.Frame
import TapeCalc.Proofs.NumberLiteral
import TapeCalc.Proofs.Quotation
import TapeCalc.Proofs.Slots

/-!
Straight-line programs. An instruction is an operand in digits, if there is one, and an action: a
blank, a quoted text, a register or an operator. Programs of instructions can be evaluated on a
list of values, without a tape, a mode or a console, as long as they splice nothing, read no line
and look at no value below the list. The main statement says that this is what the engine does
with their text, above any stack and before any other text.
-/

namespace TapeCalc

theorem Stack.ofList_nil_above (base : Stack) : (Stack.ofList []).above base = base :=
  Stack.ext rfl

theorem Stack.ofList_cons_above (v : Value) (vs : List Value) (base : Stack) :
    (Stack.ofList (v :: vs)).above base = ((Stack.ofList vs).above base).push v :=
  Stack.ext rfl

theorem Stack.ofList_singleton_above (v : Value) (base : Stack) :
    (Stack.ofList [v]).above base = base.push v := by
  rw [ofList_cons_above, ofList_nil_above]

theorem Register.isDigit_letter (r : Register) : r.letter.isDigit = false := by
  rw [Bool.eq_false_iff]
  intro digit
  have below : r.letter.val ≤ '9'.val := of_decide_eq_true (Bool.and_eq_true_iff.1 digit).2
  obtain upper | lower := Bool.or_eq_true_iff.1 r.isAlpha
  · have above : 'A'.val ≤ r.letter.val := (of_decide_eq_true upper).1
    exact absurd (UInt32.le_trans above below) (by decide)
  · have above : 'a'.val ≤ r.letter.val := of_decide_eq_true (Bool.and_eq_true_iff.1 lower).1
    exact absurd (UInt32.le_trans above below) (by decide)

theorem Register.start_letter (r : Register) (s : Stack) : Mode.start r.letter s = .command := by
  rw [Mode.start_eq_command_iff]
  have alpha := r.isAlpha
  refine ⟨r.isDigit_letter, ?_, ?_⟩
  · intro point
    rw [point] at alpha
    cases alpha
  · intro opening
    rw [opening] at alpha
    cases alpha

namespace Op

/-- The function of an operator that replaces two values by one. -/
def onPair? (op : Op) : Option (Value → Value → Value) :=
  match op with
  | add | subtract | multiply | divide | modulo => some (Value.arithmetic op)
  | equal | less | greater => some fun l r => .flag (Value.comparison op l r)
  | and | or => some (Value.logic op)
  | _ => none

/-- The function of an operator that replaces the value on top. -/
def onTop? : Op → Option (Value → Value)
  | isFalsy => some Value.falsyFlag
  | negate => some Value.negate
  | truncate => some Value.truncate
  | _ => none

/-- What an operator makes of the values on top, the topmost first, and the texts that it writes,
where it needs nothing else. -/
def eval? : Op → List Value → Option (List Value × List Text)
  | copy, v :: vs =>
    (Stack.depthOf? v).bind fun n => vs[n - 1]?.map fun w => (w :: vs, [])
  | delete, v :: vs =>
    (Stack.depthOf? v).bind fun n =>
      if n ≤ vs.length then some (vs.eraseIdx (n - 1), []) else none
  | write, v :: vs => some (vs, [v.toText])
  | op, v :: vs =>
    match op.onTop?, op.onPair?, vs with
    | some f, _, vs => some (f v :: vs, [])
    | none, some f, l :: vs => some (f l v :: vs, [])
    | _, _, _ => none
  | _, [] => none

theorem arity_le_of_onTop? {op : Op} {f : Value → Value} (h : op.onTop? = some f) :
    op.arity ≤ 1 := by
  cases op with
  | isFalsy | negate | truncate => exact Nat.le_refl 1
  | _ => cases h

theorem arity_le_of_onPair? {op : Op} {f : Value → Value → Value} (h : op.onPair? = some f) :
    op.arity ≤ 2 := by
  cases op with
  | add | subtract | multiply | divide | modulo | equal | less | greater | and | or =>
      exact Nat.le_refl 2
  | _ => cases h

theorem arity_le_of_eval? {op : Op} {vs vs' : List Value} {out : List Text}
    (h : op.eval? vs = some (vs', out)) : op.arity ≤ vs.length := by
  unfold eval? at h
  split at h
  · simp [arity]
  · simp [arity]
  · simp [arity]
  · split at h
    · rename_i hf
      exact Nat.le_trans (arity_le_of_onTop? hf) (by simp)
    · rename_i hf
      exact Nat.le_trans (arity_le_of_onPair? hf) (by simp)
    · cases h
  · cases h

end Op

def Console.writeAll {κ : Type} [Console κ] : κ → List Text → Option κ
  | k, [] => some k
  | k, t :: ts =>
    match write k t with
    | (.ok (), k) => writeAll k ts
    | (.error _, _) => none

theorem Console.writeAll_append {κ : Type} [Console κ] (k : κ) (ts us : List Text) :
    writeAll k (ts ++ us) = (writeAll k ts).bind (writeAll · us) := by
  induction ts generalizing k with
  | nil => rfl
  | cons t ts ih =>
      simp only [List.cons_append, writeAll]
      split
      · exact ih _
      · rfl

namespace Stack

theorem one_le_of_depthOf? {v : Value} {n : Nat} (h : depthOf? v = some n) : 1 ≤ n := by
  cases v with
  | int m =>
      simp only [depthOf?] at h
      split at h
      · rename_i positive
        cases h
        rw [Int64.le_iff_toInt_le] at positive
        have one : (1 : Int64).toInt = 1 := rfl
        omega
      · cases h
  | float x | text t => cases h

theorem depthOf?_ofNat {n : Nat} (positive : 1 ≤ n) (small : n < 2 ^ 63) :
    depthOf? (.int (Int64.ofNat n)) = some n := by
  have value : (Int64.ofNat n).toInt = n := Int64.toInt_ofNat_of_lt small
  have one : (1 : Int64).toInt = 1 := rfl
  have positive' : 1 ≤ Int64.ofNat n := by
    rw [Int64.le_iff_toInt_le, value, one]
    omega
  simp [depthOf?, positive', value]

theorem copy_ofList_above {v w : Value} {vs : List Value} {n : Nat} (depth : depthOf? v = some n)
    (found : vs[n - 1]? = some w) (base : Stack) :
    ((ofList (v :: vs)).above base).copy = .ok ((ofList (w :: vs)).above base) := by
  have positive := one_le_of_depthOf? depth
  obtain ⟨inside, _⟩ := List.getElem?_eq_some_iff.1 found
  have picked : (ofList vs).pick? n = some (ofList (w :: vs)) := by
    obtain ⟨m, rfl⟩ : ∃ m, n = m + 1 := ⟨n - 1, by omega⟩
    have found' : (ofList vs).values[m]? = some w := found
    rw [pick?, at?, found', Option.map_some]
    exact congrArg some (ext rfl)
  have framed := pick?_above (s := ofList vs) (n := n) (by simp [ofList]; omega) base
  rw [picked, Option.map_some] at framed
  simp [copy, ofList_cons_above v vs, depth, framed, Except.map]

theorem delete_ofList_above {v : Value} {vs : List Value} {n : Nat} (depth : depthOf? v = some n)
    (inside : n ≤ vs.length) (base : Stack) :
    ((ofList (v :: vs)).above base).delete = .ok ((ofList (vs.eraseIdx (n - 1))).above base) := by
  have positive := one_le_of_depthOf? depth
  have removed : (ofList vs).remove? n =
      some (vs.get ⟨n - 1, by omega⟩, ofList (vs.eraseIdx (n - 1))) := by
    rw [remove?, dif_pos ⟨positive, inside⟩, Option.some.injEq, Prod.mk.injEq]
    exact ⟨rfl, ext rfl⟩
  have framed := remove?_above (s := ofList vs) (n := n) inside base
  rw [removed, Option.map_some] at framed
  simp [delete, ofList_cons_above v vs, depth, framed, Except.map]

end Stack

namespace Engine

variable {κ : Type} [Console κ]

section Operators

variable {e : Engine κ} {base : Stack} {v : Value} {vs vs' : List Value} {out : List Text} {k : κ}
  {op : Op}

theorem perform_onTop {f : Value → Value} (h : op.onTop? = some f)
    (stack : e.stack = (Stack.ofList (v :: vs)).above base) :
    e.perform op = .done { e with stack := (Stack.ofList (f v :: vs)).above base } := by
  rw [Stack.ofList_cons_above] at stack ⊢
  cases op with
  | isFalsy | negate | truncate =>
      cases h
      exact onTop_of_stack stack _ _
  | _ => cases h

theorem perform_onPair {l : Value} {f : Value → Value → Value} (h : op.onPair? = some f)
    (stack : e.stack = (Stack.ofList (v :: l :: vs)).above base) :
    e.perform op = .done { e with stack := (Stack.ofList (f l v :: vs)).above base } := by
  rw [Stack.ofList_cons_above, Stack.ofList_cons_above] at stack
  rw [Stack.ofList_cons_above]
  cases op with
  | add | subtract | multiply | divide | modulo | equal | less | greater | and | or =>
      cases h
      rw [perform]
      exact onPair_of_stack stack _ _
  | _ => cases h

theorem perform_write (stack : e.stack = (Stack.ofList (v :: vs)).above base)
    (written : Console.writeAll e.console [v.toText] = some k) :
    e.perform .write = .done { e with stack := (Stack.ofList vs).above base, console := k } := by
  rw [Stack.ofList_cons_above] at stack
  simp only [Console.writeAll] at written
  split at written
  · rename_i k' accepted
    cases written
    simp [perform, Console.writeValue, stack, accepted, Outcome.map]
  · cases written

/-- What an operator does to the values on top of any stack is what it does to their list. -/
theorem perform_of_eval? (stack : e.stack = (Stack.ofList vs).above base)
    (h : op.eval? vs = some (vs', out)) (written : Console.writeAll e.console out = some k) :
    e.perform op = .done { e with stack := (Stack.ofList vs').above base, console := k } := by
  -- The cases are the rows of `eval?`: copy, delete, write, the two families, an empty list.
  unfold Op.eval? at h
  split at h
  · rename_i v vs
    obtain ⟨n, depth, h⟩ := Option.bind_eq_some_iff.1 h
    obtain ⟨w, found, h⟩ := Option.map_eq_some_iff.1 h
    cases h
    cases written
    rw [perform, stack, Stack.copy_ofList_above depth found base]
    rfl
  · rename_i v vs
    obtain ⟨n, depth, h⟩ := Option.bind_eq_some_iff.1 h
    split at h
    · rename_i inside
      cases h
      cases written
      rw [perform, stack, Stack.delete_ofList_above depth inside base]
      rfl
    · cases h
  · cases h
    exact perform_write stack written
  · split at h
    · rename_i hf
      cases h
      cases written
      exact perform_onTop hf stack
    · rename_i hf
      cases h
      cases written
      exact perform_onPair hf stack
    · cases h
  · cases h

end Operators

end Engine

/-- What an instruction does after its operand is pushed. -/
inductive Action
  | blank
  | quote (p : Text) (balanced : p.Balanced)
  | register (r : Register)
  | op (o : Op)

namespace Action

def text : Action → Text
  | blank => [' ']
  | quote p _ => '(' :: (p ++ [')'])
  | register r => [r.letter]
  | op o => [o.symbol]

def eval? (bank : Bank) : Action → List Value → Option (List Value × List Text)
  | blank, vs => some (vs, [])
  | quote p _, vs => some (.text p :: vs, [])
  | register r, vs => some (bank r :: vs, [])
  | op o, vs => o.eval? vs

theorem balanced_text (a : Action) : a.text.Balanced := by
  cases a with
  | blank => decide
  | quote p balanced => exact balanced.parenthesized
  | register r =>
      refine Text.balanced_of_plain fun c hc => ?_
      rw [List.mem_singleton.1 hc]
      have command := Mode.start_eq_command_iff.1 (r.start_letter .empty)
      refine ⟨command.2.2, fun closing => ?_⟩
      have alpha := r.isAlpha
      rw [closing] at alpha
      cases alpha
  | op o => cases o <;> decide

end Action

structure Instruction where
  operand : Option Nat := none
  action : Action

namespace Instruction

def text (i : Instruction) : Text :=
  i.operand.elim [] Text.ofNat ++ i.action.text

def eval? (bank : Bank) (i : Instruction) (vs : List Value) : Option (List Value × List Text) :=
  i.action.eval? bank (i.operand.elim vs fun n => .int (Int64.ofNat n) :: vs)

theorem balanced_text (i : Instruction) : i.text.Balanced := by
  refine Text.Balanced.append ?_ i.action.balanced_text
  cases i.operand with
  | none => exact Text.balanced_nil
  | some n =>
      refine Text.balanced_of_plain fun c hc => ?_
      have digit : c.isDigit = true := Text.isDigit_of_mem_ofNat hc
      constructor
      · rintro rfl
        cases digit
      · rintro rfl
        cases digit

end Instruction

abbrev Program := List Instruction

namespace Program

def text (p : Program) : Text :=
  p.flatMap Instruction.text

/-- The values that the program leaves of those on top, the topmost first, and the texts that it
writes. -/
def eval? (bank : Bank) : Program → List Value → Option (List Value × List Text)
  | [], vs => some (vs, [])
  | i :: p, vs =>
    (i.eval? bank vs).bind fun (vs, out) =>
      (eval? bank p vs).map fun (vs, out') => (vs, out ++ out')

/-- Text literals hold balanced texts, and nothing else in a program has parentheses. -/
theorem balanced_text (p : Program) : p.text.Balanced := by
  induction p with
  | nil => exact Text.balanced_nil
  | cons i p ih => exact i.balanced_text.append ih

theorem text_append (p q : Program) : text (p ++ q) = p.text ++ q.text :=
  List.flatMap_append

theorem eval?_append {bank : Bank} {p : Program} {vs vs' : List Value} {out : List Text}
    (h : p.eval? bank vs = some (vs', out)) (q : Program) :
    eval? bank (p ++ q) vs = (q.eval? bank vs').map fun (us, out') => (us, out ++ out') := by
  induction p generalizing vs out with
  | nil =>
      cases h
      simp
  | cons i p ih =>
      obtain ⟨⟨vs₁, out₁⟩, first, h⟩ := Option.bind_eq_some_iff.1 h
      obtain ⟨⟨vs₂, out₂⟩, rest, h⟩ := Option.map_eq_some_iff.1 h
      cases h
      simp only [List.cons_append, eval?, first, ih rest, Option.bind_some, Option.map_map]
      congr 1
      funext result
      simp

theorem eval?_append_silent {bank : Bank} {p : Program} {vs vs' : List Value}
    (h : p.eval? bank vs = some (vs', [])) (q : Program) :
    eval? bank (p ++ q) vs = q.eval? bank vs' := by
  simp [eval?_append h]

theorem eval?_cons_silent {bank : Bank} {i : Instruction} {p : Program} {vs vs' : List Value}
    (h : i.eval? bank vs = some (vs', [])) : eval? bank (i :: p) vs = eval? bank p vs' := by
  simp [eval?, h]

end Program

namespace Engine

variable {κ : Type}

/-- An engine about to execute `t`, outside any literal. -/
def ready (bank : Bank) (s : Stack) (k : κ) (t : Text) : Engine κ where
  stack := s
  bank := bank
  tape := .ofText t
  mode := .execution
  console := k

theorem load_eq_ready {e : Engine κ} (outside : e.mode = .execution) (t : Text) :
    e.load t = ready e.bank e.stack e.console t := by
  rw [load, ready, ← outside]

/-- An engine inside an integer literal that has come to `n`. -/
def typing (bank : Bank) (s : Stack) (n : Int64) (k : κ) (t : Text) : Engine κ :=
  { ready bank (s.push (.int n)) k t with mode := .integer }

variable [Console κ]

theorem reaches_number (bank : Bank) (s : Stack) (k : κ) (t : Text) (n : Nat) :
    Reaches (ready bank s k (Text.ofNat n ++ t)) (typing bank s (Int64.ofNat n) k t) := by
  have digits (c : Char) : c ∈ Text.ofNat n → c.isDigit = true := Text.isDigit_of_mem_ofNat
  have built := Mode.builds_integer s digits (Text.ofNat_ne_nil n)
  rw [Mode.wrapped, Numeral.value_ofNat] at built
  exact reaches_of_builds built (ready bank s k []) t

section Program

variable {e : Engine κ} {base : Stack} {vs vs' : List Value} {out : List Text} {k : κ}

/-- A character that no literal takes is carried out, and any number before it is finished. -/
theorem reaches_command {e' : Engine κ} {c : Char} {t : Text}
    (outside : ∀ depth, e.mode ≠ .string depth)
    (command : ∀ s, Mode.start c s = .command)
    (h : (ready e.bank e.stack e.console t).dispatch c = .done e') :
    Reaches (e.load (c :: t)) e' := by
  refine .single ((fetch?_done_iff (Ribbon.next?_ofText_cons c t)).2 ?_)
  have advance : e.mode.advance c e.stack = .ok .command :=
    Mode.advance_eq_command_iff.2 ⟨outside, command e.stack⟩
  simp only [step, load, advance]
  exact h

theorem reaches_action (outside : ∀ depth, e.mode ≠ .string depth)
    (stack : e.stack = (Stack.ofList vs).above base) {a : Action}
    (h : a.eval? e.bank vs = some (vs', out)) (written : Console.writeAll e.console out = some k)
    (t : Text) :
    Reaches (e.load (a.text ++ t)) (ready e.bank ((Stack.ofList vs').above base) k t) := by
  cases a with
  | blank =>
      cases h
      cases written
      exact reaches_command outside (fun _ => rfl) (by rw [stack]; rfl)
  | quote p balanced =>
      cases h
      cases written
      have pushed := reaches_literal outside balanced t
      rw [stack, ← Stack.ofList_cons_above] at pushed
      simpa [Action.text, ready, load] using pushed
  | register r =>
      cases h
      cases written
      refine reaches_command outside r.start_letter ?_
      rw [dispatch, r.ofChar?_letter, Stack.ofList_cons_above, ← stack]
      rfl
  | op o =>
      have enough : o.arity ≤ (ready e.bank e.stack e.console t).stack.depth := by
        have := Op.arity_le_of_eval? h
        simp only [ready, stack, Stack.depth_above]
        exact Nat.le_add_right_of_le this
      have performed := dispatch_symbol_of_arity _ o enough
      exact reaches_command outside (Mode.start_symbol o)
        (performed.trans (perform_of_eval? stack h written))

variable {bank : Bank} {k' : κ}

theorem reaches_instruction {i : Instruction} (h : i.eval? bank vs = some (vs', out))
    (written : Console.writeAll k out = some k') (base : Stack) (t : Text) :
    Reaches (ready bank ((Stack.ofList vs).above base) k (i.text ++ t))
      (ready bank ((Stack.ofList vs').above base) k' t) := by
  obtain ⟨operand, a⟩ := i
  cases operand with
  | none =>
      let e := ready bank ((Stack.ofList vs).above base) k []
      exact reaches_action (e := e) (fun _ => nofun) rfl h written t
  | some n =>
      let e := typing bank ((Stack.ofList vs).above base) (Int64.ofNat n) k []
      have number := reaches_number bank ((Stack.ofList vs).above base) k (a.text ++ t) n
      have stack : e.stack = (Stack.ofList (.int (Int64.ofNat n) :: vs)).above base :=
        (Stack.ofList_cons_above _ vs base).symm
      have action := reaches_action (e := e) (fun _ => nofun) stack h written t
      simp only [Instruction.text, Option.elim, List.append_assoc]
      exact number.trans action

/-- The text of a program does to an engine what the program does to the values on top, whatever
lies below them and whatever follows on the tape. -/
theorem reaches_program {p : Program} (h : p.eval? bank vs = some (vs', out))
    (written : Console.writeAll k out = some k') (base : Stack) (t : Text) :
    Reaches (ready bank ((Stack.ofList vs).above base) k (p.text ++ t))
      (ready bank ((Stack.ofList vs').above base) k' t) := by
  induction p generalizing vs out k with
  | nil =>
      cases h
      cases written
      exact .refl _
  | cons i p ih =>
      obtain ⟨⟨vs₁, out₁⟩, first, h⟩ := Option.bind_eq_some_iff.1 h
      obtain ⟨⟨vs₂, out₂⟩, rest, h⟩ := Option.map_eq_some_iff.1 h
      cases h
      rw [Console.writeAll_append] at written
      obtain ⟨k₁, written₁, written₂⟩ := Option.bind_eq_some_iff.1 written
      have begun := reaches_instruction first written₁ base (Program.text p ++ t)
      rw [Program.text, List.flatMap_cons, List.append_assoc]
      exact begun.trans (ih rest written₂)

/-- A program that leaves a text on top, and the splice of that text. -/
theorem reaches_program_splice {p : Program} {q : Text}
    (h : p.eval? bank vs = some (.text q :: vs', out))
    (written : Console.writeAll k out = some k') (base : Stack) (t : Text) :
    Reaches (ready bank ((Stack.ofList vs).above base) k (p.text ++ Op.applyNow.symbol :: t))
      (ready bank ((Stack.ofList vs').above base) k' (q ++ t)) := by
  let e := ready bank ((Stack.ofList (.text q :: vs')).above base) k' []
  have stack : e.stack = ((Stack.ofList vs').above base).push (.text q) :=
    Stack.ofList_cons_above _ vs' base
  exact (reaches_program h written base _).trans (reaches_applyNow (e := e) rfl stack t)

end Program

/-- To have the end of the tape reached outside any literal is to have the program executed. -/
theorem executes_of_reaches {e : Engine κ} (outside : e.mode = .execution) {p : Text} {s : Stack}
    {k : κ} (h : Reaches (ready e.bank e.stack e.console p) (ready e.bank s k [])) :
    Executes e p (.done { e with stack := s, tape := .empty, console := k }) := by
  rw [executes_iff_halts, load_eq_ready outside, h.halts_iff, outside]
  exact halts_of_exhausted rfl

end Engine

end TapeCalc
