import TapeCalc.Proofs.Instruction
import TapeCalc.Proofs.TextOperator

/-!
What the preset programs are made of: writing the end of a line, choosing one of two texts, and
re-entering a program behind a given number of characters. Each is described once, above any
stack and before any other text. Consoles that never fail are described by what is read from them
and what is printed on them.
-/

namespace TapeCalc

namespace Value

theorem isFalsy_flag (a : Bool) : (flag a).isFalsy = !a := by
  cases a <;> rfl

/-- What is no number is not within the tolerance of zero. -/
theorem isFalsy_of_isNaN {x : Float} (h : x.isNaN = true) : (float x).isFalsy = false := by
  have unpacked : x.toModel.unpack = .notANumber := by
    cases form : x.toModel.unpack with
    | notANumber => rfl
    | infinity _ | zero _ | finite _ _ _ _ =>
        rw [Float.isNaN, Float.Model.isNaN, form] at h
        cases h
  have magnitude : x.abs = ⟨Float.Model.pack .notANumber⟩ := by
    rw [Float.abs, Float.Model.abs, unpacked]
    rfl
  rw [isFalsy, magnitude]
  rfl

theorem add_empty (v : Value) : add v empty = .text v.joinText := by
  cases v <;> simp [add, empty, joinText]

theorem toText_ofNat {n : Nat} (small : n < 2 ^ 63) :
    toText (.int (Int64.ofNat n)) = Text.ofNat n := by
  rw [toText, Int64.toInt_ofNat_of_lt small]
  rfl

/-- Integers that stand for natural numbers compare as these do. -/
theorem order_ofNat {m n : Nat} (hm : m < 2 ^ 63) (hn : n < 2 ^ 63) :
    order (.int (Int64.ofNat m)) (.int (Int64.ofNat n)) = some (compare m n) := by
  have below {a b : Nat} (ha : a < 2 ^ 63) (hb : b < 2 ^ 63) :
      Int64.ofNat a < Int64.ofNat b ↔ a < b := by
    rw [Int64.lt_iff_toInt_lt, Int64.toInt_ofNat_of_lt ha, Int64.toInt_ofNat_of_lt hb]
    exact Int.ofNat_lt
  refine congrArg some ?_
  obtain h | h | h := Nat.lt_trichotomy m n
  · rw [Nat.compare_eq_lt.2 h, Std.compare_eq_lt.2 ((below hm hn).2 h)]
  · rw [h, Std.compare_self, Std.compare_self]
  · rw [Nat.compare_eq_gt.2 h, Std.compare_eq_gt.2 ((below hn hm).2 h)]

end Value

namespace Script

/-- Neither reading nor writing is refused. -/
def Faultless (k : Script) : Prop :=
  k.readFault = none ∧ k.writeFault = none

def print (k : Script) (t : Text) : Script :=
  { k with output := k.output.putBack t }

/-- The value of the next line, and the empty text at the end of the input. -/
def nextValue (k : Script) : Value :=
  match k.lines with
  | [] => .empty
  | line :: _ => .ofLine line

def dropLine (k : Script) : Script :=
  { k with lines := k.lines.tail }

theorem print_nil (k : Script) : k.print [] = k := by
  simp [print, Ribbon.putBack_nil]

theorem print_print (k : Script) (t u : Text) : (k.print t).print u = k.print (t ++ u) := by
  simp [print, Ribbon.putBack_putBack]

theorem dropLine_print (k : Script) (t : Text) : (k.print t).dropLine = k.dropLine.print t := rfl

theorem nextValue_print (k : Script) (t : Text) : (k.print t).nextValue = k.nextValue := rfl

theorem Faultless.print {k : Script} (h : k.Faultless) (t : Text) : (k.print t).Faultless := h

theorem Faultless.dropLine {k : Script} (h : k.Faultless) : k.dropLine.Faultless := h

theorem Faultless.writeAll {k : Script} (h : k.Faultless) (ts : List Text) :
    Console.writeAll k ts = some (k.print ts.flatten) := by
  induction ts generalizing k with
  | nil => simp [Console.writeAll, print_nil]
  | cons t ts ih =>
      have accepted : Console.write k t = (.ok (), k.print t) := by
        simp [Console.write, Script.write, Script.print, h.2]
      rw [Console.writeAll, accepted, List.flatten_cons, ← print_print]
      exact ih (h.print t)

theorem Faultless.readValue {k : Script} (h : k.Faultless) (s : Stack) :
    Console.readValue s k = .done (s.push k.nextValue, k.dropLine) := by
  obtain ⟨lines, output, readFault, writeFault⟩ := k
  obtain ⟨rfl, _⟩ := h
  cases lines with
  | nil | cons line lines => rfl

end Script

namespace Engine

/-- A program whose texts no console refuses. -/
theorem reaches_printing {bank : Bank} {p : Program} {vs vs' : List Value} {out : List Text}
    {k : Script} (h : p.eval? bank vs = some (vs', out)) (sound : k.Faultless) (base : Stack)
    (t : Text) :
    Reaches (ready bank ((Stack.ofList vs).above base) k (p.text ++ t))
      (ready bank ((Stack.ofList vs').above base) (k.print out.flatten) t) :=
  reaches_program h (sound.writeAll out) base t

theorem reaches_read (bank : Bank) (s : Stack) {k : Script} (sound : k.Faultless) (t : Text) :
    Reaches (ready bank s k (Op.read.symbol :: t))
      (ready bank (s.push k.nextValue) k.dropLine t) := by
  let e := ready bank s k []
  refine reaches_command (e := e) (fun _ => nofun) (Mode.start_symbol .read) ?_
  refine (dispatch_symbol_of_arity _ .read (Nat.zero_le _)).trans ?_
  rw [perform]
  exact congrArg (Outcome.map _) (sound.readValue s)

theorem reaches_depth {κ : Type} [Console κ] (bank : Bank) (s : Stack) (k : κ) (t : Text) :
    Reaches (ready bank s k (Op.depth.symbol :: t))
      (ready bank (s.push (.int (clampInt64 s.depth))) k t) := by
  let e := ready bank s k []
  refine reaches_command (e := e) (fun _ => nofun) (Mode.start_symbol .depth) ?_
  exact (dispatch_symbol_of_arity _ .depth (Nat.zero_le _)).trans rfl

end Engine

namespace Preset

def sayProgram (t : Text) (balanced : t.Balanced) : Program :=
  [⟨none, .quote t balanced⟩, ⟨none, .op .write⟩]

theorem eval?_sayProgram (bank : Bank) (t : Text) (balanced : t.Balanced) (vs : List Value) :
    (sayProgram t balanced).eval? bank vs = some (vs, [t]) := rfl

def newlineProgram : Program :=
  [⟨none, .quote [] Text.balanced_nil⟩, ⟨some 10, .op .multiply⟩, ⟨none, .op .write⟩]

theorem text_newlineProgram : newlineProgram.text = newline := rfl

theorem eval?_newlineProgram (bank : Bank) (vs : List Value) :
    newlineProgram.eval? bank vs = some (vs, [['\n']]) := rfl

/-- The conditional up to the splice at its end. -/
def conditionalProgram : Program :=
  [⟨some 3, .op .copy⟩, ⟨none, .op .isFalsy⟩, ⟨some 1, .op .add⟩, ⟨none, .op .delete⟩,
    ⟨some 2, .op .delete⟩]

theorem text_conditionalProgram :
    conditional = conditionalProgram.text ++ [Op.applyNow.symbol] := rfl

theorem eval?_conditionalProgram (bank : Bank) (v : Value) (p q : Text) (vs : List Value) :
    conditionalProgram.eval? bank (.text q :: .text p :: v :: vs) =
      some (.text (if v.isFalsy then q else p) :: vs, []) := by
  have copied : conditionalProgram.eval? bank (.text q :: .text p :: v :: vs) =
      Program.eval? bank (conditionalProgram.drop 2)
        (Value.falsyFlag v :: .text q :: .text p :: v :: vs) :=
    (Program.eval?_cons_silent rfl).trans (Program.eval?_cons_silent rfl)
  rw [copied, Value.falsyFlag]
  cases v.isFalsy <;> rfl

/-- The program that a jump runs, up to its splice. -/
def jumpProgram (offset : Nat) (r : Register) : Program :=
  [⟨some offset, .register r⟩, ⟨none, .op .subtract⟩]

theorem text_jumpProgram (offset : Nat) (r : Register) :
    jump offset r = (jumpProgram offset r).text ++ [Op.applyNow.symbol] := by
  simp [jump, jumpProgram, Program.text, Instruction.text, Action.text, Op.symbol]

theorem eval?_jumpProgram {bank : Bank} {r : Register} {p : Text} (h : bank r = .text p)
    {offset : Nat} (small : offset < 2 ^ 63) (vs : List Value) :
    (jumpProgram offset r).eval? bank vs = some (.text (p.drop offset) :: vs, []) := by
  have trimmed : Value.subtract (.int (Int64.ofNat offset)) (bank r) = .text (p.drop offset) := by
    rw [h, Value.subtract_int_text (Value.zero_le_ofNat small), Value.trimCount_ofNat small]
  rw [← trimmed]
  rfl

section Splice

open Engine

variable {κ : Type} [Console κ] {bank : Bank}

/-- However the text of the conditional gets on top, its splice leaves one of the two texts on the
tape and nothing of them or of the condition on the stack. -/
theorem reaches_conditional {e : Engine κ} (outside : ∀ depth, e.mode ≠ .string depth) {v : Value}
    {p q : Text} {vs : List Value} {base : Stack}
    (stack : e.stack = (Stack.ofList (.text q :: .text p :: v :: vs)).above base) {a : Action}
    (helper : a.eval? e.bank (.text q :: .text p :: v :: vs) =
      some (.text conditional :: .text q :: .text p :: v :: vs, [])) (t : Text) :
    Reaches (e.load (a.text ++ Op.applyNow.symbol :: t))
      (ready e.bank ((Stack.ofList vs).above base) e.console
        ((if v.isFalsy then q else p) ++ t)) := by
  have pushed := reaches_action outside stack helper rfl (Op.applyNow.symbol :: t)
  have called := reaches_applyNow (e := ready e.bank _ e.console []) rfl
    (Stack.ofList_cons_above (.text conditional) (.text q :: .text p :: v :: vs) base) t
  have chosen := reaches_program_splice (k := e.console)
    (eval?_conditionalProgram e.bank v p q vs) rfl base t
  rw [text_conditionalProgram, List.append_assoc] at called
  exact pushed.trans (called.trans chosen)

/-- One of the two texts goes to the tape, and condition and texts are gone from the stack. -/
theorem reaches_choose (h : bank conditionalRegister = .text conditional) (v : Value)
    (p q : Text) (vs : List Value) (base : Stack) (k : κ) (t : Text) :
    Reaches (ready bank ((Stack.ofList (.text q :: .text p :: v :: vs)).above base) k (choose ++ t))
      (ready bank ((Stack.ofList vs).above base) k ((if v.isFalsy then q else p) ++ t)) := by
  let e := ready bank ((Stack.ofList (.text q :: .text p :: v :: vs)).above base) k []
  refine reaches_conditional (e := e) (a := .register conditionalRegister) (fun _ => nofun) rfl ?_ t
  rw [← h]
  rfl

/-- The conditional goes on with exactly one of two texts: the second if the condition is falsy and
the first if it is not, as with a float that is no number. It is the same with the program written
out. The console may be any, so that leaving it as it is means not to use it. -/
theorem conditional_selects (e : Engine κ) (outside : ∀ depth, e.mode ≠ .string depth)
    {base : Stack} {v : Value} {p q : Text}
    (stack : e.stack = ((base.push v).push (.text p)).push (.text q)) (t : Text) :
    (e.bank conditionalRegister = .text conditional →
      Reaches (e.load ("c@".toList ++ t))
        (load { e with stack := base, mode := .execution }
          ((if v.isFalsy then q else p) ++ t))) ∧
    Reaches (e.load ("(3!_1+$2$@)@".toList ++ t))
      (load { e with stack := base, mode := .execution } ((if v.isFalsy then q else p) ++ t)) ∧
    ∀ x : Float, v = .float x → x.isNaN = true → v.isFalsy = false := by
  rw [← Stack.ofList_nil_above base, ← Stack.ofList_cons_above, ← Stack.ofList_cons_above,
    ← Stack.ofList_cons_above] at stack
  rw [← Stack.ofList_nil_above base]
  refine ⟨?_, ?_, ?_⟩
  · intro helper
    refine reaches_conditional outside stack (a := .register conditionalRegister) ?_ t
    rw [← helper]
    rfl
  · have balanced : Text.Balanced conditional := by decide
    exact reaches_conditional outside stack (a := .quote conditional balanced) rfl t
  · rintro x rfl nan
    exact Value.isFalsy_of_isNaN nan

/-- A condition that is no number, on a tape that goes on. -/
theorem conditional_selects_no_number : ∃ e : Engine Script,
    e.stack = (((Stack.ofList [.int 7]).push (.float (0 / 0))).push (.text ['1'])).push
      (.text ['2']) ∧
    e.bank conditionalRegister = .text conditional ∧
    Reaches (e.load "c@+".toList)
      (load { e with stack := .ofList [.int 7], mode := .execution } "1+".toList) := by
  let stack := (((Stack.ofList [.int 7]).push (.float (0 / 0))).push (.text ['1'])).push
    (.text ['2'])
  let e : Engine Script := { ofPreset {} with stack := stack }
  have outside (depth : Nat) : e.mode ≠ .string depth := nofun
  obtain ⟨selected, _, nan⟩ := conditional_selects e outside rfl ['+']
  have reaches := selected rfl
  rw [nan (0 / 0) rfl (by decide)] at reaches
  exact ⟨e, rfl, rfl, reaches⟩

/-- The program of a register is re-entered behind its first `offset` characters. -/
theorem reaches_jump {r : Register} {p : Text} (h : bank r = .text p) (offset : Nat)
    (small : offset < 2 ^ 63) (s : Stack) (k : κ) (t : Text) :
    Reaches (ready bank s k (jump offset r ++ t)) (ready bank s k (p.drop offset ++ t)) := by
  have jumped := reaches_program_splice (k := k) (eval?_jumpProgram h small []) rfl s t
  rw [Stack.ofList_nil_above] at jumped
  rw [text_jumpProgram, List.append_assoc]
  exact jumped

end Splice

end Preset

end TapeCalc
