import TapeCalc.Proofs.Idiom

/-!
Loops that put themselves back on the tape. A program lies below a counter; a round lowers the
counter and, while it is positive, copies the program and splices it. Whether the copy goes to the
front of the tape or to its end makes no difference, since nothing else is pending, and what a
round does with the counter before it is lowered is left open. The number of rounds is the number
that the counter starts with.
-/

namespace TapeCalc

namespace Value

section Counter

variable {n : Nat} (small : n < 2 ^ 63)

theorem subtract_succ_one (n : Nat) :
    subtract (.int (Int64.ofNat (n + 1))) (.int 1) = .int (Int64.ofNat n) := by
  have lowered : Int64.ofNat (n + 1) - 1 = Int64.ofNat n := by
    rw [Int64.ofNat_add]
    exact Int64.add_sub_cancel _ _
  exact congrArg int lowered

include small in
theorem comparison_greater_zero :
    comparison .greater (.int (Int64.ofNat n)) (.int 0) = decide (0 < n) := by
  have order : order (.int (Int64.ofNat n)) (.int 0) = some (compare n 0) :=
    order_ofNat small (by decide)
  rw [comparison, order, decide_eq_decide, Option.some.injEq, Nat.compare_eq_gt]

end Counter

end Value

namespace Countdown

open Engine Preset

/-- What a round does with the counter first; it leaves the counter on top. -/
structure Report where
  program : Program
  texts : Int64 → List Text
  eval?_program : ∀ (bank : Bank) (n : Int64) (vs : List Value),
    program.eval? bank (.int n :: vs) = some (.int n :: vs, texts n)

def Report.silent : Report where
  program := []
  texts := fun _ => []
  eval?_program := fun _ _ _ => rfl

def Report.printed : Report where
  program := [⟨some 1, .op .copy⟩, ⟨none, .op .write⟩]
  texts := fun n => [Value.toText (.int n)]
  eval?_program := fun _ _ _ => rfl

/-- What a counter writes that starts with `n`. -/
def Report.rounds (report : Report) : Nat → List Text
  | 0 => []
  | n + 1 => report.texts (Int64.ofNat (n + 1)) ++ report.rounds n

/-- Where a round puts the program. -/
inductive Splice
  | front
  | back

namespace Splice

def op : Splice → Op
  | front => .applyNow
  | back => .applyLater

/-- Splice a copy of the program below the counter. -/
def text (splice : Splice) : Text :=
  "2!".toList ++ [splice.op.symbol]

theorem balanced_text (splice : Splice) : splice.text.Balanced := by
  cases splice <;> decide

end Splice

def program (report : Report) (splice : Splice) : Program :=
  report.program ++
    [⟨some 1, .op .subtract⟩, ⟨none, .blank⟩, ⟨some 1, .op .copy⟩, ⟨some 0, .op .greater⟩,
      ⟨none, .quote splice.text splice.balanced_text⟩, ⟨none, .quote [] Text.balanced_nil⟩]

def round (report : Report) (splice : Splice) : Text :=
  (program report splice).text ++ choose

theorem eval?_program (report : Report) (splice : Splice) {n : Nat} (small : n < 2 ^ 63)
    (bank : Bank) (vs : List Value) :
    (program report splice).eval? bank (.int (Int64.ofNat (n + 1)) :: vs) =
      some (.text [] :: .text splice.text :: .flag (0 < n) :: .int (Int64.ofNat n) :: vs,
        report.texts (Int64.ofNat (n + 1))) := by
  rw [program, Program.eval?_append (report.eval?_program bank _ vs),
    ← Value.comparison_greater_zero small, ← Value.subtract_succ_one n]
  exact congrArg (fun out => some (_, out)) (List.append_nil _)

theorem balanced_round (report : Report) (splice : Splice) : (round report splice).Balanced :=
  (program report splice).balanced_text.append (by decide)

section Loop

variable {κ : Type} [Console κ] {bank : Bank}

theorem reaches_splice (splice : Splice) (v : Value) (p : Text) (base : Stack) (k : κ) :
    Reaches (ready bank ((Stack.ofList [v, .text p]).above base) k splice.text)
      (ready bank ((Stack.ofList [v, .text p]).above base) k p) := by
  let copy : Program := [⟨some 2, .op .copy⟩]
  let e := ready bank ((Stack.ofList [.text p, v, .text p]).above base) k []
  have copied : copy.eval? bank [v, .text p] = some ([.text p, v, .text p], []) := rfl
  have pushed := reaches_program (k := k) copied rfl base [splice.op.symbol]
  have stack := Stack.ofList_cons_above (.text p) [v, .text p] base
  cases splice with
  | front =>
      have spliced := reaches_applyNow (e := e) rfl stack []
      rw [List.append_nil] at spliced
      exact pushed.trans spliced
  | back => exact pushed.trans (reaches_applyLater (e := e) rfl stack [])

variable (helper : bank conditionalRegister = .text conditional) (report : Report)
  (splice : Splice) (base : Stack)
include helper

/-- One round: the counter is lowered, and the program is on the tape again unless it is zero. -/
theorem reaches_round {n : Nat} (small : n < 2 ^ 63) (p : Text) {k k' : κ}
    (written : Console.writeAll k (report.texts (Int64.ofNat (n + 1))) = some k') :
    Reaches
      (ready bank ((Stack.ofList [.int (Int64.ofNat (n + 1)), .text p]).above base) k
        (round report splice))
      (ready bank ((Stack.ofList [.int (Int64.ofNat n), .text p]).above base) k'
        (if n = 0 then [] else p)) := by
  have lowered := reaches_program (eval?_program report splice small bank [.text p]) written base
    choose
  have chosen := reaches_choose helper (.flag (0 < n)) splice.text []
    [.int (Int64.ofNat n), .text p] base k' []
  rw [Value.isFalsy_flag, List.append_nil, List.append_nil] at chosen
  refine lowered.trans (chosen.trans ?_)
  -- At zero the empty text was chosen, and else the one that splices the program once more.
  cases n with
  | zero => exact .refl _
  | succ n => exact reaches_splice splice _ p base k'

/-- All rounds, by the counter. -/
theorem reaches_rounds {n : Nat} (small : n + 1 < 2 ^ 63) {k k' : κ}
    (written : Console.writeAll k (report.rounds (n + 1)) = some k') :
    Reaches
      (ready bank ((Stack.ofList [.int (Int64.ofNat (n + 1)),
        .text (round report splice)]).above base) k (round report splice))
      (ready bank ((Stack.ofList [.int 0, .text (round report splice)]).above base) k' []) := by
  induction n generalizing k with
  | zero =>
      rw [Report.rounds, Report.rounds, List.append_nil] at written
      exact reaches_round helper report splice base (by decide) _ written
  | succ n ih =>
      rw [Report.rounds, Console.writeAll_append] at written
      obtain ⟨k₁, first, rest⟩ := Option.bind_eq_some_iff.1 written
      have begun := reaches_round helper report splice base (by omega) (round report splice) first
      exact begun.trans (ih (by omega) rest)

/-- The program on the stack, its counter on top, and the splice that begins the first round. -/
theorem reaches_countdown {n : Nat} (positive : 1 ≤ n) (small : n < 2 ^ 63) {k k' : κ}
    (written : Console.writeAll k (report.rounds n) = some k') :
    Reaches
      (ready bank base k
        ('(' :: (round report splice ++ ')' :: (Text.ofNat n ++ ' ' :: splice.text))))
      (ready bank ((Stack.ofList [.int 0, .text (round report splice)]).above base) k' []) := by
  obtain ⟨m, rfl⟩ : ∃ m, n = m + 1 := ⟨n - 1, by omega⟩
  let setup : Program :=
    [⟨none, .quote (round report splice) (balanced_round report splice)⟩, ⟨some (m + 1), .blank⟩]
  have evaluated : setup.eval? bank [] =
      some ([.int (Int64.ofNat (m + 1)), .text (round report splice)], []) := rfl
  have laid := reaches_program (k := k) evaluated rfl base splice.text
  have text : setup.text ++ splice.text =
      '(' :: (round report splice ++ ')' :: (Text.ofNat (m + 1) ++ ' ' :: splice.text)) := by
    simp [setup, Program.text, Instruction.text, Action.text]
  rw [text, Stack.ofList_nil_above] at laid
  exact laid.trans ((reaches_splice splice _ _ base k).trans
    (reaches_rounds helper report splice base small written))

end Loop

/-- The digits of `n`, of the number below it, and so on down to `1`. -/
def digits : Nat → Text
  | 0 => []
  | n + 1 => Text.ofNat (n + 1) ++ digits n

theorem round_printed : round .printed .back = "1!\"1- 1!0>(2!\\)()c@".toList := rfl

theorem round_silent : round .silent .front = "1- 1!0>(2!@)()c@".toList := rfl

theorem rounds_silent (n : Nat) : Report.silent.rounds n = [] := by
  induction n with
  | zero => rfl
  | succ n ih => exact ih

theorem flatten_rounds_printed {n : Nat} (small : n < 2 ^ 63) :
    (Report.printed.rounds n).flatten = digits n := by
  induction n with
  | zero => rfl
  | succ n ih =>
      have shown : Report.printed.texts (Int64.ofNat (n + 1)) = [Text.ofNat (n + 1)] :=
        congrArg (· :: []) (Value.toText_ofNat small)
      rw [Report.rounds, List.flatten_append, ih (by omega), digits, shown, List.flatten_singleton]

end Countdown

namespace Engine

open Preset Countdown

/-- Two programs that count down from `n`. The one that splices itself behind what is pending
prints the counter in each round; the one that splices itself in front prints nothing. Both end
with their own text and a zero on the stack. -/
theorem executes_countdown (e : Engine Script)
    (helper : e.bank conditionalRegister = .text conditional) (outside : e.mode = .execution)
    (sound : e.console.Faultless) {n : Nat} (positive : 1 ≤ n) (small : n < 2 ^ 63) :
    Executes e ("(1!\"1- 1!0>(2!\\)()c@)".toList ++ Text.ofNat n ++ " 2!\\".toList)
      (.done { e with
        stack := (e.stack.push (.text "1!\"1- 1!0>(2!\\)()c@".toList)).push (.int 0)
        tape := .empty
        console := e.console.print (digits n) }) ∧
    Executes e ("(1- 1!0>(2!@)()c@)".toList ++ Text.ofNat n ++ " 2!@".toList)
      (.done { e with
        stack := (e.stack.push (.text "1- 1!0>(2!@)()c@".toList)).push (.int 0)
        tape := .empty }) := by
  constructor
  · have written := sound.writeAll (Report.printed.rounds n)
    rw [flatten_rounds_printed small] at written
    have reaches := reaches_countdown helper .printed .back e.stack positive small written
    rw [Stack.ofList_cons_above, Stack.ofList_singleton_above, round_printed] at reaches
    rw [List.append_assoc]
    exact executes_of_reaches outside reaches
  · have written : Console.writeAll e.console (Report.silent.rounds n) = some e.console := by
      rw [rounds_silent]
      rfl
    have reaches := reaches_countdown helper .silent .front e.stack positive small written
    rw [Stack.ofList_cons_above, Stack.ofList_singleton_above, round_silent] at reaches
    rw [List.append_assoc]
    exact executes_of_reaches outside reaches

/-- A counter with two digits above another value. -/
theorem executes_countdown_ten : ∃ e : Engine Script,
    e.stack = .ofList [.int 7] ∧
    Executes e "(1!\"1- 1!0>(2!\\)()c@)10 2!\\".toList
      (.done { e with
        stack := .ofList [.int 0, .text "1!\"1- 1!0>(2!\\)()c@".toList, .int 7]
        tape := .empty
        console := e.console.print "10987654321".toList }) ∧
    Executes e "(1- 1!0>(2!@)()c@)10 2!@".toList
      (.done { e with
        stack := .ofList [.int 0, .text "1- 1!0>(2!@)()c@".toList, .int 7]
        tape := .empty }) := by
  let e : Engine Script := { ofPreset {} with stack := .ofList [.int 7] }
  exact ⟨e, rfl, executes_countdown e rfl rfl ⟨rfl, rfl⟩ (n := 10) (by decide) (by decide)⟩

end Engine

end TapeCalc
