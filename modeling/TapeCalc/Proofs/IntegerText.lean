import TapeCalc.Proofs.Idiom
import TapeCalc.Proofs.LineValue

/-!
Integers in three spellings. An integer is written in one way, whether it is printed or joined to
a text. Read from a line, that text is the integer again. A program has no sign for its literals,
so there the digits stand alone and a negation follows them: the digits of the least integer wrap
around as they are read, and the negation wraps them once more to the same integer.
-/

namespace TapeCalc

namespace Text

/-- Without its sign, the text of an integer is the digits of its magnitude. -/
theorem erase_sign_ofInt (n : Int) : (ofInt n).erase '-' = ofNat n.natAbs := by
  cases n with
  | ofNat m =>
      apply List.erase_of_not_mem
      intro inside
      cases isDigit_of_mem_ofNat inside
  | negSucc m => rfl

end Text

namespace Value

theorem ofNat_natAbs {n : Int64} (h : ¬ n < 0) : Int64.ofNat n.toInt.natAbs = n := by
  have value := zero_le_iff.1 (Int64.not_lt.1 h)
  rw [← Int64.ofInt_eq_ofNat, Int.natAbs_of_nonneg value, Int64.ofInt_toInt]

/-- The magnitude of the least integer does not fit, but it wraps to what its negation is. -/
theorem neg_ofNat_natAbs {n : Int64} (h : n < 0) : -Int64.ofNat n.toInt.natAbs = n := by
  have value : n.toInt ≤ 0 := Int.le_of_lt (Int64.lt_iff_toInt_lt.1 h)
  rw [← Int64.ofInt_eq_ofNat, ← Int64.ofInt_neg, Int.ofNat_natAbs_of_nonpos value, Int.neg_neg,
    Int64.ofInt_toInt]

end Value

namespace Engine

variable {κ : Type} [Console κ]

section Digits

variable {e : Engine κ} (outside : e.mode = .execution)
include outside

theorem executes_digits (n : Nat) :
    Executes e (Text.ofNat n) (.done { e with
      stack := e.stack.push (.int (Int64.ofNat n)), tape := .empty, mode := .integer }) := by
  have typed := reaches_number e.bank e.stack e.console [] n
  rw [List.append_nil, ← load_eq_ready outside] at typed
  rw [executes_iff_halts, typed.halts_iff]
  exact halts_of_exhausted rfl

theorem executes_negated_digits (n : Nat) :
    Executes e (Text.ofNat n ++ [Op.negate.symbol]) (.done { e with
      stack := e.stack.push (.int (-Int64.ofNat n)), tape := .empty, mode := .execution }) := by
  let i : Instruction := { operand := some n, action := .op .negate }
  have negated : i.eval? e.bank [] = some ([.int (-Int64.ofNat n)], []) := rfl
  have reaches := reaches_instruction (k := e.console) negated rfl e.stack []
  rw [List.append_nil, Stack.ofList_nil_above, Stack.ofList_singleton_above,
    ← load_eq_ready outside] at reaches
  exact executes_iff_halts.2 (reaches.halts_iff.2 (halts_of_exhausted rfl))

end Digits

/-- An integer is the same text when it is printed and when it is joined to a text on either side;
a line with that text and blanks around it is the integer; and so is, as a program, the text
without its sign, followed by a negation where it had one. -/
theorem integer_reads_back (n : Int64) :
    Value.add (.int n) .empty = .text (Value.toText (.int n)) ∧
    Value.add .empty (.int n) = .text (Value.toText (.int n)) ∧
    (∀ u v : Text, (∀ c ∈ u, Text.isBlank c = true) → (∀ c ∈ v, Text.isBlank c = true) →
      Value.ofLine (u ++ Value.toText (.int n) ++ v) = .int n) ∧
    ∀ e : Engine κ, e.mode = .execution →
      Executes e ((Value.toText (.int n)).erase '-' ++ if n < 0 then ['~'] else [])
        (.done { e with
          stack := e.stack.push (.int n)
          tape := .empty
          mode := if n < 0 then .execution else .integer }) := by
  refine ⟨Value.add_empty _, rfl, fun u v => Value.ofLine_between_blanks n, ?_⟩
  intro e outside
  rw [Value.toText, Text.erase_sign_ofInt]
  by_cases negative : n < 0
  · have executed := executes_negated_digits outside n.toInt.natAbs
    rw [Value.neg_ofNat_natAbs negative] at executed
    rw [if_pos negative, if_pos negative]
    exact executed
  · have executed := executes_digits outside n.toInt.natAbs
    rw [Value.ofNat_natAbs negative] at executed
    rw [if_neg negative, if_neg negative, List.append_nil]
    exact executed

/-- The least integer, in a line between blanks beyond ASCII and as a program above another
value. -/
theorem integer_reads_back_least : ∃ e : Engine Script,
    e.stack = .ofList [.int 7] ∧ e.mode = .execution ∧
    Value.ofLine "\u3000-9223372036854775808\t".toList = .int Int64.minValue ∧
    Executes e "9223372036854775808~".toList
      (.done { e with stack := e.stack.push (.int Int64.minValue), tape := .empty }) := by
  let e : Engine Script := { ofPreset {} with stack := .ofList [.int 7] }
  obtain ⟨_, _, line, program⟩ := @integer_reads_back Script _ Int64.minValue
  have blank : Text.isBlank '\u3000' = true ∧ Text.isBlank '\t' = true := by decide
  exact ⟨e, rfl, rfl, line ['\u3000'] ['\t'] (List.forall_mem_singleton.2 blank.1)
    (List.forall_mem_singleton.2 blank.2), program e rfl⟩

end Engine

end TapeCalc
