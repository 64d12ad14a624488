import Mathlib.Data.List.Induction
import TapeCalc.Proofs.Literal

/-!
Text literals. After an opening parenthesis every character is taken as it is, up to the first
closing parenthesis that has no partner in the literal. So a literal holds exactly the text before
that parenthesis, which is balanced; and if there is none, the literal stays open at the depth
that its parentheses leave.
-/

namespace TapeCalc

namespace Text

/-- The closing parenthesis behind `v` is the first with which a beginning of `w` closes more
than it opens. -/
def FirstUnmatched (w v : Text) : Prop :=
  v ++ [')'] <+: w ∧ v.Nested ∧ (v ++ [')']).count '(' < (v ++ [')']).count ')'

instance (w : Text) : DecidablePred w.FirstUnmatched := fun v =>
  inferInstanceAs (Decidable
    (v ++ [')'] <+: w ∧ v.Nested ∧ (v ++ [')']).count '(' < (v ++ [')']).count ')'))

theorem FirstUnmatched.balanced {w v : Text} (h : w.FirstUnmatched v) : v.Balanced := by
  obtain ⟨_, nested, more⟩ := h
  have closed := nested.count_le
  rw [count_concat, count_concat, if_neg (by decide), if_pos rfl] at more
  exact ⟨nested, by omega⟩

/-- The only way not to be nested is to have a parenthesis without a partner. -/
theorem nested_of_no_firstUnmatched {w : Text} (h : ∀ v, ¬ w.FirstUnmatched v) : w.Nested := by
  induction w using List.reverseRecOn with
  | nil => exact nested_nil
  | append_singleton w c ih =>
      have nested : Nested w := by
        apply ih
        rintro v ⟨begins, unmatched⟩
        exact h v ⟨begins.trans (List.prefix_append w [c]), unmatched⟩
      apply nested.concat
      rintro rfl
      apply Nat.lt_of_not_le
      intro more
      apply h w
      refine ⟨List.prefix_refl _, nested, ?_⟩
      rw [count_concat, count_concat, if_neg (by decide), if_pos rfl]
      omega

end Text

namespace Mode

/-- Outside text literals an opening parenthesis begins one, whatever number it ends. -/
theorem advance_opening {mode : Mode} (outside : ∀ depth, mode ≠ .string depth) (s : Stack) :
    mode.advance '(' s = .ok (.building (.string 1) (s.push .empty)) :=
  advance_of_ended outside ⟨rfl, by decide⟩ s

/-- A text that closes nothing but what it opens goes into the literal as it is. -/
theorem builds_nested (below : Stack) (v : Text) {depth : Nat} (positive : 1 ≤ depth) {w : Text}
    (nested : w.Nested) :
    Builds (.string depth) (below.push (.text v)) w
      (.string (depth + w.count '(' - w.count ')')) (below.push (.text (v ++ w))) := by
  -- By the last character, so that what is nested before it is a beginning of `w`.
  induction w using List.reverseRecOn with
  | nil =>
      rw [List.append_nil]
      exact .nil _ _
  | append_singleton w c ih =>
      have before : Text.Nested w := nested.of_prefix (List.prefix_append w [c])
      have closed := before.count_le
      have closed' := nested.count_le
      rw [Text.count_concat, Text.count_concat] at closed'
      refine (ih before).append (.single ?_)
      rw [advance, inString_push_text, Text.count_concat, Text.count_concat, ← List.append_assoc]
      by_cases opening : c = '('
      · subst opening
        rw [if_pos rfl, if_pos rfl, if_neg (by decide)]
        congr 3
        omega
      · by_cases closing : c = ')'
        · subst closing
          rw [if_neg opening, if_pos rfl] at closed'
          rw [if_neg opening, if_pos rfl, if_pos (by omega), if_neg opening, if_pos rfl]
          rfl
        · rw [if_neg opening, if_neg closing, if_neg opening, if_neg closing]
          rfl

section Outside

variable {mode : Mode} (outside : ∀ depth, mode ≠ .string depth) (s : Stack) {w : Text}
include outside

theorem builds_opened (nested : w.Nested) :
    mode.Builds s ('(' :: w) (.string (1 + w.count '(' - w.count ')')) (s.push (.text w)) :=
  .cons (advance_opening outside s) (builds_nested s [] (Nat.le_refl 1) nested)

theorem builds_quoted (balanced : w.Balanced) :
    mode.Builds s ('(' :: (w ++ [')'])) .execution (s.push (.text w)) := by
  refine (builds_opened outside s balanced.1).append (.single ?_)
  rw [advance, inString_push_text, if_neg (by decide), if_pos rfl,
    if_neg (by rw [balanced.2]; omega)]

/-- A text literal holds what stands before the first closing parenthesis without a partner, as it
is, and stays open if there is none. No text is refused, and every balanced text can be
written. -/
theorem feed_textLiteral (w : Text) :
    (∃ mode' s', mode.feed s ('(' :: w) = .ok (mode', s')) ∧
    (∀ v, w.FirstUnmatched v →
      v.Balanced ∧ mode.feed s ('(' :: (v ++ [')'])) = .ok (.execution, s.push (.text v))) ∧
    ((∀ v, ¬ w.FirstUnmatched v) → ∃ depth : Nat,
      (depth : Int) = 1 + w.count '(' - w.count ')' ∧
        mode.feed s ('(' :: w) = .ok (.string depth, s.push (.text w))) ∧
    ∀ v : Text, v.Balanced →
      mode.feed s ('(' :: (v ++ [')'])) = .ok (.execution, s.push (.text v)) := by
  have quoted (v : Text) (balanced : v.Balanced) :
      mode.feed s ('(' :: (v ++ [')'])) = .ok (.execution, s.push (.text v)) :=
    (builds_quoted outside s balanced).feed_eq
  refine ⟨?_, ?_, ?_, quoted⟩
  · have opened : (string 1).Fits (s.push .empty) := fits_of_start (c := '(') (s := s) rfl
    obtain ⟨mode', s', fed, _⟩ := opened.exists_feed w
    refine ⟨mode', s', ?_⟩
    rw [feed, advance_opening outside]
    exact fed
  · intro v unmatched
    exact ⟨unmatched.balanced, quoted v unmatched.balanced⟩
  · intro none
    have nested := Text.nested_of_no_firstUnmatched none
    refine ⟨_, ?_, (builds_opened outside s nested).feed_eq⟩
    have closed := nested.count_le
    omega

end Outside

/-- A literal that ends a number and holds another literal, a quote and a letter beyond ASCII. -/
theorem feed_textLiteral_after_number :
    Text.FirstUnmatched "1.5(é\")@)2)".toList "1.5(é\")@".toList ∧
      integer.feed (Stack.ofList [.int 7]) ('(' :: ("1.5(é\")@".toList ++ [')'])) =
        .ok (.execution, (Stack.ofList [.int 7]).push (.text "1.5(é\")@".toList)) := by
  have unmatched : Text.FirstUnmatched "1.5(é\")@)2)".toList "1.5(é\")@".toList := by decide
  have outside (depth : Nat) : integer ≠ .string depth := nofun
  exact ⟨unmatched, ((feed_textLiteral outside (Stack.ofList [.int 7]) _).2.1 _ unmatched).2⟩

end Mode

end TapeCalc
