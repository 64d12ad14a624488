import TapeCalc.Mode

/-!
Literals under construction. `Mode.Fits` says what each mode promises about the top of the stack.
On a stack that fits, no character is refused, and a character that takes part in the literal
leaves a mode and a stack that fit again. Text literals are described by their parentheses: the
text so far never closes more than it opens. Whole texts are fed character by character, and
`Mode.Builds` says that all of a text takes part in literals.
-/

namespace TapeCalc

namespace Text

/-- No beginning of the text closes more parentheses than it opens. -/
def Nested (w : Text) : Prop :=
  ∀ v, v <+: w → v.count ')' ≤ v.count '('

/-- Every parenthesis in the text has its partner in it. -/
def Balanced (w : Text) : Prop :=
  w.Nested ∧ w.count '(' = w.count ')'

instance : DecidablePred Nested := fun w =>
  decidable_of_iff (∀ n < w.length + 1, (w.take n).count ')' ≤ (w.take n).count '(') (by
    constructor
    · intro h v hv
      rw [List.prefix_iff_eq_take.1 hv]
      exact h _ (Nat.lt_succ_of_le hv.length_le)
    · intro h n _
      exact h _ (List.take_prefix n w))

instance : DecidablePred Balanced := fun w =>
  inferInstanceAs (Decidable (w.Nested ∧ w.count '(' = w.count ')'))

theorem nested_nil : Nested [] := by
  intro v hv
  rw [List.prefix_nil.1 hv]
  exact Nat.le_refl _

theorem Nested.count_le {w : Text} (h : w.Nested) : w.count ')' ≤ w.count '(' :=
  h w (List.prefix_refl w)

theorem Nested.of_prefix {v w : Text} (h : w.Nested) (hv : v <+: w) : v.Nested :=
  fun _ hu => h _ (hu.trans hv)

theorem count_concat (w : Text) (c d : Char) :
    (w ++ [c]).count d = w.count d + if c = d then 1 else 0 := by
  simp [List.count_append, List.count_singleton]

theorem Nested.concat {w : Text} {c : Char} (h : w.Nested)
    (hc : c = ')' → w.count ')' < w.count '(') : Nested (w ++ [c]) := by
  intro v hv
  obtain rfl | hv := List.prefix_concat_iff.1 hv
  · rw [count_concat, count_concat]
    have := h.count_le
    by_cases closing : c = ')'
    · have := hc closing
      simp [closing]
      omega
    · simp [closing]
      omega
  · exact h v hv

theorem balanced_nil : Balanced [] :=
  ⟨nested_nil, rfl⟩

theorem balanced_of_plain {w : Text} (h : ∀ c ∈ w, c ≠ '(' ∧ c ≠ ')') : w.Balanced := by
  have closed (v : Text) (hv : v ⊆ w) : v.count ')' = 0 :=
    List.count_eq_zero.2 fun hc => (h _ (hv hc)).2 rfl
  have opened : w.count '(' = 0 := List.count_eq_zero.2 fun hc => (h _ hc).1 rfl
  refine ⟨fun v hv => ?_, ?_⟩
  · rw [closed v hv.subset]
    exact Nat.zero_le _
  · rw [opened, closed w (List.Subset.refl w)]

theorem Balanced.append {v w : Text} (hv : v.Balanced) (hw : w.Balanced) :
    Balanced (v ++ w) := by
  refine ⟨fun u hu => ?_, ?_⟩
  · obtain short | long := List.prefix_or_prefix_of_prefix hu (List.prefix_append v w)
    · exact hv.1 u short
    · obtain ⟨u, rfl⟩ := long
      have rest := hw.1 u ((List.prefix_append_right_inj v).1 hu)
      have whole := hv.2
      rw [List.count_append, List.count_append]
      omega
  · rw [List.count_append, List.count_append, hv.2, hw.2]

theorem Balanced.parenthesized {w : Text} (h : w.Balanced) : Balanced ('(' :: (w ++ [')'])) := by
  have whole := h.2
  refine ⟨fun u hu => ?_, ?_⟩
  · obtain rfl | ⟨v, rfl, hv⟩ := List.prefix_cons_iff.1 hu
    · exact Nat.le_refl 0
    · obtain rfl | hv := List.prefix_concat_iff.1 hv
      · simp
        omega
      · have inner := h.1 v hv
        simp
        omega
  · simp
    omega

end Text

namespace Mode

/-- The value that the literal grows is on top, and it is one that the literal can have grown. -/
def Fits : Mode → Stack → Prop
  | execution, _ => True
  | integer, s => ∃ n, s.top? = some (.int n)
  | decimal place, s => 1 ≤ place ∧ ∃ x, s.top? = some (.float x)
  | string depth, s =>
      1 ≤ depth ∧ ∃ w, s.top? = some (.text w) ∧ w.Nested ∧
        (depth : Int) = 1 + w.count '(' - w.count ')'

theorem start_eq_command_iff {c : Char} {s : Stack} :
    start c s = .command ↔ c.isDigit = false ∧ c ≠ '.' ∧ c ≠ '(' := by
  unfold start
  split
  · simp_all
  · split
    · simp_all
    · split <;> simp_all

theorem fits_of_start {c : Char} {s s' : Stack} {mode : Mode}
    (h : start c s = .building mode s') : mode.Fits s' := by
  unfold start at h
  split at h
  · cases h
    exact ⟨_, Stack.top?_push _ _⟩
  · split at h
    · cases h
      exact ⟨Int.le_refl 1, _, Stack.top?_push _ _⟩
    · split at h
      · cases h
        exact ⟨Nat.le_refl 1, [], Stack.top?_push _ _, Text.nested_nil, rfl⟩
      · cases h

@[simp] theorem topInteger_push_int (s : Stack) (n : Int64) (c : Char) :
    topInteger c (s.push (.int n)) = .ok (n, s) := rfl

/-- Only a text literal keeps operators and registers from being carried out. -/
theorem advance_eq_command_iff {mode : Mode} {c : Char} {s : Stack} :
    mode.advance c s = .ok .command ↔ (∀ depth, mode ≠ string depth) ∧ start c s = .command := by
  cases mode with
  | execution => simp [advance]
  | integer =>
      simp only [advance, inInteger, start_eq_command_iff]
      by_cases digit : c.isDigit
      · cases topInteger c s <;> simp [digit, bind, Except.bind, pure, Except.pure]
      · by_cases point : c = '.'
        · cases topInteger c s <;> simp [point, bind, Except.bind, pure, Except.pure]
        · simp [digit, point, start_eq_command_iff, pure, Except.pure]
  | decimal place =>
      simp only [advance, inDecimal, start_eq_command_iff]
      by_cases digit : c.isDigit
      · simp only [digit, if_true]
        split <;> simp
      · simp [digit, start_eq_command_iff]
  | string depth =>
      simp only [advance, inString]
      split
      · split
        · simp
        · split
          · split <;> simp
          · simp
      · simp

/-- A character that cannot grow a number is met by every mode alike, text literals apart. -/
theorem advance_of_ended {mode : Mode} (outside : ∀ depth, mode ≠ .string depth) {c : Char}
    (ends : c.isDigit = false ∧ c ≠ '.') (s : Stack) :
    mode.advance c s = .ok (start c s) := by
  cases mode with
  | execution => rfl
  | integer => simp [advance, inInteger, ends, pure, Except.pure]
  | decimal place => simp [advance, inDecimal, ends]
  | string depth => exact absurd rfl (outside depth)

/-- A text literal grows by any character but the parenthesis that closes it. -/
theorem inString_push_text (below : Stack) (w : Text) (depth : Nat) (c : Char) :
    inString depth c (below.push (.text w)) = .ok (
      if c = '(' then .building (string (depth + 1)) (below.push (.text (w ++ [c])))
      else if c = ')' then
        if 1 < depth then .building (string (depth - 1)) (below.push (.text (w ++ [c])))
        else .building execution (below.push (.text w))
      else .building (string depth) (below.push (.text (w ++ [c])))) := by
  simp only [inString, Stack.pop?_push]
  split
  · rfl
  · split
    · split <;> rfl
    · rfl

theorem fits_string_push_iff {depth : Nat} {below : Stack} {w : Text} :
    (string depth).Fits (below.push (.text w)) ↔
      1 ≤ depth ∧ w.Nested ∧ (depth : Int) = 1 + w.count '(' - w.count ')' := by
  simp [Fits]

theorem fits_of_inString {depth : Nat} {c : Char} {s s' : Stack} {mode : Mode}
    (h : (string depth).Fits s) (hc : inString depth c s = .ok (.building mode s')) :
    mode.Fits s' := by
  obtain ⟨positive, w, top, nested, hdepth⟩ := h
  obtain ⟨below, rfl⟩ := Stack.top?_eq_some_iff.1 top
  rw [inString_push_text] at hc
  by_cases opening : c = '('
  · subst opening
    cases hc
    refine fits_string_push_iff.2 ⟨by omega, nested.concat (fun h => by cases h), ?_⟩
    rw [Text.count_concat, Text.count_concat, if_pos rfl, if_neg (by decide)]
    omega
  · by_cases closing : c = ')'
    · subst closing
      by_cases inner : 1 < depth
      · simp only [opening, if_false, inner, if_true] at hc
        cases hc
        refine fits_string_push_iff.2 ⟨by omega, nested.concat (fun _ => by omega), ?_⟩
        rw [Text.count_concat, Text.count_concat, if_neg (by decide), if_pos rfl]
        omega
      · simp only [opening, if_false, inner, if_true] at hc
        cases hc
        trivial
    · simp only [opening, closing, if_false] at hc
      cases hc
      refine fits_string_push_iff.2 ⟨positive, nested.concat (fun h => absurd h closing), ?_⟩
      simpa [Text.count_concat, opening, closing] using hdepth

/-- On a stack that fits its mode no character is refused, and what it builds fits again. -/
theorem Fits.advance {mode : Mode} {s : Stack} (h : mode.Fits s) (c : Char) :
    ∃ progress, mode.advance c s = .ok progress ∧
      ∀ mode' s', progress = .building mode' s' → mode'.Fits s' := by
  cases mode with
  | execution => exact ⟨_, rfl, fun _ _ => fits_of_start⟩
  | integer =>
      obtain ⟨n, top⟩ := h
      obtain ⟨below, rfl⟩ := Stack.top?_eq_some_iff.1 top
      simp only [Mode.advance, inInteger, topInteger_push_int]
      by_cases digit : c.isDigit
      · refine ⟨_, if_pos digit, ?_⟩
        rintro _ _ ⟨⟩
        exact ⟨_, Stack.top?_push _ _⟩
      · by_cases point : c = '.'
        · refine ⟨_, (if_neg digit).trans (if_pos point), ?_⟩
          rintro _ _ ⟨⟩
          exact ⟨Int.le_refl 1, _, Stack.top?_push _ _⟩
        · exact ⟨_, (if_neg digit).trans (if_neg point), fun _ _ => fits_of_start⟩
  | decimal place =>
      obtain ⟨positive, x, top⟩ := h
      obtain ⟨below, rfl⟩ := Stack.top?_eq_some_iff.1 top
      simp only [Mode.advance, inDecimal, Stack.pop?_push]
      by_cases digit : c.isDigit
      · refine ⟨_, if_pos digit, ?_⟩
        rintro _ _ ⟨⟩
        refine ⟨?_, _, Stack.top?_push _ _⟩
        simp only [nextPlace]
        omega
      · exact ⟨_, if_neg digit, fun _ _ => fits_of_start⟩
  | string depth =>
      obtain ⟨w, top⟩ : ∃ w, s.top? = some (.text w) := ⟨_, h.2.choose_spec.1⟩
      obtain ⟨below, rfl⟩ := Stack.top?_eq_some_iff.1 top
      refine ⟨_, inString_push_text below w depth c, ?_⟩
      intro mode' s' built
      exact fits_of_inString h ((inString_push_text below w depth c).trans (congrArg _ built))

/-- Feed the characters of a text one after another. A character that no literal takes ends the
literal before it and does nothing else. -/
def feed : Mode → Stack → Text → Except RuntimeError (Mode × Stack)
  | mode, s, [] => .ok (mode, s)
  | mode, s, c :: w =>
    match mode.advance c s with
    | .error err => .error err
    | .ok (.building mode s) => feed mode s w
    | .ok .command => feed execution s w

theorem Fits.exists_feed {mode : Mode} {s : Stack} (h : mode.Fits s) (w : Text) :
    ∃ mode' s', mode.feed s w = .ok (mode', s') ∧ mode'.Fits s' := by
  induction w generalizing mode s with
  | nil => exact ⟨mode, s, rfl, h⟩
  | cons c w ih =>
      obtain ⟨progress, advance, fits⟩ := h.advance c
      simp only [feed, advance]
      cases progress with
      | building mode₁ s₁ => exact ih (fits mode₁ s₁ rfl)
      | command =>
          have fits : execution.Fits s := trivial
          exact ih fits

/-- Every character of the text takes part in a literal, and the last one leaves `mode'` and
`s'`. -/
inductive Builds : Mode → Stack → Text → Mode → Stack → Prop
  | nil (mode : Mode) (s : Stack) : Builds mode s [] mode s
  | cons {mode mode₁ mode' : Mode} {s s₁ s' : Stack} {c : Char} {w : Text}
      (first : mode.advance c s = .ok (.building mode₁ s₁)) (rest : Builds mode₁ s₁ w mode' s') :
      Builds mode s (c :: w) mode' s'

namespace Builds

variable {mode mode' mode'' : Mode} {s s' s'' : Stack} {u w : Text}

theorem single {c : Char} (h : mode.advance c s = .ok (.building mode' s')) :
    Builds mode s [c] mode' s' :=
  .cons h (.nil mode' s')

theorem append (h : Builds mode s u mode' s') (h' : Builds mode' s' w mode'' s'') :
    Builds mode s (u ++ w) mode'' s'' := by
  induction h with
  | nil _ _ => exact h'
  | cons first _ ih => exact .cons first (ih h')

theorem feed_eq (h : Builds mode s w mode' s') : mode.feed s w = .ok (mode', s') := by
  induction h with
  | nil _ _ => rfl
  | cons first _ ih =>
      rw [Mode.feed, first]
      exact ih

end Builds

end Mode

end TapeCalc
