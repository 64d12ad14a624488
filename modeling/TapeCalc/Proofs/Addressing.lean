import TapeCalc.Proofs.Instruction

/-!
Depths. Copying, removing and looking all find the same value at a depth, and only a depth within
the stack has one. A copy pushes everything one place down, so that deleting one place further
takes away the value that was copied: a copy and a deletion together roll a value to the top.
-/

namespace TapeCalc

namespace Stack

/-- The value at depth `d` is `v`, with `upper` above it and `lower` below, the topmost first. -/
structure Splits (s : Stack) (d : Nat) (upper : List Value) (v : Value) (lower : List Value) :
    Prop where
  values_eq : s.values = upper ++ v :: lower
  depth_eq : d = upper.length + 1

section Splits

variable {s : Stack} {d : Nat} {upper lower : List Value} {v : Value}

theorem exists_splits (s : Stack) (inside : 1 ≤ d ∧ d ≤ s.depth) :
    ∃ upper v lower, s.Splits d upper v lower := by
  obtain ⟨m, rfl⟩ : ∃ m, d = m + 1 := ⟨d - 1, by omega⟩
  have within : m < s.values.length := by
    rw [← s.depth_eq]
    omega
  refine ⟨s.values.take m, s.values[m], s.values.drop (m + 1), ?_, ?_⟩
  · rw [List.getElem_cons_drop, List.take_append_drop]
  · rw [List.length_take_of_le (Nat.le_of_lt within)]

theorem Splits.inside (h : s.Splits d upper v lower) : 1 ≤ d ∧ d ≤ s.depth := by
  rw [s.depth_eq, h.values_eq, h.depth_eq, List.length_append, List.length_cons]
  omega

theorem Splits.position (h : s.Splits d upper v lower) : d - 1 = upper.length := by
  rw [h.depth_eq, Nat.add_sub_cancel]

theorem Splits.values_getElem? (h : s.Splits d upper v lower) : s.values[d - 1]? = some v := by
  rw [h.values_eq, h.position, List.getElem?_append_right (Nat.le_refl _), Nat.sub_self,
    List.getElem?_cons_zero]

theorem Splits.peek (h : s.Splits d upper v lower) : s.peek (d - 1) = v := by
  rw [Stack.peek, h.values_getElem?, Option.getD_some]

theorem Splits.pick? (h : s.Splits d upper v lower) : s.pick? d = some (s.push v) := by
  have found := h.values_getElem?
  rw [h.depth_eq] at found ⊢
  exact congrArg (Option.map s.push) found

theorem Splits.remove? (h : s.Splits d upper v lower) :
    s.remove? d = some (v, ofList (upper ++ lower)) := by
  obtain ⟨_, found⟩ := List.getElem?_eq_some_iff.1 h.values_getElem?
  have others : s.values.eraseIdx (d - 1) = upper ++ lower := by
    rw [h.values_eq, h.position, List.eraseIdx_append_of_length_le (Nat.le_refl _), Nat.sub_self,
      List.eraseIdx_cons_zero]
  rw [Stack.remove?, dif_pos h.inside, Option.some.injEq, Prod.mk.injEq]
  exact ⟨found, ext others⟩

/-- What is pushed moves every value one place down. -/
theorem Splits.push (h : s.Splits d upper v lower) (w : Value) :
    (s.push w).Splits (d + 1) (w :: upper) v lower where
  values_eq := congrArg (w :: ·) h.values_eq
  depth_eq := congrArg (· + 1) h.depth_eq

theorem splits_push_top (s : Stack) (v : Value) : (s.push v).Splits 1 [] v s.values :=
  ⟨rfl, rfl⟩

end Splits

theorem pick?_eq_none (s : Stack) {d : Nat} (outside : ¬ (1 ≤ d ∧ d ≤ s.depth)) :
    s.pick? d = none := by
  cases d with
  | zero => rfl
  | succ d =>
      have missing : s.values[d]? = none := by
        rw [List.getElem?_eq_none_iff, ← s.depth_eq]
        omega
      rw [pick?, at?, missing, Option.map_none]

theorem remove?_eq_none (s : Stack) {d : Nat} (outside : ¬ (1 ≤ d ∧ d ≤ s.depth)) :
    s.remove? d = none :=
  dif_neg outside

theorem isSome_pick?_iff (s : Stack) (d : Nat) :
    (s.pick? d).isSome = true ↔ 1 ≤ d ∧ d ≤ s.depth := by
  by_cases inside : 1 ≤ d ∧ d ≤ s.depth
  · obtain ⟨upper, v, lower, h⟩ := s.exists_splits inside
    simp [h.pick?, inside]
  · simp [pick?_eq_none s inside, inside]

theorem isSome_remove?_iff (s : Stack) (d : Nat) :
    (s.remove? d).isSome = true ↔ 1 ≤ d ∧ d ≤ s.depth := by
  by_cases inside : 1 ≤ d ∧ d ≤ s.depth
  · obtain ⟨upper, v, lower, h⟩ := s.exists_splits inside
    simp [h.remove?, inside]
  · simp [remove?_eq_none s inside, inside]

theorem copy_push (s : Stack) (v : Value) :
    (s.push v).copy = .ok (((depthOf? v).bind s.pick?).getD s) := rfl

theorem delete_push (s : Stack) (v : Value) :
    (s.push v).delete = .ok (((depthOf? v).bind s.remove?).elim s Prod.snd) := rfl

section Outside

variable {s : Stack} {v : Value} (outside : ∀ d, depthOf? v = some d → s.depth < d)
include outside

theorem copy_of_outside : (s.push v).copy = .ok s := by
  rw [copy_push]
  cases depth : depthOf? v with
  | none => rfl
  | some d =>
      have missing := pick?_eq_none s fun inside => Nat.not_le.2 (outside d depth) inside.2
      rw [Option.bind_some, missing, Option.getD_none]

theorem delete_of_outside : (s.push v).delete = .ok s := by
  rw [delete_push]
  cases depth : depthOf? v with
  | none => rfl
  | some d =>
      have missing := remove?_eq_none s fun inside => Nat.not_le.2 (outside d depth) inside.2
      rw [Option.bind_some, missing, Option.elim_none]

end Outside

end Stack

namespace Engine

variable {κ : Type} [Console κ]

/-- An operator behind its operand in digits, where it takes the engine to another stack. -/
theorem reaches_operand {op : Op} (arity : op.arity = 1) {n : Nat} {s s' : Stack}
    (h : ∀ e : Engine κ, e.stack = s.push (.int (Int64.ofNat n)) →
      e.perform op = .done { e with stack := s' }) (bank : Bank) (k : κ) (t : Text) :
    Reaches (ready bank s k (Text.ofNat n ++ op.symbol :: t)) (ready bank s' k t) := by
  let e := typing bank s (Int64.ofNat n) k []
  refine (reaches_number bank s k (op.symbol :: t) n).trans ?_
  refine reaches_command (e := e) (fun _ => nofun) (Mode.start_symbol op) ?_
  have enough : op.arity ≤ (ready e.bank e.stack e.console t).stack.depth := by
    rw [arity]
    exact Nat.le_add_left 1 s.depth
  rw [dispatch_symbol_of_arity _ op enough]
  exact h (ready e.bank e.stack e.console t) rfl

section Depth

variable {n : Nat} (positive : 1 ≤ n) (small : n < 2 ^ 63) (bank : Bank) (s : Stack) (k : κ)
  (t : Text)
include positive small

theorem reaches_copy :
    Reaches (ready bank s k (Text.ofNat n ++ Op.copy.symbol :: t))
      (ready bank ((s.pick? n).getD s) k t) := by
  refine reaches_operand rfl (fun e stack => ?_) bank k t
  rw [perform, stack, Stack.copy_push, Stack.depthOf?_ofNat positive small, Option.bind_some]
  rfl

theorem reaches_delete :
    Reaches (ready bank s k (Text.ofNat n ++ Op.delete.symbol :: t))
      (ready bank ((s.remove? n).elim s Prod.snd) k t) := by
  refine reaches_operand rfl (fun e stack => ?_) bank k t
  rw [perform, stack, Stack.delete_push, Stack.depthOf?_ofNat positive small, Option.bind_some]
  rfl

end Depth

section Roll

variable {n : Nat} {s : Stack} {upper lower : List Value} {v : Value}

/-- A copy and the deletion of what was copied. -/
theorem reaches_roll (small : n < 2 ^ 63 - 1) (h : s.Splits n upper v lower) (bank : Bank) (k : κ)
    (t : Text) :
    Reaches
      (ready bank s k (Text.ofNat n ++ Op.copy.symbol ::
        (Text.ofNat (n + 1) ++ Op.delete.symbol :: t)))
      (ready bank (Stack.ofList (v :: (upper ++ lower))) k t) := by
  have copied := reaches_copy h.inside.1 (by omega) bank s k
    (Text.ofNat (n + 1) ++ Op.delete.symbol :: t)
  have deleted := reaches_delete (Nat.le_add_left 1 n) (by omega) bank (s.push v) k t
  rw [h.pick?] at copied
  rw [(h.push v).remove?] at deleted
  exact copied.trans deleted

/-- A copy and the deletion of the copy. -/
theorem reaches_copy_delete (small : n < 2 ^ 63) (h : s.Splits n upper v lower) (bank : Bank)
    (k : κ) (t : Text) :
    Reaches
      (ready bank s k (Text.ofNat n ++ Op.copy.symbol ::
        (Text.ofNat 1 ++ Op.delete.symbol :: t)))
      (ready bank s k t) := by
  have copied := reaches_copy h.inside.1 small bank s k (Text.ofNat 1 ++ Op.delete.symbol :: t)
  have deleted := reaches_delete (Nat.le_refl 1) (by decide) bank (s.push v) k t
  have restored : Stack.ofList s.values = s := Stack.ext rfl
  rw [h.pick?] at copied
  rw [(Stack.splits_push_top s v).remove?] at deleted
  simp only [List.nil_append, restored, Option.elim_some] at deleted
  exact copied.trans deleted

/-- Beyond the last value there is nothing to copy and nothing to delete. -/
theorem reaches_roll_outside (positive : 1 ≤ n) (small : n < 2 ^ 63 - 1) (beyond : s.depth < n)
    (bank : Bank) (k : κ) (t : Text) :
    Reaches
      (ready bank s k (Text.ofNat n ++ Op.copy.symbol ::
        (Text.ofNat (n + 1) ++ Op.delete.symbol :: t)))
      (ready bank s k t) := by
  have copied := reaches_copy positive (by omega) bank s k
    (Text.ofNat (n + 1) ++ Op.delete.symbol :: t)
  have deleted := reaches_delete (Nat.le_add_left 1 n) (by omega) bank s k t
  rw [Stack.pick?_eq_none s (by omega)] at copied
  rw [Stack.remove?_eq_none s (by omega)] at deleted
  exact copied.trans deleted

end Roll

/-- Depths are coherent. On every stack, copying, removing and looking agree on the value at a depth
and on which depths have one; removing keeps the order of the others, and a depth without a value
leaves the stack as it is. So a program that copies the value at depth `n` and deletes the one at
`n + 1` rolls that value to the top, or does nothing if there is none; with `1` for `n + 1` it
takes the copy away again. -/
theorem depths_coherent :
    (∀ (s : Stack) (d : Nat),
      ((s.pick? d).isSome = true ↔ 1 ≤ d ∧ d ≤ s.depth) ∧
      ((s.remove? d).isSome = true ↔ 1 ≤ d ∧ d ≤ s.depth) ∧
      (1 ≤ d ∧ d ≤ s.depth → ∃ upper v lower, s.Splits d upper v lower ∧
        s.pick? d = some (s.push v) ∧ s.remove? d = some (v, .ofList (upper ++ lower)) ∧
        s.peek (d - 1) = v)) ∧
    (∀ (s : Stack) (v : Value), (∀ d, Stack.depthOf? v = some d → s.depth < d) →
      (s.push v).copy = .ok s ∧ (s.push v).delete = .ok s) ∧
    ∀ (e : Engine κ) (n : Nat), e.mode = .execution → 1 ≤ n → n < 2 ^ 63 - 1 →
      (n ≤ e.stack.depth → ∃ upper v lower, e.stack.Splits n upper v lower ∧
        Executes e (Text.ofNat n ++ '!' :: (Text.ofNat (n + 1) ++ ['$']))
          (.done { e with stack := .ofList (v :: (upper ++ lower)), tape := .empty }) ∧
        Executes e (Text.ofNat n ++ "!1$".toList) (.done { e with tape := .empty })) ∧
      (e.stack.depth < n →
        Executes e (Text.ofNat n ++ '!' :: (Text.ofNat (n + 1) ++ ['$']))
          (.done { e with tape := .empty })) := by
  refine ⟨?_, ?_, ?_⟩
  · intro s d
    refine ⟨s.isSome_pick?_iff d, s.isSome_remove?_iff d, fun inside => ?_⟩
    obtain ⟨upper, v, lower, h⟩ := s.exists_splits inside
    exact ⟨upper, v, lower, h, h.pick?, h.remove?, h.peek⟩
  · intro s v outside
    exact ⟨Stack.copy_of_outside outside, Stack.delete_of_outside outside⟩
  · intro e n outside positive small
    constructor
    · intro inside
      obtain ⟨upper, v, lower, h⟩ := e.stack.exists_splits ⟨positive, inside⟩
      refine ⟨upper, v, lower, h, ?_, ?_⟩
      · exact executes_of_reaches outside (reaches_roll small h e.bank e.console [])
      · exact executes_of_reaches outside (reaches_copy_delete (by omega) h e.bank e.console [])
    · intro beyond
      exact executes_of_reaches outside
        (reaches_roll_outside positive small beyond e.bank e.console [])

/-- The deepest value of three is rolled to the top, and a fourth is not found. -/
theorem depths_coherent_deepest : ∃ e : Engine Script,
    e.mode = .execution ∧ e.stack.values = [.int 7, .text ['x'], .int 5] ∧
    Executes e "3!4$".toList
      (.done { e with stack := .ofList [.int 5, .int 7, .text ['x']], tape := .empty }) ∧
    Executes e "4!5$".toList (.done { e with tape := .empty }) := by
  let e : Engine Script := { ofPreset {} with stack := .ofList [.int 7, .text ['x'], .int 5] }
  obtain ⟨_, _, rolls⟩ := @depths_coherent Script _
  obtain ⟨inside, _⟩ := rolls e 3 rfl (by decide) (by decide)
  obtain ⟨_, beyond⟩ := rolls e 4 rfl (by decide) (by decide)
  obtain ⟨upper, v, lower, h, rolled, _⟩ := inside (by decide)
  have removed : e.stack.remove? 3 = some (.int 5, .ofList [.int 7, .text ['x']]) := rfl
  rw [h.remove?] at removed
  obtain ⟨rfl, others⟩ := Prod.mk.inj (Option.some.inj removed)
  have values : upper ++ lower = [.int 7, .text ['x']] := congrArg Stack.values others
  rw [values] at rolled
  exact ⟨e, rfl, rfl, rolled, beyond (by decide)⟩

end Engine

end TapeCalc
