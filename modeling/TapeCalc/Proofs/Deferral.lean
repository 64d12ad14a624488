import TapeCalc.Proofs.Conservation
import TapeCalc.Proofs.Sequence

/-!
A program with another one waiting behind it. What the first puts behind everything pending comes
to lie behind the second, so it is withheld until the second is through. `Withholds` follows the
first program alone and collects what it defers. From there the second program runs, and the
deferred texts after it, whatever the first one does.
-/

namespace TapeCalc.Engine

variable {κ : Type}

/-- The text that the next fetch puts behind everything pending. -/
def appendedText (e : Engine κ) : Text :=
  if e.appendsText then e.stack.topText else []

theorem appendedText_of_quiet {e : Engine κ} (quiet : e.appendsText = false) :
    e.appendedText = [] := by
  simp [appendedText, quiet]

theorem followedBy_nil (e : Engine κ) : e.followedBy [] = e := by
  rw [followedBy, Ribbon.putBack_nil]

theorem followedBy_inj {q : Text} {e e' : Engine κ} (h : e.followedBy q = e'.followedBy q) :
    e = e' := by
  obtain ⟨stack, bank, tape, mode, console⟩ := e
  obtain ⟨stack', bank', tape', mode', console'⟩ := e'
  simp only [followedBy, mk.injEq] at h
  obtain ⟨rfl, rfl, texts, rfl, rfl⟩ := h
  have same := congrArg Ribbon.toText texts
  rw [Ribbon.toText_putBack, Ribbon.toText_putBack, List.append_left_inj] at same
  rw [Ribbon.ext same]

theorem exists_of_dispatched? {e : Engine κ} {c : Char} (h : e.dispatched? = some c) :
    ∃ rest, e.tape.next? = some (c, rest) ∧ e.mode.advance c e.stack = .ok .command := by
  unfold dispatched? at h
  split at h
  · cases h
  · rename_i c' rest next
    split at h
    · rename_i command
      cases h
      exact ⟨rest, next, command⟩
    · cases h

theorem exists_of_appendsText {e : Engine κ} (h : e.appendsText = true) :
    ∃ (rest : Tape) (below : Stack) (p : Text),
      e.tape.next? = some (Op.applyLater.symbol, rest) ∧
      e.mode.advance Op.applyLater.symbol e.stack = .ok .command ∧
      e.stack = below.push (.text p) ∧ e.appendedText = p := by
  have appends := h
  rw [appendsText, Bool.and_eq_true, decide_eq_true_iff] at appends
  obtain ⟨dispatched, top⟩ := appends
  obtain ⟨rest, next, command⟩ := exists_of_dispatched? dispatched
  rw [Option.any_eq_true] at top
  obtain ⟨v, top, isText⟩ := top
  obtain ⟨below, stack⟩ := Stack.top?_eq_some_iff.1 top
  cases v with
  | int n => cases isText
  | float x => cases isText
  | text p =>
      refine ⟨rest, below, p, next, command, stack, ?_⟩
      rw [appendedText, if_pos h, stack]
      rfl

variable [Console κ]

/-- A text that is put behind everything pending comes to lie behind `q` as well. -/
theorem exists_fetch?_of_appendsText {e : Engine κ} (h : e.appendsText = true) :
    ∃ e' : Engine κ, ∀ q, (e.followedBy q).fetch? =
      some (.done (e'.followedBy (q ++ e.appendedText))) := by
  obtain ⟨rest, below, p, next, command, stack, text⟩ := exists_of_appendsText h
  refine ⟨{ e with stack := below, mode := .execution, tape := rest }, ?_⟩
  intro q
  let e₀ : Engine κ := { e with mode := .execution, tape := rest.putBack q }
  have enough : Op.applyLater.arity ≤ e₀.stack.depth := by simp [e₀, stack, Op.arity]
  have spliced : e₀.dispatch Op.applyLater.symbol =
      .done { e₀ with stack := below, tape := (rest.putBack q).putBack p } :=
    (dispatch_symbol_of_arity e₀ .applyLater enough).trans (splice_of_stack (e := e₀) stack _ _)
  rw [fetch?_done_iff (Ribbon.next?_putBack next q), text]
  simp only [step, followedBy, command]
  refine spliced.trans ?_
  rw [Ribbon.putBack_putBack]

/-- A fetch that succeeds does the same before any text, and keeps what it defers behind it. -/
theorem exists_withheld {e e₁ : Engine κ} (h : e.fetch? = some (.done e₁)) :
    ∃ e' : Engine κ, ∀ q, (e.followedBy q).fetch? =
      some (.done (e'.followedBy (q ++ e.appendedText))) := by
  cases appends : e.appendsText with
  | true => exact exists_fetch?_of_appendsText appends
  | false =>
      refine ⟨e₁, ?_⟩
      intro q
      rw [appendedText_of_quiet appends, List.append_nil]
      exact fetch?_followedBy_done q h appends

theorem quiet_of_failed {e e₁ : Engine κ} {err : RuntimeError}
    (h : e.fetch? = some (.failed err e₁)) : e.appendsText = false := by
  cases appends : e.appendsText with
  | false => rfl
  | true =>
      obtain ⟨e', withheld⟩ := exists_fetch?_of_appendsText appends
      have alone := withheld []
      rw [followedBy_nil, h] at alone
      cases alone

/-- Fetches that succeed lead from `e` to `e'` when every text that they put behind everything
pending is withheld, and `p` is all of these texts. -/
inductive Withholds : Engine κ → Engine κ → Text → Prop
  | refl (e : Engine κ) : Withholds e e []
  | head {e e₁ e' : Engine κ} {p : Text}
      (first : e.fetch? = some (.done (e₁.followedBy e.appendedText)))
      (rest : Withholds e₁ e' p) : Withholds e e' (e.appendedText ++ p)

theorem Withholds.head_quiet {e e₁ e' : Engine κ} {p : Text} (quiet : e.appendsText = false)
    (first : e.fetch? = some (.done e₁)) (rest : Withholds e₁ e' p) : Withholds e e' p := by
  have none := appendedText_of_quiet quiet
  have withheld : e.fetch? = some (.done (e₁.followedBy e.appendedText)) := by
    rw [none, followedBy_nil]
    exact first
  have all := Withholds.head withheld rest
  rw [none, List.nil_append] at all
  exact all

theorem fetch?_followedBy_withheld (q : Text) {e e₁ : Engine κ}
    (first : e.fetch? = some (.done (e₁.followedBy e.appendedText))) :
    (e.followedBy q).fetch? = some (.done (e₁.followedBy (q ++ e.appendedText))) := by
  obtain ⟨e', withheld⟩ := exists_withheld first
  have alone := withheld []
  rw [followedBy_nil, first, List.nil_append, Option.some.injEq, Outcome.done.injEq] at alone
  rw [followedBy_inj alone]
  exact withheld q

theorem Withholds.reaches {e e' : Engine κ} {p : Text} (h : Withholds e e' p) (q : Text) :
    Reaches (e.followedBy q) (e'.followedBy (q ++ p)) := by
  induction h generalizing q with
  | refl e =>
      rw [List.append_nil]
      exact .refl _
  | @head e _ _ p first _ ih =>
      have rest := ih (q ++ e.appendedText)
      rw [List.append_assoc] at rest
      exact .head (fetch?_followedBy_withheld q first) rest

/-- A run that ends well comes to the end of its first program, with what that has deferred behind
the second. -/
theorem Halts.withholds {q : Text} {e e' : Engine κ} (h : Halts (e.followedBy q) (.done e')) :
    ∃ e₁ p, Withholds e e₁ p ∧ e₁.tape.next? = none ∧ Halts (e₁.load (q ++ p)) (.done e') := by
  obtain ⟨n, ends⟩ := halts_iff_ends.1 h
  -- By the fetches that are left. What a fetch defers lengthens the text behind, so `q` varies.
  induction n using Nat.strongRecOn generalizing e q with
  | ind n ih =>
      cases fetched : e.fetch? with
      | none =>
          have stop := fetch?_eq_none_iff.1 fetched
          rw [followedBy_of_next?_none q stop] at h
          refine ⟨e, [], .refl e, stop, ?_⟩
          rwa [List.append_nil]
      | some o =>
          cases o with
          | failed err e₁ =>
              have failed := fetch?_followedBy_failed q fetched (quiet_of_failed fetched)
              cases h.unique (halts_of_fault failed)
          | done e₁ =>
              obtain ⟨e₂, withheld⟩ := exists_withheld fetched
              have first := withheld []
              rw [followedBy_nil, List.nil_append] at first
              obtain ⟨k, rfl, ends'⟩ := Ends.drop (.single (withheld q)) ends
              obtain ⟨e₃, p, rest, stop, halts⟩ :=
                ih k (by omega) (halts_iff_ends.2 ⟨k, ends'⟩) ends'
              rw [List.append_assoc] at halts
              exact ⟨e₃, _, .head first rest, stop, halts⟩

end TapeCalc.Engine
