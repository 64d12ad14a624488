import TapeCalc.Proofs.Operator
import TapeCalc.Proofs.Run

/-!
Running one text after another. A text behind everything pending stays there untouched until all
before it is used up, as long as nothing is put behind it in turn. So a run of `p ++ q` is a run of
`p` and then one of `q`, wherever the cut falls: the mode carries an unfinished literal across.
-/

namespace TapeCalc.Engine

variable {κ : Type}

/-- The next fetch puts a text behind everything pending. -/
def appendsText (e : Engine κ) : Bool :=
  e.dispatched? = some Op.applyLater.symbol && e.stack.top?.any Value.isText

def followedBy (q : Text) (e : Engine κ) : Engine κ :=
  { e with tape := e.tape.putBack q }

theorem load_followedBy (e : Engine κ) (p q : Text) :
    (e.load p).followedBy q = e.load (p ++ q) := by
  simp [followedBy, load]

theorem followedBy_of_next?_none (q : Text) {e : Engine κ} (h : e.tape.next? = none) :
    e.followedBy q = e.load q := by
  simp [followedBy, load, Ribbon.eq_empty_of_next? h, Ribbon.empty]

theorem splice_followedBy (q : Text) (e : Engine κ) (op : Op) {put : Tape → Text → Tape}
    (commutes : ∀ program, e.stack.top? = some (.text program) →
      put (e.tape.putBack q) program = (put e.tape program).putBack q) :
    (e.followedBy q).splice op put = (e.splice op put).map (followedBy q) := by
  cases hs : e.stack with
  | empty => simp [splice, followedBy, hs, Stack.pop, Outcome.map]
  | push below v =>
      rw [splice_of_stack hs, splice_of_stack (e := e.followedBy q) hs]
      cases v with
      | int n | float x => rfl
      | text program => simp [spliced, followedBy, Outcome.map, commutes program (by rw [hs]; rfl)]

variable [Console κ]

theorem perform_followedBy (q : Text) (e : Engine κ) (op : Op)
    (quiet : op = .applyLater → e.stack.top?.any Value.isText = false) :
    (e.followedBy q).perform op = (e.perform op).map (followedBy q) := by
  by_cases now : op = .applyNow
  · subst now
    apply splice_followedBy
    intro program _
    exact Ribbon.putBack_putFront e.tape program q
  · by_cases later : op = .applyLater
    · have other := quiet later
      subst later
      apply splice_followedBy
      intro program top
      rw [top] at other
      cases other
    · exact perform_mapContext id (fun tape => tape.putBack q) id e op now later

theorem dispatch_followedBy (q : Text) (e : Engine κ) (c : Char)
    (quiet : c = Op.applyLater.symbol → e.stack.top?.any Value.isText = false) :
    (e.followedBy q).dispatch c = (e.dispatch c).map (followedBy q) := by
  simp only [dispatch]
  cases Register.ofChar? c with
  | some r => rfl
  | none =>
      cases hop : Op.ofChar? c with
      | none => rfl
      | some op =>
          rw [Op.ofChar?_eq_some_iff] at hop
          have checked : (e.followedBy q).stack.require c op.arity =
            e.stack.require c op.arity := rfl
          simp only [checked]
          cases e.stack.require c op.arity with
          | error err => rfl
          | ok _ =>
              apply perform_followedBy
              rintro rfl
              exact quiet hop

/-- A character meets the same mode and stack, whatever waits behind the tape. -/
theorem step_followedBy (q : Text) (e : Engine κ) (c : Char)
    (quiet : e.mode.advance c e.stack = .ok .command → c = Op.applyLater.symbol →
      e.stack.top?.any Value.isText = false) :
    (e.followedBy q).step c = (e.step c).map (followedBy q) := by
  have advance : (e.followedBy q).mode.advance c (e.followedBy q).stack =
    e.mode.advance c e.stack := rfl
  simp only [step, advance]
  cases h : e.mode.advance c e.stack with
  | error err => rfl
  | ok progress =>
      cases progress with
      | building mode s => rfl
      | command => exact dispatch_followedBy q { e with mode := .execution } c (quiet h)

theorem step_next_followedBy (q : Text) {e : Engine κ} {c : Char} {rest : Tape}
    (next : e.tape.next? = some (c, rest)) (quiet : e.appendsText = false) :
    step { e.followedBy q with tape := rest.putBack q } c =
      (step { e with tape := rest } c).map (followedBy q) := by
  apply step_followedBy q { e with tape := rest } c
  intro command symbol
  have dispatched := dispatched?_of_command next command
  simpa [appendsText, dispatched, symbol] using quiet

theorem fetch?_followedBy_done (q : Text) {e e' : Engine κ} (h : e.fetch? = some (.done e'))
    (quiet : e.appendsText = false) :
    (e.followedBy q).fetch? = some (.done (e'.followedBy q)) := by
  obtain ⟨c, rest, next, stepped⟩ := exists_step_of_fetch?_done h
  rw [fetch?_done_iff (Ribbon.next?_putBack next q), step_next_followedBy q next quiet, stepped]
  rfl

/-- A failure discards what waits behind the tape with the rest of it. -/
theorem fetch?_followedBy_failed (q : Text) {e e' : Engine κ} {err : RuntimeError}
    (h : e.fetch? = some (.failed err e')) (quiet : e.appendsText = false) :
    (e.followedBy q).fetch? = some (.failed err e') := by
  obtain ⟨c, rest, e₁, next, stepped, rfl⟩ := exists_step_of_fetch?_failed h
  rw [fetch?_failed_iff (Ribbon.next?_putBack next q), step_next_followedBy q next quiet, stepped]
  exact ⟨_, rfl, rfl⟩

theorem Reaches.followedBy (q : Text) {e e' : Engine κ} (h : Reaches e e')
    (quiet : ∀ e', Reaches e e' → e'.appendsText = false) :
    Reaches (e.followedBy q) (e'.followedBy q) := by
  obtain ⟨n, fetches⟩ := h
  induction fetches with
  | refl e => exact .refl _
  | @head _ e _ _ first _ ih =>
      have first' := fetch?_followedBy_done q first (quiet e (.refl e))
      exact .head first' (ih fun e' reaches => quiet e' (.head first reaches))

/-- Executing `p ++ q` is executing `p` and then, unless that failed, `q` on the engine it left.
The one thing that could tell them apart is a text put behind everything pending: `q` would run
before it and not after it. -/
theorem executes_append (e : Engine κ) (p q : Text) {o : Outcome (Engine κ)}
    (ends : Executes e p o) (quiet : ∀ e', Reaches (e.load p) e' → e'.appendsText = false)
    (o' : Outcome (Engine κ)) :
    Executes e (p ++ q) o' ↔
      match o with
      | .done e' => Executes e' q o'
      | .failed err e' => o' = .failed err e' := by
  rw [executes_iff_halts, ← load_followedBy]
  obtain ⟨e', rfl, reaches, stop⟩ | ⟨e₀, err, e', rfl, reaches, failed⟩ :=
    (executes_iff_halts.1 ends).cases_last
  · have resumed := reaches.followedBy q quiet
    rw [followedBy_of_next?_none q stop] at resumed
    exact resumed.halts_iff
  · have failed' := fetch?_followedBy_failed q failed (quiet e₀ reaches)
    have halts := (reaches.followedBy q quiet).halts_iff.2 (halts_of_fault failed')
    exact ⟨fun h => h.unique halts, fun h => h ▸ halts⟩

/-- The cut falls inside a text literal, and the text then runs. -/
theorem executes_append_inside_literal : ∃ e e' : Engine Script,
    Executes e "3 4(+".toList (.done e') ∧ e'.mode = .string 1 ∧
      (∀ e₀, Reaches (e.load "3 4(+".toList) e₀ → e₀.appendsText = false) ∧
      ∀ o, Executes e ("3 4(+".toList ++ ")@".toList) o ↔ Executes e' ")@".toList o := by
  have quiet (e₀ : Engine Script)
      (h : Reaches ((boot .empty 'z' {}).load "3 4(+".toList) e₀) : e₀.appendsText = false := by
    simpa using holdsAlong_reaches (fun e => !e.appendsText) 5 rfl h
  have ends : Executes (boot .empty 'z' ({} : Script)) "3 4(+".toList (.done _) :=
    ⟨5, rfl⟩
  exact ⟨_, _, ends, rfl, quiet, executes_append _ _ _ ends quiet⟩

end TapeCalc.Engine
