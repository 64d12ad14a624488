import TapeCalc.Proofs.Run
import TapeCalc.Proofs.Step

/-!
What becomes of the characters of the tape. A fetch takes one off, and nothing but the two splices
adds any, each the text that it pops. So the characters fetched and those still pending are those
of the first tape and those of the spliced texts, whatever the mode. A run can only go on for long
if it splices much; one that splices nothing feeds its tape through `step` from left to right.
-/

namespace TapeCalc

theorem Op.symbol_inj {op op' : Op} (h : op.symbol = op'.symbol) : op = op' := by
  have found := ofChar?_eq_some_iff.2 h
  rw [ofChar?_eq_some_iff.2 rfl] at found
  exact Option.some.inj found

/-- The text on top; any other value counts for none. -/
def Stack.topText (s : Stack) : Text :=
  match s.top? with
  | some (.text p) => p
  | _ => []

namespace Engine

variable {κ : Type}

/-- The text that the character `c` puts on the tape when it is carried out. -/
def splicedBy (c : Char) (s : Stack) : Text :=
  if c = Op.applyNow.symbol ∨ c = Op.applyLater.symbol then s.topText else []

def splicedText (e : Engine κ) : Text :=
  e.dispatched?.elim [] fun c => splicedBy c e.stack

theorem splicedBy_of_other {c : Char} (now : c ≠ Op.applyNow.symbol)
    (later : c ≠ Op.applyLater.symbol) (s : Stack) : splicedBy c s = [] :=
  if_neg (not_or.2 ⟨now, later⟩)

theorem length_spliced {put : Tape → Text → Tape}
    (grows : ∀ tape p, (put tape p).toText.length = tape.toText.length + p.length) (tape : Tape)
    (below : Stack) (v : Value) :
    (spliced put tape v).toText.length = tape.toText.length + (below.push v).topText.length := by
  cases v with
  | text p => exact grows tape p
  | int n | float x => rfl

theorem splice_tape_length {e e' : Engine κ} {op : Op} {put : Tape → Text → Tape}
    (grows : ∀ tape p, (put tape p).toText.length = tape.toText.length + p.length)
    (h : e.splice op put = .done e') :
    e'.tape.toText.length = e.tape.toText.length + e.stack.topText.length := by
  cases hs : e.stack with
  | empty => simp [splice, hs, Stack.pop] at h
  | push below v =>
      rw [splice_of_stack hs] at h
      cases h
      exact length_spliced grows e.tape below v

variable [Console κ]

theorem perform_tape (e : Engine κ) {op : Op} (now : op ≠ .applyNow) (later : op ≠ .applyLater) :
    (e.perform op).state.tape = e.tape := by
  have frame := perform_mapContext id (fun _ => e.tape) id e op now later
  have self : e.mapContext id (fun _ => e.tape) id = e := rfl
  rw [self] at frame
  rw [frame, Outcome.state_map]
  rfl

theorem perform_tape_length {e e' : Engine κ} {op : Op} (h : e.perform op = .done e') :
    e'.tape.toText.length = e.tape.toText.length + (splicedBy op.symbol e.stack).length := by
  by_cases now : op = .applyNow
  · subst now
    refine splice_tape_length ?_ h
    intro tape p
    rw [Ribbon.toText_putFront, List.length_append, Nat.add_comm]
  · by_cases later : op = .applyLater
    · subst later
      refine splice_tape_length ?_ h
      intro tape p
      rw [Ribbon.toText_putBack, List.length_append]
    · have kept := e.perform_tape now later
      rw [h] at kept
      rw [splicedBy_of_other (mt Op.symbol_inj now) (mt Op.symbol_inj later)]
      exact congrArg (fun tape => tape.toText.length) kept

theorem dispatch_tape_length {e e' : Engine κ} {c : Char} (h : e.dispatch c = .done e') :
    e'.tape.toText.length = e.tape.toText.length + (splicedBy c e.stack).length := by
  unfold dispatch at h
  split at h
  · rename_i r hr
    have other (op : Op) : c ≠ op.symbol := by
      rintro rfl
      rw [Register.ofChar?_symbol] at hr
      cases hr
    cases h
    rw [splicedBy_of_other (other _) (other _)]
    rfl
  · split at h
    · rename_i hop
      have other (op : Op) : c ≠ op.symbol := by
        rintro rfl
        rw [Op.ofChar?_eq_some_iff.2 rfl] at hop
        cases hop
      cases h
      rw [splicedBy_of_other (other _) (other _)]
      rfl
    · rename_i op hop
      obtain rfl := Op.ofChar?_eq_some_iff.1 hop
      split at h
      · cases h
      · exact perform_tape_length h

/-- A fetch takes one character off the tape and puts the spliced text on it. -/
theorem fetch?_tape_length {e e' : Engine κ} (h : e.fetch? = some (.done e')) :
    1 + e'.tape.toText.length = e.tape.toText.length + e.splicedText.length := by
  obtain ⟨c, rest, next, stepped⟩ := exists_step_of_fetch?_done h
  have shorter := congrArg List.length (Ribbon.toText_of_next? next)
  rw [List.length_cons] at shorter
  unfold step at stepped
  cases ha : e.mode.advance c e.stack with
  | error err => simp [ha] at stepped
  | ok progress =>
      simp only [ha] at stepped
      cases progress with
      | building mode s =>
          cases stepped
          have none : e.dispatched? = none := by simp [dispatched?, next, ha]
          simp [splicedText, none, shorter, Nat.add_comm]
      | command =>
          have dispatched := dispatched?_of_command next ha
          have grown : _ = rest.toText.length + (splicedBy c e.stack).length :=
            dispatch_tape_length stepped
          simp only [splicedText, dispatched, Option.elim]
          omega

/-- How much the first `n` fetches put on the tape. -/
def splicedLength : Nat → Engine κ → Nat
  | 0, _ => 0
  | n + 1, e =>
    e.splicedText.length + match e.fetch? with
      | some (.done e') => splicedLength n e'
      | _ => 0

theorem Fetches.tape_length {n : Nat} {e e' : Engine κ} (h : Fetches n e e') :
    n + e'.tape.toText.length = e.tape.toText.length + splicedLength n e := by
  induction h with
  | refl e => simp [splicedLength]
  | head first _ ih =>
      have taken := fetch?_tape_length first
      simp only [splicedLength, first]
      omega

theorem fetches_or_ends (n : Nat) (e : Engine κ) :
    (∃ e', Fetches n e e') ∨ ∃ m o, m ≤ n ∧ Ends m e o := by
  induction n generalizing e with
  | zero => exact .inl ⟨e, .refl e⟩
  | succ n ih =>
      cases hf : e.fetch? with
      | none => exact .inr ⟨0, _, Nat.zero_le _, .exhausted hf⟩
      | some o =>
          cases o with
          | failed err e₁ => exact .inr ⟨1, _, Nat.le_add_left 1 n, .fault hf⟩
          | done e₁ =>
              obtain ⟨e', fetches⟩ | ⟨m, o, le, ends⟩ := ih e₁
              · exact .inl ⟨e', .head hf fetches⟩
              · exact .inr ⟨m + 1, o, Nat.succ_le_succ le, .head hf ends⟩

/-- The spliced texts are the only fuel of a run. -/
theorem exists_ends_of_splicedLength_le {e : Engine κ} {bound : Nat}
    (bounded : ∀ n, splicedLength n e ≤ bound) :
    ∃ n o, n ≤ e.tape.toText.length + bound ∧ Ends n e o := by
  obtain ⟨e', fetches⟩ | ended := fetches_or_ends (e.tape.toText.length + bound) e
  · -- So many fetches leave no character.
    have law := fetches.tape_length
    have used := bounded (e.tape.toText.length + bound)
    have empty : e'.tape.toText = [] := List.eq_nil_of_length_eq_zero (by omega)
    have stop : e'.fetch? = none := by
      rw [fetch?_eq_none_iff, ← Ribbon.ofText_toText e'.tape, empty]
      rfl
    have ends := Ends.prepend fetches (.exhausted stop)
    exact ⟨_, _, Nat.le_refl _, ends⟩
  · exact ended

/-- Feed the characters of a text one after another, up to the first that fails. -/
def feed : Engine κ → Text → Outcome (Engine κ)
  | e, [] => .done e
  | e, c :: p =>
    match e.step c with
    | .done e' => feed e' p
    | .failed err e' => .failed err e'.discard

theorem dispatch_load {c : Char} (now : c ≠ Op.applyNow.symbol) (later : c ≠ Op.applyLater.symbol)
    (e : Engine κ) (p : Text) : (e.load p).dispatch c = (e.dispatch c).map (·.load p) := by
  simp only [dispatch]
  cases Register.ofChar? c with
  | some r => rfl
  | none =>
      cases hop : Op.ofChar? c with
      | none => rfl
      | some op =>
          rw [Op.ofChar?_eq_some_iff] at hop
          have checked : (e.load p).stack.require c op.arity = e.stack.require c op.arity := rfl
          simp only [checked]
          cases e.stack.require c op.arity with
          | error err => rfl
          | ok _ =>
              apply perform_mapContext id (fun _ => .ofText p) id e op
              · rintro rfl
                exact now hop
              · rintro rfl
                exact later hop

theorem step_load {c : Char} (now : c ≠ Op.applyNow.symbol) (later : c ≠ Op.applyLater.symbol)
    (e : Engine κ) (p : Text) : (e.load p).step c = (e.step c).map (·.load p) := by
  have advance : (e.load p).mode.advance c (e.load p).stack = e.mode.advance c e.stack := rfl
  simp only [step, advance]
  cases e.mode.advance c e.stack with
  | error err => rfl
  | ok progress =>
      cases progress with
      | building mode s => rfl
      | command => exact dispatch_load now later { e with mode := .execution } p

/-- A text without splices runs from left to right. -/
theorem halts_load_feed {p : Text} (now : Op.applyNow.symbol ∉ p) (later : Op.applyLater.symbol ∉ p)
    (e : Engine κ) : Halts (e.load p) (feed (e.load []) p) := by
  induction p generalizing e with
  | nil => exact halts_of_exhausted rfl
  | cons c p ih =>
      rw [List.mem_cons, not_or] at now later
      have next : (e.load (c :: p)).tape.next? = some (c, .ofText p) := rfl
      have stepped := step_load (Ne.symm now.1) (Ne.symm later.1) e
      cases hs : e.step c with
      | done e₁ =>
          have first : (e.load (c :: p)).fetch? = some (.done (e₁.load p)) := by
            rw [fetch?_done_iff next]
            exact (stepped p).trans (by rw [hs]; rfl)
          rw [feed, stepped, hs]
          exact (Reaches.single first).halts_iff.2 (ih now.2 later.2 e₁)
      | failed err e₁ =>
          have first : (e.load (c :: p)).fetch? = some (.failed err e₁.discard) := by
            rw [fetch?_failed_iff next]
            exact ⟨e₁.load p, (stepped p).trans (by rw [hs]; rfl), rfl⟩
          rw [feed, stepped, hs]
          exact halts_of_fault first

/-- No character of the tape is lost or doubled: those fetched and those pending are those of the
first tape and of the spliced texts. So a run that splices a bounded amount ends, within as many
fetches as there are characters to fetch, and a tape without splices is fed through `step` from
left to right. -/
theorem tape_conserved (e : Engine κ) :
    (∀ n e', Fetches n e e' →
      n + e'.tape.toText.length = e.tape.toText.length + splicedLength n e) ∧
    (∀ bound, (∀ n, splicedLength n e ≤ bound) →
      ∃ n o, n ≤ e.tape.toText.length + bound ∧ Ends n e o ∧ run n e = some o) ∧
    ('@' ∉ e.tape.toText → '\\' ∉ e.tape.toText →
      ∀ o, Halts e o ↔ o = feed (e.load []) e.tape.toText) := by
  refine ⟨fun _ _ => Fetches.tape_length, ?_, ?_⟩
  · intro bound bounded
    obtain ⟨n, o, le, ends⟩ := exists_ends_of_splicedLength_le bounded
    exact ⟨n, o, le, ends, run_of_ends ends⟩
  · intro now later o
    have fed := halts_load_feed now later e
    rw [load, Ribbon.ofText_toText] at fed
    constructor
    · intro halts
      exact halts.unique fed
    · rintro rfl
      exact fed

/-- Four characters and a spliced text of one, and a tape without splices whose second character
fails. -/
theorem tape_conserved_splice_and_fault : ∃ e₁ e₂ e' : Engine Script,
    e₁.tape = .ofText "(2)@".toList ∧ (∀ n, splicedLength n e₁ ≤ 1) ∧
      (∃ n o, n ≤ 5 ∧ Ends n e₁ o ∧ run n e₁ = some o) ∧
      e₂.tape = .ofText "7+(1)".toList ∧ e'.stack.values = [.int 7] ∧
      Halts e₂ (.failed (.underflow '+' 2 1) e') := by
  let e₁ : Engine Script := (boot .empty 'z' {}).load "(2)@".toList
  let e₂ : Engine Script := (boot .empty 'z' {}).load "7+(1)".toList
  let e' : Engine Script := { boot .empty 'z' {} with stack := .ofList [.int 7] }
  have bounded (n : Nat) : splicedLength n e₁ ≤ 1 := by
    -- The splice is the fourth fetch, and after the fifth there is none.
    match n with
    | 0 | 1 | 2 | 3 | 4 | 5 => decide +kernel
    | n + 6 => exact Nat.le_of_eq rfl
  have fed := (tape_conserved e₂).2.2 (by decide) (by decide) (.failed (.underflow '+' 2 1) e')
  exact ⟨e₁, e₂, e', rfl, bounded, (tape_conserved e₁).2.1 1 bounded, rfl, rfl, fed.2 rfl⟩

end Engine

end TapeCalc
