import TapeCalc.Proofs.Deferral
import TapeCalc.Proofs.History
import TapeCalc.Proofs.ReadEval

/-!
How the interactive preset ends. A line is a program in front of the rest of the loop, and what it
puts behind everything pending waits behind the loop. As long as the line does not end inside a
text literal, the rest of the loop reports the depth and prompts again, and the loop is left only
at an empty line. A literal that the line leaves open takes the rest of the loop in as text: no
report is made and no prompt printed.
-/

namespace TapeCalc

open Engine

namespace Preset.Session

variable (bank : Bank)

/-- The line that is read comes to its end with the engine `e`, and defers `p`. -/
def Finishes (s : Session) (e : Engine Script) (p : Text) : Prop :=
  Withholds (ready bank s.stack s.answered s.line) e p ∧ e.tape.next? = none

variable {bank} {s : Session} {e : Engine Script} {p : Text}

theorem Runs.exists_finishes {e' : Engine Script} (h : s.Runs bank (.done e')) :
    ∃ e p, s.Finishes bank e p := by
  have alone : Halts ((ready bank s.stack s.answered s.line).followedBy []) (.done e') := by
    rw [followedBy_nil]
    exact executes_iff_halts.1 h
  obtain ⟨e, p, withholds, stop, _⟩ := alone.withholds
  exact ⟨e, p, withholds, stop⟩

namespace Finishes

variable (h : s.Finishes bank e p)
include h

theorem reaches : Reaches (ready bank s.stack s.answered s.line) (e.followedBy p) := by
  have reaches := h.1.reaches []
  rw [followedBy_nil] at reaches
  exact reaches

theorem later : e.bank = bank ∧ s.answered.Later e.console :=
  h.reaches.precedes Script.respected_later

theorem fits : e.mode.Fits e.stack :=
  h.reaches.fits trivial

/-- Behind the line comes the rest of the loop, and then what is deferred. -/
theorem reaches_rest (helper : bank conditionalRegister = .text conditional)
    (sound : s.console.Faultless) (nonempty : s.line ≠ []) (t : Text) :
    Reaches (ready bank s.stack s.console (loopBody ++ t))
      (e.load (againProgram.text ++ (t ++ p))) := by
  have begun := reaches_line helper sound nonempty t
  have finished := h.1.reaches (againProgram.text ++ t)
  rw [followedBy_of_next?_none _ h.2, List.append_assoc] at finished
  exact begun.trans finished

theorem reaches_next (own : bank loopRegister = .text interactiveLoop)
    (helper : bank conditionalRegister = .text conditional) (sound : s.console.Faultless)
    (nonempty : s.line ≠ []) (outside : ∀ depth, e.mode ≠ .string depth) (t : Text) :
    Reaches (ready bank s.stack s.console (loopBody ++ t))
      (ready bank e.stack (e.console.print (depthReport e.stack)) (loopBody ++ (t ++ p))) := by
  have rest := h.reaches_rest helper sound nonempty t
  obtain ⟨rfl, later⟩ := h.later
  exact rest.trans (reaches_again own outside (later.faultless sound) (t ++ p))

/-- An unfinished literal takes in the rest of the loop, whose parentheses are balanced. -/
theorem reaches_unclosed (helper : bank conditionalRegister = .text conditional)
    (sound : s.console.Faultless) (nonempty : s.line ≠ []) {depth : Nat}
    (inside : e.mode = .string depth) (t : Text) :
    ∃ below w, e.stack = below.push (.text w) ∧
      Reaches (ready bank s.stack s.console (loopBody ++ t))
        (e.quoting below (w ++ againProgram.text) depth (.ofText (t ++ p))) := by
  have fits := h.fits
  rw [inside] at fits
  obtain ⟨positive, w, top, _, _⟩ := fits
  obtain ⟨below, stack⟩ := Stack.top?_eq_some_iff.1 top
  have rest := h.reaches_rest helper sound nonempty t
  have taken := e.reaches_unclosed below w positive againProgram.balanced_text (t ++ p)
  have self : e.load (againProgram.text ++ (t ++ p)) =
      e.quoting below w depth (.ofText (againProgram.text ++ (t ++ p))) := by
    rw [load, quoting, ← stack, ← inside]
  rw [self] at rest
  exact ⟨below, w, stack, rest.trans taken⟩

end Finishes

/-- A loop that ends well comes to a prompt with an empty line, or to one whose line leaves a text
literal open. -/
theorem exists_last_prompt (own : bank loopRegister = .text interactiveLoop)
    (helper : bank conditionalRegister = .text conditional) (s : Session) (t : Text)
    (sound : s.console.Faultless) {e' : Engine Script}
    (halts : Halts (ready bank s.stack s.console (loopBody ++ t)) (.done e')) :
    ∃ (s' : Session) (t' : Text),
      Reaches (ready bank s.stack s.console (loopBody ++ t))
        (ready bank s'.stack s'.console (loopBody ++ t')) ∧
      (s'.line = [] ∨
        s'.line ≠ [] ∧ ∃ e p depth, s'.Finishes bank e p ∧ e.mode = .string depth) := by
  -- A line that ends outside literals leads to a prompt with fewer lines to read.
  by_cases empty : s.line = []
  · exact ⟨s, t, .refl _, .inl empty⟩
  · have within := (reaches_line helper sound empty t).halts_iff.1 halts
    obtain ⟨e, p, withholds, stop, _⟩ := within.withholds
    have finishes : s.Finishes bank e p := ⟨withholds, stop⟩
    by_cases inside : ∃ depth, e.mode = .string depth
    · obtain ⟨depth, inside⟩ := inside
      exact ⟨s, t, .refl _, .inr ⟨empty, e, p, depth, finishes, inside⟩⟩
    · have outside := not_exists.1 inside
      have next := finishes.reaches_next own helper sound empty outside t
      have sound' := (finishes.later.2.faultless sound).print (depthReport e.stack)
      have fewer := Nat.lt_of_le_of_lt finishes.later.2.lines.length_le (length_answered_lt empty)
      obtain ⟨s', t', reaches, last⟩ :=
        exists_last_prompt own helper ⟨e.stack, e.console.print (depthReport e.stack)⟩ (t ++ p)
          sound' (next.halts_iff.1 halts)
      exact ⟨s', t', next.trans reaches, last⟩
termination_by s.console.lines.length

end Preset.Session

namespace Engine

open Preset

/-- The preset comes to a prompt in the session `s`, with `t` behind the loop, and prints it. -/
def Prompts (e : Engine Script) (s : Session) (t : Text) : Prop :=
  Reaches (e.load interactiveLoop) (ready e.bank s.stack s.console (loopBody ++ t)) ∧
    ∃ t', Reaches (e.load interactiveLoop)
      (ready e.bank s.stack (s.console.print "> ".toList) (Op.read.symbol :: t'))

section Prompts

variable {e : Engine Script} {s : Session} {t : Text}

theorem prompts_of_reaches (sound : s.console.Faultless)
    (h : Reaches (e.load interactiveLoop) (ready e.bank s.stack s.console (loopBody ++ t))) :
    e.Prompts s t :=
  ⟨h, _, h.trans (Session.reaches_prompt e.bank sound t)⟩

theorem Prompts.faultless (h : e.Prompts s t) (sound : e.console.Faultless) :
    s.console.Faultless :=
  (h.1.precedes Script.respected_later).2.faultless sound

theorem prompts_start (outside : e.mode = .execution) (sound : e.console.Faultless) :
    e.Prompts ⟨e.stack, e.console.print banner⟩ [] := by
  refine prompts_of_reaches (sound.print banner) ?_
  rw [load_eq_ready outside, List.append_nil]
  exact reaches_banner e.bank e.stack sound

theorem Prompts.next (h : e.Prompts s t) (own : e.bank loopRegister = .text interactiveLoop)
    (helper : e.bank conditionalRegister = .text conditional) (sound : e.console.Faultless)
    (nonempty : s.line ≠ []) {e₁ : Engine Script} {p : Text} (finishes : s.Finishes e.bank e₁ p)
    (outside : ∀ depth, e₁.mode ≠ .string depth) :
    e.Prompts ⟨e₁.stack, e₁.console.print (Session.depthReport e₁.stack)⟩ (t ++ p) := by
  have sound' := h.faultless sound
  refine prompts_of_reaches ((finishes.later.2.faultless sound').print _) ?_
  exact h.1.trans (finishes.reaches_next own helper sound' nonempty outside t)

theorem Prompts.quit (h : e.Prompts s t) (helper : e.bank conditionalRegister = .text conditional)
    (sound : e.console.Faultless) (empty : s.line = []) :
    Reaches (e.load interactiveLoop)
      (ready e.bank s.stack (s.answered.print "Goodbye!\n".toList) t) :=
  h.1.trans (Session.reaches_quit helper (h.faultless sound) empty t)

/-- With nothing behind the loop, an unfinished literal ends the run without another word. -/
theorem Prompts.executes_of_unclosed (h : e.Prompts s [])
    (helper : e.bank conditionalRegister = .text conditional) (sound : e.console.Faultless)
    (nonempty : s.line ≠ []) {e₁ : Engine Script} (finishes : s.Finishes e.bank e₁ [])
    {depth : Nat} (inside : e₁.mode = .string depth) :
    ∃ e', Executes e interactiveLoop (.done e') ∧ e'.console = e₁.console := by
  obtain ⟨below, w, _, taken⟩ :=
    finishes.reaches_unclosed helper (h.faultless sound) nonempty inside []
  exact ⟨_, (h.1.trans taken).halts_iff.2 (halts_of_exhausted rfl), rfl⟩

end Prompts

/-- How the preset goes on after a line, and how it ends. A line that comes to its end outside text
literals is followed by the report of the depth and a new prompt, whatever it defers. A run that
ends well has printed its farewell at an empty line, or has come to a line that leaves a literal
open; such a line, with nothing deferred, ends the run with no report, prompt or farewell. -/
theorem interactiveLoop_ends (e : Engine Script)
    (own : e.bank loopRegister = .text interactiveLoop)
    (helper : e.bank conditionalRegister = .text conditional) (outside : e.mode = .execution)
    (sound : e.console.Faultless) :
    e.Prompts ⟨e.stack, e.console.print banner⟩ [] ∧
    (∀ s t, e.Prompts s t → s.line ≠ [] →
      (∀ e', s.Runs e.bank (.done e') → ∃ e₁ p, s.Finishes e.bank e₁ p) ∧
      ∀ e₁ p, s.Finishes e.bank e₁ p →
        ((∀ depth, e₁.mode ≠ .string depth) →
          e.Prompts ⟨e₁.stack, e₁.console.print (Session.depthReport e₁.stack)⟩ (t ++ p)) ∧
        ((∃ depth, e₁.mode = .string depth) → t = [] → p = [] →
          ∃ e', Executes e interactiveLoop (.done e') ∧ e'.console = e₁.console)) ∧
    ∀ e', Executes e interactiveLoop (.done e') →
      ∃ s t, e.Prompts s t ∧
        (s.line = [] ∧
          Reaches (e.load interactiveLoop)
            (ready e.bank s.stack (s.answered.print "Goodbye!\n".toList) t) ∧
          (s.answered.print "Goodbye!\n".toList).written <+: e'.console.written ∨
        s.line ≠ [] ∧ ∃ e₁ p depth, s.Finishes e.bank e₁ p ∧ e₁.mode = .string depth) := by
  have start := prompts_start outside sound
  refine ⟨start, ?_, ?_⟩
  · intro s t prompts nonempty
    refine ⟨fun _ runs => runs.exists_finishes, ?_⟩
    intro e₁ p finishes
    refine ⟨prompts.next own helper sound nonempty finishes, ?_⟩
    rintro ⟨depth, inside⟩ rfl rfl
    exact prompts.executes_of_unclosed helper sound nonempty finishes inside
  · intro e' executes
    have halts := start.1.halts_iff.1 (executes_iff_halts.1 executes)
    obtain ⟨s, t, reaches, last⟩ :=
      Session.exists_last_prompt own helper _ [] (start.faultless sound) halts
    have arrived := start.1.trans reaches
    have sound' := (arrived.precedes Script.respected_later).2.faultless sound
    have prompts : e.Prompts s t := prompts_of_reaches sound' arrived
    refine ⟨s, t, prompts, ?_⟩
    obtain empty | unclosed := last
    · have quitted := prompts.quit helper sound empty
      have rest := quitted.halts_iff.1 (executes_iff_halts.1 executes)
      exact .inl ⟨empty, quitted, (rest.precedes Script.respected_later).2.written⟩
    · exact .inr unclosed

/-- The only line defers a text, which runs after the farewell. -/
theorem interactiveLoop_ends_deferring : ∃ (e e₁ e' : Engine Script) (s : Session),
    s.line = "7(2)\\".toList ∧ e.Prompts s [] ∧ s.Finishes e.bank e₁ "2".toList ∧
      e.Prompts ⟨e₁.stack, e₁.console.print "Stack size: 1\n".toList⟩ "2".toList ∧
      Executes e interactiveLoop (.done e') ∧ e'.stack.values = [.int 2, .int 7] ∧
      e'.console.written = banner ++ "> Stack size: 1\n> Goodbye!\n".toList := by
  let e : Engine Script := ofPreset { lines := ["7(2)\\".toList] }
  let s : Session := ⟨e.stack, e.console.print banner⟩
  let e₁ : Engine Script := ready e.bank (.ofList [.int 7]) s.answered []
  have finishes : s.Finishes e.bank e₁ "2".toList :=
    ⟨.head_quiet rfl rfl (.head_quiet rfl rfl (.head_quiet rfl rfl (.head_quiet rfl rfl
      (@Withholds.head _ _ _ e₁ e₁ [] rfl (.refl e₁))))), rfl⟩
  have looped := interactiveLoop_ends e rfl rfl rfl ⟨rfl, rfl⟩
  have again := ((looped.2.1 s [] looped.1 (by decide)).2 e₁ _ finishes).1 (fun _ => nofun)
  have report : Session.depthReport e₁.stack = "Stack size: 1\n".toList := by decide +kernel
  rw [report] at again
  -- The input is used up, so the next prompt is the last one.
  have quitted := again.quit rfl ⟨rfl, rfl⟩ rfl
  have ends : Executes e interactiveLoop (.done _) := quitted.halts_iff.2 ⟨1, rfl⟩
  exact ⟨e, e₁, _, s, rfl, looped.1, finishes, again, ends, rfl, by decide +kernel⟩

/-- A line that only opens a text literal: the run ends well behind the first prompt. -/
theorem interactiveLoop_ends_without_farewell : ∃ e e' : Engine Script,
    e = ofPreset { lines := ["(".toList] } ∧ Executes e interactiveLoop (.done e') ∧
      e'.console.written = banner ++ "> ".toList ∧
      ¬ "Goodbye!".toList <:+: e'.console.written ∧
      ¬ "Stack size:".toList <:+: e'.console.written := by
  let e : Engine Script := ofPreset { lines := ["(".toList] }
  let s : Session := ⟨e.stack, e.console.print banner⟩
  have prompts : e.Prompts s [] := prompts_start rfl ⟨rfl, rfl⟩
  have finishes : s.Finishes e.bank _ [] := ⟨.head_quiet rfl rfl (.refl _), rfl⟩
  obtain ⟨e', executes, silent⟩ :=
    prompts.executes_of_unclosed rfl ⟨rfl, rfl⟩ (by decide) finishes rfl
  have written : e'.console.written = banner ++ "> ".toList := by
    rw [silent]
    decide +kernel
  refine ⟨e, e', rfl, executes, written, ?_, ?_⟩
  · rw [written]
    decide +kernel
  · rw [written]
    decide +kernel

end Engine

end TapeCalc
