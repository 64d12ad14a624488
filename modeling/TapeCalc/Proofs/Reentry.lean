import Mathlib.Data.List.Infix
import TapeCalc.Proofs.Analysis
import TapeCalc.Proofs.LineValue
import TapeCalc.Proofs.ReadEval
import TapeCalc.Proofs.Silence

/-!
How the presets come back to their loops. A jump reads a register, drops the beginning of its text
and puts the rest in front of the tape; it does the same from any stack, with any text and for any
offset, also one beyond the end of the text. Two presets jump into themselves, each from within
its own body. The digits of the jump are part of the text that they point into, so it is shown
that they are the only ones written there, and that they give the place at which the body begins:
the place that the program itself comes to when its setup is through.
-/

namespace TapeCalc

def Text.endsInDigit (t : Text) : Bool :=
  t.getLast?.any Char.isDigit

/-- A number at the end of a text can be read off it, if what stands before ends in no digit. -/
theorem Text.append_ofNat_inj {s t : Text} {m n : Nat} (hs : s.endsInDigit = false)
    (ht : t.endsInDigit = false) (same : s ++ ofNat m = t ++ ofNat n) : m = n := by
  have read {u : Text} {k : Nat} (hu : u.endsInDigit = false) :
      (u ++ ofNat k).reverse.takeWhile Char.isDigit = (ofNat k).reverse := by
    rw [endsInDigit, ← List.head?_reverse, Option.any_eq_false] at hu
    rw [List.reverse_append]
    refine (span_append ?_ hu).1
    intro c member
    exact isDigit_of_mem_ofNat (List.mem_reverse.1 member)
  have numbers := (read hs).symm.trans ((congrArg _ (congrArg List.reverse same)).trans (read ht))
  rw [List.reverse_inj] at numbers
  rw [← Numeral.value_ofNat m, numbers, Numeral.value_ofNat]

theorem Text.drop_append_eq_iff {s t : Text} (nonempty : t ≠ []) {n : Nat} :
    (s ++ t).drop n = t ↔ n = s.length := by
  constructor
  · intro same
    have lengths := congrArg List.length same
    have positive := List.length_pos_iff.2 nonempty
    rw [List.length_drop, List.length_append] at lengths
    omega
  · rintro rfl
    exact List.drop_left

namespace Preset

open Engine

theorem silently_jump {κ : Type} [Console κ] {e : Engine κ} (outside : e.mode = .execution)
    {r : Register} {p : Text} (held : e.bank r = .text p) {offset : Nat} (small : offset < 2 ^ 63)
    (t : Text) : Silently (e.load (jump offset r ++ t)) (e.load (p.drop offset ++ t)) := by
  let k : Counted κ := ⟨e.console, 0⟩
  rw [load_eq_ready outside, load_eq_ready outside]
  exact silently_iff_counted.2 (reaches_jump held offset small e.stack k t)

/-- The jump behind `offset` characters of `r` is written in the program, quoted or not, with all
the digits of its offset. -/
def WritesJump (program : Text) (offset : Nat) (r : Register) : Prop :=
  ∃ before after : Text, program = before ++ jump offset r ++ after ∧ before.endsInDigit = false

theorem writesJump_jump (offset : Nat) (r : Register) : WritesJump (jump offset r) offset r :=
  ⟨[], [], by simp, rfl⟩

section Parts

variable {p : Text} {offset : Nat} {r : Register} (h : WritesJump p offset r)
include h

theorem WritesJump.followed (t : Text) : WritesJump (p ++ t) offset r := by
  obtain ⟨before, after, rfl, bounded⟩ := h
  exact ⟨before, after ++ t, by simp, bounded⟩

/-- No digit may come to stand before the offset. -/
theorem WritesJump.behind {s : Text} (ends : s.endsInDigit = false) :
    WritesJump (s ++ p) offset r := by
  obtain ⟨before, after, rfl, bounded⟩ := h
  refine ⟨s ++ before, after, by simp, ?_⟩
  rw [Text.endsInDigit, List.getLast?_append]
  cases inner : before.getLast? with
  | none => exact ends
  | some c =>
      rw [Text.endsInDigit, inner] at bounded
      exact bounded

end Parts

/-- The operators of a jump are not found in two places of the program. -/
def OneSeam (program : Text) : Prop :=
  ∃ rest, ∀ s ∈ program.tails, "-@".toList <+: s → s = rest

theorem WritesJump.exists_seam {program : Text} {offset : Nat} {r : Register}
    (h : WritesJump program offset r) :
    ∃ before after : Text,
      program = before ++ Text.ofNat offset ++ [r.letter] ++ ("-@".toList ++ after) ∧
        before.endsInDigit = false := by
  obtain ⟨before, after, rfl, bounded⟩ := h
  refine ⟨before, after, ?_, bounded⟩
  simp only [jump, List.append_assoc, List.cons_append, List.nil_append]

/-- A program in which the operators stand once writes no second jump. -/
theorem WritesJump.unique {program : Text} (single : OneSeam program) {m n : Nat}
    {r r' : Register} (h : WritesJump program m r) (h' : WritesJump program n r') :
    m = n ∧ r = r' := by
  obtain ⟨rest, single⟩ := single
  obtain ⟨before, after, split, bounded⟩ := h.exists_seam
  obtain ⟨before', after', split', bounded'⟩ := h'.exists_seam
  have seam {u v : Text} (split : program = u ++ ("-@".toList ++ v)) : "-@".toList ++ v = rest :=
    single _ ((List.mem_tails _ _).2 ⟨u, split.symm⟩) (List.prefix_append _ _)
  have same := split.symm.trans split'
  rw [seam split, seam split', List.append_left_inj] at same
  obtain ⟨numbers, letters⟩ := List.append_inj' same rfl
  refine ⟨Text.append_ofNat_inj bounded bounded' numbers, ?_⟩
  have named := congrArg Register.ofChar? (List.singleton_inj.1 letters)
  rw [Register.ofChar?_letter, Register.ofChar?_letter] at named
  exact Option.some.inj named

/-- A program that is run from its beginning once and from its body again and again. -/
structure Loop where
  register : Register
  setup : Text
  body : Text
  /-- What the setup makes of the stack and of a console that refuses nothing. -/
  prepare : Stack → Script → Stack × Script

namespace Loop

def program (l : Loop) : Text :=
  l.setup ++ l.body

def interactive : Loop where
  register := loopRegister
  setup := loopBanner
  body := loopBody
  prepare s k := (s, k.print banner)

def analysis : Loop where
  register := analysisRegister
  setup := analysisSetup
  body := analysisBody
  prepare s k :=
    ((Stack.ofList (.text k.nextValue.joinText :: (Figures.ofText []).values)).above s,
      k.dropLine.print greeting)

def all : List Loop :=
  [interactive, analysis]

/-- The only jump that the program writes leads to its body, and to no other place. The body is
what is left of the program when its setup has been carried out. -/
structure Aimed (l : Loop) : Prop where
  stored : bank l.register = .text l.program
  jump_iff : ∀ offset r, WritesJump l.program offset r ↔ offset = l.setup.length ∧ r = l.register
  body_iff : ∀ offset, l.program.drop offset = l.body ↔ offset = l.setup.length
  prepared : ∀ (bank : Bank) (s : Stack) (k : Script), k.Faultless →
    Reaches (ready bank s k l.program)
      (ready bank (l.prepare s k).1 (l.prepare s k).2 l.body)

theorem jump_iff_of_oneSeam {l : Loop} (written : WritesJump l.program l.setup.length l.register)
    (single : OneSeam l.program) (offset : Nat) (r : Register) :
    WritesJump l.program offset r ↔ offset = l.setup.length ∧ r = l.register := by
  constructor
  · intro h
    exact h.unique single written
  · rintro ⟨rfl, rfl⟩
    exact written

theorem writesJump_interactive :
    WritesJump interactive.program loopBanner.length loopRegister := by
  have jumps := (writesJump_jump loopBanner.length loopRegister).behind (s :=
    "(> )\"'()+1!_(1$(Goodbye!)\"".toList ++ newline ++ ")(@(Stack size: )\"#\"".toList ++ newline)
    (by decide +kernel)
  exact ((jumps.followed ")".toList).followed choose).behind (by decide +kernel)

theorem writesJump_analysis :
    WritesJump analysis.program analysisSetup.length analysisRegister := by
  have step : WritesJump analysisStep analysisSetup.length analysisRegister :=
    (writesJump_jump analysisSetup.length analysisRegister).behind (by decide +kernel)
  have quoted := step.behind (s := "1!_(".toList ++ analysisReport ++ ")(".toList)
    (by decide +kernel)
  exact ((quoted.followed ")".toList).followed choose).behind (by decide +kernel)

theorem aimed_interactive : interactive.Aimed where
  stored := rfl
  jump_iff := jump_iff_of_oneSeam writesJump_interactive ⟨"-@)c@".toList, by decide +kernel⟩
  body_iff _ := Text.drop_append_eq_iff (by decide)
  prepared bank s k sound := reaches_banner bank s sound

theorem aimed_analysis : analysis.Aimed where
  stored := rfl
  jump_iff := jump_iff_of_oneSeam writesJump_analysis ⟨"-@)c@".toList, by decide +kernel⟩
  body_iff _ := Text.drop_append_eq_iff (by decide)
  prepared bank s k sound :=
    (reaches_greeting bank s sound).trans (reaches_layout bank s (sound.print greeting))

theorem aimed_of_mem {l : Loop} (member : l ∈ all) : l.Aimed := by
  rw [all, List.mem_pair] at member
  obtain rfl | rfl := member
  · exact aimed_interactive
  · exact aimed_analysis

theorem length_setup_lt : ∀ l ∈ all, l.setup.length < 2 ^ 63 := by
  decide

end Loop

/-- A number, a register and `-@` go on with the text of the register, less as many characters as
the number says, and nothing else changes. The presets that jump into themselves jump to their
bodies, and so never back to their setups. -/
theorem jump_resumes {κ : Type} [Console κ] (e : Engine κ) (outside : e.mode = .execution)
    (t : Text) :
    (∀ (r : Register) (p : Text) (offset : Nat), e.bank r = .text p → offset < 2 ^ 63 →
      Silently (e.load (jump offset r ++ t)) (e.load (p.drop offset ++ t))) ∧
    ∀ l ∈ Loop.all, l.Aimed ∧
      ∀ offset r, WritesJump l.program offset r → e.bank r = .text l.program →
        Silently (e.load (jump offset r ++ t)) (e.load (l.body ++ t)) := by
  constructor
  · intro r p offset held small
    exact silently_jump outside held small t
  · intro l member
    have aimed := Loop.aimed_of_mem member
    refine ⟨aimed, ?_⟩
    intro offset r written held
    obtain ⟨rfl, rfl⟩ := (aimed.jump_iff offset r).1 written
    have jumped := silently_jump outside held (Loop.length_setup_lt l member) t
    rwa [(aimed.body_iff _).2 rfl] at jumped

/-- Offsets within a text and beyond its end, and the jumps of the two presets. -/
theorem jump_resumes_beyond_end : ∃ e : Engine Script,
    e.mode = .execution ∧ e.bank ⟨'q', rfl⟩ = .text "äbc".toList ∧
      Silently (e.load "2q-@+".toList) (e.load "c+".toList) ∧
      Silently (e.load "40q-@+".toList) (e.load "+".toList) ∧
      Silently (e.load "81a-@+".toList) (e.load (loopBody ++ ['+'])) ∧
      Silently (e.load "70b-@+".toList) (e.load (analysisBody ++ ['+'])) := by
  let q : Register := ⟨'q', rfl⟩
  let e : Engine Script := { ofPreset {} with bank := bank.set q (.text "äbc".toList) }
  obtain ⟨resumed, loops⟩ := jump_resumes e rfl ['+']
  have interactive := (loops .interactive (.head _)).2 _ _ Loop.writesJump_interactive rfl
  have analysis := (loops .analysis (.tail _ (.head _))).2 _ _ Loop.writesJump_analysis rfl
  exact ⟨e, rfl, rfl, resumed q _ 2 rfl (by decide), resumed q _ 40 rfl (by decide), interactive,
    analysis⟩

end Preset

end TapeCalc
