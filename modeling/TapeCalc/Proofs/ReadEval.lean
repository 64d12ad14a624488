import Mathlib.Logic.Relation
import TapeCalc.Proofs.Effect
import TapeCalc.Proofs.LineText
import TapeCalc.Proofs.Sequence

/-!
The preset that reads lines and executes them. It is a program of the language: it runs the line
in the middle of its own tape and re-enters itself behind its banner. `Session` is the loop that
it is meant to be, stated without a tape: print a prompt, read a line, stop if it is empty, and
else execute it, report the depth of the stack and begin again. The main statement says that the
program goes through the same sessions and ends in the same way, as long as no line spoils the
tape behind it.
-/

namespace TapeCalc

theorem toText_clampInt64 (n : Nat) :
    (Value.int (clampInt64 n)).toText = Text.ofNat (min n (2 ^ 63 - 1)) := by
  have least : Int64.minValue.toInt ≤ 0 := by decide
  have greatest : Int64.maxValue.toInt = ((2 ^ 63 - 1 : Nat) : Int) := rfl
  have cut : (clampInt64 n).toInt = ((min n (2 ^ 63 - 1) : Nat) : Int) := by
    rw [clampInt64, Int64.toInt_ofInt_of_le] <;> omega
  rw [Value.toText, cut]
  rfl

theorem Script.Later.faultless {k k' : Script} (h : k.Later k') (sound : k.Faultless) :
    k'.Faultless :=
  ⟨h.readFault.trans sound.1, h.writeFault.trans sound.2⟩

namespace Preset

open Engine

/-- What the loop has between two prompts. -/
structure Session where
  stack : Stack
  console : Script

namespace Session

variable (bank : Bank)

/-- What is read at the next prompt, joined to an empty text. At the end of the input it is
empty. -/
def line (s : Session) : Text :=
  s.console.nextValue.joinText

def answered (s : Session) : Script :=
  (s.console.print "> ".toList).dropLine

def Runs (s : Session) (o : Outcome (Engine Script)) : Prop :=
  Executes (ready bank s.stack s.answered []) s.line o

/-- What is reported after a line. A depth that no integer can hold is cut to the largest one. -/
def depthReport (s : Stack) : Text :=
  "Stack size: ".toList ++ Text.ofNat (min s.depth (2 ^ 63 - 1)) ++ ['\n']

/-- The line is not empty, it ends well, and the depth is reported. -/
def Turn (s s' : Session) : Prop :=
  s.line ≠ [] ∧ ∃ e, s.Runs bank (.done e) ∧
    s' = ⟨e.stack, e.console.print (depthReport e.stack)⟩

/-- How the loop ends: at an empty line, or with a line that fails. -/
inductive Ends : Session → Outcome Session → Prop
  | quit {s : Session} (empty : s.line = []) :
      Ends s (.done ⟨s.stack, s.answered.print "Goodbye!\n".toList⟩)
  | fault {s : Session} {err : RuntimeError} {e : Engine Script} (nonempty : s.line ≠ [])
      (failed : s.Runs bank (.failed err e)) : Ends s (.failed err ⟨e.stack, e.console⟩)
  | turn {s s' : Session} {o : Outcome Session} (first : s.Turn bank s') (rest : Ends s' o) :
      Ends s o

/-- The line that is read comes to an end, puts no text behind everything pending, and finishes
the text literals that it begins. -/
structure TameLine (s : Session) : Prop where
  ends : ∃ o, s.Runs bank o
  quiet : ∀ e, Reaches (ready bank s.stack s.answered s.line) e → e.appendsText = false
  closed : ∀ e, s.Runs bank (.done e) → ∀ depth, e.mode ≠ .string depth

/-- Every line that is executed from here on is tame. -/
def Tame (s : Session) : Prop :=
  ∀ s', Relation.ReflTransGen (Turn bank) s s' → s'.line ≠ [] → s'.TameLine bank

end Session

def banner : Text :=
  "Postfix calculator\nEnter a program per line, an empty line quits\n".toList

def bannerProgram : Program :=
  sayProgram "Postfix calculator".toList (by decide) ++ newlineProgram ++
    sayProgram "Enter a program per line, an empty line quits".toList (by decide) ++ newlineProgram

def promptProgram : Program :=
  sayProgram "> ".toList (by decide)

def quitProgram : Program :=
  ⟨some 1, .op .delete⟩ :: (sayProgram "Goodbye!".toList (by decide) ++ newlineProgram)

def shownProgram : Program :=
  ⟨none, .op .write⟩ :: newlineProgram

/-- What follows the line: the report of the depth, and the jump behind the banner. -/
def againProgram : Program :=
  sayProgram "Stack size: ".toList (by decide) ++ [⟨none, .op .depth⟩] ++ shownProgram ++
    jumpProgram loopBanner.length loopRegister ++ [⟨none, .op .applyNow⟩]

def resumeProgram : Program :=
  ⟨none, .op .applyNow⟩ :: againProgram

/-- The loop from the value that is read to its choice between stopping and going on. -/
def answerProgram : Program :=
  [⟨none, .quote [] Text.balanced_nil⟩, ⟨none, .op .add⟩, ⟨some 1, .op .copy⟩, ⟨none, .op .isFalsy⟩,
    ⟨none, .quote quitProgram.text quitProgram.balanced_text⟩,
    ⟨none, .quote resumeProgram.text resumeProgram.balanced_text⟩]

theorem text_bannerProgram : loopBanner = bannerProgram.text := by
  decide +kernel

theorem text_againProgram :
    againProgram.text = (sayProgram "Stack size: ".toList (by decide)).text ++
      Op.depth.symbol :: (shownProgram.text ++ jump loopBanner.length loopRegister) := by
  decide +kernel

theorem text_promptProgram :
    loopBody = promptProgram.text ++ Op.read.symbol :: (answerProgram.text ++ choose) := by
  decide +kernel

theorem eval?_bannerProgram (bank : Bank) (vs : List Value) :
    ∃ out, bannerProgram.eval? bank vs = some (vs, out) ∧ out.flatten = banner :=
  ⟨_, rfl, by decide⟩

theorem eval?_answerProgram (bank : Bank) (v : Value) (vs : List Value) :
    answerProgram.eval? bank (v :: vs) =
      some (.text resumeProgram.text :: .text quitProgram.text :: .flag v.joinText.isEmpty ::
        .text v.joinText :: vs, []) := by
  have joined : answerProgram.eval? bank (v :: vs) =
      Program.eval? bank (answerProgram.drop 2) (Value.add v .empty :: vs) :=
    (Program.eval?_cons_silent rfl).trans (Program.eval?_cons_silent rfl)
  rw [joined, Value.add_empty]
  rfl

theorem eval?_quitProgram (bank : Bank) (v : Value) (vs : List Value) :
    ∃ out, quitProgram.eval? bank (v :: vs) = some (vs, out) ∧
      out.flatten = "Goodbye!\n".toList :=
  ⟨_, rfl, by decide⟩

theorem eval?_shownProgram (bank : Bank) (v : Value) (vs : List Value) :
    shownProgram.eval? bank (v :: vs) = some (vs, [v.toText, ['\n']]) := rfl

theorem drop_interactiveLoop : interactiveLoop.drop loopBanner.length = loopBody :=
  List.drop_left

theorem reaches_banner (bank : Bank) (base : Stack) {k : Script} (sound : k.Faultless) :
    Reaches (ready bank base k interactiveLoop) (ready bank base (k.print banner) loopBody) := by
  obtain ⟨out, evaluated, printed⟩ := eval?_bannerProgram bank []
  have greeted := reaches_printing evaluated sound base loopBody
  rw [← text_bannerProgram, Stack.ofList_nil_above, printed] at greeted
  exact greeted

namespace Session

variable {bank : Bank} {s s' : Session}

theorem nextText_line (s : Session) : s.console.NextText s.line :=
  Script.nextText_iff.2 rfl

theorem line_eq_nil_iff :
    s.line = [] ↔ ∀ l ∈ s.console.lines.head?, ∀ c ∈ l, Text.isBlank c = true := by
  rw [← Script.nextText_nil_iff, Script.nextText_iff]
  exact eq_comm

theorem reaches_prompt (bank : Bank) (sound : s.console.Faultless) (t : Text) :
    Reaches (ready bank s.stack s.console (loopBody ++ t))
      (ready bank s.stack (s.console.print "> ".toList)
        (Op.read.symbol :: (answerProgram.text ++ (choose ++ t)))) := by
  have prompted := reaches_printing (p := promptProgram) (eval?_sayProgram bank _ _ []) sound
    s.stack (Op.read.symbol :: (answerProgram.text ++ choose) ++ t)
  rw [← List.append_assoc, ← text_promptProgram, Stack.ofList_nil_above, List.cons_append,
    List.append_assoc] at prompted
  exact prompted

/-- From the prompt to the choice: the line lies on top, and its emptiness has decided. -/
theorem reaches_answer (helper : bank conditionalRegister = .text conditional)
    (sound : s.console.Faultless) (t : Text) :
    Reaches (ready bank s.stack s.console (loopBody ++ t))
      (ready bank (s.stack.push (.text s.line)) s.answered
        ((if s.line.isEmpty then quitProgram.text else resumeProgram.text) ++ t)) := by
  have prompted := reaches_prompt bank sound t
  have read := reaches_read bank s.stack (sound.print "> ".toList)
    (answerProgram.text ++ (choose ++ t))
  have answered := reaches_program (k := s.answered)
    (eval?_answerProgram bank s.console.nextValue []) rfl s.stack (choose ++ t)
  have chosen := reaches_choose helper (.flag s.line.isEmpty) quitProgram.text resumeProgram.text
    [.text s.line] s.stack s.answered t
  rw [Stack.ofList_singleton_above] at answered
  rw [Value.isFalsy_flag, Stack.ofList_singleton_above] at chosen
  have branch (p q : Text) :
      (if !s.line.isEmpty then q else p) = if s.line.isEmpty then p else q := by
    cases s.line.isEmpty <;> rfl
  rw [branch] at chosen
  exact prompted.trans (read.trans (answered.trans chosen))

theorem reaches_quit (helper : bank conditionalRegister = .text conditional)
    (sound : s.console.Faultless) (empty : s.line = []) (t : Text) :
    Reaches (ready bank s.stack s.console (loopBody ++ t))
      (ready bank s.stack (s.answered.print "Goodbye!\n".toList) t) := by
  have answered := reaches_answer helper sound t
  obtain ⟨out, evaluated, printed⟩ := eval?_quitProgram bank (.text s.line) []
  have quitted := reaches_printing (k := s.answered) evaluated sound s.stack t
  rw [empty, List.isEmpty_nil, if_pos rfl] at answered
  rw [Stack.ofList_singleton_above, Stack.ofList_nil_above, printed, empty] at quitted
  exact answered.trans quitted

/-- A line that is not empty is spliced in front of the rest of the loop. -/
theorem reaches_line (helper : bank conditionalRegister = .text conditional)
    (sound : s.console.Faultless) (nonempty : s.line ≠ []) (t : Text) :
    Reaches (ready bank s.stack s.console (loopBody ++ t))
      ((ready bank s.stack s.answered s.line).followedBy (againProgram.text ++ t)) := by
  have answered := reaches_answer helper sound t
  have spliced := reaches_applyNow (e := ready bank (s.stack.push (.text s.line)) s.answered [])
    rfl rfl (againProgram.text ++ t)
  rw [List.isEmpty_eq_false_iff.2 nonempty, if_neg Bool.false_ne_true] at answered
  have inFront : (ready bank s.stack s.answered s.line).followedBy (againProgram.text ++ t) =
      ready bank s.stack s.answered (s.line ++ (againProgram.text ++ t)) :=
    load_followedBy (ready bank s.stack s.answered []) s.line (againProgram.text ++ t)
  rw [inFront]
  exact answered.trans spliced

/-- What follows the line, whatever number the line leaves unfinished. -/
theorem reaches_again {e : Engine Script} (own : e.bank loopRegister = .text interactiveLoop)
    (outside : ∀ depth, e.mode ≠ .string depth) (sound : e.console.Faultless) (t : Text) :
    Reaches (e.load (againProgram.text ++ t))
      (ready e.bank e.stack (e.console.print (depthReport e.stack)) (loopBody ++ t)) := by
  let rest := shownProgram.text ++ (jump loopBanner.length loopRegister ++ t)
  let label := "Stack size: ".toList
  let depth := Value.int (clampInt64 e.stack.depth)
  have quoted := reaches_action (a := .quote label (by decide)) outside
    (Stack.ofList_nil_above e.stack).symm rfl rfl ('"' :: Op.depth.symbol :: rest)
  have evaluated : Program.eval? e.bank [⟨none, .op .write⟩] [.text label] =
    some ([], [label]) := rfl
  have said := reaches_printing evaluated sound e.stack (Op.depth.symbol :: rest)
  have counted := reaches_depth e.bank e.stack (e.console.print label) rest
  have shown := reaches_printing (eval?_shownProgram e.bank depth []) (sound.print label) e.stack
    (jump loopBanner.length loopRegister ++ t)
  have jumped := reaches_jump own loopBanner.length (by decide) e.stack
    ((e.console.print label).print [depth.toText, ['\n']].flatten) t
  rw [Stack.ofList_nil_above] at said
  rw [Stack.ofList_singleton_above, Stack.ofList_nil_above] at shown
  rw [drop_interactiveLoop] at jumped
  have report : [depth.toText, ['\n']].flatten =
      Text.ofNat (min e.stack.depth (2 ^ 63 - 1)) ++ ['\n'] := by
    rw [← toText_clampInt64]
    rfl
  rw [Script.print_print, report, ← List.append_assoc] at jumped shown
  rw [text_againProgram, List.append_assoc, List.cons_append, List.append_assoc]
  exact quoted.trans (said.trans (counted.trans (shown.trans jumped)))

theorem Runs.later {o : Outcome (Engine Script)} (h : s.Runs bank o) :
    o.state.bank = bank ∧ s.answered.Later o.state.console :=
  Halts.precedes Script.respected_later (executes_iff_halts.1 h)

theorem reaches_turn (own : bank loopRegister = .text interactiveLoop)
    (helper : bank conditionalRegister = .text conditional) (sound : s.console.Faultless)
    (tame : s.TameLine bank) (turn : s.Turn bank s') :
    Reaches (ready bank s.stack s.console loopBody)
      (ready bank s'.stack s'.console loopBody) := by
  obtain ⟨nonempty, e, runs, rfl⟩ := turn
  have begun := reaches_line helper sound nonempty []
  obtain ⟨e', ⟨⟩, reaches, stop⟩ | ⟨_, _, _, ⟨⟩, _⟩ := (executes_iff_halts.1 runs).cases_last
  -- In front of the rest of the loop the line runs as it does alone.
  have resumed := reaches.followedBy againProgram.text tame.quiet
  rw [followedBy_of_next?_none _ stop] at resumed
  obtain ⟨rfl, later⟩ := runs.later
  have again := reaches_again own (tame.closed e runs) (later.faultless sound) []
  rw [List.append_nil, List.append_nil] at begun again
  exact begun.trans (resumed.trans again)

/-- A line that fails takes the rest of the loop with it. -/
theorem halts_of_failed (helper : bank conditionalRegister = .text conditional)
    (sound : s.console.Faultless) (tame : s.TameLine bank) (nonempty : s.line ≠ [])
    {err : RuntimeError} {e : Engine Script} (runs : s.Runs bank (.failed err e)) :
    Halts (ready bank s.stack s.console loopBody)
      (.failed err (ready bank e.stack e.console [])) := by
  obtain ⟨_, ⟨⟩, _⟩ | ⟨e₀, _, _, ⟨⟩, reaches, failed⟩ := (executes_iff_halts.1 runs).cases_last
  have begun := reaches_line helper sound nonempty []
  rw [List.append_nil, List.append_nil] at begun
  have failing := reaches.followedBy againProgram.text tame.quiet
  have failed' := fetch?_followedBy_failed againProgram.text failed (tame.quiet e₀ reaches)
  have emptied : e = ready bank e.stack e.console [] := by
    obtain ⟨same, _⟩ := runs.later
    obtain ⟨_, _, e₁, _, _, rfl⟩ := exists_step_of_fetch?_failed failed
    rw [← same]
    rfl
  rw [← emptied]
  exact (begun.trans failing).halts_iff.2 (halts_of_fault failed')

theorem Turn.faultless (turn : s.Turn bank s') (sound : s.console.Faultless) :
    s'.console.Faultless := by
  obtain ⟨_, e, runs, rfl⟩ := turn
  exact (runs.later.2.faultless sound).print _

theorem length_answered_lt (nonempty : s.line ≠ []) :
    s.answered.lines.length < s.console.lines.length := by
  cases lines : s.console.lines with
  | nil => exact absurd (line_eq_nil_iff.2 (by simp [lines])) nonempty
  | cons first rest => simp [answered, Script.dropLine, Script.print, lines]

/-- A turn takes its own line off the input, and its line can only take more. -/
theorem Turn.length_lines_lt (turn : s.Turn bank s') :
    s'.console.lines.length < s.console.lines.length := by
  obtain ⟨nonempty, e, runs, rfl⟩ := turn
  exact Nat.lt_of_le_of_lt runs.later.2.lines.length_le (length_answered_lt nonempty)

theorem Tame.of_turn (tame : s.Tame bank) (turn : s.Turn bank s') : s'.Tame bank :=
  fun s'' turns => tame s'' (.head turn turns)

theorem reaches_turns (own : bank loopRegister = .text interactiveLoop)
    (helper : bank conditionalRegister = .text conditional) (sound : s.console.Faultless)
    (tame : s.Tame bank) (turns : Relation.ReflTransGen (Turn bank) s s') :
    Reaches (ready bank s.stack s.console loopBody)
      (ready bank s'.stack s'.console loopBody) := by
  induction turns using Relation.ReflTransGen.head_induction_on with
  | refl => exact .refl _
  | @head s s₁ turn _ ih =>
      have first := reaches_turn own helper sound (tame s .refl turn.1) turn
      exact first.trans (ih (turn.faultless sound) (tame.of_turn turn))

theorem exists_ends (s : Session) (tame : s.Tame bank) : ∃ o, Ends bank s o := by
  -- Every turn uses up a line, and at the end of the input the line is empty.
  by_cases empty : s.line = []
  · exact ⟨_, .quit empty⟩
  · obtain ⟨o, runs⟩ := (tame s .refl empty).ends
    cases o with
    | failed err e => exact ⟨_, .fault empty runs⟩
    | done e =>
        have turn : s.Turn bank _ := ⟨empty, e, runs, rfl⟩
        obtain ⟨o, ends⟩ := exists_ends _ (tame.of_turn turn)
        exact ⟨o, .turn turn ends⟩
termination_by s.console.lines.length
decreasing_by exact turn.length_lines_lt

theorem Ends.halts (own : bank loopRegister = .text interactiveLoop)
    (helper : bank conditionalRegister = .text conditional) {o : Outcome Session}
    (ends : Ends bank s o) (sound : s.console.Faultless) (tame : s.Tame bank) :
    Halts (ready bank s.stack s.console loopBody)
      (o.map fun s => ready bank s.stack s.console []) := by
  induction ends with
  | quit empty =>
      have quitted := reaches_quit helper sound empty []
      rw [List.append_nil] at quitted
      exact quitted.halts_iff.2 (halts_of_exhausted rfl)
  | @fault s _ _ nonempty failed =>
      exact halts_of_failed helper sound (tame s .refl nonempty) nonempty failed
  | @turn s _ _ first _ ih =>
      have turned := reaches_turn own helper sound (tame s .refl first.1) first
      exact turned.halts_iff.2 (ih (first.faultless sound) (tame.of_turn first))

theorem tame_of_empty (empty : s.line = []) : s.Tame bank := by
  intro s' turns nonempty
  obtain rfl | ⟨_, turn, _⟩ := turns.cases_head
  · exact absurd empty nonempty
  · exact absurd empty turn.1

/-- A line whose run is known is followed by the one session that it leads to. -/
theorem tame_of_runs {e : Engine Script} (n : Nat) (runs : s.Runs bank (.done e))
    (quiet : holdsAlong (fun e => !e.appendsText) n (ready bank s.stack s.answered s.line) = true)
    (closed : ∀ depth, e.mode ≠ .string depth)
    (next : Tame bank ⟨e.stack, e.console.print (depthReport e.stack)⟩) : s.Tame bank := by
  intro s' turns nonempty
  obtain rfl | ⟨_, ⟨_, e', runs', rfl⟩, turns'⟩ := turns.cases_head
  · refine ⟨⟨_, runs⟩, ?_, ?_⟩
    · intro e' reaches
      simpa using holdsAlong_reaches (fun e => !e.appendsText) n quiet reaches
    · intro e' runs'
      cases Halts.unique runs runs'
      exact closed
  · cases Halts.unique runs runs'
    exact next s' turns' nonempty

end Session

end Preset

namespace Engine

open Preset

/-- The preset is a read-eval loop. After its banner it comes to the head of its body once for
every session that turns lead to, with the stack and the console of that session. The loop ends,
and the preset ends as the loop does. The line of a session is what the next line of its input
contributes to a text. -/
theorem executes_interactiveLoop (e : Engine Script)
    (own : e.bank loopRegister = .text interactiveLoop)
    (helper : e.bank conditionalRegister = .text conditional) (outside : e.mode = .execution)
    (sound : e.console.Faultless)
    (tame : Session.Tame e.bank ⟨e.stack, e.console.print banner⟩) :
    let start : Session := ⟨e.stack, e.console.print banner⟩
    (∀ s, Relation.ReflTransGen (Session.Turn e.bank) start s →
      Reaches (e.load interactiveLoop) (ready e.bank s.stack s.console loopBody)) ∧
    (∃ o, Session.Ends e.bank start o) ∧
    (∀ o, Session.Ends e.bank start o →
      Executes e interactiveLoop (o.map fun s => ready e.bank s.stack s.console [])) ∧
    ∀ s : Session, s.console.NextText s.line := by
  have begun := reaches_banner e.bank e.stack sound
  rw [← load_eq_ready outside] at begun
  have sound' := sound.print banner
  refine ⟨?_, Session.exists_ends _ tame, ?_, Session.nextText_line⟩
  · intro s turns
    exact begun.trans (Session.reaches_turns own helper sound' tame turns)
  · intro o ends
    exact executes_iff_halts.2 (begun.halts_iff.2 (ends.halts own helper sound' tame))

/-- The first line reads the second one and leaves a number unfinished, the third one uses it, and
the last one is the number zero. -/
theorem executes_interactiveLoop_read_within_line : ∃ e e' : Engine Script,
    e.console.lines = ["'2*7".toList, "21".toList, "+".toList, " +00".toList] ∧
      Session.Tame e.bank ⟨e.stack, e.console.print banner⟩ ∧
      Executes e interactiveLoop (.done e') ∧ e'.stack.values = [.int 0, .int 49] ∧
      e'.console.written = banner ++
        "> Stack size: 2\n> Stack size: 1\n> Stack size: 2\n> Goodbye!\n".toList := by
  let e : Engine Script :=
    ofPreset { lines := ["'2*7".toList, "21".toList, "+".toList, " +00".toList] }
  let s : Session := ⟨e.stack, e.console.print banner⟩
  let e₁ : Engine Script :=
    { ready e.bank (.ofList [.int 7, .int 42]) s.answered.dropLine [] with mode := .integer }
  have first : s.Runs e.bank (.done e₁) := ⟨4, rfl⟩
  let s₁ : Session := ⟨e₁.stack, e₁.console.print (Session.depthReport e₁.stack)⟩
  let e₂ : Engine Script := ready e.bank (.ofList [.int 49]) s₁.answered []
  have second : s₁.Runs e.bank (.done e₂) := ⟨1, rfl⟩
  let s₂ : Session := ⟨e₂.stack, e₂.console.print (Session.depthReport e₂.stack)⟩
  let e₃ : Engine Script :=
    { ready e.bank (.ofList [.int 0, .int 49]) s₂.answered [] with mode := .integer }
  have third : s₂.Runs e.bank (.done e₃) := ⟨1, rfl⟩
  let s₃ : Session := ⟨e₃.stack, e₃.console.print (Session.depthReport e₃.stack)⟩
  have last : s₃.line = [] := rfl
  have tame₂ : s₂.Tame e.bank :=
    Session.tame_of_runs 1 third rfl (fun _ => nofun) (Session.tame_of_empty last)
  have tame : s.Tame e.bank :=
    Session.tame_of_runs 4 first rfl (fun _ => nofun)
      (Session.tame_of_runs 1 second rfl (fun _ => nofun) tame₂)
  have ends : Session.Ends e.bank s _ :=
    .turn ⟨by decide, e₁, first, rfl⟩ (.turn ⟨by decide, e₂, second, rfl⟩
      (.turn ⟨by decide, e₃, third, rfl⟩ (.quit last)))
  have looped := executes_interactiveLoop e rfl rfl rfl ⟨rfl, rfl⟩ tame
  exact ⟨e, _, rfl, tame, looped.2.2.1 _ ends, rfl, by decide +kernel⟩

end Engine

end TapeCalc
