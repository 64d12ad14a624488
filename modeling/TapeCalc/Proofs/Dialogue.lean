import TapeCalc.Proofs.Conduct
import TapeCalc.Proofs.Exchange

/-!
The lines of a dialogue, one after another on a single engine. What a session has shown and
reported so far has no influence on what it does next, so two sessions at their prompts, with the
same stack, registers and waiting lines, can differ only in the mode that the last line has left.
A program has the same effect in both, unless it begins by growing a literal of an earlier line.
-/

namespace TapeCalc

/-- The two modes make the same of a program: they are the same, or they are outside text literals
and the program begins with a character that grows no number. -/
def Mode.AlikeFor (program : Text) (mode mode' : Mode) : Prop :=
  mode = mode' ∨ (∀ depth, mode ≠ .string depth) ∧ (∀ depth, mode' ≠ .string depth) ∧
    ∀ c ∈ program.head?, c.isDigit = false ∧ c ≠ '.'

namespace Engine

variable {κ κ' : Type} [Console κ] [Console κ'] {g : κ → κ'}

def mapConsole (g : κ → κ') (e : Engine κ) : Engine κ' :=
  e.exchange e.bank g

theorem fetch?_mapConsole (faithful : Console.Faithful g) (e : Engine κ) :
    (e.mapConsole g).fetch? = e.fetch?.map (Outcome.map (mapConsole g)) := by
  rw [mapConsole, fetch?_exchange faithful (fun _ _ => rfl)]
  cases hf : e.fetch? with
  | none => rfl
  | some o =>
      have kept : o.state.bank = e.bank := (precedes_fetch? Console.respected_true hf).1
      cases o with
      | done e' | failed err e' => simp [Outcome.map, mapConsole, ← kept, Outcome.state]

theorem stride?_mapConsole (faithful : Console.Faithful g) (e : Engine κ) :
    (e.mapConsole g).stride? = e.stride?.map (Outcome.map (mapConsole g)) := by
  have fetched := fetch?_mapConsole faithful e
  unfold stride?
  have mode : (e.mapConsole g).mode = e.mode := rfl
  have stack : (e.mapConsole g).stack = e.stack := rfl
  have tape : (e.mapConsole g).tape = e.tape := rfl
  simp only [mode, stack, tape]
  split
  · split
    · exact fetched
    · rfl
  · exact fetched

theorem stride?_of_outside {e : Engine κ} (outside : ∀ depth, e.mode ≠ .string depth) :
    e.stride? = e.fetch? := by
  unfold stride?
  split
  · rename_i depth _ _ mode _
    exact absurd mode (outside depth)
  · rfl

/-- After a number it makes no difference that there was one, if the tape does not go on with
it. -/
theorem stride?_of_ended {e : Engine κ} (outside : ∀ depth, e.mode ≠ .string depth) {c : Char}
    {rest : Tape} (next : e.tape.next? = some (c, rest)) (ends : c.isDigit = false ∧ c ≠ '.') :
    e.stride? = stride? { e with mode := .execution } := by
  have advance : e.mode.advance c e.stack = .ok (Mode.start c e.stack) :=
    Mode.advance_of_ended outside ends e.stack
  have execution : Mode.execution.advance c e.stack = .ok (Mode.start c e.stack) := rfl
  have stepped : step { e with tape := rest } c =
      step { e with tape := rest, mode := .execution } c := by
    cases started : Mode.start c e.stack with
    | building mode s => simp [step, advance, execution, started]
    | command => simp [step, advance, execution, started]
  have rested (depth : Nat) :
      ({ e with mode := .execution } : Engine κ).mode ≠ .string depth := by
    intro same
    cases same
  rw [stride?_of_outside outside, stride?_of_outside rested]
  simp only [fetch?, next, stepped]

end Engine

namespace Screen

/-- The screen on which `t` was shown before all else. -/
def after (t : Text) (k : Screen) : Screen :=
  { k with output := k.output.putFront t }

theorem shown_after (t : Text) (k : Screen) : (k.after t).shown = t ++ k.shown :=
  Ribbon.toText_putFront k.output t

theorem put_after (t : Text) (k : Screen) (u : Text) : (k.after t).put u = (k.put u).after t := by
  simp only [put, after, Ribbon.putBack_putFront]

theorem eq_after {k : Screen} (closed : k.midLine = false) (sound : k.Faultless) :
    k = after k.shown { lines := k.lines } := by
  obtain ⟨lines, output, midLine, readFault, writeFault⟩ := k
  obtain ⟨rfl, rfl⟩ := sound
  cases closed
  have same : output = Ribbon.empty.putFront output.toText := by
    apply Ribbon.ext
    rw [Ribbon.toText_putFront]
    exact (List.append_nil _).symm
  simp only [after, shown]
  exact congrArg (fun output => { lines := lines, output := output : Screen }) same

theorem finishLine_after (t : Text) (k : Screen) :
    (k.after t).finishLine = k.finishLine.after t := by
  have lineEnd : (k.after t).lineEnd = k.lineEnd := rfl
  rw [finishLine, finishLine, lineEnd, put_after]
  rfl

theorem faithful_after (t : Text) : Console.Faithful (after t) where
  readLine k := by
    obtain ⟨lines, output, midLine, readFault, writeFault⟩ := k
    cases readFault <;> cases lines <;> rfl
  write k u := by
    have refusal? (midLine : Bool) : refusal? { k.after t with midLine := midLine } u =
      refusal? { k with midLine := midLine } u := rfl
    have shown (midLine : Bool) : put { k.after t with midLine := midLine } u =
        after t (put { k with midLine := midLine } u) :=
      put_after t { k with midLine := midLine } u
    have line : (k.after t).midLine = k.midLine := rfl
    simp only [Console.write, write, line, refusal?, shown]
    split <;> rfl

end Screen

namespace Command.Session

/-- The session that has shown `t` and reported `u` before all else. -/
def after (t u : Text) (s : Session) : Session where
  engine := s.engine.mapConsole (Screen.after t)
  phase := s.phase
  errors := u ++ s.errors

section After

variable (lib : Library) (t u : Text) (s : Session)

theorem mapScreen_after {f : Screen → Screen} (h : ∀ k, f (k.after t) = (f k).after t) :
    (s.after t u).mapScreen f = (s.mapScreen f).after t u := by
  simp only [mapScreen, after, Engine.mapConsole, Engine.exchange, h]

theorem enter_after (phase : Phase) : (s.after t u).enter phase = (s.enter phase).after t u := by
  have same : (s.after t u).phase = s.phase := rfl
  unfold enter
  rw [same]
  rfl

theorem showing_after (text : Text) {f : Screen → Screen} (h : ∀ k, f (k.after t) = (f k).after t) :
    (s.after t u).showing text f = (s.showing text f).after t u := by
  have same : (s.after t u).engine.console.refusal? text = s.engine.console.refusal? text := rfl
  unfold showing
  rw [same]
  split
  · exact mapScreen_after t u s h
  · exact enter_after t u s _

theorem put_after (text : Text) : (s.after t u).put text = (s.put text).after t u :=
  showing_after t u s text fun k => k.put_after t text

theorem finishLine_after : (s.after t u).finishLine = s.finishLine.after t u :=
  showing_after t u s _ (Screen.finishLine_after t)

theorem putError_after (message : String) :
    (s.after t u).putError message = (s.putError message).after t u := by
  have same : (s.after t u).phase = s.phase := rfl
  unfold putError
  rw [same]
  cases h : s.phase <;> simp [after]

theorem putStack_after (display : Display) :
    (s.after t u).putStack lib display = (s.putStack lib display).after t u := by
  have stack : (s.after t u).engine.stack = s.engine.stack := rfl
  unfold putStack
  rw [stack]
  split
  · split
    · exact put_after t u s _
    · rw [putError_after, enter_after]
  · split
    · exact put_after t u s _
    · rfl

theorem endProgram_after (display : Display) (error : Option RuntimeError) :
    (s.after t u).endProgram lib display error = (s.endProgram lib display error).after t u := by
  cases error with
  | none | some err =>
      simp only [endProgram, finishLine_after, putStack_after, putError_after, enter_after]

theorem endLine_after (error : Option RuntimeError) :
    (s.after t u).endLine error = (s.endLine error).after t u := by
  have stack (s : Session) : (s.after t u).engine.stack = s.engine.stack := rfl
  cases error with
  | none | some err =>
      simp only [endLine, finishLine_after, Option.elim, putError_after, stack, put_after,
        enter_after]

theorem quit_after : (s.after t u).quit = s.quit.after t u := by
  simp only [quit, put_after, enter_after]

theorem respond_after (entry : Dialogue.Entry) :
    (s.after t u).respond entry = (s.respond entry).after t u := by
  cases entry with
  | blank => rfl
  | quit => exact quit_after t u s
  | stack | registers | ops | help | unknown line => exact put_after t u s _
  | clear => exact put_after t u { s with engine := s.engine.reset } _
  | program line => exact enter_after t u { s with engine := s.engine.load line } _

theorem takeLine_after : (s.after t u).takeLine lib = (s.takeLine lib).after t u := by
  have fault : (s.after t u).engine.console.readFault = s.engine.console.readFault := rfl
  have lines : (s.after t u).engine.console.lines = s.engine.console.lines := rfl
  unfold takeLine
  rw [fault, lines]
  split
  · rw [putError_after, enter_after]
  · exact quit_after t u s
  · rename_i raw rest _ _
    have taken := mapScreen_after t u s (f := fun k => { k with lines := rest }) fun _ => rfl
    simp only [taken]
    split
    · exact respond_after t u _ _
    · exact enter_after t u _ _

theorem advance_after {atEnd : Session → Option RuntimeError → Session}
    (h : ∀ s error, atEnd (after t u s) error = (atEnd s error).after t u) :
    (s.after t u).advance atEnd = (s.advance atEnd).after t u := by
  have strode : (s.after t u).engine.stride? = _ :=
    s.engine.stride?_mapConsole (Screen.faithful_after t)
  unfold advance
  rw [strode]
  cases s.engine.stride? with
  | none => exact h s none
  | some o =>
      cases o with
      | done e => rfl
      | failed err e => exact h { s with engine := e } (some err)

/-- What was shown and reported before makes no difference. -/
theorem tick_after : (s.after t u).tick lib = (s.tick lib).after t u := by
  have phase : (s.after t u).phase = s.phase := rfl
  unfold tick
  rw [phase]
  split
  · exact advance_after t u s fun s => endProgram_after lib t u s _
  · exact advance_after t u s fun s => s.endLine_after t u
  · exact takeLine_after lib t u s
  · rfl

end After

theorem ticks_after (lib : Library) (n : Nat) (t u : Text) (s : Session) :
    ticks lib n (s.after t u) = (ticks lib n s).after t u := by
  induction n generalizing s with
  | zero => rfl
  | succ n ih => rw [ticks, ticks, tick_after, ih]

/-- Since `s₁` and `s₂`, `t₁` and `t₂` have come to the same: the same stack, and the same texts
shown and reported. -/
structure SameEffect (s₁ s₂ t₁ t₂ : Session) : Prop where
  phase : t₁.phase = t₂.phase
  stack : t₁.engine.stack = t₂.engine.stack
  shown : ∃ out, t₁.shown = s₁.shown ++ out ∧ t₂.shown = s₂.shown ++ out
  errors : ∃ err, t₁.errors = s₁.errors ++ err ∧ t₂.errors = s₂.errors ++ err

theorem sameEffect_after (s₁ s₂ : Session) {t₁ t₂ : Session} (phase : t₁.phase = t₂.phase)
    (stack : t₁.engine.stack = t₂.engine.stack) (shown : t₁.shown = t₂.shown)
    (errors : t₁.errors = t₂.errors) :
    SameEffect s₁ s₂ (t₁.after s₁.shown s₁.errors) (t₂.after s₂.shown s₂.errors) where
  phase := phase
  stack := stack
  shown := ⟨t₁.shown, Screen.shown_after _ _, shown ▸ Screen.shown_after _ _⟩
  errors := ⟨t₁.errors, rfl, errors ▸ rfl⟩

/-- A session about to run a program of the dialogue, with nothing shown so far. -/
def begun (stack : Stack) (bank : Bank) (mode : Mode) (program : Text) (rest : List Text) :
    Session where
  engine :=
    { stack := stack, bank := bank, tape := .ofText program, mode := mode
      console := { lines := rest } }
  phase := .dialogue

section Program

variable {lib : Library} {s : Session} {raw program : Text} {rest : List Text}

theorem tick_of_program (prompt : s.phase = .prompt) (settled : s.Settled) (sound : s.Sound)
    (lines : s.engine.console.lines = raw :: rest)
    (entry : lib.entry? raw = some (.program program)) :
    s.tick lib = (begun s.engine.stack s.engine.bank s.engine.mode program rest).after
      s.shown s.errors := by
  have screen : ({ s.engine.console with lines := rest } : Screen) =
      Screen.after s.shown { lines := rest } :=
    Screen.eq_after (k := { s.engine.console with lines := rest }) (settled prompt).1 sound
  rw [tick_of_entry sound prompt lines entry]
  simp only [mapScreen, screen, after, begun, List.append_nil]
  rfl

theorem ne_nil_of_program (entry : lib.entry? raw = some (.program program)) :
    program ≠ [] := by
  obtain ⟨line, _, entry⟩ := Option.map_eq_some_iff.1 entry
  by_cases empty : line.trim = []
  · simp [Dialogue.Entry.ofLine, empty] at entry
  · unfold Dialogue.Entry.ofLine at entry
    dsimp only at entry
    iterate 8
      split at entry
      · cases entry
    cases entry
    exact empty

theorem tick_begun_of_outside (stack : Stack) (bank : Bank) {mode : Mode}
    (outside : ∀ depth, mode ≠ .string depth) {c : Char} (ends : c.isDigit = false ∧ c ≠ '.')
    (program : Text) (rest : List Text) :
    (begun stack bank mode (c :: program) rest).tick lib =
      (begun stack bank .execution (c :: program) rest).tick lib := by
  let s := begun stack bank mode (c :: program) rest
  let s' := begun stack bank .execution (c :: program) rest
  have strode : s.engine.stride? = s'.engine.stride? :=
    Engine.stride?_of_ended (e := s.engine) outside (Ribbon.next?_ofText_cons c program) ends
  have rested (depth : Nat) : s'.engine.mode ≠ .string depth := nofun
  change s.advance endLine = s'.advance endLine
  unfold advance
  rw [strode, Engine.stride?_of_outside rested]
  cases fetched : s'.engine.fetch? with
  | none => cases Engine.fetch?_eq_none_iff.1 fetched
  | some o => cases o <;> rfl

variable (lib) in
theorem tick_begun (stack : Stack) (bank : Bank) {mode mode' : Mode}
    (alike : mode.AlikeFor program mode') (nonempty : program ≠ []) (rest : List Text) :
    (begun stack bank mode program rest).tick lib =
      (begun stack bank mode' program rest).tick lib := by
  obtain rfl | ⟨outside, outside', ends⟩ := alike
  · rfl
  · cases program with
    | nil => exact absurd rfl nonempty
    | cons c program =>
        have ends : c.isDigit = false ∧ c ≠ '.' := ends c rfl
        rw [tick_begun_of_outside stack bank outside ends,
          tick_begun_of_outside stack bank outside' ends]

end Program

/-- A program typed at the prompt has the same effect after any two histories that leave the same
stack, the same registers and the same lines to be read, unless it begins by growing a literal
that one of them has left unfinished. The two sessions go on tick by tick to the same stack, show
the same and report the same errors. -/
theorem dialogue_line_independent {lib : Library} {s₁ s₂ : Session}
    (conducted₁ : Conducted lib s₁) (conducted₂ : Conducted lib s₂)
    (prompt₁ : s₁.phase = .prompt) (prompt₂ : s₂.phase = .prompt)
    (stack : s₁.engine.stack = s₂.engine.stack) (bank : s₁.engine.bank = s₂.engine.bank)
    {raw program : Text} {rest : List Text} (lines₁ : s₁.engine.console.lines = raw :: rest)
    (lines₂ : s₂.engine.console.lines = raw :: rest)
    (entry : lib.entry? raw = some (.program program))
    (alike : s₁.engine.mode.AlikeFor program s₂.engine.mode) (n : Nat) :
    SameEffect s₁ s₂ (ticks lib n s₁) (ticks lib n s₂) := by
  have first₁ := tick_of_program prompt₁ conducted₁.settled conducted₁.sound lines₁ entry
  have first₂ := tick_of_program prompt₂ conducted₂.settled conducted₂.sound lines₂ entry
  rw [← stack, ← bank] at first₂
  match n with
  | 0 => exact ⟨prompt₁.trans prompt₂.symm, stack, ⟨[], by simp [ticks]⟩, ⟨[], by simp [ticks]⟩⟩
  | 1 =>
      rw [ticks, ticks, ticks, ticks, first₁, first₂]
      exact sameEffect_after s₁ s₂ rfl rfl rfl rfl
  | n + 2 =>
      have second := tick_begun lib s₁.engine.stack s₁.engine.bank alike
        (ne_nil_of_program entry) rest
      simp only [ticks, first₁, first₂, tick_after, ticks_after, second]
      exact sameEffect_after s₁ s₂ rfl rfl rfl rfl

/-- After a number that may still grow and after the same number finished, a line that begins with
an operator. -/
theorem dialogue_line_independent_after_number : ∃ s₁ s₂ : Session,
    Conducted .process s₁ ∧ Conducted .process s₂ ∧
    s₁.phase = .prompt ∧ s₂.phase = .prompt ∧ s₁.engine.mode = .integer ∧
    s₂.engine.mode = .execution ∧ s₁.engine.stack = s₂.engine.stack ∧
    s₁.engine.bank = s₂.engine.bank ∧ (ticks .process 3 s₁).phase = .prompt ∧
    (ticks .process 3 s₁).engine.stack.values = [.int (-12)] ∧
    ∀ n, SameEffect s₁ s₂ (ticks .process n s₁) (ticks .process n s₂) := by
  obtain ⟨s₁, built₁⟩ : ∃ s, s = ticks .process 4 (typing "12\n".toList "~\n".toList) := ⟨_, rfl⟩
  obtain ⟨s₂, built₂⟩ : ∃ s, s = ticks .process 5 (typing "12;\n".toList "~\n".toList) := ⟨_, rfl⟩
  have conducted₁ : Conducted .process s₁ := built₁ ▸ (conducted_typing _ _ _).ticks 4
  have conducted₂ : Conducted .process s₂ := built₂ ▸ (conducted_typing _ _ _).ticks 5
  have prompt₁ : s₁.phase = .prompt := built₁ ▸ rfl
  have prompt₂ : s₂.phase = .prompt := built₂ ▸ rfl
  have mode₁ : s₁.engine.mode = .integer := built₁ ▸ rfl
  have mode₂ : s₂.engine.mode = .execution := built₂ ▸ rfl
  have stack : s₁.engine.stack = s₂.engine.stack := built₁ ▸ built₂ ▸ rfl
  have bank : s₁.engine.bank = s₂.engine.bank := built₁ ▸ built₂ ▸ rfl
  have lines₁ : s₁.engine.console.lines = ["~\n".toList] := built₁ ▸ rfl
  have lines₂ : s₂.engine.console.lines = ["~\n".toList] := built₂ ▸ rfl
  have entry : Library.process.entry? "~\n".toList = some (.program ['~']) := rfl
  have alike : s₁.engine.mode.AlikeFor ['~'] s₂.engine.mode := by
    rw [mode₁, mode₂]
    refine .inr ⟨fun _ => nofun, fun _ => nofun, ?_⟩
    rintro _ ⟨⟩
    decide
  have ends : (ticks .process 3 s₁).phase = .prompt := built₁ ▸ rfl
  have result : (ticks .process 3 s₁).engine.stack.values = [.int (-12)] := built₁ ▸ rfl
  exact ⟨s₁, s₂, conducted₁, conducted₂, prompt₁, prompt₂, mode₁, mode₂, stack, bank, ends, result,
    dialogue_line_independent conducted₁ conducted₂ prompt₁ prompt₂ stack bank lines₁ lines₂ entry
      alike⟩

/-- The digits of a line grow the number that the line before has left unfinished. -/
theorem dialogue_line_extends_number : ∃ s₁ s₂ : Session,
    Conducted .process s₁ ∧ Conducted .process s₂ ∧
    s₁.phase = .prompt ∧ s₂.phase = .prompt ∧ s₁.engine.stack = s₂.engine.stack ∧
    s₁.engine.bank = s₂.engine.bank ∧ s₁.engine.console.lines = ["3\n".toList] ∧
    s₂.engine.console.lines = ["3\n".toList] ∧
    Library.process.entry? "3\n".toList = some (.program ['3']) ∧
    (ticks .process 3 s₁).phase = .prompt ∧
    (ticks .process 3 s₁).engine.stack.values = [.int 123] ∧
    (ticks .process 3 s₂).phase = .prompt ∧
    (ticks .process 3 s₂).engine.stack.values = [.int 3, .int 12] := by
  obtain ⟨s₁, built₁⟩ : ∃ s, s = ticks .process 4 (typing "12\n".toList "3\n".toList) := ⟨_, rfl⟩
  obtain ⟨s₂, built₂⟩ : ∃ s, s = ticks .process 5 (typing "12;\n".toList "3\n".toList) := ⟨_, rfl⟩
  have conducted₁ : Conducted .process s₁ := built₁ ▸ (conducted_typing _ _ _).ticks 4
  have conducted₂ : Conducted .process s₂ := built₂ ▸ (conducted_typing _ _ _).ticks 5
  exact ⟨s₁, s₂, conducted₁, conducted₂, built₁ ▸ rfl, built₂ ▸ rfl, built₁ ▸ built₂ ▸ rfl,
    built₁ ▸ built₂ ▸ rfl, built₁ ▸ rfl, built₂ ▸ rfl, rfl, built₁ ▸ rfl, built₁ ▸ rfl,
    built₂ ▸ rfl, built₂ ▸ rfl⟩

end Command.Session

end TapeCalc
