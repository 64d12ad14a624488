import TapeCalc.Command.Job
import TapeCalc.Proofs.Effect
import TapeCalc.Proofs.History

/-!
How sessions go on while the streams of the process work. Nothing that a session does breaks its
streams, so what is to be shown is shown. A dialogue that is opened, typed to and ticked in any
order comes back to its prompt with the line of output ended.
-/

namespace TapeCalc

/-- Nothing, or a text that ends its last line. -/
def Text.AtLineStart (t : Text) : Prop :=
  ∀ c ∈ t.getLast?, c = '\n'

instance (t : Text) : Decidable t.AtLineStart :=
  Option.decidableForallMem t.getLast?

theorem Text.atLineStart_nil : AtLineStart [] :=
  nofun

theorem Text.atLineStart_append (s : Text) {t : Text} (nonempty : t ≠ []) :
    AtLineStart (s ++ t) ↔ AtLineStart t := by
  obtain ⟨u, c, rfl⟩ := (List.eq_nil_or_concat t).resolve_left nonempty
  simp [AtLineStart, List.getLast?_append]

theorem Text.AtLineStart.append {s t : Text} (hs : s.AtLineStart) (ht : t.AtLineStart) :
    (s ++ t).AtLineStart := by
  by_cases empty : t = []
  · rwa [empty, List.append_nil]
  · exact (atLineStart_append s empty).2 ht

theorem Text.atLineStart_flatMap {α : Type} {xs : List α} {f : α → Text}
    (h : ∀ x, (f x).AtLineStart) : AtLineStart (xs.flatMap f) := by
  induction xs with
  | nil => exact atLineStart_nil
  | cons x xs ih =>
      rw [List.flatMap_cons]
      exact (h x).append ih

theorem Command.line_ne_nil (t : Text) : line t ≠ [] := by
  simp [line]

theorem Command.atLineStart_line (t : Text) : (line t).AtLineStart := by
  simp [line, Text.AtLineStart]

namespace Screen

theorem shown_finishLine (k : Screen) : k.finishLine.shown = k.shown ++ k.lineEnd :=
  Ribbon.toText_putBack _ _

/-- Neither reading nor writing is refused. -/
def Faultless (k : Screen) : Prop :=
  k.readFault = none ∧ k.writeFault = none

theorem refusal?_of_works {k : Screen} (works : k.writeFault = none) (text : Text) :
    k.refusal? text = none := by
  rw [refusal?, works, ite_self]

/-- Using a screen neither breaks its streams nor mends them. -/
theorem respected_faults : Console.Respected fun k k' : Screen =>
    k'.readFault = k.readFault ∧ k'.writeFault = k.writeFault where
  refl _ := ⟨rfl, rfl⟩
  trans := fun h h' => ⟨h'.1.trans h.1, h'.2.trans h.2⟩
  readLine k := by
    simp only [Console.readLine, readLine]
    split
    · exact ⟨rfl, rfl⟩
    · split <;> exact ⟨rfl, rfl⟩
  write k text := by
    simp only [Console.write, write]
    split <;> exact ⟨rfl, rfl⟩

end Screen

namespace Command.Session

def shown (s : Session) : Text :=
  s.engine.console.shown

def ticks (lib : Library) : Nat → Session → Session
  | 0, s => s
  | n + 1, s => ticks lib n (s.tick lib)

/-- Both streams of the process work. -/
def Sound (s : Session) : Prop :=
  s.engine.console.Faultless

theorem phase_enter (s : Session) (phase : Phase) :
    (s.enter phase).phase = phase ∨ ∃ code, (s.enter phase).phase = .ended code := by
  unfold enter
  dsimp only
  split
  · exact .inr ⟨_, rfl⟩
  · exact .inl rfl

theorem phase_enter_ne_prompt (s : Session) {phase : Phase} (other : phase ≠ .prompt) :
    (s.enter phase).phase ≠ .prompt := by
  obtain same | ⟨code, ended⟩ := s.phase_enter phase
  · rwa [same]
  · rw [ended]
    nofun

theorem enter_of_ne_ended {s : Session} (going : ∀ code, s.phase ≠ .ended code) (phase : Phase) :
    s.enter phase = { s with phase := phase } := by
  unfold enter
  congr
  split
  · rename_i code ended
    exact absurd ended (going code)
  · rfl

section Works

variable {s : Session} (works : s.engine.console.writeFault = none)
include works

theorem showing_eq (text : Text) (f : Screen → Screen) : s.showing text f = s.mapScreen f := by
  rw [showing, Screen.refusal?_of_works works]

theorem put_eq (text : Text) : s.put text = s.mapScreen fun k => k.put text :=
  showing_eq works text _

theorem finishLine_eq : s.finishLine = s.mapScreen Screen.finishLine :=
  showing_eq works _ _

theorem shown_put (text : Text) : (s.put text).shown = s.shown ++ text := by
  rw [put_eq works]
  exact Ribbon.toText_putBack _ _

end Works

namespace Sound

variable {s : Session} (sound : s.Sound)
include sound

theorem enter (phase : Phase) : (s.enter phase).Sound :=
  sound

theorem putError (message : String) : (s.putError message).Sound :=
  sound

theorem put (text : Text) : (s.put text).Sound := by
  rw [put_eq sound.2]
  exact sound

theorem finishLine : s.finishLine.Sound := by
  rw [finishLine_eq sound.2]
  exact sound

theorem quit : s.quit.Sound :=
  (sound.put _).enter _

theorem respond (entry : Dialogue.Entry) : (s.respond entry).Sound := by
  cases entry with
  | blank => exact sound
  | quit => exact sound.quit
  | stack | registers | ops | help | unknown line => exact sound.put _
  | clear => exact put (s := { s with engine := s.engine.reset }) sound _
  | program line => exact enter (s := { s with engine := s.engine.load line }) sound _

theorem putStack (lib : Library) (display : Display) : (s.putStack lib display).Sound := by
  unfold Session.putStack
  split
  · split
    · exact sound.put _
    · exact (sound.putError _).enter _
  · split
    · exact sound.put _
    · exact sound

theorem endProgram (lib : Library) (display : Display) (error : Option RuntimeError) :
    (s.endProgram lib display error).Sound := by
  have shown := sound.finishLine.putStack lib display
  cases error with
  | none => exact shown.enter _
  | some err => exact (shown.putError _).enter _

theorem endLine (error : Option RuntimeError) : (s.endLine error).Sound := by
  cases error with
  | none => exact (sound.finishLine.put _).enter _
  | some err => exact ((sound.finishLine.putError _).put _).enter _

/-- A stride uses the console only by reading and writing. -/
theorem of_stride? {o : Outcome (Engine Screen)} (strode : s.engine.stride? = some o) :
    Sound { s with engine := o.state } := by
  have kept : o.state.console.readFault = s.engine.console.readFault ∧
      o.state.console.writeFault = s.engine.console.writeFault := by
    obtain single | ⟨n, e, stride, fetches⟩ := s.engine.stride?_cases
    · rw [single] at strode
      exact (Engine.precedes_fetch? Screen.respected_faults strode).2
    · rw [stride] at strode
      cases strode
      have reaches : Engine.Reaches s.engine e := ⟨n + 1, fetches⟩
      exact (reaches.precedes Screen.respected_faults).2
  exact ⟨kept.1.trans sound.1, kept.2.trans sound.2⟩

theorem advance {atEnd : Session → Option RuntimeError → Session}
    (ends : ∀ {s : Session}, s.Sound → ∀ error, (atEnd s error).Sound) :
    (s.advance atEnd).Sound := by
  unfold Session.advance
  split
  · exact ends sound none
  · rename_i e strode
    exact sound.of_stride? strode
  · rename_i err e strode
    exact ends (sound.of_stride? strode) (some err)

theorem takeLine (lib : Library) : (s.takeLine lib).Sound := by
  unfold Session.takeLine
  split
  · exact (sound.putError _).enter _
  · exact sound.quit
  · rename_i raw rest _ _
    have taken : (s.mapScreen fun k => { k with lines := rest }).Sound := sound
    dsimp only
    split
    · exact taken.respond _
    · exact taken.enter _

theorem tick (lib : Library) : (s.tick lib).Sound := by
  unfold Session.tick
  split
  · exact sound.advance fun sound error => sound.endProgram lib _ error
  · exact sound.advance fun sound error => sound.endLine error
  · exact sound.takeLine lib
  · exact sound

end Sound

theorem takeLine_of_entry {lib : Library} {s : Session} {raw : Text} {rest : List Text}
    (sound : s.Sound) (lines : s.engine.console.lines = raw :: rest) {entry : Dialogue.Entry}
    (typed : lib.entry? raw = some entry) :
    s.takeLine lib = (s.mapScreen fun k => { k with lines := rest }).respond entry := by
  unfold takeLine
  split
  · rename_i broken
    cases broken.symm.trans sound.1
  · rename_i none
    cases lines.symm.trans none
  · rename_i same
    cases lines.symm.trans same
    simp only [typed]

/-- A program typed at the prompt is put on the tape, and nothing else happens. -/
theorem tick_of_entry {lib : Library} {s : Session} {raw program : Text} {rest : List Text}
    (sound : s.Sound) (prompt : s.phase = .prompt) (lines : s.engine.console.lines = raw :: rest)
    (entry : lib.entry? raw = some (.program program)) :
    let waiting := s.mapScreen fun k => { k with lines := rest }
    s.tick lib = { waiting with engine := waiting.engine.load program, phase := .dialogue } := by
  intro waiting
  have going (code : Nat) : waiting.phase ≠ .ended code := by
    intro ended
    cases prompt.symm.trans ended
  simp only [tick, prompt]
  rw [takeLine_of_entry sound lines entry, respond]
  refine (enter_of_ne_ended ?_ .dialogue).trans rfl
  exact going

/-- Sessions of a dialogue: it is opened under some configuration, and then lines are typed and
ticks are made in any order. -/
inductive Conducted (lib : Library) : Session → Prop
  | opened {config : Config} {e : Engine Screen}
      (accepted : Engine.ofConfig config ({} : Screen) = .ok e) : Conducted lib (ofDialogue e)
  | typed {s : Session} (before : Conducted lib s) (line : Text) :
      Conducted lib (s.mapScreen fun k => k.addLine line)
  | ticked {s : Session} (before : Conducted lib s) : Conducted lib (s.tick lib)

theorem Conducted.sound {lib : Library} {s : Session} (h : Conducted lib s) : s.Sound := by
  induction h with
  | opened accepted =>
      obtain ⟨bank, key, rfl⟩ := Engine.exists_boot_of_ofConfig accepted
      let fresh : Session := ⟨(Engine.boot bank key ({} : Screen)).load [], .prompt, []⟩
      have sound : fresh.Sound := ⟨rfl, rfl⟩
      exact sound.put _
  | typed _ line ih => exact ih
  | ticked _ ih => exact ih.tick lib

theorem exists_phase_endProgram (lib : Library) (s : Session) (display : Display)
    (error : Option RuntimeError) :
    ∃ code, (s.endProgram lib display error).phase = .ended code := by
  cases error with
  | none => exact (phase_enter _ _).elim (fun same => ⟨0, same⟩) id
  | some err => exact (phase_enter _ _).elim (fun same => ⟨1, same⟩) id

/-- A tick arrives at the prompt from the end of a program, or from a line of the dialogue that was
no program. -/
theorem tick_cases_of_prompt {lib : Library} {s : Session} (sound : s.Sound)
    (prompt : (s.tick lib).phase = .prompt) :
    (∃ s' error, s'.Sound ∧ s.tick lib = endLine s' error) ∨
      s.phase = .prompt ∧ ∃ rest entry,
        s.tick lib = (s.mapScreen fun k => { k with lines := rest }).respond entry := by
  have ended {s : Session} {code : Nat} : (s.enter (.ended code)).phase ≠ .prompt :=
    s.phase_enter_ne_prompt nofun
  have finished {s : Session} {display : Display} {error : Option RuntimeError} :
      (s.endProgram lib display error).phase ≠ .prompt := by
    obtain ⟨code, ended⟩ := exists_phase_endProgram lib s display error
    rw [ended]
    nofun
  unfold tick at prompt ⊢
  split at prompt
  · rename_i display running
    unfold advance at prompt
    split at prompt
    · exact absurd prompt finished
    · cases running.symm.trans prompt
    · exact absurd prompt finished
  · rename_i running
    left
    unfold advance at prompt ⊢
    split at prompt
    · exact ⟨s, none, sound, rfl⟩
    · cases running.symm.trans prompt
    · rename_i err e strode
      exact ⟨{ s with engine := e }, some err, sound.of_stride? strode, rfl⟩
  · rename_i before
    refine .inr ⟨before, ?_⟩
    unfold takeLine at prompt ⊢
    split at prompt
    · exact absurd prompt ended
    · exact absurd prompt ended
    · rename_i raw rest _ _
      dsimp only at prompt ⊢
      split at prompt
      · exact ⟨rest, _, rfl⟩
      · exact absurd prompt ended
  · rename_i code stopped
    cases stopped.symm.trans prompt

/-- The line is finished and the listing shown behind it; only the errors depend on how the program
ended. -/
theorem exists_endLine_eq {s : Session} (sound : s.Sound) (error : Option RuntimeError) :
    ∃ errors, s.endLine error =
      { s.mapScreen fun k => k.finishLine.put (line s.engine.stack.listing) with
        errors := errors }.enter .prompt := by
  cases error with
  | none =>
      refine ⟨s.errors, ?_⟩
      rw [endLine, Option.elim, put_eq sound.finishLine.2, finishLine_eq sound.2]
      rfl
  | some err =>
      refine ⟨(s.putError err.message).errors, ?_⟩
      rw [endLine, Option.elim, put_eq (sound.finishLine.putError _).2, finishLine_eq sound.2]
      rfl

theorem shown_endLine {s : Session} (sound : s.Sound) (error : Option RuntimeError) :
    (s.endLine error).shown =
      s.engine.console.finishLine.shown ++ line s.engine.stack.listing := by
  obtain ⟨errors, ended⟩ := exists_endLine_eq sound error
  rw [ended]
  exact Ribbon.toText_putBack _ _

theorem phase_endLine {s : Session} (sound : s.Sound) (running : s.phase = .dialogue)
    (error : Option RuntimeError) : (s.endLine error).phase = .prompt := by
  obtain ⟨errors, ended⟩ := exists_endLine_eq sound error
  rw [ended]
  simp only [enter, mapScreen, running]

/-- At the prompt no program has left its line open, and all that was shown has ended its lines. -/
def Settled (s : Session) : Prop :=
  s.phase = .prompt → s.engine.console.midLine = false ∧ s.shown.AtLineStart

theorem settled_endLine {s : Session} (sound : s.Sound) (error : Option RuntimeError) :
    (s.endLine error).Settled := by
  intro _
  constructor
  · obtain ⟨errors, ended⟩ := exists_endLine_eq sound error
    rw [ended]
    rfl
  · rw [shown_endLine sound, Text.atLineStart_append _ (line_ne_nil _)]
    exact atLineStart_line _

theorem Settled.put {s : Session} (h : s.Settled) (sound : s.Sound) {text : Text}
    (ends : text.AtLineStart) : (s.put text).Settled := by
  rw [put_eq sound.2]
  intro prompt
  refine ⟨(h prompt).1, ?_⟩
  rw [shown, mapScreen, Screen.shown, Screen.put, Ribbon.toText_putBack]
  exact (h prompt).2.append ends

theorem Settled.respond {s : Session} (h : s.Settled) (sound : s.Sound) (entry : Dialogue.Entry) :
    (s.respond entry).Settled := by
  cases entry with
  | blank => exact h
  | quit | program line => exact fun prompt => absurd prompt (phase_enter_ne_prompt _ nofun)
  | stack | unknown line => exact h.put sound (atLineStart_line _)
  | clear =>
      exact Settled.put (s := { s with engine := s.engine.reset }) h sound (atLineStart_line _)
  | registers | ops | help =>
      exact h.put sound (Text.atLineStart_flatMap fun _ => atLineStart_line _)

theorem settled_tick {lib : Library} {s : Session} (h : s.Settled) (sound : s.Sound) :
    (s.tick lib).Settled := by
  intro prompt
  obtain ⟨s', error, sound', ended⟩ | ⟨before, rest, entry, taken⟩ :=
    tick_cases_of_prompt sound prompt
  · rw [ended] at prompt ⊢
    exact settled_endLine sound' error prompt
  · rw [taken] at prompt ⊢
    have waiting : (s.mapScreen fun k => { k with lines := rest }).Settled := fun _ => h before
    exact waiting.respond sound entry prompt

theorem Conducted.settled {lib : Library} {s : Session} (h : Conducted lib s) : s.Settled := by
  induction h with
  | opened accepted =>
      obtain ⟨bank, key, rfl⟩ := Engine.exists_boot_of_ofConfig accepted
      let fresh : Session := ⟨(Engine.boot bank key ({} : Screen)).load [], .prompt, []⟩
      have settled : fresh.Settled := fun _ => ⟨rfl, Text.atLineStart_nil⟩
      exact settled.put ⟨rfl, rfl⟩ (atLineStart_line _)
  | typed _ line ih => exact ih
  | ticked before ih => exact settled_tick ih before.sound

theorem Conducted.ticks {lib : Library} {s : Session} (h : Conducted lib s) (n : Nat) :
    Conducted lib (ticks lib n s) := by
  induction n generalizing s with
  | zero => exact h
  | succ n ih => exact ih h.ticked

/-- A dialogue on the preset registers to which two lines are typed. -/
def typing (line next : Text) : Session :=
  ((ofDialogue (.ofPreset {})).mapScreen fun k => k.addLine line).mapScreen fun k =>
    k.addLine next

theorem conducted_typing (lib : Library) (line next : Text) :
    Conducted lib (typing line next) := by
  have accepted : Engine.ofConfig {} ({} : Screen) = .ok (.ofPreset {}) := rfl
  exact .typed (.typed (.opened accepted) line) next

end Command.Session

end TapeCalc
