import TapeCalc.Proofs.Dialogue

/-!
Where the cursor stands when a listing is shown. A screen keeps one flag of its past, and the flag
is compared here with the whole of it: the texts that were shown or refused, the lines that were
read, and the reads that gave no line. A line that is read ends the line of output, since the user
has ended it, and the end of the input does not, but the flag is taken back in both cases. So
finishing the line brings the cursor to the start of a line exactly if no text was left open before
a read that gave no line, or before a refused text that would have ended it, with nothing shown and
no line read since.
-/

namespace TapeCalc

theorem Screen.midLine_write (k : Screen) {t : Text} (nonempty : t ≠ []) :
    (k.write t).2.midLine = false ↔ t.AtLineStart := by
  obtain ⟨c, last⟩ := Option.ne_none_iff_exists'.1 (mt List.getLast?_eq_none_iff.1 nonempty)
  have flag : (k.write t).2.midLine = decide (c ≠ '\n') := by
    unfold write
    rw [last]
    dsimp only
    split <;> rfl
  simp [flag, last, Text.AtLineStart]

/-- A text is refused as a whole or shown as a whole, and an empty text is not refused. -/
theorem Screen.write_cases (k : Screen) (t : Text) :
    (t ≠ [] ∧ (k.write t).2.shown = k.shown ∧ ∃ reason, (k.write t).1 = .error reason) ∨
      (k.write t).1 = .ok () ∧ (k.write t).2.shown = k.shown ++ t := by
  unfold write
  dsimp only
  split
  · rename_i reason refused
    refine .inl ⟨?_, rfl, reason, rfl⟩
    rintro rfl
    cases refused
  · exact .inr ⟨rfl, Ribbon.toText_putBack _ _⟩

namespace Transcript

/-- What happens on a screen: a text is shown or refused, a line is read, or a read gives no line,
at the end of the input or since the input is broken. -/
inductive Event
  | shown (text : Text)
  | refused (text : Text)
  | line
  | ended
deriving DecidableEq

/-- What the event leaves of the text shown since the last line was read. -/
def Event.extend (text : Text) : Event → Text
  | shown more => text ++ more
  | line => []
  | refused _ | ended => text

/-- The text shown since the last line was read. -/
def openText (events : List Event) : Text :=
  events.foldl Event.extend []

theorem openText_concat (events : List Event) (event : Event) :
    openText (events ++ [event]) = event.extend (openText events) := by
  rw [openText, List.foldl_append]
  rfl

/-- After the event the screen takes its line for finished, wherever the cursor stands. A refused
text that would have ended its line does this too. -/
def Event.Drops : Event → Prop
  | ended => True
  | refused text => text.AtLineStart
  | shown _ | line => False

instance (event : Event) : Decidable event.Drops :=
  match event with
  | .ended => isTrue trivial
  | .refused text => inferInstanceAs (Decidable text.AtLineStart)
  | .shown _ | .line => isFalse id

/-- The event leaves the cursor where it is, and opens no line. -/
def Event.Idle (event : Event) : Prop :=
  event.Drops ∨ event = .shown []

theorem Event.Idle.extend {event : Event} (idle : event.Idle) (text : Text) :
    event.extend text = text := by
  obtain drops | rfl := idle
  · cases event with
    | shown _ | line => exact drops.elim
    | refused _ | ended => rfl
  · exact List.append_nil text

/-- The screen took its line for finished while it was open, and only idle events came after. -/
def Stranded (events : List Event) : Prop :=
  ∃ before event after, events = before ++ event :: after ∧ ¬ (openText before).AtLineStart ∧
    event.Drops ∧ ∀ later ∈ after, later.Idle

theorem stranded_concat_iff {events : List Event} {event : Event} :
    Stranded (events ++ [event]) ↔
      event.Drops ∧ ¬ (openText events).AtLineStart ∨ Stranded events ∧ event.Idle := by
  constructor
  · rintro ⟨before, first, after, split, opened, drops, idle⟩
    obtain rfl | ⟨after, last, rfl⟩ := List.eq_nil_or_concat after
    · obtain ⟨rfl, same⟩ := List.append_inj' split rfl
      cases same
      exact .inl ⟨drops, opened⟩
    · rw [List.concat_eq_append, ← List.cons_append, ← List.append_assoc] at split
      obtain ⟨rfl, same⟩ := List.append_inj' split rfl
      cases same
      exact .inr ⟨⟨before, first, after, rfl, opened, drops, fun e he => idle e (by simp [he])⟩,
        idle event (by simp)⟩
  · rintro (⟨drops, opened⟩ | ⟨⟨before, first, after, rfl, opened, drops, idle⟩, last⟩)
    · exact ⟨events, event, [], rfl, opened, drops, nofun⟩
    · refine ⟨before, first, after ++ [event], by simp, opened, drops, ?_⟩
      intro e he
      obtain he | he := List.mem_append.1 he
      · exact idle e he
      · rw [List.mem_singleton.1 he]
        exact last

theorem not_stranded_of_working {events : List Event}
    (working : ∀ event ∈ events, ¬ event.Drops) : ¬ Stranded events := by
  rintro ⟨before, event, after, rfl, _, drops, _⟩
  exact working event (by simp) drops

theorem foldl_extend_of_idle {events : List Event} (idle : ∀ event ∈ events, event.Idle)
    (text : Text) : events.foldl Event.extend text = text := by
  induction events with
  | nil => rfl
  | cons event events ih =>
      rw [List.foldl_cons, (idle event (by simp)).extend]
      exact ih fun e he => idle e (by simp [he])

theorem Stranded.not_atLineStart {events : List Event} (h : Stranded events) :
    ¬ (openText events).AtLineStart := by
  obtain ⟨before, event, after, rfl, opened, drops, idle⟩ := h
  rw [openText, List.foldl_append, List.foldl_cons, foldl_extend_of_idle idle,
    Event.Idle.extend (.inl drops)]
  exact opened

end Transcript

/-- A screen with all that has happened on it. -/
structure Transcript where
  screen : Screen
  events : List Transcript.Event := []

namespace Transcript

def add (k : Transcript) (screen : Screen) (event : Event) : Transcript where
  screen := screen
  events := k.events ++ [event]

def ofWrite (text : Text) : Except Text Unit → Event
  | .ok _ => .shown text
  | .error _ => .refused text

def ofRead : Except Text (Option Text) → Event
  | .ok (some _) => .line
  | _ => .ended

instance : Console Transcript where
  readLine k := (k.screen.readLine.1, k.add k.screen.readLine.2 (ofRead k.screen.readLine.1))
  write k text :=
    ((k.screen.write text).1, k.add (k.screen.write text).2 (ofWrite text (k.screen.write text).1))

theorem faithful_screen : Console.Faithful screen where
  readLine _ := rfl
  write _ _ := rfl

/-- A line is stranded if it is open and the flag does not say so, and the open text is the last
that is shown. -/
structure Tracks (k : Transcript) : Prop where
  stranded : Stranded k.events ↔ ¬ (openText k.events).AtLineStart ∧ k.screen.midLine = false
  shown : openText k.events <:+ k.screen.shown

theorem tracks_nil (k : Screen) : Tracks ⟨k, []⟩ where
  stranded := iff_of_false (not_stranded_of_working nofun) fun opened =>
    opened.1 Text.atLineStart_nil
  shown := List.nil_suffix

theorem Tracks.add {k : Transcript} {screen : Screen} {event : Event}
    (stranded : event.Drops ∧ ¬ (openText k.events).AtLineStart ∨
        Stranded k.events ∧ event.Idle ↔
      ¬ (event.extend (openText k.events)).AtLineStart ∧ screen.midLine = false)
    (shown : event.extend (openText k.events) <:+ screen.shown) : (k.add screen event).Tracks where
  stranded := by
    simp only [Transcript.add, stranded_concat_iff, openText_concat]
    exact stranded
  shown := by
    simp only [Transcript.add, openText_concat]
    exact shown

theorem Tracks.write {k : Transcript} (h : k.Tracks) (t : Text) :
    (Console.write k t).2.Tracks := by
  change (k.add (k.screen.write t).2 (ofWrite t (k.screen.write t).1)).Tracks
  obtain ⟨nonempty, silent, reason, refused⟩ | ⟨accepted, shown⟩ := k.screen.write_cases t
  · rw [refused]
    refine Tracks.add ?_ (silent ▸ h.shown)
    rw [Screen.midLine_write _ nonempty]
    constructor
    · rintro (⟨ends, opened⟩ | ⟨stranded, ends | same⟩)
      · exact ⟨opened, ends⟩
      · exact ⟨stranded.not_atLineStart, ends⟩
      · cases same
    · exact fun ⟨opened, ends⟩ => .inl ⟨ends, opened⟩
  · rw [accepted]
    refine Tracks.add ?_ (shown ▸ List.suffix_append_self_iff.2 h.shown)
    by_cases empty : t = []
    · subst empty
      have flag : (k.screen.write []).2.midLine = k.screen.midLine := rfl
      simpa [ofWrite, Event.extend, Event.Drops, Event.Idle, flag] using h.stranded
    · rw [Screen.midLine_write _ empty]
      simp [ofWrite, Event.extend, Event.Drops, Event.Idle, empty, Text.atLineStart_append _ empty]

theorem Tracks.readLine {k : Transcript} (h : k.Tracks) : (Console.readLine k).2.Tracks := by
  change (k.add k.screen.readLine.2 (ofRead k.screen.readLine.1)).Tracks
  have missed {screen : Screen} (same : screen.shown = k.screen.shown)
      (flag : screen.midLine = false) : (k.add screen .ended).Tracks := by
    refine Tracks.add ?_ (same ▸ h.shown)
    constructor
    · rintro (⟨-, opened⟩ | ⟨stranded, -⟩)
      · exact ⟨opened, flag⟩
      · exact ⟨stranded.not_atLineStart, flag⟩
    · exact fun ⟨opened, _⟩ => .inl ⟨trivial, opened⟩
  unfold Screen.readLine
  dsimp only
  split
  · exact missed rfl rfl
  · split
    · exact missed rfl rfl
    · refine Tracks.add ?_ List.nil_suffix
      simp [ofRead, Event.extend, Event.Drops, Event.Idle, Text.atLineStart_nil]

/-- A program writes or reads, a line arrives on the input, or a stream breaks or recovers. -/
inductive Use
  | write (text : Text)
  | read
  | arrive (line : Text)
  | fault (reading writing : Option Text)

def use (k : Transcript) : Use → Transcript
  | .write text => (Console.write k text).2
  | .read => (Console.readLine k).2
  | .arrive line => { k with screen := k.screen.addLine line }
  | .fault reading writing =>
    { k with screen := { k.screen with readFault := reading, writeFault := writing } }

theorem Tracks.use {k : Transcript} (h : k.Tracks) (use : Use) : (k.use use).Tracks := by
  cases use with
  | write text => exact h.write text
  | read => exact h.readLine
  | arrive _ | fault _ _ => exact ⟨h.stranded, h.shown⟩

theorem Tracks.uses {k : Transcript} (h : k.Tracks) (uses : List Use) :
    (uses.foldl Transcript.use k).Tracks := by
  induction uses generalizing k with
  | nil => exact h
  | cons first uses ih => exact ih (h.use first)

theorem respected_uses :
    Console.Respected fun k k' : Transcript => ∃ uses : List Use, uses.foldl use k = k' where
  refl k := ⟨[], rfl⟩
  trans := by
    rintro k _ _ ⟨uses, rfl⟩ ⟨more, rfl⟩
    exact ⟨uses ++ more, List.foldl_append⟩
  readLine k := ⟨[.read], rfl⟩
  write k text := ⟨[.write text], rfl⟩

/-- The cursor is at the start of a line once the line is finished. -/
def FinishesAtStart (k : Transcript) : Prop :=
  ∃ added, k.screen.finishLine.shown = k.screen.shown ++ added ∧
    (openText k.events ++ added).AtLineStart

theorem Tracks.finishesAtStart_iff {k : Transcript} (h : k.Tracks) :
    k.FinishesAtStart ↔ ¬ Stranded k.events := by
  have added : k.FinishesAtStart ↔ (openText k.events ++ k.screen.lineEnd).AtLineStart := by
    constructor
    · rintro ⟨added, finished, start⟩
      rw [Screen.shown_finishLine] at finished
      rwa [List.append_cancel_left finished]
    · exact fun start => ⟨_, k.screen.shown_finishLine, start⟩
  rw [added, h.stranded, Screen.lineEnd]
  by_cases opened : k.screen.midLine = true
  · rw [if_pos opened, Text.atLineStart_append _ (by simp)]
    exact iff_of_true (fun _ h => (Option.some.inj h).symm) fun dropped => by
      cases opened.symm.trans dropped.2
  · rw [if_neg opened, List.append_nil]
    have dropped : k.screen.midLine = false := eq_false_of_ne_true opened
    simp only [dropped, and_true, Classical.not_not]

end Transcript

def Outcome.error? {σ : Type} : Outcome σ → Option RuntimeError
  | done _ => none
  | failed err _ => some err

namespace Engine

open Transcript (FinishesAtStart Stranded)

/-- The same engine, on a transcript that begins here. -/
def transcribed (e : Engine Screen) : Engine Transcript :=
  e.mapConsole fun k => ⟨k, []⟩

theorem halts_of_transcribed {e : Engine Screen} {o : Outcome (Engine Transcript)}
    (halts : Halts e.transcribed o) : Halts e (o.map (mapConsole Transcript.screen)) := by
  have same : e = e.transcribed.exchange e.bank Transcript.screen := rfl
  rw [same]
  refine (halts_exchange_iff Transcript.faithful_screen ?_).2 ⟨o, halts, ?_⟩
  · intro e₁ reaches r _
    exact congrArg (fun bank => bank.get r) (reaches.precedes Console.respected_true).1.symm
  · have kept : o.state.bank = e.bank := (halts.precedes Console.respected_true).1
    cases o with
    | done e' | failed err e' => simp only [Outcome.map, mapConsole, ← kept, Outcome.state]

theorem finishesAtStart_iff_of_halts {e : Engine Screen} {o : Outcome (Engine Transcript)}
    (halts : Halts e.transcribed o) :
    o.state.console.FinishesAtStart ↔ ¬ Stranded o.state.console.events := by
  obtain ⟨uses, used⟩ := (halts.precedes Transcript.respected_uses).2
  rw [← used]
  exact ((Transcript.tracks_nil e.console).uses uses).finishesAtStart_iff

theorem faults_of_halts {e : Engine Screen} {o : Outcome (Engine Transcript)}
    (halts : Halts e.transcribed o) :
    o.state.console.screen.readFault = e.console.readFault ∧
      o.state.console.screen.writeFault = e.console.writeFault := by
  have kept := ((halts_of_transcribed halts).precedes Screen.respected_faults).2
  rwa [Outcome.state_map] at kept

theorem stride?_eq_none_of_exhausted {e : Engine Screen} (h : e.tape.next? = none) :
    e.stride? = none := by
  have stop := fetch?_eq_none_iff.2 h
  obtain single | ⟨n, e', _, fetches⟩ := e.stride?_cases
  · exact single.trans stop
  · obtain ⟨e₁, first, _⟩ := fetches_succ_iff.1 fetches
    rw [stop] at first
    cases first

end Engine

namespace Command.Session

variable {lib : Library}

/-- A session that runs a program comes to the program's end. -/
theorem exists_ticks_of_run {atEnd : Session → Option RuntimeError → Session} {fuel : Nat}
    {s : Session} {o : Outcome (Engine Screen)} (run : s.engine.run fuel = some o)
    (running : ∀ e, tick lib { s with engine := e } = advance { s with engine := e } atEnd) :
    ∃ n, ticks lib n s = atEnd { s with engine := o.state } o.error? := by
  -- A run that ends within its first stride ends with the first tick.
  have stops {s : Session} (first : tick lib s = advance s atEnd)
      (ended : advance s atEnd = atEnd { s with engine := o.state } o.error?) :
      ∃ n, ticks lib n s = atEnd { s with engine := o.state } o.error? :=
    ⟨1, first.trans ended⟩
  induction fuel generalizing s with
  | zero =>
      rw [Engine.run] at run
      split at run
      · rename_i stop
        cases run
        refine stops (running s.engine) ?_
        rw [advance, Engine.stride?_eq_none_of_exhausted (Option.isNone_iff_eq_none.1 stop)]
        rfl
      · cases run
  | succ fuel ih =>
      rw [Engine.run] at run
      split at run
      · rename_i strode
        cases run
        refine stops (running s.engine) ?_
        rw [advance, strode]
        rfl
      · rename_i strode
        cases run
        refine stops (running s.engine) ?_
        rw [advance, strode]
        rfl
      · rename_i e strode
        obtain ⟨n, ended⟩ := ih (s := { s with engine := e }) run running
        have first : tick lib s = { s with engine := e } := by
          refine (running s.engine).trans ?_
          rw [advance, strode]
        exact ⟨n + 1, (congrArg (ticks lib n) first).trans ended⟩

/-- What is shown of the stack at the end of a program. -/
def listed (lib : Library) (display : Display) (s : Stack) : Text :=
  if display.json then
    match lib.json s.bottomUp with
    | .ok text => line text
    | .error _ => []
  else if display.stack then line s.listing
  else []

theorem shown_putStack {s : Session} (works : s.engine.console.writeFault = none)
    (display : Display) :
    (s.putStack lib display).shown = s.shown ++ listed lib display s.engine.stack := by
  unfold putStack listed
  split
  · cases lib.json s.engine.stack.bottomUp with
    | ok text => exact shown_put works _
    | error message => exact (List.append_nil _).symm
  · split
    · exact shown_put works _
    · exact (List.append_nil _).symm

theorem shown_endProgram {s : Session} (works : s.engine.console.writeFault = none)
    (display : Display) (error : Option RuntimeError) :
    (s.endProgram lib display error).shown =
      s.engine.console.finishLine.shown ++ listed lib display s.engine.stack := by
  have finished := finishLine_eq works
  have silent : (s.endProgram lib display error).shown =
      (s.finishLine.putStack lib display).shown := by
    cases error with
    | none | some err => rfl
  rw [silent, finished]
  exact shown_putStack (s := s.mapScreen Screen.finishLine) works display

open Engine (Halts)
open Transcript (Use Stranded openText)

theorem exists_ticks_of_halts {atEnd : Session → Option RuntimeError → Session} {s : Session}
    {o : Outcome (Engine Transcript)} (halts : Halts s.engine.transcribed o)
    (running : ∀ e, tick lib { s with engine := e } = advance { s with engine := e } atEnd) :
    ∃ n error, ticks lib n s =
      atEnd { s with engine := o.state.mapConsole Transcript.screen } error := by
  obtain ⟨fuel, run⟩ := Engine.halts_of_transcribed halts
  obtain ⟨n, ended⟩ := exists_ticks_of_run run running
  rw [Outcome.state_map] at ended
  exact ⟨n, _, ended⟩

variable (lib) in
/-- A program that halts is followed by its listing, right behind the line that is finished. -/
theorem exists_ticks_ofProgram {e : Engine Screen} {o : Outcome (Engine Transcript)}
    (halts : Halts e.transcribed o) (display : Display) :
    ∃ n code, (ticks lib n (ofProgram e display)).phase = .ended code ∧
      (e.console.writeFault = none → (ticks lib n (ofProgram e display)).shown =
        o.state.console.screen.finishLine.shown ++ listed lib display o.state.stack) := by
  let s := ofProgram e display
  have running (e' : Engine Screen) : tick lib { s with engine := e' } =
    advance { s with engine := e' } fun s => s.endProgram lib display := rfl
  obtain ⟨n, error, ended⟩ := exists_ticks_of_halts halts running
  obtain ⟨code, finished⟩ := exists_phase_endProgram lib _ display error
  refine ⟨n, code, ended ▸ finished, fun works => ?_⟩
  rw [ended]
  exact shown_endProgram ((Engine.faults_of_halts halts).2.trans works) display error

/-- A line of a dialogue that halts is followed by the listing in the same way. -/
theorem exists_ticks_of_program {s : Session} {raw program : Text} {rest : List Text}
    {o : Outcome (Engine Transcript)} (sound : s.Sound) (prompt : s.phase = .prompt)
    (lines : s.engine.console.lines = raw :: rest)
    (entry : lib.entry? raw = some (.program program))
    (halts : Halts
      (((s.mapScreen fun k => { k with lines := rest }).engine.load program).transcribed) o) :
    ∃ n, (ticks lib n s).phase = .prompt ∧ (ticks lib n s).shown =
      o.state.console.screen.finishLine.shown ++ line o.state.stack.listing := by
  let waiting := s.mapScreen fun k => { k with lines := rest }
  let begun : Session := { waiting with engine := waiting.engine.load program, phase := .dialogue }
  have first : s.tick lib = begun := tick_of_entry sound prompt lines entry
  have running (e : Engine Screen) : tick lib { begun with engine := e } =
    advance { begun with engine := e } endLine := rfl
  obtain ⟨n, error, ended⟩ := exists_ticks_of_halts halts running
  have ran : Sound { begun with engine := o.state.mapConsole Transcript.screen } :=
    ⟨(Engine.faults_of_halts halts).1.trans sound.1, (Engine.faults_of_halts halts).2.trans sound.2⟩
  refine ⟨n + 1, ?_⟩
  rw [ticks, first, ended]
  exact ⟨phase_endLine ran rfl error, shown_endLine ran error⟩

/-- After any texts shown or refused and any lines read, also where reading meets the end of the
input or a stream breaks, finishing the line brings the cursor to the start of a line unless an open
line is stranded. The listing at the end of a program, and the one after a line of a dialogue, is
shown right behind the line so finished. -/
theorem listing_starts_line (lib : Library) :
    (∀ (k : Screen) (uses : List Use),
      let t := uses.foldl Transcript.use ⟨k, []⟩
      openText t.events <:+ t.screen.shown ∧ (t.FinishesAtStart ↔ ¬ Stranded t.events)) ∧
    (∀ (e : Engine Screen) (display : Display) (o : Outcome (Engine Transcript)),
      Halts e.transcribed o →
      (o.state.console.FinishesAtStart ↔ ¬ Stranded o.state.console.events) ∧
      ∃ n code, (ticks lib n (ofProgram e display)).phase = .ended code ∧
        (e.console.writeFault = none → (ticks lib n (ofProgram e display)).shown =
          o.state.console.screen.finishLine.shown ++ listed lib display o.state.stack)) ∧
    ∀ (s : Session) (raw program : Text) (rest : List Text) (o : Outcome (Engine Transcript)),
      Conducted lib s → s.phase = .prompt → s.engine.console.lines = raw :: rest →
      lib.entry? raw = some (.program program) →
      Halts (((s.mapScreen fun k => { k with lines := rest }).engine.load program).transcribed) o →
      s.shown.AtLineStart ∧
      (o.state.console.FinishesAtStart ↔ ¬ Stranded o.state.console.events) ∧
      ∃ n, (ticks lib n s).phase = .prompt ∧
        (ticks lib n s).shown =
          o.state.console.screen.finishLine.shown ++ line o.state.stack.listing := by
  refine ⟨?_, ?_, ?_⟩
  · intro k uses
    have tracks := (Transcript.tracks_nil k).uses uses
    exact ⟨tracks.shown, tracks.finishesAtStart_iff⟩
  · intro e display o halts
    exact ⟨Engine.finishesAtStart_iff_of_halts halts, exists_ticks_ofProgram lib halts display⟩
  · intro s raw program rest o conducted prompt lines entry halts
    exact ⟨(conducted.settled prompt).2, Engine.finishesAtStart_iff_of_halts halts,
      exists_ticks_of_program conducted.sound prompt lines entry halts⟩

/-- An open line before a line that is read, in uses of a screen, in a program and in a dialogue. -/
theorem listing_starts_line_after_input :
    (∃ uses : List Use, uses = [.write ['x'], .read, .arrive "8\n".toList, .read, .write ['y']] ∧
      (uses.foldl Transcript.use ⟨{ lines := ["7\n".toList] }, []⟩).FinishesAtStart) ∧
    (∃ (e : Engine Screen) (e' : Engine Transcript) (n code : Nat),
      e = (Engine.ofPreset { lines := ["7\n".toList] }).load "(x)\"'\"".toList ∧
      Halts e.transcribed (.done e') ∧ e'.console.FinishesAtStart ∧
      e'.console.screen.finishLine.shown = "x7\n".toList ∧
      (ticks .process n (ofProgram e { stack := true })).phase = .ended code) ∧
    ∃ (s : Session) (e' : Engine Transcript), Conducted .process s ∧ s.phase = .prompt ∧
      s.engine.console.lines = ["7\"'\"\n".toList, "8\n".toList] ∧ s.shown.AtLineStart ∧
      e'.console.events = [.shown ['7'], .line, .shown ['8']] ∧ e'.console.FinishesAtStart := by
  obtain ⟨screen, program, dialogue⟩ := listing_starts_line .process
  refine ⟨⟨_, rfl, ?_⟩, ?_, ?_⟩
  · exact (screen _ _).2.2 (Transcript.not_stranded_of_working (by decide))
  · let e : Engine Screen :=
      (Engine.ofPreset { lines := ["7\n".toList] }).load "(x)\"'\"".toList
    obtain ⟨e', halts, events, shown⟩ : ∃ e', Halts e.transcribed (.done e') ∧
        e'.console.events = [.shown ['x'], .line, .shown ['7']] ∧
        e'.console.screen.finishLine.shown = "x7\n".toList := ⟨_, ⟨6, rfl⟩, rfl, rfl⟩
    obtain ⟨start, n, code, ended, _⟩ := program e { stack := true } _ halts
    have connected : ¬ Stranded e'.console.events := by
      rw [events]
      exact Transcript.not_stranded_of_working (by decide)
    exact ⟨e, e', n, code, rfl, halts, start.2 connected, shown, ended⟩
  · obtain ⟨s, built⟩ : ∃ s, s = typing "7\"'\"\n".toList "8\n".toList := ⟨_, rfl⟩
    have conducted : Conducted .process s := built ▸ conducted_typing _ _ _
    have lines : s.engine.console.lines = ["7\"'\"\n".toList, "8\n".toList] := built ▸ rfl
    obtain ⟨e', halts, events⟩ : ∃ e',
        Halts (((s.mapScreen fun k => { k with lines := ["8\n".toList] }).engine.load
          "7\"'\"".toList).transcribed) (.done e') ∧
        e'.console.events = [.shown ['7'], .line, .shown ['8']] := by
      rw [built]
      exact ⟨_, ⟨6, rfl⟩, rfl⟩
    have prompt : s.phase = .prompt := built ▸ rfl
    obtain ⟨settled, start, _⟩ := dialogue s _ _ _ _ conducted prompt lines rfl halts
    have connected : ¬ Stranded e'.console.events := by
      rw [events]
      exact Transcript.not_stranded_of_working (by decide)
    exact ⟨s, e', conducted, prompt, lines, settled, events, start.2 connected⟩

/-- An `x` that is still open when a read meets the end of the input: the listing goes on behind
it. -/
theorem listing_extends_stranded_line : ∃ (e : Engine Screen) (e' : Engine Transcript)
    (n code : Nat), e = (Engine.ofPreset {}).load "(x)\"'".toList ∧ Halts e.transcribed (.done e') ∧
      e'.console.events = [.shown ['x'], .ended] ∧ ¬ e'.console.FinishesAtStart ∧
      (ticks .process n (ofProgram e { stack := true })).phase = .ended code ∧
      (ticks .process n (ofProgram e { stack := true })).shown = "x[\"\"]\n".toList := by
  let e : Engine Screen := (Engine.ofPreset {}).load "(x)\"'".toList
  obtain ⟨e', halts, events, finished, stack⟩ : ∃ e', Halts e.transcribed (.done e') ∧
      e'.console.events = [.shown ['x'], .ended] ∧ e'.console.screen.finishLine.shown = ['x'] ∧
      e'.stack = .ofList [.empty] := ⟨_, ⟨5, rfl⟩, rfl, rfl, rfl⟩
  have stranded : Stranded e'.console.events :=
    ⟨[.shown ['x']], .ended, [], events, by decide, trivial, nofun⟩
  have misses : ¬ e'.console.FinishesAtStart := fun start =>
    (Engine.finishesAtStart_iff_of_halts halts).1 start stranded
  obtain ⟨n, code, ended, shown⟩ :=
    exists_ticks_ofProgram .process halts { stack := true }
  refine ⟨e, e', n, code, rfl, halts, events, misses, ended, ?_⟩
  rw [shown rfl, Outcome.state, finished, stack]
  decide +kernel

end Command.Session

end TapeCalc
