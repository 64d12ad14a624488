import TapeCalc.Command.Checks
import TapeCalc.Command.Json
import TapeCalc.Command.Session
import TapeCalc.Command.Showcase
import TapeCalc.Config.File
import TapeCalc.Text.Typed

/-!
A command from its command line to its report. The files it needs are read before it starts;
input is added while it runs. The libraries that a session uses are chosen here.
-/

namespace TapeCalc.Command

def Library.process : Library where
  edited? := Text.typed?
  readError reason :=
    "Io(Error \x7b kind: InvalidData, message: " ++ String.ofList reason.quote ++ " \x7d)"
  json vs := .ok (Value.rowJson vs)

inductive Job
  | running (lib : Library) (session : Session)
  | finished (report : Report)

def usageReport : Report where
  errors := line "error: invalid command line".toList
  code := 2

def versionReport : Report where
  shown := line ("postfix ".toList ++ version)

section Opening

variable {m : Type → Type} [Monad m] (lib : Library) (read : Text → m (Except FileFault Text))

def loadProgram (engine : Engine Screen) : Source → m (Except String (Engine Screen))
  | .boot => return .ok engine
  | .text program => return .ok (engine.load program)
  | .file path => do
    match ← read path with
    | .ok program => return .ok (engine.load program)
    | .error fault =>
      let reason := String.ofList fault.reason
      return .error ("failed to read " ++ String.ofList path ++ ": " ++ reason)

/-- The engine for a configuration, with the program of `source` on its tape. The configuration
is read before the program. -/
def openProgram (source : Source) (config : Option Text) :
    m (Except String (Engine Screen)) := do
  match ← Config.discover read config with
  | .error e => return .error e.message
  | .ok config =>
    match Engine.ofConfig config ({} : Screen) with
    | .error e => return .error e.message
    | .ok engine => loadProgram read engine source

def Job.start : Request → m Job
  | .version => return .finished versionReport
  | .perform .test _ => return .finished testReport
  | .perform .demo _ => return .finished demoReport
  | .perform (.run source display) config => do
    match ← openProgram read source config with
    | .ok engine => return .running lib (.ofProgram engine display)
    | .error message => return .finished (.ofError message)
  | .perform .repl config => do
    match ← openProgram read .boot config with
    | .ok engine => return .running lib (.ofDialogue engine)
    | .error message => return .finished (.ofError message)

end Opening

namespace Job

def mapScreen (f : Screen → Screen) : Job → Job
  | running lib s => running lib (s.mapScreen f)
  | finished r => finished r

def addLine (job : Job) (line : Text) : Job :=
  job.mapScreen fun k => k.addLine line

def addInput (job : Job) (input : Text) : Job :=
  job.mapScreen fun k => { k with lines := k.lines ++ Screen.linesOf input }

/-- The job of a command line, with all of its input. -/
def ofArgs (files : Files) (args : List Text) : Job :=
  match Request.ofArgs? args with
  | none => .finished usageReport
  | some request =>
    let (job, files) := (start .process Files.read request).run files
    job.addInput files.input

/-- From here on no line can be read. -/
def breakInput (job : Job) (reason : Text) : Job :=
  job.mapScreen fun k => { k with readFault := some reason }

def wantsLine : Job → Bool
  | running _ s => s.wantsLine
  | finished _ => false

def tick : Job → Job
  | running lib s =>
    match s.phase with
    | .ended code => finished { shown := s.engine.console.shown, errors := s.errors, code := code }
    | _ => running lib (s.tick lib)
  | finished r => finished r

def drain : Job → (Text × Text) × Job
  | running lib s =>
    ((s.engine.console.shown, s.errors),
      running lib { s.mapScreen fun k => { k with output := .empty } with errors := [] })
  | finished r => ((r.shown, r.errors), finished { r with shown := [], errors := [] })

/-- The report after at most `fuel` ticks. -/
def run : Nat → Job → Option Report
  | _, finished r => some r
  | 0, running .. => none
  | fuel + 1, job => run fuel job.tick

end Job

end TapeCalc.Command
