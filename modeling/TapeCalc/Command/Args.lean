import TapeCalc.Text.Basic

/-!
The command line. Arguments are read from left to right: options of the program, the name of a
command, and what that command takes. Anything that does not fit is refused as a whole.
-/

namespace TapeCalc.Command

inductive Name
  | run
  | repl
  | test
  | demo
deriving DecidableEq

def Name.ofText? (s : Text) : Option Name :=
  if s = "run".toList then some .run
  else if s = "repl".toList then some .repl
  else if s = "test".toList then some .test
  else if s = "demo".toList then some .demo
  else none

inductive Source
  | boot
  | text (program : Text)
  | file (path : Text)
deriving DecidableEq

/-- What to show when the program has ended. JSON goes before the listing. -/
structure Display where
  stack : Bool := false
  json : Bool := false
deriving DecidableEq

inductive Task
  | run (source : Source) (display : Display)
  | repl
  | test
  | demo
deriving DecidableEq

inductive Request
  | version
  | perform (task : Task) (config : Option Text)
deriving DecidableEq

inductive Setting
  | config
  | eval
deriving DecidableEq

structure Args where
  name : Option Name := none
  /-- The configuration named before the command, and the one named after it. -/
  outerConfig : Option Text := none
  config : Option Text := none
  file : Option Text := none
  program : Option Text := none
  display : Display := {}
  /-- All further arguments are operands. -/
  operandsOnly : Bool := false

inductive Reading
  | refused
  | version
  | next (args : Args)
  /-- The option takes the next argument as its value. -/
  | awaiting (args : Args) (setting : Setting)

namespace Reading

def ofOption : Option Args → Reading
  | some args => next args
  | none => refused

end Reading

namespace Args

/-- No option is given twice, and a path is not empty. -/
def set? (args : Args) (setting : Setting) (value : Text) : Option Args :=
  match setting with
  | .config =>
    if args.config.isSome || value.isEmpty then none
    else some { args with config := some value }
  | .eval =>
    if args.program.isSome then none else some { args with program := some value }

def isRun (args : Args) : Bool :=
  args.name = some .run

def operand (args : Args) (arg : Text) : Reading :=
  match args.name with
  | none =>
    if args.operandsOnly then .refused
    else
      match Name.ofText? arg with
      | some name =>
        .next { args with name := some name, outerConfig := args.config, config := none }
      | none => .refused
  | some .run =>
    if args.file.isSome || arg.isEmpty then .refused
    else .next { args with file := some arg }
  | some _ => .refused

/-- An option with a long name; `value` is what follows an equals sign. -/
def long (args : Args) (name : Text) (value : Option Text) : Reading :=
  let valued (setting : Setting) : Reading :=
    match value with
    | some value => .ofOption (args.set? setting value)
    | none => .awaiting args setting
  if name = "config".toList then valued .config
  else if name = "eval".toList && args.isRun then valued .eval
  else if value.isSome then .refused
  else if name = "verbose".toList then .next args
  else if name = "version".toList && args.name.isNone then .version
  else if name = "stack".toList && args.isRun && !args.display.stack then
    .next { args with display := { args.display with stack := true } }
  else if name = "json".toList && args.isRun && !args.display.json then
    .next { args with display := { args.display with json := true } }
  else .refused

/-- Options of one letter, written together. One that takes a value takes the rest. -/
def short (args : Args) : Text → Reading
  | [] => .next args
  | 'v' :: rest => short args rest
  | 'V' :: _ => if args.name.isNone then .version else .refused
  | 'e' :: rest =>
    if args.isRun then
      match rest with
      | [] => .awaiting args .eval
      | '=' :: value => .ofOption (args.set? .eval value)
      | value => .ofOption (args.set? .eval value)
    else .refused
  | _ => .refused

def isOption : Text → Bool
  | '-' :: _ :: _ => true
  | _ => false

def read (args : Args) (arg : Text) : Reading :=
  if args.operandsOnly then args.operand arg
  else
    match arg with
    | ['-', '-'] => .next { args with operandsOnly := true }
    | '-' :: '-' :: rest =>
      let name := rest.takeWhile (· ≠ '=')
      match rest.dropWhile (· ≠ '=') with
      | _ :: value => args.long name (some value)
      | [] => args.long name none
    | '-' :: c :: rest => args.short (c :: rest)
    | arg => args.operand arg

def request? (args : Args) : Option Request :=
  let config := args.config.or args.outerConfig
  match args.name with
  | none => some (.perform (.run .boot {}) config)
  | some .run =>
    match args.file, args.program with
    | some _, some _ => none
    | some path, none => some (.perform (.run (.file path) args.display) config)
    | none, some program => some (.perform (.run (.text program) args.display) config)
    | none, none => some (.perform (.run .boot args.display) config)
  | some .repl => some (.perform .repl config)
  | some .test => some (.perform .test config)
  | some .demo => some (.perform .demo config)

def readAll (args : Args) : List Text → Option Request
  | [] => args.request?
  | arg :: rest =>
    match args.read arg with
    | .refused => none
    | .version => some .version
    | .next args => readAll args rest
    | .awaiting args setting =>
      match rest with
      | [] => none
      | value :: rest =>
        if isOption value then none
        else
          match args.set? setting value with
          | some args => readAll args rest
          | none => none

end Args

def Request.ofArgs? (args : List Text) : Option Request :=
  ({} : Args).readAll args

end TapeCalc.Command
