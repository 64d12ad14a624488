import TapeCalc.Config.Basic
import TapeCalc.Config.DateTime
import TapeCalc.Config.Quoted

/-!
Reading a configuration from TOML. A configuration holds strings only: `boot_register`, and the
table `registers`, which may be given by a header, by dotted keys or inline. Any other key or
value is refused, as is giving one thing twice. Only a date or time counts as a table, with one
entry under a name that is no register.
-/

namespace TapeCalc.Toml

def isBare (c : Char) : Bool :=
  c.isAlphanum || c = '_' || c = '-'

def skipBlanks (s : Text) : Text :=
  s.dropWhile isBlank

def keyPart? (s : Text) : Option (Text × Text) :=
  match lineString? s with
  | some part => some part
  | none =>
    let part := s.takeWhile isBare
    if part.isEmpty then none else some (part, s.dropWhile isBare)

/-- A key with the blanks around its parts; at most `fuel` parts. -/
def key? : Nat → Text → Option (List Text × Text)
  | 0, _ => none
  | fuel + 1, s =>
    match keyPart? (skipBlanks s) with
    | none => none
    | some (part, s) =>
      match skipBlanks s with
      | '.' :: s => (key? fuel s).map fun (parts, s) => (part :: parts, s)
      | s => some ([part], s)

/-- Blanks, an optional comment, and the end of the line or of the text. -/
def lineEnd? (s : Text) : Option Text :=
  let s :=
    match skipBlanks s with
    | '#' :: s => s.dropWhile isPlain
    | s => s
  if s.isEmpty then some [] else newline? s

inductive Item
  | string (s : Text)
  | table (entries : List (Text × Text))
  | dateTime

def pair? (s : Text) : Option ((Text × Text) × Text) :=
  match key? (s.length + 1) s with
  | some ([name], '=' :: s) => (string? (skipBlanks s)).map fun (v, s) => ((name, v), s)
  | _ => none

def pairs? : Nat → Text → Option (List (Text × Text) × Text)
  | 0, _ => none
  | fuel + 1, s =>
    match pair? s with
    | none => none
    | some (entry, s) =>
      match skipBlanks s with
      | ',' :: s => (pairs? fuel s).map fun (entries, s) => (entry :: entries, s)
      | '}' :: s => some ([entry], s)
      | _ => none

def item? : Text → Option (Item × Text)
  | '{' :: s =>
    match skipBlanks s with
    | '}' :: s => some (.table [], s)
    | s => (pairs? (s.length + 1) s).map fun (entries, s) => (.table entries, s)
  | s =>
    match string? s with
    | some (v, s) => some (.string v, s)
    | none => (dateTime? s).map fun s => (.dateTime, s)

/-- How far the table of registers has been given. -/
inductive Progress
  | absent
  | dotted
  | inline
  /-- Lines now belong to the table. -/
  | header
deriving DecidableEq

structure Draft where
  boot : Option Text := none
  registers : Std.TreeMap Text Text := ∅
  progress : Progress := .absent

namespace Draft

def addRegister (d : Draft) (name program : Text) : Option Draft :=
  if d.registers.contains name then none
  else some { d with registers := d.registers.insert name program }

def addTable (d : Draft) (entries : List (Text × Text)) : Option Draft :=
  entries.foldlM (fun d (name, program) => d.addRegister name program) d

def bootKey : Text := "boot_register".toList

def tableKey : Text := "registers".toList

/-- The name of the entry that a date or time stands for. -/
def dateTimeKey : Text := "$__toml_private_datetime".toList

def assign (d : Draft) (key : List Text) (item : Item) : Option Draft :=
  match d.progress, key, item with
  | .header, [name], .string program => d.addRegister name program
  | .header, _, _ => none
  | _, [name], .string s =>
    if name = bootKey ∧ d.boot.isNone then some { d with boot := some s } else none
  | .absent, [name], .table entries =>
    if name = tableKey then addTable { d with progress := .inline } entries else none
  | .absent, [name], .dateTime =>
    if name = tableKey then addRegister { d with progress := .inline } dateTimeKey [] else none
  | progress, [table, name], .string program =>
    if table = tableKey ∧ (progress = .absent ∨ progress = .dotted) then
      addRegister { d with progress := .dotted } name program
    else none
  | _, _, _ => none

def openTable (d : Draft) (key : List Text) : Option Draft :=
  if key = [tableKey] ∧ d.progress = .absent then some { d with progress := .header } else none

def config (d : Draft) : Config :=
  let boot := d.boot.getD (Config.boot {})
  { boot := boot, overrides := d.registers }

end Draft

def line? (d : Draft) (s : Text) : Option (Draft × Text) :=
  match s with
  | '[' :: s =>
    match key? (s.length + 1) s with
    | some (key, ']' :: s) => (d.openTable key).map fun d => (d, s)
    | _ => none
  | s =>
    match key? (s.length + 1) s with
    | some (key, '=' :: s) =>
      match item? (skipBlanks s) with
      | some (item, s) => (d.assign key item).map fun d => (d, s)
      | none => none
    | _ => none

/-- Read the lines of a document, at most `fuel` of them. -/
def lines? : Nat → Draft → Text → Option Draft
  | 0, d, s => if s.isEmpty then some d else none
  | fuel + 1, d, s =>
    if s.isEmpty then some d
    else
      match lineEnd? s with
      | some s => lines? fuel d s
      | none =>
        match line? d (skipBlanks s) with
        | none => none
        | some (d, s) =>
          match lineEnd? s with
          | some s => lines? fuel d s
          | none => none

/-- A byte order mark may stand at the very beginning. -/
def skipMark : Text → Text
  | '\uFEFF' :: s => s
  | s => s

def draft? (s : Text) : Option Draft :=
  lines? (s.length + 1) {} (skipMark s)

end TapeCalc.Toml

/-- The configuration that a TOML text describes, with every name in it checked. -/
def TapeCalc.Config.ofToml (s : Text) : Except ConfigError Config :=
  match Toml.draft? s with
  | none => .error .malformed
  | some d => d.config.check.map fun _ => d.config
