import TapeCalc.Text.Basic

/-!
The four string forms of TOML: basic and literal, on one line or over several. Each reader
starts after the opening quotes and gives the content with the text after the closing quotes.
-/

namespace TapeCalc.Toml

def isBlank (c : Char) : Bool :=
  c = ' ' || c = '\t'

/-- Line ends are a line feed, or a carriage return with one. -/
def newline? : Text → Option Text
  | '\n' :: s => some s
  | '\r' :: '\n' :: s => some s
  | _ => none

/-- No controls other than the tab may stand in a string or a comment. -/
def isPlain (c : Char) : Bool :=
  c = '\t' || (0x20 ≤ c.toNat && c.toNat ≠ 0x7F)

def isHex (c : Char) : Bool :=
  c.isDigit || ('a' ≤ c && c ≤ 'f') || ('A' ≤ c && c ≤ 'F')

def hexValue (c : Char) : Nat :=
  if c.isDigit then c.toNat - '0'.toNat
  else if 'a' ≤ c then c.toNat - 'a'.toNat + 10
  else c.toNat - 'A'.toNat + 10

def charOfHex? (ds : Text) : Option Char :=
  let n := ds.foldl (fun n c => 16 * n + hexValue c) 0
  if ds.all isHex ∧ n.isValidChar then some (Char.ofNat n) else none

def escape? : Text → Option (Char × Text)
  | 'b' :: s => some ('\x08', s)
  | 't' :: s => some ('\t', s)
  | 'n' :: s => some ('\n', s)
  | 'f' :: s => some ('\x0c', s)
  | 'r' :: s => some ('\r', s)
  | '"' :: s => some ('"', s)
  | '\\' :: s => some ('\\', s)
  | 'u' :: s =>
    if 4 ≤ s.length then (charOfHex? (s.take 4)).map fun c => (c, s.drop 4) else none
  | 'U' :: s =>
    if 8 ≤ s.length then (charOfHex? (s.take 8)).map fun c => (c, s.drop 8) else none
  | _ => none

def prepend (c : Char) : Option (Text × Text) → Option (Text × Text)
  | some (content, rest) => some (c :: content, rest)
  | none => none

/-- The rest of a basic string; `fuel` bounds the characters it may have. -/
def basic : Nat → Text → Option (Text × Text)
  | 0, _ => none
  | fuel + 1, s =>
    match s with
    | [] => none
    | '"' :: s => some ([], s)
    | '\\' :: s =>
      match escape? s with
      | some (c, s) => prepend c (basic fuel s)
      | none => none
    | c :: s => if isPlain c then prepend c (basic fuel s) else none

def literal : Text → Option (Text × Text)
  | [] => none
  | '\'' :: s => some ([], s)
  | c :: s => if isPlain c then prepend c (literal s) else none

/-- A run of three to five closing quotes; those beyond three are content. -/
def closing? (quote : Char) (s : Text) : Option (Text × Text) :=
  let run := (s.takeWhile (· = quote)).length
  if run < 3 then none
  else some (List.replicate (min run 5 - 3) quote, s.drop (min run 5))

def skipLines : Text → Text
  | '\r' :: '\n' :: s => skipLines s
  | c :: s => if isBlank c || c = '\n' then skipLines s else c :: s
  | [] => []

/-- What follows a backslash that ends its line. -/
def continued? (s : Text) : Option Text :=
  (newline? (s.dropWhile isBlank)).map skipLines

def multiBasic : Nat → Text → Option (Text × Text)
  | 0, _ => none
  | fuel + 1, s =>
    match closing? '"' s with
    | some found => some found
    | none =>
      match s with
      | [] => none
      | '\\' :: s =>
        match continued? s with
        | some s => multiBasic fuel s
        | none =>
          match escape? s with
          | some (c, s) => prepend c (multiBasic fuel s)
          | none => none
      | c :: rest =>
        match newline? s with
        | some s => prepend '\n' (multiBasic fuel s)
        | none => if isPlain c then prepend c (multiBasic fuel rest) else none

def multiLiteral : Nat → Text → Option (Text × Text)
  | 0, _ => none
  | fuel + 1, s =>
    match closing? '\'' s with
    | some found => some found
    | none =>
      match s with
      | [] => none
      | c :: rest =>
        match newline? s with
        | some s => prepend '\n' (multiLiteral fuel s)
        | none => if isPlain c then prepend c (multiLiteral fuel rest) else none

/-- A line end right after the opening quotes is no content. -/
def skipNewline (s : Text) : Text :=
  (newline? s).getD s

def lineString? : Text → Option (Text × Text)
  | '"' :: s => basic (s.length + 1) s
  | '\'' :: s => literal s
  | _ => none

def string? : Text → Option (Text × Text)
  | '"' :: '"' :: '"' :: s => multiBasic (s.length + 1) (skipNewline s)
  | '\'' :: '\'' :: '\'' :: s => multiLiteral (s.length + 1) (skipNewline s)
  | s => lineString? s

end TapeCalc.Toml
