import TapeCalc.Text.Basic

/-!
Dates and times of TOML: a date, a time of day, or a date followed by a time, which may then have
an offset. Nothing is configured by a date, so a reader gives only the text after it.
-/

namespace TapeCalc.Toml

def digits? (count : Nat) (s : Text) : Option (Nat × Text) :=
  let ds := s.take count
  if ds.length = count ∧ ds.all Char.isDigit then
    some (ds.foldl (fun n c => 10 * n + (c.toNat - '0'.toNat)) 0, s.drop count)
  else none

def field? (low high : Nat) (s : Text) : Option (Nat × Text) :=
  match digits? 2 s with
  | some (n, s) => if low ≤ n ∧ n ≤ high then some (n, s) else none
  | none => none

def sign? (c : Char) : Text → Option Text
  | d :: s => if d = c then some s else none
  | [] => none

def isLeap (year : Nat) : Bool :=
  year % 4 = 0 && (year % 100 ≠ 0 || year % 400 = 0)

def daysIn (year month : Nat) : Nat :=
  if month = 2 then (if isLeap year then 29 else 28)
  else if month = 4 ∨ month = 6 ∨ month = 9 ∨ month = 11 then 30
  else 31

def date? (s : Text) : Option Text := do
  let (year, s) ← digits? 4 s
  let s ← sign? '-' s
  let (month, s) ← field? 1 12 s
  let s ← sign? '-' s
  let (_, s) ← field? 1 (daysIn year month) s
  return s

def hourAndMinute? (s : Text) : Option Text := do
  let (_, s) ← field? 0 23 s
  let s ← sign? ':' s
  let (_, s) ← field? 0 59 s
  return s

def skipFraction : Text → Text
  | '.' :: d :: s => if d.isDigit then s.dropWhile Char.isDigit else '.' :: d :: s
  | s => s

/-- A time of day; a second may be a leap second. -/
def time? (s : Text) : Option Text := do
  let s ← hourAndMinute? s
  let s ← sign? ':' s
  let (_, s) ← field? 0 60 s
  return skipFraction s

def skipOffset : Text → Text
  | c :: s =>
    if c = 'Z' ∨ c = 'z' then s
    else if c = '+' ∨ c = '-' then (hourAndMinute? s).getD (c :: s)
    else c :: s
  | [] => []

def skipTime : Text → Text
  | c :: s =>
    if c = 'T' ∨ c = 't' ∨ c = ' ' then ((time? s).map skipOffset).getD (c :: s) else c :: s
  | [] => []

def dateTime? (s : Text) : Option Text :=
  match date? s with
  | some s => some (skipTime s)
  | none => time? s

end TapeCalc.Toml
