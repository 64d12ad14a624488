import TapeCalc.Stack
import TapeCalc.Tape

/-!
Literals are not cut out ahead of time: each character meets the current mode. In execution
mode a digit, a point or an opening parenthesis pushes a fresh value and starts a literal; in
the other modes characters grow the value on top. A character that does not belong to a number
ends it and is looked at again in execution mode, so that none is lost.
-/

namespace TapeCalc

inductive Mode
  | execution
  | integer
  /-- The next digit weighs `10 ^ -place`. -/
  | decimal (place : Int)
  /-- `depth` parentheses are open. -/
  | string (depth : Nat)
deriving DecidableEq

namespace Mode

def name : Mode → String
  | execution => "execution"
  | integer => "integer"
  | decimal _ => "decimal"
  | string _ => "string"

def isBuilding : Mode → Bool
  | execution => false
  | _ => true

/-- What a character does: it takes part in a literal, or it is left for the operators. -/
inductive Progress
  | building (mode : Mode) (stack : Stack)
  | command

def digitValue (c : Char) : Nat :=
  c.toNat - '0'.toNat

/-- Multiply `r` by `a ^ b`, squaring `a` along the bits of `b`. -/
def timesPower (r a : Float) (b : Nat) : Float :=
  let r := if b % 2 = 1 then r * a else r
  if b < 2 then r else timesPower r (a * a) (b / 2)
termination_by b

/-- The float taken for `10 ^ -place`. Places are signed 32-bit numbers, negation included. -/
def weight (place : Int) : Float :=
  let e := (-place).bmod 4294967296
  let p := timesPower 1 10 e.natAbs
  if e < 0 then 1 / p else p

/-- The place after `place`; the largest signed 32-bit number stays. -/
def nextPlace (place : Int) : Int :=
  min (place + 1) 2147483647

def wrongTop (literal : Literal) (s : Stack) : RuntimeError :=
  .wrongTop literal (s.top?.map Value.kind)

def start (c : Char) (s : Stack) : Progress :=
  if c.isDigit then .building integer (s.push (.int (Int64.ofNat (digitValue c))))
  else if c = '.' then .building (decimal 1) (s.push (.float 0))
  else if c = '(' then .building (string 1) (s.push .empty)
  else .command

/-- The integer on top, for the character `c` that extends it. -/
def topInteger (c : Char) (s : Stack) : Except RuntimeError (Int64 × Stack) :=
  match s.pop? with
  | none => .error (.underflow c 1 0)
  | some (.int n, below) => .ok (n, below)
  | some _ => .error (wrongTop .integer s)

def inInteger (c : Char) (s : Stack) : Except RuntimeError Progress :=
  if c.isDigit then do
    let (n, s) ← topInteger c s
    return .building integer (s.push (.int (n * 10 + Int64.ofNat (digitValue c))))
  else if c = '.' then do
    let (n, s) ← topInteger c s
    return .building (decimal 1) (s.push (.float (Float.ofInt n.toInt)))
  else
    return start c s

def inDecimal (place : Int) (c : Char) (s : Stack) : Except RuntimeError Progress :=
  if c.isDigit then
    match s.pop? with
    | some (.float x, below) =>
      let x := x + Float.ofNat (digitValue c) * weight place
      .ok (.building (decimal (nextPlace place)) (below.push (.float x)))
    | _ => .error (wrongTop .decimal s)
  else
    .ok (start c s)

def inString (depth : Nat) (c : Char) (s : Stack) : Except RuntimeError Progress :=
  match s.pop? with
  | some (.text t, below) =>
    let grown := below.push (.text (t ++ [c]))
    if c = '(' then .ok (.building (string (depth + 1)) grown)
    else if c = ')' then
      if 1 < depth then .ok (.building (string (depth - 1)) grown)
      else .ok (.building execution s)
    else .ok (.building (string depth) grown)
  | _ => .error (wrongTop .string s)

/-- Take at most `limit` characters that leave a text literal open: those taken so far, the last
one first, how many parentheses are open after them, and the rest of the tape. -/
def inside : Nat → Text → Nat → Tape → Text × Nat × Tape
  | 0, taken, depth, tape => (taken, depth, tape)
  | limit + 1, taken, depth, tape =>
    match tape.next? with
    | none => (taken, depth, tape)
    | some (c, rest) =>
      if c = '(' then inside limit (c :: taken) (depth + 1) rest
      else if c = ')' then
        if 1 < depth then inside limit (c :: taken) (depth - 1) rest else (taken, depth, tape)
      else inside limit (c :: taken) depth rest

def advance (mode : Mode) (c : Char) (s : Stack) : Except RuntimeError Progress :=
  match mode with
  | execution => .ok (start c s)
  | integer => inInteger c s
  | decimal place => inDecimal place c s
  | string depth => inString depth c s

end Mode

end TapeCalc
