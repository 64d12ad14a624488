import TapeCalc.Error
import TapeCalc.Op

/-!
The data stack. Its depth is kept beside the values, since programs may ask for it at every step.
Depths given to `pick?` and `remove?` count from one at the top. Listings run from the bottom to
the top.
-/

namespace TapeCalc

structure Stack where
  /-- The values, the top first. -/
  values : List Value
  depth : Nat
  depth_eq : depth = values.length

namespace Stack

theorem ext {s t : Stack} (h : s.values = t.values) : s = t := by
  obtain ⟨values, depth, hs⟩ := s
  obtain ⟨values', depth', ht⟩ := t
  cases h
  cases hs
  cases ht
  rfl

def ofList (values : List Value) : Stack :=
  ⟨values, values.length, rfl⟩

def empty : Stack :=
  ofList []

def push (s : Stack) (v : Value) : Stack :=
  ⟨v :: s.values, s.depth + 1, by simp [s.depth_eq]⟩

def pop? : Stack → Option (Value × Stack)
  | ⟨[], _, _⟩ => none
  | ⟨v :: values, depth, h⟩ => some (v, ⟨values, depth - 1, by simp [h]⟩)

@[simp] theorem pop?_empty : empty.pop? = none := rfl

@[simp] theorem pop?_push (s : Stack) (v : Value) : (s.push v).pop? = some (v, s) := rfl

/-- A stack is empty or a value on top of another stack. -/
@[elab_as_elim, cases_eliminator]
theorem cases_push {motive : Stack → Prop} (empty : motive empty)
    (push : ∀ s v, motive (push s v)) (s : Stack) : motive s := by
  obtain ⟨_ | ⟨v, values⟩, depth, h⟩ := s
  · cases h
    exact empty
  · cases h
    exact push (ofList values) v

def top? (s : Stack) : Option Value :=
  s.values.head?

@[simp] theorem top?_empty : empty.top? = none := rfl

@[simp] theorem top?_push (s : Stack) (v : Value) : (s.push v).top? = some v := rfl

@[simp] theorem depth_empty : empty.depth = 0 := rfl

@[simp] theorem depth_push (s : Stack) (v : Value) : (s.push v).depth = s.depth + 1 := rfl

theorem pop?_eq_some_iff {s below : Stack} {v : Value} :
    s.pop? = some (v, below) ↔ s = below.push v := by
  constructor
  · intro h
    cases s with
    | empty => cases h
    | push s w =>
        cases h
        rfl
  · rintro rfl
    exact pop?_push below v

theorem top?_eq_some_iff {s : Stack} {v : Value} : s.top? = some v ↔ ∃ below, s = push below v := by
  constructor
  · intro h
    cases s with
    | empty => cases h
    | push below w =>
        cases h
        exact ⟨below, rfl⟩
  · rintro ⟨below, rfl⟩
    exact top?_push below v

def require (s : Stack) (op : Char) (needed : Nat) : Except RuntimeError Unit :=
  if s.depth < needed then .error (.underflow op needed s.depth) else .ok ()

theorem require_eq_ok_iff {s : Stack} {op : Char} {needed : Nat} :
    s.require op needed = .ok () ↔ needed ≤ s.depth := by
  unfold require
  split <;> simp <;> omega

def pop (s : Stack) (op : Char) : Except RuntimeError (Value × Stack) :=
  match s.pop? with
  | none => .error (.underflow op 1 0)
  | some (v, s) => .ok (v, s)

/-- The two topmost values, the one pushed first on the left. -/
def popTwo (s : Stack) (op : Char) : Except RuntimeError (Value × Value × Stack) :=
  match s.pop? with
  | none => .error (.underflow op 2 0)
  | some (r, below) =>
    match below.pop? with
    | none => .error (.underflow op 2 1)
    | some (l, rest) => .ok (l, r, rest)

@[simp] theorem pop_push (s : Stack) (v : Value) (op : Char) :
    (s.push v).pop op = .ok (v, s) := rfl

@[simp] theorem popTwo_push_push (s : Stack) (l r : Value) (op : Char) :
    ((s.push l).push r).popTwo op = .ok (l, r, s) := rfl

/-- The value `n` places below the top, and the empty text where there is none. -/
def peek (s : Stack) (n : Nat) : Value :=
  (s.values[n]?).getD .empty

/-- Put `v` in the place of the top, which is given back. -/
def setTop (s : Stack) (v : Value) : Option (Value × Stack) :=
  s.pop?.map fun (old, below) => (old, below.push v)

def at? (s : Stack) : Nat → Option Value
  | 0 => none
  | n + 1 => s.values[n]?

/-- The stack with a copy of the value at depth `n` pushed. -/
def pick? (s : Stack) (n : Nat) : Option Stack :=
  (s.at? n).map s.push

/-- The value at depth `n` and the stack without it. -/
def remove? (s : Stack) (n : Nat) : Option (Value × Stack) :=
  if h : 1 ≤ n ∧ n ≤ s.depth then
    have inside : n - 1 < s.values.length := by
      have := s.depth_eq
      omega
    some (s.values[n - 1], {
      values := s.values.eraseIdx (n - 1)
      depth := s.depth - 1
      depth_eq := by rw [List.length_eraseIdx_of_lt inside, s.depth_eq] })
  else none

/-- The depth that a popped value stands for. -/
def depthOf? : Value → Option Nat
  | .int n => if 1 ≤ n then some n.toInt.toNat else none
  | _ => none

/-- Replace the depth on top by a copy of the value there. A depth outside the stack is
dropped. -/
def copy (s : Stack) : Except RuntimeError Stack :=
  (s.pop Op.copy.symbol).map fun (n, s) => ((depthOf? n).bind s.pick?).getD s

/-- Take the depth on top and remove the value there. A depth outside the stack is dropped. -/
def delete (s : Stack) : Except RuntimeError Stack :=
  (s.pop Op.delete.symbol).map fun (n, s) => ((depthOf? n).bind s.remove?).elim s Prod.snd

def pushDepth (s : Stack) : Stack :=
  s.push (.int (clampInt64 s.depth))

def bottomUp (s : Stack) : List Value :=
  s.values.reverse

def listing (s : Stack) : Text :=
  '[' :: (Text.join ", ".toList (s.bottomUp.map Value.listed) ++ [']'])

end Stack

end TapeCalc
