import TapeCalc.Value.Basic

/-!
The fifty-two registers, one per ASCII letter, and banks of their values. A running program
can read a register and never change it.
-/

namespace TapeCalc

structure Register where
  letter : Char
  isAlpha : letter.isAlpha = true
deriving DecidableEq

namespace Register

def ofChar? (c : Char) : Option Register :=
  if h : c.isAlpha = true then some ⟨c, h⟩ else none

def ofText? : Text → Option Register
  | [c] => ofChar? c
  | _ => none

def letters : Text :=
  (List.range 26).map (fun i => Char.ofNat ('A'.toNat + i)) ++
    (List.range 26).map (fun i => Char.ofNat ('a'.toNat + i))

/-- Every register, `A` to `Z` and then `a` to `z`. -/
def all : List Register :=
  letters.filterMap ofChar?

end Register

/-- The values of the registers, each in a slot of its own. -/
structure Bank where
  slots : Vector Value 52

namespace Bank

/-- `A` to `Z` have the first slots, and `a` to `z` the others. -/
def slot? (c : Char) : Option (Fin 52) :=
  if upper : 'A'.toNat ≤ c.toNat ∧ c.toNat ≤ 'Z'.toNat then
    some ⟨c.toNat - 'A'.toNat, Nat.lt_of_le_of_lt (Nat.sub_le_sub_right upper.2 _) (by decide)⟩
  else if lower : 'a'.toNat ≤ c.toNat ∧ c.toNat ≤ 'z'.toNat then
    some ⟨26 + (c.toNat - 'a'.toNat),
      Nat.lt_of_le_of_lt (Nat.add_le_add_left (Nat.sub_le_sub_right lower.2 _) 26) (by decide)⟩
  else none

def empty : Bank where
  slots := Vector.replicate 52 .empty

/-- The value under any character; what is no register holds the empty text. -/
def read (bank : Bank) (c : Char) : Value :=
  match slot? c with
  | some i => bank.slots[i]
  | none => .empty

def get (bank : Bank) (r : Register) : Value :=
  bank.read r.letter

instance : CoeFun Bank fun _ => Register → Value where
  coe := get

/-- Put a value into the slot of a character, if it has one. -/
def store? (bank : Bank) (c : Char) (v : Value) : Option Bank :=
  (slot? c).map fun i : Fin 52 => ⟨bank.slots.set i v⟩

def set (bank : Bank) (r : Register) (v : Value) : Bank :=
  (bank.store? r.letter v).getD bank

def entries (bank : Bank) : List (Register × Value) :=
  Register.all.zip bank.slots.toList

def occupied (bank : Bank) : List (Register × Value) :=
  bank.entries.filter fun entry => !entry.2.isEmpty

end Bank

end TapeCalc
