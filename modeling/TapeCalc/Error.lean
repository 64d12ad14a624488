import TapeCalc.Value.Basic

/-!
What can end a run: too few operands, a literal whose unfinished value is not on top of the
stack, or a console that fails.
-/

namespace TapeCalc

/-- The literals that are built on the stack character by character. -/
inductive Literal
  | integer
  | decimal
  | string
deriving DecidableEq

namespace Literal

def name : Literal → String
  | integer => "integer"
  | decimal => "decimal"
  | string => "string"

def kind : Literal → Kind
  | integer => .integer
  | decimal => .float
  | string => .string

end Literal

inductive RuntimeError
  | underflow (op : Char) (needed found : Nat)
  | wrongTop (literal : Literal) (found : Option Kind)
  | console (reason : Text)
deriving DecidableEq

namespace RuntimeError

def message : RuntimeError → String
  | underflow op needed found =>
    s!"stack underflow: '{op}' needs {needed} operand(s), stack has {found}"
  | wrongTop literal found =>
    let wanted := literal.kind.name
    let seen := (found.map Kind.name).getD "nothing"
    s!"{literal.name} construction: expected {wanted} on top of stack, found {seen}"
  | console reason => "console i/o failed: " ++ String.ofList reason

end RuntimeError

end TapeCalc
