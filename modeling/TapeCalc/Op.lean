/-!
The twenty operators, with the character, name, operand count and stack effect of each.
-/

namespace TapeCalc

inductive Op
  | add | subtract | multiply | divide | modulo
  | equal | less | greater
  | and | or
  | isFalsy | negate | truncate
  | copy | delete
  | applyNow | applyLater
  | depth | read | write
deriving DecidableEq

namespace Op

/-- Every operator, in the order in which they are listed. -/
def all : List Op :=
  [add, subtract, multiply, divide, modulo, equal, less, greater, and, or, isFalsy, negate,
    truncate, copy, delete, applyNow, applyLater, depth, read, write]

def symbol : Op → Char
  | add => '+'
  | subtract => '-'
  | multiply => '*'
  | divide => '/'
  | modulo => '%'
  | equal => '='
  | less => '<'
  | greater => '>'
  | and => '&'
  | or => '|'
  | isFalsy => '_'
  | negate => '~'
  | truncate => '?'
  | copy => '!'
  | delete => '$'
  | applyNow => '@'
  | applyLater => '\\'
  | depth => '#'
  | read => '\''
  | write => '"'

def ofChar? (c : Char) : Option Op :=
  all.find? fun op => op.symbol = c

def name : Op → String
  | add => "add"
  | subtract => "subtract"
  | multiply => "multiply"
  | divide => "divide"
  | modulo => "modulo"
  | equal => "equal"
  | less => "less"
  | greater => "greater"
  | and => "and"
  | or => "or"
  | isFalsy => "is-falsy"
  | negate => "negate"
  | truncate => "truncate"
  | copy => "copy"
  | delete => "delete"
  | applyNow => "apply-now"
  | applyLater => "apply-later"
  | depth => "depth"
  | read => "read"
  | write => "write"

def arity : Op → Nat
  | add | subtract | multiply | divide | modulo | equal | less | greater | and | or => 2
  | isFalsy | negate | truncate | copy | delete | applyNow | applyLater | write => 1
  | depth | read => 0

/-- The values taken and left, the top of the stack on the right. -/
def effect : Op → String
  | add | subtract | multiply | divide | modulo | and | or => "( a b -- a.b )"
  | equal | less | greater => "( a b -- flag )"
  | isFalsy => "( v -- flag )"
  | negate | truncate => "( v -- v' )"
  | copy => "( n -- v )"
  | delete | applyNow | applyLater | write => "( v -- )"
  | depth => "( -- n )"
  | read => "( -- v )"

end Op

end TapeCalc
