import TapeCalc.Text.Cluster

/-!
Text as it is typed: a backspace erases the cluster before it. What there is to erase is kept
as a size in bytes, and a size is itself kept in one byte, so that of a cluster of 256 bytes or
more only the remainder is erased.
-/

namespace TapeCalc.Text

def backspace : Char := '\x08'

def byteSize (s : Text) : Nat :=
  s.foldl (fun n c => n + c.utf8Size) 0

/-- Drop characters that fill exactly `n` bytes, if the text starts with such. -/
def dropBytes? (n : Nat) : Text → Option Text
  | [] => if n = 0 then some [] else none
  | c :: rest =>
    if n = 0 then some (c :: rest)
    else if c.utf8Size ≤ n then dropBytes? (n - c.utf8Size) rest
    else none

structure Typed where
  /-- The characters kept so far, the last one first. -/
  kept : Text := []
  /-- The sizes of the clusters that can be erased, the last one first. -/
  sizes : List UInt8 := []

namespace Typed

/-- Nothing is left to erase at the beginning; a cut inside a character fails. -/
def erase? (t : Typed) : Option Typed :=
  match t.sizes with
  | [] => some t
  | n :: sizes => (dropBytes? n.toNat t.kept).map fun kept => { kept := kept, sizes := sizes }

def push? (t : Typed) (cluster : Text) : Option Typed :=
  if cluster = [backspace] then t.erase?
  else
    some {
      kept := cluster.reverse ++ t.kept
      sizes := UInt8.ofNat (byteSize cluster) :: t.sizes }

end Typed

/-- The text that is left when every backspace has erased what stands before it. -/
def typed? (s : Text) : Option Text :=
  (s.clusters.foldlM Typed.push? {}).map fun t => t.kept.reverse

end TapeCalc.Text
