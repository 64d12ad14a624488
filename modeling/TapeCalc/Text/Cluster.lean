import TapeCalc.Text.Basic
import TapeCalc.Text.Cluster.Table

/-!
Clusters of characters that a reader takes for one: a letter with its marks, a syllable of
Hangul, a flag, a joined pictograph, a conjunct. They are the extended grapheme clusters of
Unicode. A text is read from left to right; whether a character joins the one before it depends
on the class of both and on a few facts about what ends there, which `Context` keeps.
-/

namespace TapeCalc.Text

namespace Cluster

inductive Role
  | control
  | extend
  | joiner
  | spacing
  | prepend
  /-- Parts of a Hangul syllable, and syllables without and with a final consonant. -/
  | leading
  | vowel
  | trailing
  | openSyllable
  | closedSyllable
  | regional
  | other
deriving DecidableEq

/-- The Hangul syllables come in groups of 28 with the open one first. -/
def syllableRole (n : Nat) : Role :=
  if (n - 0xAC00) % 28 = 0 then .openSyllable else .closedSyllable

def Role.ofChar (c : Char) : Role :=
  let n := c.toNat
  if c = '\u200D' then joiner
  else if inRanges n controlRanges then control
  else if inRanges n extendRanges then extend
  else if inRanges n spacingRanges then spacing
  else if inRanges n prependRanges then prepend
  else if inRanges n [(0x1100, 0x115F), (0xA960, 0xA97C)] then leading
  else if inRanges n [(0x1160, 0x11A7), (0xD7B0, 0xD7C6), (0x16D63, 0x16D63),
    (0x16D67, 0x16D6A)] then vowel
  else if inRanges n [(0x11A8, 0x11FF), (0xD7CB, 0xD7FB)] then trailing
  else if inRanges n [(0xAC00, 0xD7A3)] then syllableRole n
  else if inRanges n [(0x1F1E6, 0x1F1FF)] then regional
  else other

def isPictograph (c : Char) : Bool :=
  inRanges c.toNat pictographRanges

def isConsonant (c : Char) : Bool :=
  inRanges c.toNat consonantRanges

def isLinker (c : Char) : Bool :=
  inRanges c.toNat linkerRanges

/-- The marks that a conjunct may hold besides its linkers. -/
def isFiller (c : Char) : Bool :=
  match Role.ofChar c with
  | .joiner => true
  | .extend => c ≠ '\u200C' && !isLinker c
  | _ => false

structure Context where
  last : Char
  role : Role
  /-- An odd number of regional indicators ends here. -/
  oddRegional : Bool := false
  /-- A pictograph with nothing but extending marks after it ends here. -/
  pictograph : Bool := false
  /-- Such a pictograph and a joiner end here. -/
  joined : Bool := false
  /-- A consonant with nothing but linkers and fillers after it ends here. -/
  consonant : Bool := false
  /-- Such a consonant ends here, and there is a linker after it. -/
  linked : Bool := false

namespace Context

def push (s : Context) (c : Char) : Context :=
  let role := Role.ofChar c
  let keep := isLinker c || isFiller c
  { last := c
    role := role
    oddRegional := role = .regional && !s.oddRegional
    pictograph := isPictograph c || (role = .extend && s.pictograph)
    joined := role = .joiner && s.pictograph
    consonant := isConsonant c || (keep && s.consonant)
    linked := keep && s.consonant && (isLinker c || s.linked) }

def ofChar (c : Char) : Context :=
  push { last := '\n', role := .control } c

def isSyllable : Role → Role → Bool
  | .leading, .leading | .leading, .vowel => true
  | .leading, .openSyllable | .leading, .closedSyllable => true
  | .openSyllable, .vowel | .openSyllable, .trailing => true
  | .vowel, .vowel | .vowel, .trailing => true
  | .closedSyllable, .trailing | .trailing, .trailing => true
  | _, _ => false

def joins (s : Context) (c : Char) : Bool :=
  let role := Role.ofChar c
  if s.last = '\r' ∧ c = '\n' then true
  else if s.role = .control ∨ role = .control then false
  else
    isSyllable s.role role || role = .extend || role = .joiner || role = .spacing ||
      s.role = .prepend || (s.linked && isConsonant c) || (s.joined && isPictograph c) ||
      (s.oddRegional && role = .regional)

end Context

/-- The clusters of a text that goes on after the clusters `done`, the last one first, and after
`cluster`, which holds its last character first. -/
def after (s : Context) (done : List Text) (cluster : Text) : Text → List Text
  | [] => (cluster.reverse :: done).reverse
  | c :: rest =>
    if s.joins c then after (s.push c) done (c :: cluster) rest
    else after (s.push c) (cluster.reverse :: done) [c] rest

end Cluster

def clusters : Text → List Text
  | [] => []
  | c :: rest => Cluster.after (.ofChar c) [] [c] rest

end TapeCalc.Text
