import TapeCalc.Proofs.Idiom
import TapeCalc.Proofs.LineValue

/-!
What a line that is read contributes to a text. The presets join the value of the line to an empty
text: an integer gives its digits again, without a plus or zeros before them, a float gives its
own spelling, and any other line gives what stands between its blanks. Nothing comes of a line of
blanks and of the end of the input, and of no other line.
-/

namespace TapeCalc

namespace Style

theorem writeDecimal_ne_nil (style : Style) (d : Decimal) : style.writeDecimal d ≠ [] := by
  have digits := Text.ofNat_ne_nil d.coefficient
  simp only [writeDecimal, writePositional, writeScientific]
  split
  · split
    · simp [digits]
    · split <;> simp
  · simp

theorem write_joined_ne_nil (x : Float) : Value.joined.write x ≠ [] := by
  unfold write
  split
  · decide
  · decide
  · decide
  · dsimp only
    split
    · exact List.cons_ne_nil _ _
    · exact writeDecimal_ne_nil _ _

end Style

theorem Numeral.IntegerText.ne_nil {s : Text} {n : Int} (h : IntegerText s n) : s ≠ [] := by
  obtain ⟨_, nonempty, _⟩ := h
  exact fun empty => nonempty (List.append_eq_nil_iff.1 empty).2

namespace Text

open Numeral (IntegerText FloatText)

/-- The text that a line contributes, by what stands between its blanks. -/
inductive Joins (line : Text) : Text → Prop
  | int {s : Text} {n : Int64} (trims : line.Trims s) (integer : IntegerText s n.toInt) :
      Joins line (ofInt n.toInt)
  | float {s : Text} {x : Float} (trims : line.Trims s) (marked : s.Marked)
      (float : FloatText s) (read : Numeral.readFloat? s = some x) :
      Joins line (Value.joined.write x)
  | text {s : Text} (trims : line.Trims s) (noInteger : ∀ n : Int64, ¬ IntegerText s n.toInt)
      (noFloat : ¬ (s.Marked ∧ FloatText s)) : Joins line s

theorem joins_ofLine (line : Text) : line.Joins (Value.ofLine line).joinText := by
  have trims := trims_trim line
  obtain ⟨n, same⟩ | ⟨x, same⟩ | same := Value.ofLine_cases line
  · rw [same]
    exact .int trims (Value.ofLine_eq_int_iff.1 same)
  · obtain ⟨marked, float⟩ := Value.ofLine_eq_float_iff.1 ⟨x, same⟩
    rw [same]
    refine .float trims marked float ?_
    rw [Value.ofLine_of_marked marked] at same
    cases read : Numeral.readFloat? line.trim with
    | none =>
        rw [read] at same
        cases same
    | some y =>
        rw [read] at same
        cases same
        rfl
  · obtain ⟨noInteger, noFloat⟩ := Value.ofLine_eq_text_iff.1 same
    rw [same]
    exact .text trims noInteger noFloat

theorem joins_iff {line t : Text} : line.Joins t ↔ t = (Value.ofLine line).joinText := by
  constructor
  · intro joins
    cases joins with
    | int trims integer =>
        rw [← trims.trim_eq] at integer
        rw [Value.ofLine_eq_int_iff.2 integer]
        rfl
    | float trims marked float read =>
        rw [← trims.trim_eq] at marked read
        rw [Value.ofLine_of_marked marked, read]
        rfl
    | text trims noInteger noFloat =>
        rw [← trims.trim_eq] at noInteger noFloat
        rw [Value.ofLine_eq_text_iff.2 ⟨noInteger, noFloat⟩, ← trims.trim_eq]
        rfl
  · rintro rfl
    exact joins_ofLine line

theorem trims_nil_iff {line : Text} : line.Trims [] ↔ ∀ c ∈ line, isBlank c = true := by
  constructor
  · rintro ⟨⟨u, v, rfl, before, after⟩, _, _⟩ c inside
    rw [List.append_nil, List.mem_append] at inside
    obtain inside | inside := inside
    · exact before c inside
    · exact after c inside
  · intro blank
    exact ⟨⟨line, [], by simp, blank, nofun⟩, nofun, nofun⟩

theorem joins_nil_iff {line : Text} : line.Joins [] ↔ ∀ c ∈ line, isBlank c = true := by
  rw [← trims_nil_iff]
  constructor
  · intro joins
    generalize empty : ([] : Text) = t at joins
    cases joins with
    | int trims integer =>
        exact absurd empty.symm (Numeral.integerText_ofInt _).ne_nil
    | float trims marked float read => exact absurd empty.symm (Style.write_joined_ne_nil _)
    | text trims noInteger noFloat => exact empty ▸ trims
  · intro trims
    exact .text trims (fun _ integer => integer.ne_nil rfl) fun float => by simp [Marked] at float

end Text

namespace Script

/-- The text that the next value contributes: that of the next line, or nothing at the end of the
input. -/
inductive NextText (k : Script) : Text → Prop
  | ended (none : k.lines = []) : NextText k []
  | line {line t : Text} {rest : List Text} (first : k.lines = line :: rest)
      (joins : line.Joins t) : NextText k t

theorem nextText_iff {k : Script} {t : Text} : k.NextText t ↔ t = k.nextValue.joinText := by
  constructor
  · intro next
    cases next with
    | ended none =>
        rw [nextValue, none]
        rfl
    | line first joins =>
        rw [nextValue, first]
        exact Text.joins_iff.1 joins
  · rintro rfl
    cases lines : k.lines with
    | nil =>
        rw [nextValue, lines]
        exact .ended lines
    | cons line rest =>
        rw [nextValue, lines]
        exact .line lines (Text.joins_ofLine line)

theorem nextText_nil_iff {k : Script} :
    k.NextText [] ↔ ∀ line ∈ k.lines.head?, ∀ c ∈ line, Text.isBlank c = true := by
  rw [nextText_iff, nextValue]
  cases k.lines with
  | nil => simp [Value.empty, Value.joinText]
  | cons line rest =>
      rw [← Text.joins_iff, Text.joins_nil_iff]
      simp

end Script

end TapeCalc
