import TapeCalc.Value.Basic

/-!
The values of lines. The readers of integers and floats accept exactly the texts of a grammar that
is given here by its parts: a sign, digits, a point and an exponent. A line is an integer, a float
or a text according to what stands between the blanks at its ends, and each of these cases
excludes the others. A value that is no float reads back from its own text.
-/

namespace TapeCalc

namespace Text

/-- Characters that satisfy `p`, and then none or one that does not. -/
theorem span_append {p : Char → Bool} {u v : Text} (inside : ∀ c ∈ u, p c = true)
    (boundary : ∀ c ∈ v.head?, p c = false) :
    (u ++ v).takeWhile p = u ∧ (u ++ v).dropWhile p = v := by
  rw [List.takeWhile_append_of_pos inside, List.dropWhile_append_of_pos inside]
  cases v with
  | nil => simp
  | cons c v => simp [boundary c rfl]

theorem head?_dropWhile {p : Char → Bool} {u : Text} {c : Char} (h : c ∈ (u.dropWhile p).head?) :
    p c = false := by
  have stopped := List.head?_dropWhile_not p u
  rw [Option.mem_def.1 h] at stopped
  exact stopped

/-- `t` is the line without the blanks at its ends. -/
structure Trims (line t : Text) : Prop where
  around : ∃ u v, line = u ++ t ++ v ∧ (∀ c ∈ u, isBlank c = true) ∧ ∀ c ∈ v, isBlank c = true
  first : ∀ c ∈ t.head?, isBlank c = false
  last : ∀ c ∈ t.getLast?, isBlank c = false

theorem trims_trim (line : Text) : line.Trims line.trim := by
  let rest := line.dropWhile isBlank
  let blanks := (rest.reverse.takeWhile isBlank).reverse
  have ends : rest = line.trim ++ blanks := by
    rw [trim, dropEndWhile, ← List.reverse_append, List.takeWhile_append_dropWhile,
      List.reverse_reverse]
  refine ⟨⟨line.takeWhile isBlank, blanks, ?_, ?_, ?_⟩, ?_, ?_⟩
  · rw [List.append_assoc, ← ends, List.takeWhile_append_dropWhile]
  · exact List.all_eq_true.1 List.all_takeWhile
  · intro c blank
    exact List.all_eq_true.1 List.all_takeWhile c (List.mem_reverse.1 blank)
  · intro c first
    apply head?_dropWhile (u := line)
    change c ∈ rest.head?
    rw [ends, List.head?_append, Option.mem_def.1 first]
    rfl
  · intro c last
    rw [trim, dropEndWhile, List.getLast?_reverse] at last
    exact head?_dropWhile last

theorem Trims.trim_eq {line t : Text} (h : line.Trims t) : line.trim = t := by
  obtain ⟨⟨u, v, rfl, before, after⟩, first, last⟩ := h
  cases t with
  | nil =>
      have blank : ∀ c ∈ u ++ v, isBlank c = true := by
        intro c inside
        obtain inside | inside := List.mem_append.1 inside
        · exact before c inside
        · exact after c inside
      have gone := (span_append (v := []) blank nofun).2
      rw [List.append_nil] at gone
      rw [List.append_nil, trim, gone]
      rfl
  | cons c t =>
      have front := (span_append (v := c :: t ++ v) before (by simpa using first)).2
      have back := (span_append (u := v.reverse) (v := (c :: t).reverse)
        (fun d inside => after d (List.mem_reverse.1 inside))
        (by rw [List.head?_reverse]; exact last)).2
      rw [List.append_assoc, trim, front, dropEndWhile, List.reverse_append, back,
        List.reverse_reverse]

theorem trim_eq_self {t : Text} (first : ∀ c ∈ t.head?, isBlank c = false)
    (last : ∀ c ∈ t.getLast?, isBlank c = false) : t.trim = t :=
  Trims.trim_eq ⟨⟨[], [], by simp, nofun, nofun⟩, first, last⟩

theorem trim_trim (line : Text) : line.trim.trim = line.trim := by
  obtain ⟨_, first, last⟩ := trims_trim line
  exact trim_eq_self first last

end Text

namespace Numeral

/-- An optional sign; the flag is for a minus. -/
inductive Sign : Text → Bool → Prop
  | absent : Sign [] false
  | plus : Sign ['+'] false
  | minus : Sign ['-'] true

/-- An optional sign and at least one digit, with the value that they denote. -/
inductive IntegerText : Text → Int → Prop
  | intro {sign ds : Text} {negative : Bool} (leading : Sign sign negative) (nonempty : ds ≠ [])
      (digits : ∀ c ∈ ds, c.isDigit = true) :
      IntegerText (sign ++ ds) (signed negative (value ds))

/-- Nothing, or a point and any number of digits, which are given once more. -/
inductive FractionText : Text → Text → Prop
  | absent : FractionText [] []
  | point {ds : Text} (digits : ∀ c ∈ ds, c.isDigit = true) : FractionText ('.' :: ds) ds

/-- Nothing, or a mark, an optional sign and at least one digit. -/
inductive ExponentText : Text → Prop
  | absent : ExponentText []
  | marked {c : Char} {t : Text} {e : Int} (mark : c = 'e' ∨ c = 'E')
      (power : IntegerText t e) : ExponentText (c :: t)

/-- An optional sign, digits around an optional point, at least one of them, and an optional
exponent. -/
inductive FloatText : Text → Prop
  | intro {sign whole point fraction exponent : Text} {negative : Bool}
      (leading : Sign sign negative) (digits : ∀ c ∈ whole, c.isDigit = true)
      (trailing : FractionText point fraction) (nonempty : whole ++ fraction ≠ [])
      (power : ExponentText exponent) :
      FloatText (sign ++ (whole ++ (point ++ exponent)))

theorem sign_takeSign (s : Text) :
    ∃ sign, Sign sign (takeSign s).1 ∧ s = sign ++ (takeSign s).2 := by
  unfold takeSign
  split
  · exact ⟨_, .minus, rfl⟩
  · exact ⟨_, .plus, rfl⟩
  · exact ⟨_, .absent, rfl⟩

theorem takeSign_append {sign t : Text} {negative : Bool} (h : Sign sign negative)
    (unsigned : ∀ c ∈ t.head?, c ≠ '-' ∧ c ≠ '+') : takeSign (sign ++ t) = (negative, t) := by
  cases h with
  | plus | minus => rfl
  | absent =>
      cases t with
      | nil => rfl
      | cons c t =>
          obtain ⟨minus, plus⟩ := unsigned c rfl
          simp [takeSign, minus, plus]

theorem unsigned_of_isDigit {c : Char} (h : c.isDigit = true) : c ≠ '-' ∧ c ≠ '+' := by
  constructor
  · rintro rfl
    cases h
  · rintro rfl
    cases h

theorem readNat?_eq_some_iff {s : Text} {n : Nat} :
    readNat? s = some n ↔ s ≠ [] ∧ (∀ c ∈ s, c.isDigit = true) ∧ value s = n := by
  simp [readNat?, and_assoc]

/-- The reader of integers accepts what the grammar does, with the value it denotes. -/
theorem readInt?_eq_some_iff {s : Text} {n : Int} : readInt? s = some n ↔ IntegerText s n := by
  constructor
  · intro read
    rcases hs : takeSign s with ⟨negative, t⟩
    obtain ⟨sign, leading, cut⟩ := sign_takeSign s
    rw [hs] at leading cut
    simp only [readInt?, hs] at read
    obtain ⟨m, behind, rfl⟩ := Option.map_eq_some_iff.1 read
    obtain ⟨nonempty, digits, rfl⟩ := readNat?_eq_some_iff.1 behind
    rw [cut]
    exact .intro leading nonempty digits
  · rintro ⟨leading, nonempty, digits⟩
    rename_i sign ds negative
    have unsigned (c : Char) (first : c ∈ ds.head?) : c ≠ '-' ∧ c ≠ '+' :=
      unsigned_of_isDigit (digits c (List.mem_of_head? first))
    simp only [readInt?, takeSign_append leading unsigned]
    rw [readNat?_eq_some_iff.2 ⟨nonempty, digits, rfl⟩]
    rfl

theorem readInt64?_eq_some_iff {s : Text} {n : Int64} :
    readInt64? s = some n ↔ IntegerText s n.toInt := by
  rw [← readInt?_eq_some_iff, readInt64?]
  constructor
  · intro read
    split at read
    · cases read
    · rename_i m whole
      split at read
      · rename_i range
        cases read
        rw [whole, Int64.toInt_ofInt_of_le range.1 (Int.lt_of_le_of_lt range.2 (by decide))]
      · cases read
  · intro read
    simp only [read]
    rw [if_pos ⟨n.minValue_le_toInt, n.toInt_le⟩, Int64.ofInt_toInt]

theorem isSome_readExponent?_iff {s : Text} :
    (readExponent? s).isSome = true ↔ ExponentText s := by
  cases s with
  | nil => simp [readExponent?, ExponentText.absent]
  | cons c s =>
      constructor
      · intro read
        rw [readExponent?] at read
        split at read
        · rename_i mark
          obtain ⟨e, read⟩ := Option.isSome_iff_exists.1 read
          exact .marked mark (readInt?_eq_some_iff.1 read)
        · cases read
      · rintro ⟨⟩
        rename_i e mark power
        rw [readExponent?, if_pos mark, readInt?_eq_some_iff.2 power]
        rfl

/-- What follows the digits of a float begins with no digit and no point. -/
theorem ExponentText.boundary {s : Text} (h : ExponentText s) :
    ∀ c ∈ s.head?, c.isDigit = false ∧ c ≠ '.' := by
  cases h with
  | absent => nofun
  | marked mark _ =>
      rintro c ⟨⟩
      obtain rfl | rfl := mark
      · decide
      · decide

theorem fraction_takeFraction (s : Text) :
    ∃ point, FractionText point (takeFraction s).1 ∧ s = point ++ (takeFraction s).2 := by
  unfold takeFraction
  split
  · rename_i s
    refine ⟨_, .point (List.all_eq_true.1 List.all_takeWhile), ?_⟩
    rw [List.cons_append, List.takeWhile_append_dropWhile]
  · exact ⟨_, .absent, rfl⟩

theorem takeFraction_append {point fraction t : Text} (h : FractionText point fraction)
    (boundary : ∀ c ∈ t.head?, c.isDigit = false ∧ c ≠ '.') :
    takeFraction (point ++ t) = (fraction, t) := by
  cases h with
  | absent =>
      cases t with
      | nil => rfl
      | cons c t => simp [takeFraction, (boundary c rfl).2]
  | point digits =>
      obtain ⟨taken, left⟩ := Text.span_append digits fun c first => (boundary c first).1
      simp [takeFraction, taken, left]

theorem FractionText.boundary {point fraction t : Text} (h : FractionText point fraction)
    (boundary : ∀ c ∈ t.head?, c.isDigit = false) :
    ∀ c ∈ (point ++ t).head?, c.isDigit = false := by
  cases h with
  | absent => exact boundary
  | point _ =>
      rintro c ⟨⟩
      rfl

theorem unsigned_digits {whole point fraction t : Text}
    (digits : ∀ c ∈ whole, c.isDigit = true) (trailing : FractionText point fraction)
    (nonempty : whole ++ fraction ≠ []) :
    ∀ c ∈ (whole ++ (point ++ t)).head?, c ≠ '-' ∧ c ≠ '+' := by
  cases whole with
  | cons d whole =>
      rintro c ⟨⟩
      exact unsigned_of_isDigit (digits d (by simp))
  | nil =>
      cases trailing with
      | absent => exact absurd rfl nonempty
      | point _ =>
          rintro c ⟨⟩
          decide

theorem isSome_readFloat?_iff {s : Text} : (readFloat? s).isSome = true ↔ FloatText s := by
  constructor
  · intro read
    rcases hs : takeSign s with ⟨negative, t⟩
    rcases hf : takeFraction (t.dropWhile Char.isDigit) with ⟨fraction, rest⟩
    obtain ⟨sign, leading, cut⟩ := sign_takeSign s
    obtain ⟨point, trailing, cut'⟩ := fraction_takeFraction (t.dropWhile Char.isDigit)
    rw [hs] at leading cut
    rw [hf] at trailing cut'
    simp only [readFloat?, hs, hf] at read
    split at read
    · cases read
    · rename_i nonempty
      have digits : ∀ c ∈ t.takeWhile Char.isDigit, c.isDigit = true :=
        List.all_eq_true.1 List.all_takeWhile
      have power := isSome_readExponent?_iff.1 (Option.isSome_map.symm.trans read)
      rw [cut, ← List.takeWhile_append_dropWhile (p := Char.isDigit) (l := t), cut']
      exact .intro leading digits trailing (by simpa using nonempty) power
  · rintro ⟨leading, digits, trailing, nonempty, power⟩
    rename_i sign whole point fraction exponent negative
    have unsigned := unsigned_digits (t := exponent) digits trailing nonempty
    have boundary := trailing.boundary fun c first => (power.boundary c first).1
    obtain ⟨taken, left⟩ := Text.span_append digits boundary
    simp only [readFloat?, takeSign_append leading unsigned, taken, left,
      takeFraction_append trailing power.boundary]
    rw [if_neg (by simpa using nonempty), Option.isSome_map]
    exact isSome_readExponent?_iff.2 power

theorem IntegerText.digit_or_sign {s : Text} {n : Int} (h : IntegerText s n) {c : Char}
    (inside : c ∈ s) : c.isDigit = true ∨ c = '+' ∨ c = '-' := by
  obtain ⟨leading, _, digits⟩ := h
  obtain inside | inside := List.mem_append.1 inside
  · cases leading with
    | absent => cases inside
    | plus => exact .inr (.inl (List.mem_singleton.1 inside))
    | minus => exact .inr (.inr (List.mem_singleton.1 inside))
  · exact .inl (digits c inside)

theorem integerText_ofInt (n : Int) : IntegerText (Text.ofInt n) n := by
  have digits {m : Nat} (c : Char) : c ∈ Text.ofNat m → c.isDigit = true :=
    Text.isDigit_of_mem_ofNat
  cases n with
  | ofNat m =>
      have written := IntegerText.intro .absent (Text.ofNat_ne_nil m) digits
      rw [value_ofNat] at written
      exact written
  | negSucc m =>
      have written := IntegerText.intro .minus (Text.ofNat_ne_nil (m + 1)) digits
      rw [value_ofNat] at written
      exact written

end Numeral

namespace Text

theorem isBlank_of_isDigit {c : Char} (h : c.isDigit = true) : isBlank c = false := by
  have range : 48 ≤ c.toNat ∧ c.toNat ≤ 57 := by
    simpa [Char.isDigit, UInt32.le_iff_toNat_le] using h
  simp [isBlank]
  omega

/-- The text holds a point or an exponent mark. -/
def Marked (t : Text) : Prop :=
  '.' ∈ t ∨ 'e' ∈ t ∨ 'E' ∈ t

theorem any_mark_iff {t : Text} :
    (t.any fun c => c = '.' || c = 'e' || c = 'E') = true ↔ t.Marked := by
  simp only [List.any_eq_true, Bool.or_eq_true, decide_eq_true_eq, Marked]
  constructor
  · rintro ⟨c, inside, (rfl | rfl) | rfl⟩
    · exact .inl inside
    · exact .inr (.inl inside)
    · exact .inr (.inr inside)
  · rintro (inside | inside | inside)
    · exact ⟨_, inside, .inl (.inl rfl)⟩
    · exact ⟨_, inside, .inl (.inr rfl)⟩
    · exact ⟨_, inside, .inr rfl⟩

end Text

namespace Numeral

variable {s : Text} {n : Int}

theorem IntegerText.not_marked (h : IntegerText s n) : ¬ s.Marked := by
  have foreign {c : Char} (other : ¬ (c.isDigit = true ∨ c = '+' ∨ c = '-')) : c ∉ s :=
    fun inside => other (h.digit_or_sign inside)
  rintro (inside | inside | inside)
  · exact foreign (by decide) inside
  · exact foreign (by decide) inside
  · exact foreign (by decide) inside

/-- Blanks around the text of an integer are no part of it. -/
theorem IntegerText.trims (h : IntegerText s n) {u v : Text}
    (before : ∀ c ∈ u, Text.isBlank c = true) (after : ∀ c ∈ v, Text.isBlank c = true) :
    Text.Trims (u ++ s ++ v) s := by
  have plain (c : Char) (inside : c ∈ s) : Text.isBlank c = false := by
    obtain digit | rfl | rfl := h.digit_or_sign inside
    · exact Text.isBlank_of_isDigit digit
    · rfl
    · rfl
  refine ⟨⟨u, v, rfl, before, after⟩, ?_, ?_⟩
  · intro c first
    exact plain c (List.mem_of_head? first)
  · intro c last
    exact plain c (List.mem_of_getLast? last)

end Numeral

namespace Value

open Numeral

theorem ofLine_of_marked {line : Text} (h : line.trim.Marked) :
    ofLine line = (readFloat? line.trim).elim (.text line.trim) .float := by
  simp only [ofLine, Text.any_mark_iff.2 h, if_true]
  cases readFloat? line.trim <;> rfl

theorem ofLine_of_unmarked {line : Text} (h : ¬ line.trim.Marked) :
    ofLine line = (readInt64? line.trim).elim (.text line.trim) .int := by
  simp only [ofLine, Text.any_mark_iff, h, if_false]
  cases readInt64? line.trim <;> rfl

theorem ofLine_trim (line : Text) : ofLine line.trim = ofLine line := by
  rw [ofLine, ofLine, Text.trim_trim]

theorem ofLine_eq_int_iff {line : Text} {n : Int64} :
    ofLine line = .int n ↔ IntegerText line.trim n.toInt := by
  by_cases marked : line.trim.Marked
  · have other : ¬ IntegerText line.trim n.toInt := fun integer => integer.not_marked marked
    rw [ofLine_of_marked marked]
    cases readFloat? line.trim <;> simp [other]
  · rw [ofLine_of_unmarked marked, ← readInt64?_eq_some_iff]
    cases readInt64? line.trim <;> simp

theorem ofLine_eq_float_iff {line : Text} :
    (∃ x, ofLine line = .float x) ↔ line.trim.Marked ∧ FloatText line.trim := by
  by_cases marked : line.trim.Marked
  · rw [ofLine_of_marked marked, ← isSome_readFloat?_iff]
    cases readFloat? line.trim <;> simp [marked]
  · rw [ofLine_of_unmarked marked]
    cases readInt64? line.trim <;> simp [marked]

theorem ofLine_cases (line : Text) :
    (∃ n, ofLine line = .int n) ∨ (∃ x, ofLine line = .float x) ∨
      ofLine line = .text line.trim := by
  by_cases marked : line.trim.Marked
  · rw [ofLine_of_marked marked]
    cases readFloat? line.trim <;> simp
  · rw [ofLine_of_unmarked marked]
    cases readInt64? line.trim <;> simp

theorem ofLine_eq_text_iff {line : Text} :
    ofLine line = .text line.trim ↔
      (∀ n : Int64, ¬ IntegerText line.trim n.toInt) ∧
        ¬ (line.trim.Marked ∧ FloatText line.trim) := by
  rw [← ofLine_eq_float_iff]
  simp only [← ofLine_eq_int_iff]
  obtain ⟨n, same⟩ | ⟨x, same⟩ | same := ofLine_cases line <;> simp [same]

theorem ofLine_between_blanks (n : Int64) {u v : Text} (before : ∀ c ∈ u, Text.isBlank c = true)
    (after : ∀ c ∈ v, Text.isBlank c = true) : ofLine (u ++ toText (.int n) ++ v) = .int n := by
  have written : IntegerText (toText (.int n)) n.toInt := integerText_ofInt n.toInt
  rw [ofLine_eq_int_iff, (written.trims before after).trim_eq]
  exact written

theorem ofLine_toText_int (n : Int64) : ofLine (toText (.int n)) = .int n := by
  have read := ofLine_between_blanks n (u := []) (v := []) nofun nofun
  rw [List.nil_append, List.append_nil] at read
  exact read

/-- A line is an integer if what stands between its blanks is a signed integer inside the 64-bit
range, a float if it holds a mark and is a signed number with a point or an exponent, and else it
is that text. Integers and texts read back from their own text. -/
theorem ofLine_classifies (line : Text) :
    line.Trims line.trim ∧
    (∀ n : Int64, ofLine line = .int n ↔ IntegerText line.trim n.toInt) ∧
    ((∃ x, ofLine line = .float x) ↔ line.trim.Marked ∧ FloatText line.trim) ∧
    (ofLine line = .text line.trim ↔
      (∀ n : Int64, ¬ IntegerText line.trim n.toInt) ∧
        ¬ (line.trim.Marked ∧ FloatText line.trim)) ∧
    ((∀ x, ofLine line ≠ .float x) → ofLine (ofLine line).toText = ofLine line) := by
  refine ⟨Text.trims_trim line, fun _ => ofLine_eq_int_iff, ofLine_eq_float_iff,
    ofLine_eq_text_iff, ?_⟩
  intro whole
  obtain ⟨n, same⟩ | ⟨x, same⟩ | same := ofLine_cases line
  · rw [same, ofLine_toText_int]
  · exact absurd same (whole x)
  · rw [same, toText, ofLine_trim, same]

/-- The least integer between blanks beyond ASCII, and a float without digits before its point. -/
theorem ofLine_classifies_signed :
    ofLine "\u3000-9223372036854775808\t".toList = .int Int64.minValue ∧
      ∃ x, ofLine " -.5E+03".toList = .float x := by
  have least : IntegerText (['-'] ++ "9223372036854775808".toList) (-9223372036854775808) :=
    .intro .minus (by decide) (by simp)
  have power : ExponentText ('E' :: (['+'] ++ ['0', '3'])) :=
    .marked (.inr rfl) (.intro .plus (by decide) (by simp))
  have point : FractionText ['.', '5'] ['5'] := .point (by simp)
  have half : FloatText (['-'] ++ ([] ++ (['.', '5'] ++ 'E' :: (['+'] ++ ['0', '3'])))) :=
    .intro .minus nofun point (by decide) power
  obtain ⟨_, integer, _⟩ := ofLine_classifies "\u3000-9223372036854775808\t".toList
  obtain ⟨_, _, float, _⟩ := ofLine_classifies " -.5E+03".toList
  have cut : Text.trim "\u3000-9223372036854775808\t".toList =
    ['-'] ++ "9223372036854775808".toList := by decide
  have cut' : Text.trim " -.5E+03".toList = "-.5E+03".toList := by decide
  rw [cut] at integer
  rw [cut'] at float
  exact ⟨(integer _).2 least, float.2 ⟨.inl (by decide), half⟩⟩

end Value

end TapeCalc
