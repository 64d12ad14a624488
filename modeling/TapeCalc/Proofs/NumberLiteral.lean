import Mathlib.Algebra.Group.Nat.Defs
import TapeCalc.Proofs.Literal
import TapeCalc.Proofs.Weight

/-!
Number literals. Points cut a text of digits and points into groups of digits: those before the
first point, and those behind each point. Without a point the literal is one integer, which wraps
around at 64 bits. Otherwise every point begins a float of its own, the first one from the integer
before it and the others from zero, and each digit behind it adds its value times the weight of
its position.
-/

namespace TapeCalc

def Stack.pushAll (s : Stack) (vs : List Value) : Stack :=
  vs.foldl push s

namespace Text

/-- Digits before the first point and behind each point, written out. -/
def pointed (whole : Text) (fractions : List Text) : Text :=
  whole ++ fractions.flatMap ('.' :: ·)

theorem pointed_cons (whole ds : Text) (fractions : List Text) :
    pointed whole (ds :: fractions) = whole ++ ['.'] ++ pointed ds fractions := by
  simp [pointed]

theorem intercalate_point (whole : Text) (fractions : List Text) :
    ['.'].intercalate (whole :: fractions) = pointed whole fractions := by
  induction fractions generalizing whole with
  | nil => simp [pointed]
  | cons ds fractions ih => rw [List.intercalate_cons_cons, ih, pointed_cons]

theorem splitOn_pointed {whole : Text} {fractions : List Text}
    (digits : ∀ ds ∈ whole :: fractions, ∀ c ∈ ds, c.isDigit = true) :
    (pointed whole fractions).splitOn '.' = whole :: fractions := by
  rw [← intercalate_point]
  refine List.splitOn_intercalate '.' ?_ (by simp)
  intro ds group point
  cases digits ds group '.' point

theorem exists_pointed {t : Text} (plain : ∀ c ∈ t, c.isDigit = true ∨ c = '.') :
    ∃ whole fractions, (∀ ds ∈ whole :: fractions, ∀ c ∈ ds, c.isDigit = true) ∧
      t = pointed whole fractions := by
  induction t with
  | nil => exact ⟨[], [], by simp, rfl⟩
  | cons c t ih =>
      obtain ⟨whole, fractions, digits, rfl⟩ := ih fun d hd => plain d (by simp [hd])
      obtain digit | rfl := plain c (by simp)
      · refine ⟨c :: whole, fractions, ?_, rfl⟩
        simp only [List.forall_mem_cons] at digits ⊢
        exact ⟨⟨digit, digits.1⟩, digits.2⟩
      · refine ⟨[], whole :: fractions, ?_, (pointed_cons [] whole fractions).symm⟩
        rw [List.forall_mem_cons]
        exact ⟨by simp, digits⟩

end Text

namespace Mode

def wrapped (ds : Text) : Int64 :=
  Int64.ofNat (Numeral.value ds)

def lastPlace : Nat := 2147483647

/-- The weight `10 ^ -j` of position `j` behind a point, the first one being 1. The positions behind
the largest place weigh nothing. -/
def positionWeight (j : Nat) : Float :=
  if j ≤ lastPlace then 1 / powerOfTen j else 0

/-- The digits behind a point added to `x` from left to right, from position `j` on. -/
def addDigits (j : Nat) (x : Float) (ds : Text) : Float :=
  (ds.zipIdx j).foldl (fun x (c, i) => x + Float.ofNat (digitValue c) * positionWeight i) x

def ofWhole (ds : Text) : Float :=
  if ds = [] then 0 else Float.ofInt (wrapped ds).toInt

def floats (whole : Text) : List Text → List Float
  | [] => []
  | ds :: fractions => addDigits 1 (ofWhole whole) ds :: fractions.map (addDigits 1 0)

def placeAfter (ds : Text) : Int :=
  (min (1 + ds.length) lastPlace : Nat)

section Digits

variable (s : Stack) {ds : Text} (digits : ∀ c ∈ ds, c.isDigit = true)
include digits

/-- Digits are read as a number that wraps around; reading them wraps no differently. -/
theorem builds_more_digits (n : Nat) :
    integer.Builds (s.push (.int (Int64.ofNat n))) ds
      integer (s.push (.int (Int64.ofNat (Nat.ofDigitChars 10 ds n)))) := by
  induction ds generalizing n with
  | nil => exact .nil _ _
  | cons c ds ih =>
      have wraps : Int64.ofNat (10 * n + digitValue c) =
          Int64.ofNat n * 10 + Int64.ofNat (digitValue c) := by
        rw [Int64.ofNat_add, Int64.ofNat_mul, Int64.mul_comm]
        rfl
      rw [List.forall_mem_cons] at digits
      have first : integer.advance c (s.push (.int (Int64.ofNat n))) =
          .ok (.building integer (s.push (.int (Int64.ofNat (10 * n + digitValue c))))) := by
        rw [wraps]
        simp [advance, inInteger, digits.1, bind, Except.bind, pure, Except.pure]
      exact .cons first (ih digits.2 _)

theorem builds_integer (nonempty : ds ≠ []) :
    execution.Builds s ds integer (s.push (.int (wrapped ds))) := by
  cases ds with
  | nil => exact absurd rfl nonempty
  | cons c ds =>
      rw [List.forall_mem_cons] at digits
      have value : Numeral.value (c :: ds) = Nat.ofDigitChars 10 ds (digitValue c) := by
        rw [Numeral.value, Nat.ofDigitChars_cons, Nat.mul_zero, Nat.zero_add]
        rfl
      rw [wrapped, value]
      refine .cons ?_ (builds_more_digits s digits.2 (digitValue c))
      simp [advance, start, digits.1]

theorem builds_first_point :
    execution.Builds s (ds ++ ['.']) (decimal 1) (s.push (.float (ofWhole ds))) := by
  by_cases empty : ds = []
  · subst empty
    exact .single rfl
  · rw [ofWhole, if_neg empty]
    exact (builds_integer s digits empty).append (.single rfl)

end Digits

theorem weight_lastPlace : weight lastPlace = 0 := by
  decide +kernel

theorem weight_min (j : Nat) : weight (min j lastPlace : Nat) = positionWeight j := by
  unfold positionWeight
  split
  · rename_i inside
    rw [Nat.min_eq_left inside, weight_eq inside]
  · rename_i outside
    rw [Nat.min_eq_right (Nat.le_of_not_le outside), weight_lastPlace]

theorem positionWeight_exact {j : Nat} (h : j ≤ 22) :
    positionWeight j = 1 / Float.ofNat (10 ^ j) := by
  rw [positionWeight, if_pos (Nat.le_trans h (by decide)), powerOfTen_exact j h]

theorem nextPlace_min (j : Nat) :
    nextPlace (min j lastPlace : Nat) = (min (j + 1) lastPlace : Nat) := by
  simp only [nextPlace, lastPlace]
  omega

/-- The place counts the positions until it stays at the largest, where they weigh nothing. -/
theorem builds_decimal_digits (s : Stack) {ds : Text} (digits : ∀ c ∈ ds, c.isDigit = true)
    (j : Nat) (x : Float) :
    (decimal (min j lastPlace : Nat)).Builds (s.push (.float x)) ds
      (decimal (min (j + ds.length) lastPlace : Nat)) (s.push (.float (addDigits j x ds))) := by
  induction ds generalizing j x with
  | nil => exact .nil _ _
  | cons c ds ih =>
      rw [List.forall_mem_cons] at digits
      have rest := ih digits.2 (j + 1) (x + Float.ofNat (digitValue c) * positionWeight j)
      rw [Nat.add_right_comm, Nat.add_assoc] at rest
      refine .cons ?_ rest
      rw [advance, inDecimal, if_pos digits.1]
      simp only [Stack.pop?_push, nextPlace_min, weight_min]

theorem builds_group (s : Stack) {ds : Text} (digits : ∀ c ∈ ds, c.isDigit = true) (x : Float) :
    (decimal 1).Builds (s.push (.float x)) ds
      (decimal (placeAfter ds)) (s.push (.float (addDigits 1 x ds))) :=
  builds_decimal_digits s digits 1 x

/-- Every further point begins a float with zero; `last` are the digits behind the point before
it. -/
theorem builds_later_groups (s : Stack) (last : Text) {fractions : List Text}
    (digits : ∀ ds ∈ fractions, ∀ c ∈ ds, c.isDigit = true) :
    (decimal (placeAfter last)).Builds s (fractions.flatMap ('.' :: ·))
      (decimal (placeAfter (fractions.getLast?.getD last)))
      (s.pushAll ((fractions.map (addDigits 1 0)).map .float)) := by
  induction fractions generalizing s last with
  | nil => exact .nil _ _
  | cons ds fractions ih =>
      rw [List.forall_mem_cons] at digits
      have point : (decimal (placeAfter last)).advance '.' s =
        .ok (.building (decimal 1) (s.push (.float 0))) := rfl
      have group := builds_group s digits.1 0
      have rest := ih (s.push (.float (addDigits 1 0 ds))) ds digits.2
      rw [List.flatMap_cons, List.getLast?_cons]
      exact .cons point (group.append rest)

theorem builds_pointed (s : Stack) {whole ds : Text} {fractions : List Text}
    (digits : ∀ group ∈ whole :: ds :: fractions, ∀ c ∈ group, c.isDigit = true) :
    execution.Builds s (Text.pointed whole (ds :: fractions))
      (decimal (placeAfter (fractions.getLast?.getD ds)))
      (s.pushAll ((floats whole (ds :: fractions)).map .float)) := by
  simp only [List.forall_mem_cons] at digits
  have first := builds_first_point s digits.1
  have group := builds_group s digits.2.1 (ofWhole whole)
  have rest := builds_later_groups (s.push (.float (addDigits 1 (ofWhole whole) ds))) ds digits.2.2
  rw [Text.pointed_cons]
  exact first.append (group.append rest)

/-- Behind a number literal, a character that does not lengthen it leaves the stack as it is or
opens a text above it. -/
theorem advance_behind {mode : Mode} (outside : ∀ depth, mode ≠ .string depth) (s : Stack)
    {c : Char} (digit : c.isDigit = false) (point : c ≠ '.') :
    mode.advance c s =
      .ok (if c = '(' then .building (.string 1) (s.push .empty) else .command) := by
  rw [advance_of_ended outside ⟨digit, point⟩]
  simp [start, digit, point]

/-- A text of digits and points is one number literal. Without a point it leaves the integer that
its digits come to after wrapping; with points it leaves one float for each of them, to which the
digit at position `j` adds itself times the float that `10 ^ -j` is computed as. The character
behind the literal finds these values on the stack, and at most opens a text above them. -/
theorem feed_numberLiteral {t : Text} (nonempty : t ≠ [])
    (plain : ∀ c ∈ t, c.isDigit = true ∨ c = '.') (s : Stack) :
    ∃ whole fractions mode s', t.splitOn '.' = whole :: fractions ∧
      execution.feed s t = .ok (mode, s') ∧
      (wrapped whole).toInt = (Numeral.value whole : Int).bmod (2 ^ 64) ∧
      (fractions = [] → mode = integer ∧ s' = s.push (.int (wrapped whole))) ∧
      (∀ last, fractions.getLast? = some last →
        mode = decimal (min (1 + last.length) 2147483647 : Nat) ∧
        (floats whole fractions).length = fractions.length ∧
        s' = s.pushAll ((floats whole fractions).map .float)) ∧
      (∀ j ≤ 22, positionWeight j = 1 / Float.ofNat (10 ^ j)) ∧
      ∀ c : Char, c.isDigit = false → c ≠ '.' →
        mode.advance c s' =
          .ok (if c = '(' then .building (.string 1) (s'.push .empty) else .command) := by
  obtain ⟨whole, fractions, digits, rfl⟩ := Text.exists_pointed plain
  rw [Text.splitOn_pointed digits]
  have wraps : (wrapped whole).toInt = (Numeral.value whole : Int).bmod (2 ^ 64) :=
    Int64.toInt_ofNat'
  cases fractions with
  | nil =>
      rw [Text.pointed, List.flatMap_nil, List.append_nil] at nonempty ⊢
      have built := builds_integer s (digits whole (by simp)) nonempty
      refine ⟨whole, [], _, _, rfl, built.feed_eq, wraps, fun _ => ⟨rfl, rfl⟩, nofun,
        fun _ => positionWeight_exact, ?_⟩
      intro c digit point
      have outside (depth : Nat) : integer ≠ string depth := nofun
      exact advance_behind outside _ digit point
  | cons ds fractions =>
      have built := builds_pointed s digits
      refine ⟨whole, ds :: fractions, _, _, rfl, built.feed_eq, wraps, nofun, ?_,
        fun _ => positionWeight_exact, ?_⟩
      · intro last final
        rw [List.getLast?_cons, Option.some.injEq] at final
        rw [final]
        exact ⟨rfl, by simp [floats], rfl⟩
      · intro c digit point
        have outside (depth : Nat) :
          decimal (placeAfter (fractions.getLast?.getD ds)) ≠ string depth := nofun
        exact advance_behind outside _ digit point

/-- The integer before the points is one too large and wraps, nothing stands between the points, and
the digits behind them are all different. -/
theorem feed_numberLiteral_wrapped_whole :
    "9223372036854775808..9371".toList ≠ [] ∧
    (∀ c ∈ "9223372036854775808..9371".toList, c.isDigit = true ∨ c = '.') ∧
    execution.feed (Stack.ofList [.int 7]) "9223372036854775808..9371".toList =
      .ok (decimal 5, (Stack.ofList [.int 7]).pushAll
        [.float (-9223372036854775808), .float 0.9371]) := by
  have nonempty : "9223372036854775808..9371".toList ≠ [] := by decide
  have plain : ∀ c ∈ "9223372036854775808..9371".toList, c.isDigit = true ∨ c = '.' := by simp
  obtain ⟨whole, fractions, mode, s', groups, fed, _, _, pointed, _⟩ :=
    feed_numberLiteral nonempty plain (Stack.ofList [.int 7])
  have cut : "9223372036854775808..9371".toList.splitOn '.' =
    ["9223372036854775808".toList, [], "9371".toList] := by decide
  rw [cut] at groups
  obtain ⟨rfl, rfl⟩ := List.cons.inj groups
  obtain ⟨rfl, _, rfl⟩ := pointed "9371".toList rfl
  have evaluated : floats "9223372036854775808".toList [[], "9371".toList] =
    [-9223372036854775808, 0.9371] := by decide +kernel
  rw [evaluated] at fed
  exact ⟨nonempty, plain, fed⟩

end Mode

end TapeCalc
