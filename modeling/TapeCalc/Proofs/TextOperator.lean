import Mathlib.Algebra.Group.Int.Defs
import Mathlib.Algebra.Group.Nat.Defs
import TapeCalc.Text.Search.Lemmas
import TapeCalc.Value.Arithmetic

/-!
What the arithmetic operators do with texts. A search finds the least position at which one text
stands in another; a count takes characters off either end; a position gives the code of a
character, and a code puts the character back in front or behind. All of them count characters, so
that what one of them takes apart another puts together again.
-/

namespace TapeCalc

namespace Text

/-- The needle stands at the position that is found, and at none before it. -/
theorem indexOf?_least {needle s : Text} {k : Nat} (h : indexOf? needle s = some k) :
    k ≤ s.length ∧ needle <+: s.drop k ∧ ∀ j < k, ¬ needle <+: s.drop j := by
  induction s generalizing k with
  | nil =>
      rw [indexOf?] at h
      split at h
      · rename_i empty
        cases h
        rw [List.isEmpty_iff.1 empty]
        exact ⟨Nat.le_refl 0, List.nil_prefix, fun j none => absurd none (Nat.not_lt_zero j)⟩
      · cases h
  | cons c s ih =>
      rw [indexOf?] at h
      split at h
      · rename_i here
        cases h
        exact ⟨Nat.zero_le _, List.isPrefixOf_iff_prefix.1 here,
          fun j none => absurd none (Nat.not_lt_zero j)⟩
      · rename_i elsewhere
        obtain ⟨k, found, rfl⟩ := Option.map_eq_some_iff.1 h
        obtain ⟨inside, stands, least⟩ := ih found
        refine ⟨Nat.succ_le_succ inside, stands, ?_⟩
        intro j earlier
        cases j with
        | zero => exact fun here => elsewhere (List.isPrefixOf_iff_prefix.2 here)
        | succ j => exact least j (Nat.lt_of_succ_lt_succ earlier)

theorem indexOf?_eq_none_iff {needle s : Text} : indexOf? needle s = none ↔ ¬ needle <:+: s := by
  induction s with
  | nil => cases needle <;> simp [indexOf?]
  | cons c s ih =>
      rw [indexOf?, List.infix_cons_iff, not_or, ← ih]
      by_cases here : needle <+: c :: s <;> simp [here]

end Text

namespace Value

theorem zero_le_iff {n : Int64} : 0 ≤ n ↔ 0 ≤ n.toInt := by
  rw [Int64.le_iff_toInt_le]
  rfl

theorem zero_le_ofNat {n : Nat} (small : n < 2 ^ 63) : 0 ≤ Int64.ofNat n := by
  rw [zero_le_iff, Int64.toInt_ofNat_of_lt small]
  exact Int.natCast_nonneg n

theorem trimCount_ofNat {n : Nat} (small : n < 2 ^ 63) : trimCount (Int64.ofNat n) = n := by
  rw [trimCount, Int64.toInt_ofNat_of_lt small, Int.toNat_natCast]

theorem subtract_text_int (s : Text) {n : Int64} (h : 0 ≤ n) :
    subtract (.text s) (.int n) = .text (s.take (s.length - trimCount n)) :=
  if_pos h

theorem subtract_int_text {n : Int64} (h : 0 ≤ n) (s : Text) :
    subtract (.int n) (.text s) = .text (s.drop (trimCount n)) :=
  if_pos h

section Trims

variable {a b : Int64} (ha : 0 ≤ a) (hb : 0 ≤ b) (s : Text)

include ha hb in
theorem zero_le_add (small : a.toInt + b.toInt < 2 ^ 63) :
    0 ≤ a + b ∧ trimCount (a + b) = trimCount a + trimCount b := by
  rw [zero_le_iff] at ha hb
  have sum : (a + b).toInt = a.toInt + b.toInt := by
    rw [Int64.toInt_add]
    exact Int.bmod_eq_of_le (by omega) (by omega)
  rw [zero_le_iff, trimCount, sum]
  exact ⟨Int.add_nonneg ha hb, Int.toNat_add ha hb⟩

include ha hb in
theorem subtract_subtract_end (small : a.toInt + b.toInt < 2 ^ 63) :
    subtract (subtract (.text s) (.int a)) (.int b) = subtract (.text s) (.int (a + b)) := by
  obtain ⟨nonneg, count⟩ := zero_le_add ha hb small
  rw [subtract_text_int s ha, subtract_text_int _ hb, subtract_text_int s nonneg, count,
    List.take_take, List.length_take]
  congr 2
  omega

include ha hb in
theorem subtract_subtract_start (small : a.toInt + b.toInt < 2 ^ 63) :
    subtract (.int b) (subtract (.int a) (.text s)) = subtract (.int (a + b)) (.text s) := by
  obtain ⟨nonneg, count⟩ := zero_le_add ha hb small
  rw [subtract_int_text ha, subtract_int_text hb, subtract_int_text nonneg, count, List.drop_drop]

include ha hb in
theorem subtract_subtract_comm :
    subtract (.int a) (subtract (.text s) (.int b)) =
      subtract (subtract (.int a) (.text s)) (.int b) := by
  rw [subtract_text_int s hb, subtract_int_text ha, subtract_int_text ha, subtract_text_int _ hb,
    List.drop_take, List.length_drop]
  congr 2
  omega

end Trims

theorem add_subtract_subtract {s : Text} (small : s.length < 2 ^ 63) {k : Nat}
    (inside : k ≤ s.length) :
    add (subtract (.text s) (.int (Int64.ofNat (s.length - k))))
      (subtract (.int (Int64.ofNat k)) (.text s)) = .text s := by
  have front : s.length - k < 2 ^ 63 := by omega
  have back : k < 2 ^ 63 := by omega
  rw [subtract_text_int s (zero_le_ofNat front), subtract_int_text (zero_le_ofNat back),
    trimCount_ofNat front, trimCount_ofNat back, Nat.sub_sub_self inside]
  exact congrArg text (List.take_append_drop k s)

/-- The integer that stands for a character. -/
def code (c : Char) : Value :=
  .int (Int64.ofNat c.toNat)

theorem toInt_code (c : Char) : (Int64.ofNat c.toNat).toInt = c.toNat := by
  have small : c.toNat < 2 ^ 32 := c.val.toNat_lt
  exact Int64.toInt_ofNat_of_lt (by omega)

theorem charOfCode?_code (c : Char) :
    charOfCode? (Int64.ofNat c.toNat) = if c.toNat ≤ 128 then some c else none := by
  have value := toInt_code c
  have bound : (128 : Int64).toInt = 128 := rfl
  have inRange : (0 ≤ Int64.ofNat c.toNat ∧ Int64.ofNat c.toNat ≤ maxCharCode) ↔
      c.toNat ≤ 128 := by
    rw [zero_le_iff, Int64.le_iff_toInt_le, maxCharCode, value, bound]
    omega
  simp only [charOfCode?, inRange, value, Int.toNat_natCast, Char.ofNat_toNat]

theorem multiply_code (c : Char) (t : Text) :
    multiply (code c) (.text t) = .text (if c.toNat ≤ 128 then c :: t else []) := by
  simp only [multiply, code, charOfCode?_code]
  by_cases attachable : c.toNat ≤ 128 <;> simp [attachable, empty]

theorem multiply_text_code (t : Text) (c : Char) :
    multiply (.text t) (code c) = .text (if c.toNat ≤ 128 then t ++ [c] else []) := by
  simp only [multiply, code, charOfCode?_code]
  by_cases attachable : c.toNat ≤ 128 <;> simp [attachable, empty]

theorem modulo_text_int (s : Text) {i : Int64} (h : 0 ≤ i) :
    modulo (.text s) (.int i) = (s[i.toInt.toNat]?).elim .empty code := by
  rw [modulo, charCodeAt?, if_pos h]
  cases s[i.toInt.toNat]? <;> rfl

/-- A position has a code exactly where the text has a character. -/
theorem modulo_eq_empty_iff {s : Text} {i : Int64} :
    modulo (.text s) (.int i) = .empty ↔ i < 0 ∨ s.length ≤ i.toInt := by
  have negative : i < 0 ↔ ¬ 0 ≤ i.toInt := by
    rw [← zero_le_iff, Int64.not_le]
  by_cases nonneg : 0 ≤ i
  · have value := zero_le_iff.1 nonneg
    rw [modulo_text_int s nonneg, negative]
    cases found : s[i.toInt.toNat]? with
    | none =>
        have outside := List.getElem?_eq_none_iff.1 found
        simp only [Option.elim_none, true_iff]
        omega
    | some c =>
        obtain ⟨inside, _⟩ := List.getElem?_eq_some_iff.1 found
        have other : code c ≠ .empty := nofun
        simp only [Option.elim_some, other, false_iff]
        omega
  · have below := Int64.not_le.1 nonneg
    simp [modulo, charCodeAt?, nonneg, below]

theorem multiply_first {s : Text} {c : Char} (first : s.head? = some c) :
    multiply (modulo (.text s) (.int 0)) (subtract (.int 1) (.text s)) =
      if c.toNat ≤ 128 then .text s else .empty := by
  obtain ⟨t, rfl⟩ := List.head?_eq_some_iff.1 first
  have taken : modulo (.text (c :: t)) (.int 0) = code c := rfl
  have rest : subtract (.int 1) (.text (c :: t)) = .text t := rfl
  rw [taken, rest, multiply_code]
  split <;> rfl

theorem multiply_last {s : Text} (small : s.length < 2 ^ 63) {c : Char}
    (last : s.getLast? = some c) :
    multiply (subtract (.text s) (.int 1))
      (modulo (.text s) (.int (Int64.ofNat (s.length - 1)))) =
        if c.toNat ≤ 128 then .text s else .empty := by
  obtain ⟨t, rfl⟩ := List.getLast?_eq_some_iff.1 last
  have size : (t ++ [c]).length - 1 = t.length := by simp
  have inside : t.length < 2 ^ 63 := by
    rw [List.length_append] at small
    omega
  have taken : modulo (.text (t ++ [c])) (.int (Int64.ofNat ((t ++ [c]).length - 1))) = code c := by
    rw [size, modulo_text_int _ (zero_le_ofNat inside), ← trimCount, trimCount_ofNat inside]
    simp
  have one : trimCount 1 = 1 := rfl
  have rest : subtract (.text (t ++ [c])) (.int 1) = .text t := by
    rw [subtract_text_int _ (by decide), one, size, List.take_left]
  rw [taken, rest, multiply_text_code]
  split <;> rfl

section Search

variable {h n : Text}

theorem divide_of_absent (absent : ¬ n <:+: h) : divide (.text h) (.text n) = .int (-1) := by
  rw [divide, Text.search?_eq_indexOf?, Text.indexOf?_eq_none_iff.2 absent]

theorem divide_of_present (present : n <:+: h) : ∃ p ≤ h.length,
    divide (.text h) (.text n) = .int (Int64.ofNat p) ∧
      n <+: h.drop p ∧ ∀ j < p, ¬ n <+: h.drop j := by
  have found : Text.indexOf? n h ≠ none := fun missed =>
    Text.indexOf?_eq_none_iff.1 missed present
  obtain ⟨p, found⟩ := Option.ne_none_iff_exists'.1 found
  obtain ⟨inside, stands, least⟩ := Text.indexOf?_least found
  refine ⟨p, inside, ?_, stands, least⟩
  rw [divide, Text.search?_eq_indexOf?, found]

end Search

/-- A search answers with the least position at which the needle stands, and with `-1` if there is
none; what is left after so many characters are taken off the front begins with the needle. -/
theorem divide_finds_first (h n : Text) (small : h.length < 2 ^ 63) :
    ((∃ k : Int64, 0 ≤ k ∧ divide (.text h) (.text n) = .int k) ↔ n <:+: h) ∧
    (¬ n <:+: h → divide (.text h) (.text n) = .int (-1)) ∧
    (∀ k : Int64, 0 ≤ k → divide (.text h) (.text n) = .int k →
      ∃ p : Nat, k.toInt = p ∧ n <+: h.drop p ∧ (∀ j < p, ¬ n <+: h.drop j) ∧
        ∃ t, subtract (.int k) (.text h) = .text t ∧ n <+: t) ∧
    divide (.text h) (.text []) = .int 0 := by
  have present {k : Int64} (hk : 0 ≤ k) (answer : divide (.text h) (.text n) = .int k) :
      n <:+: h := by
    apply Decidable.byContradiction
    intro absent
    rw [divide_of_absent absent] at answer
    cases answer
    exact absurd hk (by decide)
  refine ⟨⟨fun ⟨k, hk, answer⟩ => present hk answer, ?_⟩, divide_of_absent, ?_, ?_⟩
  · intro found
    obtain ⟨p, inside, answer, _⟩ := divide_of_present found
    exact ⟨_, zero_le_ofNat (Nat.lt_of_le_of_lt inside small), answer⟩
  · intro k hk same
    obtain ⟨p, inside, answer, stands, least⟩ := divide_of_present (present hk same)
    have fits : p < 2 ^ 63 := Nat.lt_of_le_of_lt inside small
    rw [answer] at same
    cases same
    refine ⟨p, Int64.toInt_ofNat_of_lt fits, stands, least, h.drop p, ?_, stands⟩
    rw [subtract_int_text hk, trimCount_ofNat fits]
  · cases h <;> rfl

/-- A needle whose beginning also stands before it, behind characters of several bytes. -/
theorem divide_finds_first_overlap :
    "é→aab→aac".toList.length < 2 ^ 63 ∧
    ∃ k : Int64, 0 ≤ k ∧ divide (.text "é→aab→aac".toList) (.text "→aac".toList) = .int k ∧
      ∃ p : Nat, k.toInt = p ∧ "→aac".toList <+: "é→aab→aac".toList.drop p := by
  have small : "é→aab→aac".toList.length < 2 ^ 63 := by decide
  obtain ⟨found, _, least, _⟩ := divide_finds_first "é→aab→aac".toList "→aac".toList small
  obtain ⟨k, hk, answer⟩ := found.2 ⟨"é→aab".toList, [], by decide⟩
  obtain ⟨p, value, stands, _⟩ := least k hk answer
  exact ⟨small, k, hk, answer, p, value, stands⟩

/-- What the operators take off a text they put back. Cut at any position, the two parts join to
the text; cuts at one end add up and cuts at different ends commute; the code of the first or last
character attaches it again where the language can attach it, and else all is lost; and a position
has no code exactly outside the text. -/
theorem cuts_rejoin (s : Text) (small : s.length < 2 ^ 63) :
    (∀ k ≤ s.length,
      add (subtract (.text s) (.int (Int64.ofNat (s.length - k))))
        (subtract (.int (Int64.ofNat k)) (.text s)) = .text s) ∧
    (∀ a b : Int64, 0 ≤ a → 0 ≤ b →
      (a.toInt + b.toInt < 2 ^ 63 →
        subtract (subtract (.text s) (.int a)) (.int b) = subtract (.text s) (.int (a + b)) ∧
        subtract (.int b) (subtract (.int a) (.text s)) = subtract (.int (a + b)) (.text s)) ∧
      subtract (.int a) (subtract (.text s) (.int b)) =
        subtract (subtract (.int a) (.text s)) (.int b)) ∧
    (∀ c, s.head? = some c →
      multiply (modulo (.text s) (.int 0)) (subtract (.int 1) (.text s)) =
        if c.toNat ≤ 128 then .text s else .empty) ∧
    (∀ c, s.getLast? = some c →
      multiply (subtract (.text s) (.int 1))
        (modulo (.text s) (.int (Int64.ofNat (s.length - 1)))) =
          if c.toNat ≤ 128 then .text s else .empty) ∧
    ∀ i : Int64, modulo (.text s) (.int i) = .empty ↔ i < 0 ∨ s.length ≤ i.toInt := by
  refine ⟨fun k => add_subtract_subtract small, ?_, fun c => multiply_first,
    fun c => multiply_last small, fun i => modulo_eq_empty_iff⟩
  intro a b ha hb
  refine ⟨fun fits => ?_, subtract_subtract_comm ha hb s⟩
  exact ⟨subtract_subtract_end ha hb s fits, subtract_subtract_start ha hb s fits⟩

/-- The last character is the greatest that can be attached, and the first one cannot be. -/
theorem cuts_rejoin_code_limit : ∃ s : Text, s = "→a\u0080".toList ∧ s.length < 2 ^ 63 ∧
    add (subtract (.text s) (.int 1)) (subtract (.int 2) (.text s)) = .text s ∧
    subtract (subtract (.text s) (.int 1)) (.int 1) = subtract (.text s) (.int 2) ∧
    multiply (modulo (.text s) (.int 0)) (subtract (.int 1) (.text s)) = .empty ∧
    multiply (subtract (.text s) (.int 1)) (modulo (.text s) (.int 2)) = .text s := by
  let s : Text := "→a\u0080".toList
  have small : s.length < 2 ^ 63 := by decide
  obtain ⟨rejoin, cuts, first, last, _⟩ := cuts_rejoin s small
  obtain ⟨sums, _⟩ := cuts 1 1 (by decide) (by decide)
  exact ⟨s, rfl, small, rejoin 2 (by decide), (sums (by decide)).1, first '→' rfl,
    last '\u0080' rfl⟩

end Value

end TapeCalc
