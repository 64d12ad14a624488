import TapeCalc.Proofs.FloatOrder

/-!
The comparison operators agree with each other. Comparing a pair the other way round gives the
reverse answer, and of the three operators exactly one holds, unless one of two numbers is no
number: then none does. Integers and texts are in one total order, with the integers below the
texts and the texts in the order of their characters, which is also the order of their bytes in
UTF-8.
-/

namespace TapeCalc

namespace Text

/-- The bytes of a text in UTF-8. -/
def utf8 (s : Text) : List UInt8 :=
  s.flatMap String.utf8EncodeChar

theorem utf8_cons (c : Char) (s : Text) : utf8 (c :: s) = String.utf8EncodeChar c ++ utf8 s :=
  List.flatMap_cons

theorem exists_utf8_cons (c : Char) (s : Text) : ∃ b bytes, utf8 (c :: s) = b :: bytes := by
  obtain ⟨b, bytes, encoded⟩ := List.exists_cons_of_ne_nil (String.utf8EncodeChar_ne_nil (c := c))
  exact ⟨b, bytes ++ utf8 s, by rw [utf8_cons, encoded, List.cons_append]⟩

theorem compare_bytes_eq_lt_iff {a b : Nat} (ha : a < 256) (hb : b < 256) (u v : List UInt8) :
    compare (UInt8.ofNat a :: u) (UInt8.ofNat b :: v) = .lt ↔
      a < b ∨ a = b ∧ compare u v = .lt := by
  have same : UInt8.ofNat a = UInt8.ofNat b ↔ a = b := by
    rw [← UInt8.toNat_inj, UInt8.toNat_ofNat', UInt8.toNat_ofNat', Nat.mod_eq_of_lt ha,
      Nat.mod_eq_of_lt hb]
  rw [List.compare_cons_cons, Ordering.then_eq_lt, Std.compare_eq_lt,
    Std.LawfulEqOrd.compare_eq_iff_eq, UInt8.ofNat_lt_iff_lt ha hb, same]

/-- The bytes of a smaller character are smaller, and none is the beginning of another. -/
theorem compare_utf8EncodeChar_of_lt {c d : Char} (h : c < d) (u v : List UInt8) :
    compare (String.utf8EncodeChar c ++ u) (String.utf8EncodeChar d ++ v) = .lt := by
  have below : c.val.toNat < d.val.toNat := h
  have bound : d.val.toNat < 1114112 := by
    have := d.valid
    rw [UInt32.isValidChar, Nat.isValidChar] at this
    omega
  simp only [String.utf8EncodeChar]
  generalize c.val.toNat = m at *
  generalize d.val.toNat = n at *
  -- Six bits at a time, so that each byte decides or leaves the decision to those after it.
  have sixes (k : Nat) : k / 4096 = k / 64 / 64 ∧ k / 262144 = k / 64 / 64 / 64 := by omega
  simp only [sixes]
  split_ifs <;>
  · simp (disch := omega) only [List.cons_append, List.nil_append, compare_bytes_eq_lt_iff]
    omega

theorem compare_append_left (w u v : List UInt8) : compare (w ++ u) (w ++ v) = compare u v := by
  induction w with
  | nil => rfl
  | cons a w ih =>
      rw [List.cons_append, List.cons_append, List.compare_cons_cons, Std.ReflOrd.compare_self,
        Ordering.eq_then, ih]

/-- Texts compare as their bytes do. -/
theorem compare_utf8 (s t : Text) : compare s.utf8 t.utf8 = compare s t := by
  induction s generalizing t with
  | nil =>
      cases t with
      | nil => rfl
      | cons d t =>
          obtain ⟨b, bytes, encoded⟩ := exists_utf8_cons d t
          rw [encoded]
          rfl
  | cons c s ih =>
      cases t with
      | nil =>
          obtain ⟨b, bytes, encoded⟩ := exists_utf8_cons c s
          rw [encoded]
          rfl
      | cons d t =>
          rw [utf8_cons, utf8_cons, List.compare_cons_cons]
          cases h : compare c d with
          | lt => rw [compare_utf8EncodeChar_of_lt (compare_lt_iff_lt.1 h), Ordering.lt_then]
          | eq => rw [compare_eq_iff_eq.1 h, compare_append_left, ih, Ordering.eq_then]
          | gt =>
              rw [Std.OrientedOrd.eq_swap, compare_utf8EncodeChar_of_lt (compare_gt_iff_gt.1 h),
                Ordering.gt_then]
              rfl

theorem compare_eq_lt_iff {s t : Text} :
    compare s t = .lt ↔ List.Lex (fun c d => c.toNat < d.toNat) s t := by
  induction s generalizing t with
  | nil => cases t <;> simp
  | cons c s ih =>
      cases t with
      | nil => simp
      | cons d t =>
          rw [List.compare_cons_cons, Ordering.then_eq_lt, List.cons_lex_cons_iff, ih,
            compare_lt_iff_lt, compare_eq_iff_eq]
          rfl

end Text

namespace Value

/-- A float that is no number. -/
def isNaN : Value → Bool
  | float x => x.isNaN
  | _ => false

/-- Two numbers, one of which is no number. -/
def unordered (l r : Value) : Bool :=
  l.isNumeric && r.isNumeric && (l.isNaN || r.isNaN)

theorem isNaN_of_toFloat? {v : Value} {x : Float} (h : v.toFloat? = some x) :
    x.isNaN = v.isNaN := by
  cases v with
  | int n =>
      cases h
      exact Unpacked.isNaN_ofInt n.toInt
  | float y =>
      cases h
      rfl
  | text s => cases h

theorem order_swap (l r : Value) : order r l = (order l r).map Ordering.swap := by
  cases l with
  | text s =>
      cases r with
      | text t => exact congrArg some Std.OrientedOrd.eq_swap
      | _ => rfl
  | int m =>
      cases r with
      | int n => exact congrArg some Std.OrientedOrd.eq_swap
      | float y => exact floatOrder_swap _ _
      | text t => rfl
  | float x =>
      cases r with
      | int n | float y => exact floatOrder_swap _ _
      | text t => rfl

theorem order_eq_none_iff {l r : Value} : order l r = none ↔ unordered l r = true := by
  have numbers {x y : Float} (hl : l.toFloat? = some x) (hr : r.toFloat? = some y) :
      floatOrder x y = none ↔ (l.isNaN || r.isNaN) = true := by
    rw [floatOrder_eq_none_iff, isNaN_of_toFloat? hl, isNaN_of_toFloat? hr, Bool.or_eq_true]
  cases l with
  | text s => cases r <;> simp [order, unordered, isNumeric]
  | int m =>
      cases r with
      | int n => simp [order, unordered, isNaN]
      | float y => exact numbers rfl rfl
      | text t => simp [order, unordered, isNumeric]
  | float x =>
      cases r with
      | int n | float y => exact numbers rfl rfl
      | text t => simp [order, unordered, isNumeric]

theorem comparison_iff {op : Op} {l r : Value} :
    comparison op l r = true ↔
      op = .equal ∧ order l r = some .eq ∨ op = .less ∧ order l r = some .lt ∨
        op = .greater ∧ order l r = some .gt := by
  cases op <;> simp [comparison]

theorem existsUnique_comparison {l r : Value} {o : Ordering} (h : order l r = some o) :
    ∃! op, op ∈ [Op.equal, .less, .greater] ∧ comparison op l r = true := by
  simp only [comparison_iff, h, Option.some.injEq]
  cases o with
  | lt => exact ⟨.less, by simp⟩
  | eq => exact ⟨.equal, by simp⟩
  | gt => exact ⟨.greater, by simp⟩

theorem compare_toInt (m n : Int64) : compare m.toInt n.toInt = compare m n := by
  cases h : compare m n with
  | lt => rwa [Int.compare_eq_lt, ← Int64.lt_iff_toInt_lt, ← Std.compare_eq_lt]
  | eq => rw [Std.LawfulEqOrd.eq_of_compare h, Std.ReflOrd.compare_self]
  | gt => rwa [Int.compare_eq_gt, ← Int64.lt_iff_toInt_lt, ← Std.compare_eq_gt]

section Exact

variable {a b c : Value} (ha : a.kind ≠ .float) (hb : b.kind ≠ .float) (hc : c.kind ≠ .float)

include ha hb in
theorem order_ne_none : order a b ≠ none := by
  have number (v : Value) (hv : v.kind ≠ .float) : v.isNaN = false := by
    cases v with
    | float x => exact absurd rfl hv
    | int n | text s => rfl
  rw [ne_eq, order_eq_none_iff, unordered, number a ha, number b hb]
  simp

include ha hb in
theorem order_eq_eq_iff : order a b = some .eq ↔ a = b := by
  cases a with
  | float x => exact absurd rfl ha
  | int m =>
      cases b with
      | float y => exact absurd rfl hb
      | int n => simp [order]
      | text t => simp [order]
  | text s =>
      cases b with
      | float y => exact absurd rfl hb
      | int n => simp [order]
      | text t => simp [order]

include ha hb hc in
theorem order_trans (hab : (order a b).any Ordering.isLE = true)
    (hbc : (order b c).any Ordering.isLE = true) : (order a c).any Ordering.isLE = true := by
  -- No text is below an integer, so the three are integers, or texts from some place on.
  cases c with
  | float z => exact absurd rfl hc
  | int k =>
      cases b with
      | float y => exact absurd rfl hb
      | text t => cases hbc
      | int n =>
          cases a with
          | float x => exact absurd rfl ha
          | text s => cases hab
          | int m => exact Std.TransOrd.isLE_trans hab hbc
  | text u =>
      cases a with
      | float x => exact absurd rfl ha
      | int m => rfl
      | text s =>
          cases b with
          | float y => exact absurd rfl hb
          | int n => cases hab
          | text t => exact Std.TransOrd.isLE_trans hab hbc

end Exact

/-- The comparison operators agree. A pair the other way round compares in reverse. Exactly one of
the three operators holds of two values, and none where one of two numbers is no number. Values
other than floats are totally ordered: only equal ones compare as equal, integers go by their
value, integers are below texts, and texts go by the codes of their characters, which is how their
bytes in UTF-8 compare. -/
theorem order_consistent (l r : Value) :
    order r l = (order l r).map Ordering.swap ∧
    (unordered l r = true → order l r = none ∧ ∀ op, comparison op l r = false) ∧
    (unordered l r = false →
      ∃! op, op ∈ [Op.equal, .less, .greater] ∧ comparison op l r = true) ∧
    (l.kind ≠ .float → r.kind ≠ .float →
      order l r ≠ none ∧ (order l r = some .eq ↔ l = r) ∧
      ∀ v : Value, v.kind ≠ .float → (order l r).any Ordering.isLE = true →
        (order r v).any Ordering.isLE = true → (order l v).any Ordering.isLE = true) ∧
    (∀ m n : Int64, order (.int m) (.int n) = some (compare m.toInt n.toInt)) ∧
    (∀ (n : Int64) (s : Text), order (.int n) (.text s) = some .lt) ∧
    ∀ s t : Text,
      (order (.text s) (.text t) = some .lt ↔ List.Lex (fun c d => c.toNat < d.toNat) s t) ∧
      order (.text s) (.text t) = some (compare s.utf8 t.utf8) := by
  refine ⟨order_swap l r, ?_, ?_, ?_, ?_, ?_, ?_⟩
  · intro nan
    have unrelated := order_eq_none_iff.2 nan
    refine ⟨unrelated, fun op => ?_⟩
    rw [Bool.eq_false_iff, ne_eq, comparison_iff, unrelated]
    simp
  · intro number
    have related : order l r ≠ none := by
      rw [ne_eq, order_eq_none_iff, number]
      exact Bool.false_ne_true
    obtain ⟨o, ordered⟩ := Option.ne_none_iff_exists'.1 related
    exact existsUnique_comparison ordered
  · intro hl hr
    exact ⟨order_ne_none hl hr, order_eq_eq_iff hl hr, fun v hv => order_trans hl hr hv⟩
  · intro m n
    exact congrArg some (compare_toInt m n).symm
  · intro n s
    rfl
  · intro s t
    rw [Text.compare_utf8, ← Text.compare_eq_lt_iff]
    exact ⟨Option.some_inj, rfl⟩

/-- Characters of two and of three bytes, an integer below them, and a float that is no number
against the largest integer. -/
theorem order_consistent_mixed :
    order (.text ['é']) (.text ['→']) = some .lt ∧
    (order (.int 7) (.text ['→'])).any Ordering.isLE = true ∧
    comparison .less (.float (0 / 0)) (.int Int64.maxValue) = false := by
  obtain ⟨_, nan, _⟩ := order_consistent (.float (0 / 0)) (.int Int64.maxValue)
  obtain ⟨_, _, _, _, _, _, texts⟩ := order_consistent (.text ['é']) (.text ['→'])
  obtain ⟨_, _, _, total, _⟩ := order_consistent (.int 7) (.text ['é'])
  have less := (texts ['é'] ['→']).1.2 (by decide)
  obtain ⟨_, _, trans⟩ := total (by decide) (by decide)
  have below := trans (.text ['→']) (by decide) rfl (by rw [less]; rfl)
  exact ⟨less, below, (nan (by decide)).2 .less⟩

end Value

end TapeCalc
