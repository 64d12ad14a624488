import TapeCalc.Text.Search

/-!
Searching by hashes agrees with the plain definition. The hash is additive up to multiples of the
modulus, so the hash of a window follows from that of the window before it; and where the needle
stands, the hashes agree.
-/

namespace TapeCalc.Text

namespace Hash

theorem push_mod (h : Nat) (c : Char) : push (h % modulus) c = push h c := by
  simp [push, Nat.add_mod, Nat.mul_mod]

theorem push_congr {g h : Nat} (c : Char) (e : g % modulus = h % modulus) :
    push g c = push h c := by
  rw [← push_mod g, e, push_mod]

theorem foldl_weight_mod (s : Text) (w : Nat) :
    s.foldl (fun w _ => w * base % modulus) w % modulus = w * weight s % modulus := by
  induction s generalizing w with
  | nil => simp [weight]
  | cons c s ih =>
    have hw : weight (c :: s) % modulus = base * weight s % modulus := by
      rw [weight, List.foldl_cons, ih, Nat.one_mul, Nat.mod_mul_mod]
    rw [List.foldl_cons, ih, Nat.mod_mul_mod, ← Nat.mul_mod_mod w, hw, Nat.mul_mod_mod,
      Nat.mul_assoc]

theorem weight_cons_mod (c : Char) (s : Text) :
    weight (c :: s) % modulus = base * weight s % modulus := by
  rw [weight, List.foldl_cons, foldl_weight_mod, Nat.one_mul, Nat.mod_mul_mod]

theorem push_mul_mod (h : Nat) (c : Char) (w : Nat) :
    push h c * w % modulus = (h * (base * w) + c.toNat * w) % modulus := by
  rw [push, Nat.mod_mul_mod, Nat.add_mul, Nat.mul_assoc]

/-- What was read before a text counts with the weight of that text. -/
theorem foldl_push_mod (s : Text) (h : Nat) :
    s.foldl push h % modulus = (h * weight s + ofText s) % modulus := by
  induction s generalizing h with
  | nil => simp [weight, ofText]
  | cons c s ih =>
    have hc : ofText (c :: s) % modulus = (c.toNat * weight s + ofText s) % modulus := by
      rw [ofText, List.foldl_cons, ih, ← Nat.mod_add_mod, push_mul_mod, Nat.zero_mul,
        Nat.zero_add, Nat.mod_add_mod]
    rw [List.foldl_cons, ih, ← Nat.mod_add_mod, push_mul_mod, Nat.mod_add_mod, Nat.add_assoc,
      ← Nat.add_mod_mod _ (ofText _), hc, Nat.add_mod_mod, ← Nat.mod_add_mod (h * weight _),
      ← Nat.mul_mod_mod h, weight_cons_mod, Nat.mul_mod_mod, Nat.mod_add_mod]

theorem foldl_weight_eq_of_length {s t : Text} (h : s.length = t.length) (w : Nat) :
    s.foldl (fun w _ => w * base % modulus) w = t.foldl (fun w _ => w * base % modulus) w := by
  induction s generalizing t w with
  | nil => rw [List.eq_nil_of_length_eq_zero h.symm]
  | cons c s ih =>
    cases t with
    | nil => simp at h
    | cons d t => exact ih (Nat.succ.inj h) _

/-- Taking `a` away again, where nothing may become negative. -/
theorem add_sub_mod {m y a b : Nat} (hm : 0 < m) (h : y % m = (a + b) % m) :
    (y + (m - a % m)) % m = b % m := by
  have whole : a + b + (m - a % m) = b + m * (a / m + 1) := by
    have split := Nat.div_add_mod a m
    have small := Nat.mod_lt a hm
    rw [Nat.mul_add, Nat.mul_one]
    omega
  calc (y + (m - a % m)) % m = (y % m + (m - a % m)) % m := (Nat.mod_add_mod _ _ _).symm
    _ = (a + b + (m - a % m)) % m := by rw [h, Nat.mod_add_mod]
    _ = b % m := by rw [whole, Nat.add_mul_mod_self_left]

/-- The hash of the window one place further. -/
theorem roll_ofText (s : Text) (out c : Char) :
    roll (weight s) (ofText (out :: s)) out c = ofText (s ++ [c]) := by
  have appended : ofText (s ++ [c]) = push (ofText s) c := by
    rw [ofText, List.foldl_append, List.foldl_cons, List.foldl_nil, ← ofText]
  have window : ofText (out :: s) % modulus = (out.toNat * weight s + ofText s) % modulus := by
    rw [ofText, List.foldl_cons, foldl_push_mod, ← Nat.mod_add_mod, push_mul_mod, Nat.zero_mul,
      Nat.zero_add, Nat.mod_add_mod]
  rw [appended, roll]
  exact push_congr c (add_sub_mod (by decide) window)

end Hash

theorem indexOf?_eq_none_of_length_lt {needle s : Text} (h : s.length < needle.length) :
    indexOf? needle s = none := by
  induction s with
  | nil =>
    cases needle with
    | nil => simp at h
    | cons c needle => rfl
  | cons c s ih =>
    have hp : ¬ needle.isPrefixOf (c :: s) = true := by
      intro hp
      have := (List.isPrefixOf_iff_prefix.1 hp).length_le
      omega
    simp [indexOf?, hp, ih (by simp at h; omega)]

/-- The hash only spares comparisons: where the needle stands, the hashes agree. -/
theorem hash_and_isPrefixOf (needle s : Text) :
    (Hash.ofText (s.take needle.length) = Hash.ofText needle ∧ needle.isPrefixOf s = true) ↔
      needle.isPrefixOf s = true := by
  refine ⟨And.right, fun h => ⟨?_, h⟩⟩
  rw [← List.prefix_iff_eq_take.1 (List.isPrefixOf_iff_prefix.1 h)]

theorem searchFrom_eq (x : Char) (needle s : Text) (k : Nat) (hs : needle.length < s.length) :
    searchFrom (x :: needle) (Hash.ofText (x :: needle)) (Hash.weight needle) k
      (Hash.ofText (s.take (needle.length + 1))) s (s.drop (needle.length + 1)) =
      (indexOf? (x :: needle) s).map (· + k) := by
  induction s generalizing k with
  | nil => simp at hs
  | cons c s ih =>
    have hp := hash_and_isPrefixOf (x :: needle) (c :: s)
    rw [List.length_cons] at hp
    rw [List.drop_succ_cons, indexOf?]
    cases hd : s.drop needle.length with
    | nil =>
      have hl : s.length ≤ needle.length := List.drop_eq_nil_iff.1 hd
      rw [searchFrom, indexOf?_eq_none_of_length_lt (by simp; omega)]
      simp only [hp]
      split <;> simp
    | cons d ahead =>
      have hl : needle.length < s.length := by
        have := congrArg List.length hd
        simp at this
        omega
      rw [searchFrom]
      simp only [hp]
      split
      · simp
      · have hweight : Hash.weight needle = Hash.weight (s.take needle.length) :=
          Hash.foldl_weight_eq_of_length (by simp; omega) 1
        have hnext : s[needle.length]? = some d := by
          rw [← List.head?_drop, hd, List.head?_cons]
        have hroll : Hash.roll (Hash.weight needle)
            (Hash.ofText ((c :: s).take (needle.length + 1))) c d =
            Hash.ofText (s.take (needle.length + 1)) := by
          rw [hweight, List.take_succ_cons, Hash.roll_ofText, List.take_add_one, hnext]
          rfl
        have hahead : ahead = s.drop (needle.length + 1) := by
          rw [← List.tail_drop, hd, List.tail_cons]
        rw [hroll, hahead, ih (k + 1) hl, Option.map_map]
        congr 1
        funext n
        simp only [Function.comp_apply]
        omega

/-- Searching by hashes finds what `indexOf?` asks for. -/
theorem search?_eq_indexOf? (needle s : Text) : search? needle s = indexOf? needle s := by
  cases needle with
  | nil => cases s <;> rfl
  | cons x needle =>
    rw [search?]
    split
    · rename_i h
      rw [indexOf?_eq_none_of_length_lt]
      simp at h ⊢
      omega
    · rename_i h
      have hl : needle.length < s.length := by
        simp at h
        omega
      have := searchFrom_eq x needle s 0 hl
      simpa using this

end TapeCalc.Text
