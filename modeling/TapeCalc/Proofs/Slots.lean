import TapeCalc.Register

/-!
The slots of the registers. A character is a register exactly if it has a slot, no two characters
share one, and the slots stand in the order in which the registers are listed. So a bank is read,
changed and listed as if it held one value per letter.
-/

namespace TapeCalc

theorem Register.ofChar?_letter (r : Register) : Register.ofChar? r.letter = some r := by
  simp [Register.ofChar?, r.isAlpha]

theorem Register.isAlpha_iff {c : Char} :
    c.isAlpha = true ↔ 'A' ≤ c ∧ c ≤ 'Z' ∨ 'a' ≤ c ∧ c ≤ 'z' := by
  have upper : c.isUpper = true ↔ 'A' ≤ c ∧ c ≤ 'Z' := decide_eq_true_iff
  have lower : c.isLower = true ↔ 'a' ≤ c ∧ c ≤ 'z' :=
    Bool.and_eq_true_iff.trans (and_congr decide_eq_true_iff decide_eq_true_iff)
  exact Bool.or_eq_true_iff.trans (or_congr upper lower)

theorem Register.eq_of_letter_eq {r r' : Register} (h : r.letter = r'.letter) : r = r' := by
  cases r
  cases h
  rfl

namespace Bank

theorem slot?_eq_some_iff {c : Char} {i : Fin 52} : slot? c = some i ↔
    ('A' ≤ c ∧ c ≤ 'Z') ∧ c.toNat = 'A'.toNat + i ∨
      ('a' ≤ c ∧ c ≤ 'z') ∧ c.toNat + 26 = 'a'.toNat + i := by
  have upper : 'A' ≤ c ∧ c ≤ 'Z' ↔ 65 ≤ c.toNat ∧ c.toNat ≤ 90 := Iff.rfl
  have lower : 'a' ≤ c ∧ c ≤ 'z' ↔ 97 ≤ c.toNat ∧ c.toNat ≤ 122 := Iff.rfl
  have first : 'A'.toNat = 65 ∧ 'Z'.toNat = 90 ∧ 'a'.toNat = 97 ∧ 'z'.toNat = 122 := by decide
  rw [slot?, upper, lower]
  simp only [first]
  split
  · simp only [Option.some.injEq, Fin.ext_iff]
    omega
  · split
    · simp only [Option.some.injEq, Fin.ext_iff]
      omega
    · simp only [reduceCtorEq, false_iff]
      omega

/-- What names a register is what has a slot. -/
theorem isSome_slot? (c : Char) : (slot? c).isSome = c.isAlpha := by
  rw [Bool.eq_iff_iff, Register.isAlpha_iff, slot?]
  split
  · rename_i upper
    exact iff_of_true rfl (.inl upper)
  · rename_i upper
    split
    · rename_i lower
      exact iff_of_true rfl (.inr lower)
    · rename_i lower
      exact iff_of_false nofun (not_or.2 ⟨upper, lower⟩)

theorem slot?_inj {c c' : Char} {i : Fin 52} (h : slot? c = some i) (h' : slot? c' = some i) :
    c = c' := by
  have upper {c : Char} : c ≤ 'Z' ↔ c.toNat ≤ 90 := Iff.rfl
  have lower {c : Char} : 'a' ≤ c ↔ 97 ≤ c.toNat := Iff.rfl
  have first : 'A'.toNat = 65 ∧ 'a'.toNat = 97 := by decide
  rw [slot?_eq_some_iff, upper, lower] at h h'
  rw [← Char.toNat_inj]
  omega

/-- The registers are listed in the order of their slots, and every slot has its register. -/
theorem map_slot?_all : Register.all.map (fun r => slot? r.letter) = List.ofFn some := by
  decide

theorem exists_slot (r : Register) : ∃ i : Fin 52, slot? r.letter = some i :=
  Option.isSome_iff_exists.1 ((isSome_slot? r.letter).trans r.isAlpha)

variable {bank : Bank}

theorem get_of_slot {r : Register} {i : Fin 52} (h : slot? r.letter = some i) :
    bank r = bank.slots.get i := by
  rw [get, read, h]
  rfl

theorem slots_eq_map_get (bank : Bank) : bank.slots.toList = Register.all.map bank.get := by
  have read : bank.get = (fun slot : Option (Fin 52) =>
      slot.elim .empty bank.slots.get) ∘ fun r => slot? r.letter := by
    funext r
    obtain ⟨i, slot⟩ := exists_slot r
    simp only [get_of_slot slot, Function.comp_apply, slot, Option.elim]
  rw [read, ← List.map_map, map_slot?_all, List.map_ofFn]
  exact (congrArg Vector.toList Vector.ofFn_getElem).symm.trans Vector.toList_ofFn

theorem get_empty (r : Register) : Bank.empty r = .empty := by
  obtain ⟨i, slot⟩ := exists_slot r
  rw [get_of_slot slot]
  exact Vector.getElem_replicate i.isLt

/-- A letter has a slot, so a value for it can be stored. -/
theorem store?_letter (bank : Bank) (r : Register) (v : Value) :
    bank.store? r.letter v = some (bank.set r v) := by
  obtain ⟨i, slot⟩ := exists_slot r
  simp only [set, store?, slot, Option.map_some, Option.getD_some]

theorem get_set_self (bank : Bank) (r : Register) (v : Value) : bank.set r v r = v := by
  obtain ⟨i, slot⟩ := exists_slot r
  simp only [get_of_slot slot, set, store?, slot, Option.map_some, Option.getD_some]
  exact Vector.getElem_set_self i.isLt

theorem get_set_other {r r' : Register} (other : r' ≠ r) (v : Value) :
    bank.set r v r' = bank r' := by
  obtain ⟨i, slot⟩ := exists_slot r
  obtain ⟨i', slot'⟩ := exists_slot r'
  have apart : i ≠ i' := by
    rintro rfl
    exact other (Register.eq_of_letter_eq (slot?_inj slot' slot))
  simp only [get_of_slot slot', set, store?, slot, Option.map_some, Option.getD_some]
  exact Vector.getElem_set_ne i.isLt i'.isLt (mt Fin.ext apart)

/-- Listing goes through keys and slots side by side, and so gives each register its value. -/
theorem entries_eq_map (bank : Bank) : bank.entries = Register.all.map fun r => (r, bank r) := by
  have kept := List.zip_map' (f := id) (g := bank.get) (l := Register.all)
  rw [List.map_id] at kept
  rw [entries, slots_eq_map_get, kept]
  rfl

end Bank

end TapeCalc
