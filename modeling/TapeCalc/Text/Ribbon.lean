import TapeCalc.Text.Basic

/-!
A text that grows at both ends and is read off at the front. It is held in pieces, so that a
piece put behind the others costs nothing until it is reached. Two ribbons with the same text are
equal however they came about: every ribbon is `ofText` of its text, and the operations are
given by what they do to that text.
-/

namespace TapeCalc

/-- One way to hold a ribbon: the text in front, then pieces with the last one first. -/
structure Pieces where
  front : Text
  back : List Text

namespace Pieces

def text (p : Pieces) : Text :=
  match p.back with
  | [] => p.front
  | back => p.front ++ back.reverse.flatten

theorem text_eq (p : Pieces) : p.text = p.front ++ p.back.reverse.flatten := by
  cases h : p.back <;> simp [text, h]

def next? (p : Pieces) : Option (Char × Pieces) :=
  match p.front with
  | c :: front => some (c, { p with front := front })
  | [] =>
    match p.back.reverse.flatten with
    | [] => none
    | c :: front => some (c, { front := front, back := [] })

def putFront (p : Pieces) (s : Text) : Pieces :=
  { p with front := s ++ p.front }

def putBack (p : Pieces) (s : Text) : Pieces :=
  { p with back := s :: p.back }

instance sameText : Setoid Pieces where
  r p q := p.text = q.text
  iseqv := ⟨fun _ => rfl, Eq.symm, Eq.trans⟩

end Pieces

def Ribbon : Type :=
  Quotient Pieces.sameText

namespace Ribbon

def ofText (s : Text) : Ribbon :=
  Quotient.mk _ { front := s, back := [] }

def toText (r : Ribbon) : Text :=
  Quotient.lift Pieces.text (fun _ _ h => h) r

theorem toText_ofText (s : Text) : (ofText s).toText = s := rfl

theorem ofText_toText (r : Ribbon) : ofText r.toText = r := by
  refine Quotient.inductionOn r fun p => Quotient.sound ?_
  exact toText_ofText p.text

theorem ext {r t : Ribbon} (h : r.toText = t.toText) : r = t := by
  rw [← ofText_toText r, h, ofText_toText]

theorem mk_eq_ofText (p : Pieces) : Quotient.mk _ p = ofText p.text :=
  (ofText_toText (Quotient.mk _ p)).symm

/-- The first character and the ribbon after it, for a ribbon with text `s`. -/
def split? : Text → Option (Char × Ribbon)
  | [] => none
  | c :: s => some (c, ofText s)

theorem split?_text (p : Pieces) :
    (p.next?.map fun (c, q) => (c, (Quotient.mk _ q : Ribbon))) = split? p.text := by
  obtain ⟨front, back⟩ := p
  cases front with
  | cons c front => simp [Pieces.next?, Pieces.text_eq, mk_eq_ofText, split?]
  | nil =>
    cases h : back.reverse.flatten with
    | nil => simp [Pieces.next?, Pieces.text_eq, split?, h]
    | cons c front => simp [Pieces.next?, Pieces.text_eq, mk_eq_ofText, split?, h]

/-- Take the first character off. -/
def next? (r : Ribbon) : Option (Char × Ribbon) :=
  Quotient.lift (fun p => p.next?.map fun (c, q) => (c, Quotient.mk _ q))
    (fun p q h => (split?_text p).trans ((congrArg split? h).trans (split?_text q).symm)) r

def putFront (r : Ribbon) (s : Text) : Ribbon :=
  Quotient.lift (fun p => Quotient.mk _ (p.putFront s))
    (fun p q h => by
      have h : p.text = q.text := h
      simp only [Pieces.text_eq] at h
      simp [mk_eq_ofText, Pieces.text_eq, Pieces.putFront, h]) r

def putBack (r : Ribbon) (s : Text) : Ribbon :=
  Quotient.lift (fun p => Quotient.mk _ (p.putBack s))
    (fun p q h => by
      have h : p.text = q.text := h
      simp only [Pieces.text_eq] at h
      simp [mk_eq_ofText, Pieces.text_eq, Pieces.putBack, ← List.append_assoc, h]) r

def empty : Ribbon := ofText []

theorem toText_putFront (r : Ribbon) (s : Text) : (r.putFront s).toText = s ++ r.toText := by
  refine Quotient.inductionOn r fun p => ?_
  change (p.putFront s).text = s ++ p.text
  simp [Pieces.text_eq, Pieces.putFront]

theorem toText_putBack (r : Ribbon) (s : Text) : (r.putBack s).toText = r.toText ++ s := by
  refine Quotient.inductionOn r fun p => ?_
  change (p.putBack s).text = p.text ++ s
  simp [Pieces.text_eq, Pieces.putBack]

theorem exists_ofText (r : Ribbon) : ∃ s, r = ofText s :=
  ⟨r.toText, (ofText_toText r).symm⟩

@[simp] theorem next?_ofText_nil : (ofText []).next? = none := rfl

@[simp] theorem next?_ofText_cons (c : Char) (s : Text) :
    (ofText (c :: s)).next? = some (c, ofText s) := rfl

@[simp] theorem putFront_ofText (s t : Text) : (ofText t).putFront s = ofText (s ++ t) :=
  ext (toText_putFront (ofText t) s)

@[simp] theorem putBack_ofText (s t : Text) : (ofText t).putBack s = ofText (t ++ s) :=
  ext (toText_putBack (ofText t) s)

theorem putBack_nil (r : Ribbon) : r.putBack [] = r :=
  ext (by simp [toText_putBack])

theorem putBack_putBack (r : Ribbon) (s t : Text) :
    (r.putBack s).putBack t = r.putBack (s ++ t) :=
  ext (by simp [toText_putBack])

theorem putBack_putFront (r : Ribbon) (s t : Text) :
    (r.putBack t).putFront s = (r.putFront s).putBack t := by
  obtain ⟨u, rfl⟩ := exists_ofText r
  simp

theorem next?_putBack {r rest : Ribbon} {c : Char} (h : r.next? = some (c, rest)) (t : Text) :
    (r.putBack t).next? = some (c, rest.putBack t) := by
  obtain ⟨u, rfl⟩ := exists_ofText r
  cases u with
  | nil => cases h
  | cons d u =>
      rw [next?_ofText_cons] at h
      obtain ⟨rfl, rfl⟩ := Prod.mk.inj (Option.some.inj h)
      simp

theorem toText_of_next? {r rest : Ribbon} {c : Char} (h : r.next? = some (c, rest)) :
    r.toText = c :: rest.toText := by
  obtain ⟨u, rfl⟩ := exists_ofText r
  cases u with
  | nil => cases h
  | cons d u =>
      rw [next?_ofText_cons] at h
      obtain ⟨rfl, rfl⟩ := Prod.mk.inj (Option.some.inj h)
      rfl

theorem eq_empty_of_next? {r : Ribbon} (h : r.next? = none) : r = empty := by
  obtain ⟨u, rfl⟩ := exists_ofText r
  cases u with
  | nil => rfl
  | cons d u => cases h

end Ribbon

end TapeCalc
