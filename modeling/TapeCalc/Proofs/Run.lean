import TapeCalc.Engine

/-!
Runs by single fetches. `Fetches` and `Ends` follow the tape one character at a time and count
the fetches; `run` goes by strides and is given fuel. The two agree on every engine, whatever its
stack and mode are, so all later results are proved along fetches and hold of `run`.
-/

namespace TapeCalc.Engine

variable {κ : Type}

/-- The character that the next fetch leaves to be carried out, if it does. -/
def dispatched? (e : Engine κ) : Option Char :=
  match e.tape.next? with
  | none => none
  | some (c, _) =>
    match e.mode.advance c e.stack with
    | .ok .command => some c
    | _ => none

theorem dispatched?_of_command {e : Engine κ} {c : Char} {rest : Tape}
    (next : e.tape.next? = some (c, rest))
    (command : e.mode.advance c e.stack = .ok .command) : e.dispatched? = some c := by
  simp [dispatched?, next, command]

variable [Console κ]

/-- From `e`, `n` fetches that all succeed lead to `e'`. -/
inductive Fetches : Nat → Engine κ → Engine κ → Prop
  | refl (e : Engine κ) : Fetches 0 e e
  | head {n : Nat} {e e' e'' : Engine κ} (first : e.fetch? = some (.done e'))
      (rest : Fetches n e' e'') : Fetches (n + 1) e e''

/-- The run of `e` makes `n` fetches, the one that fails included, and ends with `o`. -/
inductive Ends : Nat → Engine κ → Outcome (Engine κ) → Prop
  | exhausted {e : Engine κ} (h : e.fetch? = none) : Ends 0 e (.done e)
  | fault {e e' : Engine κ} {err : RuntimeError} (h : e.fetch? = some (.failed err e')) :
      Ends 1 e (.failed err e')
  | head {n : Nat} {e e' : Engine κ} {o : Outcome (Engine κ)}
      (first : e.fetch? = some (.done e')) (rest : Ends n e' o) : Ends (n + 1) e o

/-- The run of `e` passes through `e'` before its next fetch or at its end. -/
def Reaches (e e' : Engine κ) : Prop :=
  ∃ n, Fetches n e e'

/-- The run of `e` ends with `o`, given enough fuel. -/
def Halts (e : Engine κ) (o : Outcome (Engine κ)) : Prop :=
  ∃ fuel, run fuel e = some o

def Executes (e : Engine κ) (program : Text) (o : Outcome (Engine κ)) : Prop :=
  ∃ fuel, execute fuel e program = some o

theorem executes_iff_halts {e : Engine κ} {program : Text} {o : Outcome (Engine κ)} :
    Executes e program o ↔ Halts (e.load program) o :=
  Iff.rfl

theorem Fetches.trans {m n : Nat} {e e' e'' : Engine κ} (h : Fetches m e e')
    (h' : Fetches n e' e'') : Fetches (m + n) e e'' := by
  induction h with
  | refl e => simpa using h'
  | head first _ ih =>
      rw [Nat.add_right_comm]
      exact .head first (ih h')

theorem Fetches.single {e e' : Engine κ} (h : e.fetch? = some (.done e')) : Fetches 1 e e' :=
  .head h (.refl e')

theorem Reaches.refl (e : Engine κ) : Reaches e e :=
  ⟨0, .refl e⟩

theorem Reaches.trans {e e' e'' : Engine κ} : Reaches e e' → Reaches e' e'' → Reaches e e''
  | ⟨m, h⟩, ⟨n, h'⟩ => ⟨m + n, h.trans h'⟩

theorem Reaches.single {e e' : Engine κ} (h : e.fetch? = some (.done e')) : Reaches e e' :=
  ⟨1, .single h⟩

theorem Reaches.head {e e' e'' : Engine κ} (h : e.fetch? = some (.done e'))
    (rest : Reaches e' e'') : Reaches e e'' :=
  (Reaches.single h).trans rest

/-- What every fetch keeps, a run keeps. -/
theorem Reaches.keeps {P : Engine κ → Prop}
    (kept : ∀ {e e' : Engine κ}, P e → e.fetch? = some (.done e') → P e') {e e' : Engine κ}
    (h : Reaches e e') (start : P e) : P e' := by
  obtain ⟨n, fetches⟩ := h
  induction fetches with
  | refl e => exact start
  | head first _ ih => exact ih (kept start first)

theorem fetch?_eq_none_iff {e : Engine κ} : e.fetch? = none ↔ e.tape.next? = none := by
  unfold fetch?
  cases e.tape.next? with
  | none => simp
  | some next =>
      simp only [reduceCtorEq, iff_false]
      split <;> simp

theorem fetch?_done_iff {e e' : Engine κ} {c : Char} {rest : Tape}
    (h : e.tape.next? = some (c, rest)) :
    e.fetch? = some (.done e') ↔ step { e with tape := rest } c = .done e' := by
  simp only [fetch?, h]
  split <;> simp_all

theorem fetch?_failed_iff {e e' : Engine κ} {c : Char} {rest : Tape} {err : RuntimeError}
    (h : e.tape.next? = some (c, rest)) :
    e.fetch? = some (.failed err e') ↔
      ∃ e₁, step { e with tape := rest } c = .failed err e₁ ∧ e' = e₁.discard := by
  simp only [fetch?, h]
  split
  · simp_all
  · rename_i err' e₁ h₁
    simp only [h₁, Option.some.injEq, Outcome.failed.injEq]
    constructor
    · rintro ⟨rfl, rfl⟩
      exact ⟨e₁, ⟨rfl, rfl⟩, rfl⟩
    · rintro ⟨_, ⟨rfl, rfl⟩, rfl⟩
      exact ⟨rfl, rfl⟩

theorem exists_step_of_fetch?_done {e e' : Engine κ} (h : e.fetch? = some (.done e')) :
    ∃ c rest, e.tape.next? = some (c, rest) ∧ step { e with tape := rest } c = .done e' := by
  cases next : e.tape.next? with
  | none =>
      rw [fetch?_eq_none_iff.2 next] at h
      cases h
  | some pair =>
      obtain ⟨c, rest⟩ := pair
      exact ⟨c, rest, rfl, (fetch?_done_iff next).1 h⟩

theorem exists_step_of_fetch?_failed {e e' : Engine κ} {err : RuntimeError}
    (h : e.fetch? = some (.failed err e')) :
    ∃ c rest e₁, e.tape.next? = some (c, rest) ∧
      step { e with tape := rest } c = .failed err e₁ ∧ e' = e₁.discard := by
  cases next : e.tape.next? with
  | none =>
      rw [fetch?_eq_none_iff.2 next] at h
      cases h
  | some pair =>
      obtain ⟨c, rest⟩ := pair
      obtain ⟨e₁, stepped, discarded⟩ := (fetch?_failed_iff next).1 h
      exact ⟨c, rest, e₁, rfl, stepped, discarded⟩

/-- The engine `e` inside a text literal: `t` lies on top of `below`, `depth` parentheses are open
and `tape` is pending. -/
def quoting (e : Engine κ) (below : Stack) (t : Text) (depth : Nat) (tape : Tape) : Engine κ :=
  { e with stack := below.push (.text t), mode := .string depth, tape := tape }

theorem fetch?_quoting (e : Engine κ) (below : Stack) (t : Text) (depth : Nat) {tape rest : Tape}
    {c : Char} (h : tape.next? = some (c, rest)) :
    (e.quoting below t depth tape).fetch? = some (.done (
      if c = '(' then e.quoting below (t ++ [c]) (depth + 1) rest
      else if c = ')' then
        if 1 < depth then e.quoting below (t ++ [c]) (depth - 1) rest
        else { e with stack := below.push (.text t), mode := .execution, tape := rest }
      else e.quoting below (t ++ [c]) depth rest)) := by
  rw [fetch?_done_iff h]
  by_cases opening : c = '('
  · simp [step, quoting, Mode.advance, Mode.inString, opening]
  · by_cases closing : c = ')'
    · by_cases inner : 1 < depth <;>
        simp [step, quoting, Mode.advance, Mode.inString, closing, inner]
    · simp [step, quoting, Mode.advance, Mode.inString, opening, closing]

theorem fetches_inside (e : Engine κ) (below : Stack) (t : Text) (limit : Nat) (taken : Text)
    (depth : Nat) (tape : Tape) {taken' : Text} {depth' : Nat} {rest : Tape}
    (h : Mode.inside limit taken depth tape = (taken', depth', rest)) :
    ∃ n, taken'.length = n + taken.length ∧
      Fetches n (e.quoting below (t ++ taken.reverse) depth tape)
        (e.quoting below (t ++ taken'.reverse) depth' rest) := by
  induction limit generalizing taken depth tape with
  | zero =>
      cases h
      exact ⟨0, by simp, .refl _⟩
  | succ limit ih =>
      -- A character that lengthens the literal, and then those that `ih` takes.
      have longer {c : Char} {depth₁ : Nat} {tape₁ : Tape}
          (first : (e.quoting below (t ++ taken.reverse) depth tape).fetch? =
            some (.done (e.quoting below (t ++ taken.reverse ++ [c]) depth₁ tape₁)))
          (after : Mode.inside limit (c :: taken) depth₁ tape₁ = (taken', depth', rest)) :
          ∃ n, taken'.length = n + taken.length ∧
            Fetches n (e.quoting below (t ++ taken.reverse) depth tape)
              (e.quoting below (t ++ taken'.reverse) depth' rest) := by
        obtain ⟨n, hn, fetches⟩ := ih (c :: taken) depth₁ tape₁ after
        rw [List.reverse_cons, ← List.append_assoc] at fetches
        rw [List.length_cons] at hn
        exact ⟨n + 1, by omega, .head first fetches⟩
      rw [Mode.inside] at h
      cases hc : tape.next? with
      | none =>
          simp only [hc] at h
          cases h
          exact ⟨0, by simp, .refl _⟩
      | some next =>
          obtain ⟨c, tape₁⟩ := next
          have first := e.fetch?_quoting below (t ++ taken.reverse) depth hc
          simp only [hc] at h
          by_cases opening : c = '('
          · rw [if_pos opening] at first h
            exact longer first h
          · rw [if_neg opening] at first h
            by_cases closing : c = ')'
            · rw [if_pos closing] at first h
              by_cases inner : 1 < depth
              · rw [if_pos inner] at first h
                exact longer first h
              · rw [if_neg inner] at h
                cases h
                exact ⟨0, by simp, .refl _⟩
            · rw [if_neg closing] at first h
              exact longer first h

/-- A stride is one fetch, or at least one fetch and all of them inside a text literal. -/
theorem stride?_cases (e : Engine κ) :
    e.stride? = e.fetch? ∨
      ∃ n e', e.stride? = some (.done e') ∧ Fetches (n + 1) e e' := by
  unfold stride?
  split
  · rename_i depth t below hmode hstack
    split
    · exact .inl rfl
    · rename_i taken depth' rest nonempty hinside
      obtain ⟨n, hn, fetches⟩ := fetches_inside e below t _ [] depth e.tape hinside
      have self : e.quoting below (t ++ [].reverse) depth e.tape = e := by
        rw [Stack.pop?_eq_some_iff] at hstack
        simp [quoting, ← hmode, ← hstack]
      rw [self] at fetches
      cases n with
      | zero => exact absurd (List.length_eq_zero_iff.1 hn) nonempty
      | succ n => exact .inr ⟨n, _, rfl, fetches⟩
  · exact .inl rfl

theorem Ends.prepend {m n : Nat} {e e' : Engine κ} {o : Outcome (Engine κ)}
    (h : Fetches m e e') (h' : Ends n e' o) : Ends (m + n) e o := by
  induction h with
  | refl e => simpa using h'
  | head first _ ih =>
      rw [Nat.add_right_comm]
      exact .head first (ih h')

/-- The fetches that an ending run begins with are determined by the engine. -/
theorem Ends.drop {m n : Nat} {e e' : Engine κ} {o : Outcome (Engine κ)}
    (h : Fetches m e e') (h' : Ends n e o) : ∃ k, n = m + k ∧ Ends k e' o := by
  induction h generalizing n with
  | refl e => exact ⟨n, by simp, h'⟩
  | head first _ ih =>
      cases h' with
      | exhausted stop =>
          rw [stop] at first
          cases first
      | fault stop =>
          rw [stop] at first
          cases first
      | head first' rest' =>
          rw [first] at first'
          cases first'
          obtain ⟨k, rfl, ends⟩ := ih rest'
          exact ⟨k, by omega, ends⟩

theorem run_add {fuel : Nat} {e : Engine κ} {o : Outcome (Engine κ)} (h : run fuel e = some o)
    (more : Nat) : run (fuel + more) e = some o := by
  induction fuel generalizing e with
  | zero =>
      simp only [run] at h
      split at h
      · rename_i stop
        rw [Option.isNone_iff_eq_none, ← fetch?_eq_none_iff] at stop
        cases more with
        | zero => simp_all [run, fetch?_eq_none_iff]
        | succ more =>
            obtain stride | ⟨n, e', stride, fetches⟩ := stride?_cases e
            · rw [Nat.zero_add, run, stride, stop]
              exact h
            · cases fetches with
              | head first _ =>
                  rw [stop] at first
                  cases first
      · cases h
  | succ fuel ih =>
      rw [Nat.add_right_comm, run]
      rw [run] at h
      cases hs : e.stride? with
      | none => simpa only [hs] using h
      | some next =>
          cases next with
          | failed err e' => simpa only [hs] using h
          | done e' =>
              rw [hs] at h
              exact ih h

theorem exists_ends_of_run {fuel : Nat} {e : Engine κ} {o : Outcome (Engine κ)}
    (h : run fuel e = some o) : ∃ n, Ends n e o := by
  induction fuel generalizing e with
  | zero =>
      simp only [run] at h
      split at h
      · rename_i stop
        rw [Option.isNone_iff_eq_none, ← fetch?_eq_none_iff] at stop
        cases h
        exact ⟨0, .exhausted stop⟩
      · cases h
  | succ fuel ih =>
      rw [run] at h
      obtain stride | ⟨n, e', stride, fetches⟩ := stride?_cases e
      · cases hf : e.fetch? with
        | none =>
            rw [stride, hf] at h
            cases h
            exact ⟨0, .exhausted hf⟩
        | some next =>
            cases next with
            | failed err e' =>
                rw [stride, hf] at h
                cases h
                exact ⟨1, .fault hf⟩
            | done e' =>
                rw [stride, hf] at h
                obtain ⟨n, ends⟩ := ih h
                exact ⟨n + 1, .head hf ends⟩
      · rw [stride] at h
        obtain ⟨k, ends⟩ := ih h
        exact ⟨n + 1 + k, .prepend fetches ends⟩

theorem run_of_ends {n : Nat} {e : Engine κ} {o : Outcome (Engine κ)} (h : Ends n e o) :
    run n e = some o := by
  -- A stride may make many fetches at once, so the induction is on all smaller counts.
  induction n using Nat.strongRecOn generalizing e with
  | ind n ih =>
      obtain stride | ⟨m, e', stride, fetches⟩ := stride?_cases e
      · cases h with
        | exhausted stop =>
            have stop' : e.tape.next? = none := fetch?_eq_none_iff.1 stop
            simp [run, stop']
        | fault stop => simp [run, stride, stop]
        | @head n _ e' _ first rest =>
            rw [run, stride, first]
            exact ih n (Nat.lt_succ_self n) rest
      · obtain ⟨k, rfl, ends⟩ := Ends.drop fetches h
        have := run_add (ih k (by omega) ends) m
        rw [show m + 1 + k = k + m + 1 by omega, run, stride]
        exact this

theorem halts_iff_ends {e : Engine κ} {o : Outcome (Engine κ)} :
    Halts e o ↔ ∃ n, Ends n e o :=
  ⟨fun ⟨_, h⟩ => exists_ends_of_run h, fun ⟨n, h⟩ => ⟨n, run_of_ends h⟩⟩

theorem Reaches.halts_iff {e e' : Engine κ} (h : Reaches e e') {o : Outcome (Engine κ)} :
    Halts e o ↔ Halts e' o := by
  obtain ⟨m, fetches⟩ := h
  simp only [halts_iff_ends]
  constructor
  · rintro ⟨n, ends⟩
    obtain ⟨k, _, ends'⟩ := Ends.drop fetches ends
    exact ⟨k, ends'⟩
  · rintro ⟨k, ends⟩
    exact ⟨m + k, .prepend fetches ends⟩

theorem halts_of_exhausted {e : Engine κ} (h : e.tape.next? = none) : Halts e (.done e) :=
  halts_iff_ends.2 ⟨0, .exhausted (fetch?_eq_none_iff.2 h)⟩

theorem halts_of_fault {e e' : Engine κ} {err : RuntimeError}
    (h : e.fetch? = some (.failed err e')) : Halts e (.failed err e') :=
  halts_iff_ends.2 ⟨1, .fault h⟩

theorem Halts.unique {e : Engine κ} {o o' : Outcome (Engine κ)} (h : Halts e o)
    (h' : Halts e o') : o = o' := by
  obtain ⟨m, hm⟩ := h
  obtain ⟨n, hn⟩ := h'
  have := run_add hm n
  rw [Nat.add_comm, run_add hn m, Option.some.injEq] at this
  exact this.symm

/-- A run ends at an engine whose tape is empty, or with the failure of a fetch. -/
theorem Halts.cases_last {e : Engine κ} {o : Outcome (Engine κ)} (h : Halts e o) :
    (∃ e', o = .done e' ∧ Reaches e e' ∧ e'.tape.next? = none) ∨
      ∃ e₀ err e', o = .failed err e' ∧ Reaches e e₀ ∧ e₀.fetch? = some (.failed err e') := by
  obtain ⟨n, ends⟩ := halts_iff_ends.1 h
  induction ends with
  | @exhausted e stop => exact .inl ⟨e, rfl, .refl e, fetch?_eq_none_iff.1 stop⟩
  | @fault e e' err stop => exact .inr ⟨e, err, e', rfl, .refl e, stop⟩
  | @head n e e₁ o first rest ih =>
      obtain ⟨e', rfl, reaches, stop⟩ | ⟨e₀, err, e', rfl, reaches, stop⟩ :=
        ih (halts_iff_ends.2 ⟨n, rest⟩)
      · exact .inl ⟨e', rfl, .head first reaches, stop⟩
      · exact .inr ⟨e₀, err, e', rfl, .head first reaches, stop⟩

/-- Whether the run ends within `n` fetches and `p` holds of every engine that it passes. -/
def holdsAlong (p : Engine κ → Bool) : Nat → Engine κ → Bool
  | 0, e => p e && e.tape.next?.isNone
  | n + 1, e =>
    p e && match e.fetch? with
      | some (.done e') => holdsAlong p n e'
      | _ => true

theorem holdsAlong_reaches (p : Engine κ → Bool) (n : Nat) {e e' : Engine κ}
    (h : holdsAlong p n e = true) (reaches : Reaches e e') : p e' = true := by
  obtain ⟨m, fetches⟩ := reaches
  induction fetches generalizing n with
  | refl e =>
      cases n <;> simp only [holdsAlong, Bool.and_eq_true] at h <;> exact h.1
  | head first _ ih =>
      cases n with
      | zero =>
          simp only [holdsAlong, Bool.and_eq_true, Option.isNone_iff_eq_none] at h
          rw [fetch?_eq_none_iff.2 h.2] at first
          cases first
      | succ n =>
          simp only [holdsAlong, first, Bool.and_eq_true] at h
          exact ih n h.2

end TapeCalc.Engine
