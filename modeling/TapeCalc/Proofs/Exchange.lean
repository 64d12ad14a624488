import TapeCalc.Proofs.Effect
import TapeCalc.Proofs.Slots

/-!
Engines that differ in their registers and in their console alone. A fetch looks at a register
only where a letter is carried out, and at a console only by reading and writing. So two such
engines stay alike fetch by fetch, as long as the banks agree on the letters that are carried out
and the consoles answer alike. With the results about what a run leaves behind this says that
registers are read-only, and read on no other occasion.
-/

namespace TapeCalc

theorem Register.letter_eq_of_ofChar? {c : Char} {r : Register} (h : ofChar? c = some r) :
    r.letter = c := by
  unfold ofChar? at h
  split at h
  · cases h
    rfl
  · cases h

namespace Console

variable {κ κ' : Type} [Console κ] [Console κ']

/-- Reading and writing give the same answers on `k` and on `g k`. -/
structure Faithful (g : κ → κ') : Prop where
  readLine (k : κ) : Console.readLine (g k) = ((Console.readLine k).1, g (Console.readLine k).2)
  write (k : κ) (t : Text) :
    Console.write (g k) t = ((Console.write k t).1, g (Console.write k t).2)

theorem respected_true : Respected fun _ _ : κ => True :=
  ⟨fun _ => trivial, fun _ _ => trivial, fun _ => trivial, fun _ _ => trivial⟩

theorem faithful_id : Faithful (id : κ → κ) :=
  ⟨fun _ => rfl, fun _ _ => rfl⟩

variable {g : κ → κ'}

theorem Faithful.readValue (h : Faithful g) (s : Stack) (k : κ) :
    Console.readValue s (g k) = (Console.readValue s k).map fun (s, k) => (s, g k) := by
  simp only [Console.readValue, h.readLine]
  rcases Console.readLine k with ⟨_ | line, k⟩
  · rfl
  · cases line <;> rfl

theorem Faithful.writeValue (h : Faithful g) (s : Stack) (k : κ) :
    Console.writeValue s (g k) = (Console.writeValue s k).map fun (s, k) => (s, g k) := by
  simp only [Console.writeValue]
  cases s.pop Op.write.symbol with
  | error err => rfl
  | ok top =>
      simp only [h.write]
      rcases Console.write k top.1.toText with ⟨_ | _, k⟩ <;> rfl

end Console

namespace Engine

variable {κ κ' : Type}

/-- The engine with another bank, and its console seen through `g`. -/
def exchange (bank : Bank) (g : κ → κ') (e : Engine κ) : Engine κ' where
  stack := e.stack
  bank := bank
  tape := e.tape
  mode := e.mode
  console := g e.console

theorem withStack_exchange (bank : Bank) (g : κ → κ') (e : Engine κ)
    (r : Except RuntimeError Stack) :
    (e.exchange bank g).withStack r = (e.withStack r).map (exchange bank g) := by
  cases r <;> rfl

theorem splice_exchange (bank : Bank) (g : κ → κ') (e : Engine κ) (op : Op)
    (put : Tape → Text → Tape) :
    (e.exchange bank g).splice op put = (e.splice op put).map (exchange bank g) := by
  cases hs : e.stack with
  | empty => simp [splice, exchange, hs, Stack.pop, Outcome.map]
  | push below v =>
      rw [splice_of_stack hs, splice_of_stack (e := e.exchange bank g) hs]
      rfl

variable [Console κ] [Console κ'] {bank : Bank} {g : κ → κ'}

theorem perform_exchange (faithful : Console.Faithful g) (bank : Bank) (e : Engine κ) (op : Op) :
    (e.exchange bank g).perform op = (e.perform op).map (exchange bank g) := by
  cases op with
  | read =>
      simp only [perform, exchange, faithful.readValue, Outcome.map_map]
      rfl
  | write =>
      simp only [perform, exchange, faithful.writeValue, Outcome.map_map]
      rfl
  | depth => rfl
  | applyNow | applyLater => exact splice_exchange bank g e _ _
  | _ => exact withStack_exchange bank g e _

theorem dispatch_exchange (faithful : Console.Faithful g) (e : Engine κ) (c : Char)
    (agree : ∀ r, Register.ofChar? c = some r → bank r = e.bank r) :
    (e.exchange bank g).dispatch c = (e.dispatch c).map (exchange bank g) := by
  simp only [dispatch]
  cases hr : Register.ofChar? c with
  | some r => simp [exchange, agree r hr, Outcome.map]
  | none =>
      cases Op.ofChar? c with
      | none => rfl
      | some op =>
          have checked : (e.exchange bank g).stack.require c op.arity =
            e.stack.require c op.arity := rfl
          simp only [checked]
          cases e.stack.require c op.arity with
          | error err => rfl
          | ok _ => exact perform_exchange faithful bank e op

theorem step_exchange (faithful : Console.Faithful g) (bank : Bank) (e : Engine κ) (c : Char)
    (agree : e.mode.advance c e.stack = .ok .command →
      ∀ r, Register.ofChar? c = some r → bank r = e.bank r) :
    (e.exchange bank g).step c = (e.step c).map (exchange bank g) := by
  have advance : (e.exchange bank g).mode.advance c (e.exchange bank g).stack =
    e.mode.advance c e.stack := rfl
  simp only [step, advance]
  cases h : e.mode.advance c e.stack with
  | error err => rfl
  | ok progress =>
      cases progress with
      | building mode s => rfl
      | command => exact dispatch_exchange faithful { e with mode := .execution } c (agree h)

/-- The two banks hold the same in the register that the next fetch reads, if it reads one. -/
def AgreesOn (bank : Bank) (e : Engine κ) : Prop :=
  ∀ r : Register, e.dispatched? = some r.letter → bank r = e.bank r

theorem fetch?_exchange (faithful : Console.Faithful g) {e : Engine κ} (agree : AgreesOn bank e) :
    (e.exchange bank g).fetch? = e.fetch?.map (Outcome.map (exchange bank g)) := by
  cases next : e.tape.next? with
  | none =>
      have next' : (e.exchange bank g).tape.next? = none := next
      rw [fetch?_eq_none_iff.2 next, fetch?_eq_none_iff.2 next']
      rfl
  | some pair =>
      obtain ⟨c, rest⟩ := pair
      have next' : (e.exchange bank g).tape.next? = some (c, rest) := next
      have stepped := step_exchange faithful bank { e with tape := rest } c (by
        intro command r hr
        refine agree r ?_
        rw [dispatched?_of_command next command, Register.letter_eq_of_ofChar? hr])
      have inner : ({ e.exchange bank g with tape := rest } : Engine κ') =
        exchange bank g { e with tape := rest } := rfl
      simp only [fetch?, next, next', inner, stepped]
      cases step { e with tape := rest } c <;> rfl

theorem fetches_succ_iff {n : Nat} {e e' : Engine κ} :
    Fetches (n + 1) e e' ↔ ∃ e₁, e.fetch? = some (.done e₁) ∧ Fetches n e₁ e' := by
  constructor
  · intro h
    cases h with
    | head first rest => exact ⟨_, first, rest⟩
  · rintro ⟨e₁, first, rest⟩
    exact .head first rest

section Runs

variable {e : Engine κ} (faithful : Console.Faithful g)
  (agree : ∀ e₁, Reaches e e₁ → AgreesOn bank e₁)

include faithful agree

/-- After any number of fetches the two engines are alike again. -/
theorem fetches_exchange_iff {n : Nat} {e' : Engine κ'} :
    Fetches n (e.exchange bank g) e' ↔ ∃ e₁, Fetches n e e₁ ∧ e' = e₁.exchange bank g := by
  induction n generalizing e with
  | zero =>
      constructor
      · rintro ⟨⟩
        exact ⟨e, .refl e, rfl⟩
      · rintro ⟨_, ⟨⟩, rfl⟩
        exact .refl _
  | succ n ih =>
      rw [fetches_succ_iff, fetch?_exchange faithful (agree e (.refl e))]
      constructor
      · rintro ⟨_, first, rest⟩
        obtain ⟨o, fetched, mapped⟩ := Option.map_eq_some_iff.1 first
        cases o with
        | failed err e₁ => cases mapped
        | done e₁ =>
            cases mapped
            have agree₁ (e₂ : Engine κ) (h : Reaches e₁ e₂) := agree e₂ (.head fetched h)
            obtain ⟨e₂, fetches, rfl⟩ := (ih agree₁).1 rest
            exact ⟨e₂, .head fetched fetches, rfl⟩
      · rintro ⟨e₂, fetches, rfl⟩
        obtain ⟨e₁, fetched, rest⟩ := fetches_succ_iff.1 fetches
        have agree₁ (e₂ : Engine κ) (h : Reaches e₁ e₂) := agree e₂ (.head fetched h)
        exact ⟨e₁.exchange bank g, by rw [fetched]; rfl, (ih agree₁).2 ⟨e₂, rest, rfl⟩⟩

theorem reaches_exchange_iff {e' : Engine κ'} :
    Reaches (e.exchange bank g) e' ↔ ∃ e₁, Reaches e e₁ ∧ e' = e₁.exchange bank g := by
  simp only [Reaches, fetches_exchange_iff faithful agree]
  constructor
  · rintro ⟨n, e₁, fetches, rfl⟩
    exact ⟨e₁, ⟨n, fetches⟩, rfl⟩
  · rintro ⟨e₁, ⟨n, fetches⟩, rfl⟩
    exact ⟨n, e₁, fetches, rfl⟩

/-- The two runs end alike, or neither ends. -/
theorem halts_exchange_iff {o' : Outcome (Engine κ')} :
    Halts (e.exchange bank g) o' ↔ ∃ o, Halts e o ∧ o' = o.map (exchange bank g) := by
  constructor
  · intro h
    obtain ⟨_, rfl, reaches', stop⟩ | ⟨_, err, _, rfl, reaches', failed'⟩ := h.cases_last
    · obtain ⟨e₁, reaches, rfl⟩ := (reaches_exchange_iff faithful agree).1 reaches'
      exact ⟨_, reaches.halts_iff.2 (halts_of_exhausted stop), rfl⟩
    · obtain ⟨e₀, reaches, rfl⟩ := (reaches_exchange_iff faithful agree).1 reaches'
      rw [fetch?_exchange faithful (agree e₀ reaches)] at failed'
      obtain ⟨o, failed, mapped⟩ := Option.map_eq_some_iff.1 failed'
      cases o with
      | done e₁ => cases mapped
      | failed err e₁ =>
          cases mapped
          exact ⟨_, reaches.halts_iff.2 (halts_of_fault failed), rfl⟩
  · rintro ⟨o, h, rfl⟩
    obtain ⟨e₁, rfl, reaches, stop⟩ | ⟨e₀, err, e₁, rfl, reaches, failed⟩ := h.cases_last
    · have reaches' := (reaches_exchange_iff faithful agree).2 ⟨e₁, reaches, rfl⟩
      exact reaches'.halts_iff.2 (halts_of_exhausted stop)
    · have reaches' := (reaches_exchange_iff faithful agree).2 ⟨e₀, reaches, rfl⟩
      refine reaches'.halts_iff.2 (halts_of_fault ?_)
      rw [fetch?_exchange faithful (agree e₀ reaches), failed]
      rfl

end Runs

/-- The engine `e'` stands at some moment of the run of `e`: before a fetch, or at the end, also
where the run has failed. -/
def Passes (e e' : Engine κ) : Prop :=
  Reaches e e' ∨ ∃ err, Halts e (.failed err e')

theorem Passes.precedes {R : κ → κ → Prop} (h : Console.Respected R) {e e' : Engine κ}
    (passes : Passes e e') : Precedes R e e' := by
  obtain reaches | ⟨err, halts⟩ := passes
  · exact reaches.precedes h
  · exact halts.precedes h

theorem Passes.bank_eq {e e' : Engine κ} (passes : Passes e e') : e'.bank = e.bank :=
  (passes.precedes Console.respected_true).1

def withBank (bank : Bank) (e : Engine κ) : Engine κ :=
  { e with bank := bank }

/-- Registers are read-only, and read where a letter is carried out. The bank is the same at every
moment of a run, while text is only added to the output and lines are only taken off the input.
Another bank that agrees on the letters which the run carries out makes no difference: the two
runs pass through the same stacks, tapes, modes and consoles, and end in the same way. -/
theorem registers_read_only :
    (∀ (κ : Type) [Console κ] (e e₁ : Engine κ), Passes e e₁ → e₁.bank = e.bank) ∧
    (∀ e e₁ e₂ : Engine Script, Passes e e₁ → Passes e₁ e₂ →
      e₁.console.written <+: e₂.console.written ∧ e₂.console.lines <:+ e₁.console.lines) ∧
    ∀ (κ : Type) [Console κ] (e : Engine κ) (bank : Bank),
      (∀ e₁ (r : Register), Reaches e e₁ → e₁.dispatched? = some r.letter →
        bank r = e.bank r) →
      (∀ n e', Fetches n (e.withBank bank) e' ↔
        ∃ e₁, Fetches n e e₁ ∧ e' = e₁.withBank bank) ∧
      ∀ o', Halts (e.withBank bank) o' ↔ ∃ o, Halts e o ∧ o' = o.map (withBank bank) := by
  refine ⟨fun _ _ _ _ => Passes.bank_eq, ?_, ?_⟩
  · intro e e₁ e₂ _ passes
    have later := (passes.precedes Script.respected_later).2
    exact ⟨later.written, later.lines⟩
  · intro κ _ e bank agree
    have agree' (e₁ : Engine κ) (reaches : Reaches e e₁) : AgreesOn bank e₁ := by
      intro r dispatched
      rw [Passes.bank_eq (.inl reaches)]
      exact agree e₁ r reaches dispatched
    constructor
    · intro n e'
      exact fetches_exchange_iff Console.faithful_id agree'
    · intro o'
      exact halts_exchange_iff Console.faithful_id agree'

/-- The letter `q` stands in a text literal and is not carried out, so its register may hold
anything. -/
theorem registers_read_only_quoted_letter : ∃ (e e' : Engine Script) (bank : Bank),
    e.tape = .ofText "(q)d@".toList ∧ bank ⟨'q', rfl⟩ ≠ e.bank ⟨'q', rfl⟩ ∧
      (∀ e₁ (r : Register), Reaches e e₁ → e₁.dispatched? = some r.letter →
        bank r = e.bank r) ∧
      Halts e (.done e') ∧ e'.stack.values = [.int 3, .text ['q']] ∧
      Halts (e.withBank bank) (.done (e'.withBank bank)) := by
  let q : Register := ⟨'q', rfl⟩
  let bank : Bank := Bank.empty.set ⟨'d', rfl⟩ (.text "1 2+".toList)
  let e : Engine Script := (boot bank 'z' {}).load "(q)d@".toList
  have unread (e₁ : Engine Script) (h : Reaches e e₁) : e₁.dispatched? ≠ some 'q' := by
    simpa using holdsAlong_reaches (fun e => e.dispatched? ≠ some 'q') 9 (by decide +kernel) h
  have agree (e₁ : Engine Script) (r : Register) (reaches : Reaches e e₁)
      (dispatched : e₁.dispatched? = some r.letter) : bank.set q (.int 7) r = e.bank r := by
    have other : r ≠ q := by
      rintro rfl
      exact unread e₁ reaches dispatched
    exact Bank.get_set_other other _
  let e' : Engine Script := { boot bank 'z' {} with stack := .ofList [.int 3, .text ['q']] }
  have halts : Halts e (.done e') := ⟨9, rfl⟩
  have differs : bank.set q (.int 7) q ≠ e.bank q := by
    rw [Bank.get_set_self]
    decide
  have same := (registers_read_only.2.2 Script e (bank.set q (.int 7)) agree).2
  exact ⟨e, e', bank.set q (.int 7), rfl, differs, agree, halts, rfl, (same _).2 ⟨_, halts, rfl⟩⟩

end Engine

end TapeCalc
