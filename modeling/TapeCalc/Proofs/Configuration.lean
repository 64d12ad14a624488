import Std.Data.TreeMap.Lemmas
import TapeCalc.Config.Toml
import TapeCalc.Proofs.Instruction

/-!
Engines from configurations. A name is good if it is a single letter, and a configuration builds
an engine exactly if all its names are good. Names are looked at in two places: where an engine is
built, the overridden registers come first and the boot register last; where a text is read, the
boot register comes first. So both reject the same configurations, but with two bad names they may
report different ones.
-/

namespace TapeCalc

/-- The text is one ASCII letter. -/
def Text.IsLetter (name : Text) : Prop :=
  ∃ c, name = [c] ∧ ('A' ≤ c ∧ c ≤ 'Z' ∨ 'a' ≤ c ∧ c ≤ 'z')

namespace Register

theorem named_letter (r : Register) : Register.named [r.letter] = .ok r := by
  rw [Register.named, ofText?, r.ofChar?_letter]

theorem exists_letter {name : Text} (h : name.IsLetter) : ∃ r : Register, name = [r.letter] := by
  obtain ⟨c, rfl, range⟩ := h
  exact ⟨⟨c, isAlpha_iff.2 range⟩, rfl⟩

theorem named_of_not_isLetter {name : Text} (h : ¬ name.IsLetter) :
    Register.named name = .error (.notRegister name) := by
  have unnamed : ofText? name = none := by
    unfold ofText?
    split
    · rename_i c
      exact dif_neg fun alpha => h ⟨c, rfl, isAlpha_iff.1 alpha⟩
    · rfl
  rw [Register.named, unnamed]

end Register

namespace Bank

/-- The fifty-two letters in their order. -/
def alphabet : Text :=
  "ABCDEFGHIJKLMNOPQRSTUVWXYZabcdefghijklmnopqrstuvwxyz".toList

theorem map_letter_all : Register.all.map Register.letter = alphabet := by
  decide

theorem entries_eq (bank : Bank) :
    (bank.entries.map fun entry => (entry.1.letter, entry.2)) =
      alphabet.map fun c => (c, bank.read c) := by
  rw [← map_letter_all, entries_eq_map, List.map_map, List.map_map]
  rfl

/-- Every register holds a text, and no number. -/
def HoldsTexts (bank : Bank) : Prop :=
  ∀ r, ∃ program, bank r = .text program

theorem HoldsTexts.set {bank : Bank} (h : bank.HoldsTexts) (r : Register) (program : Text) :
    (bank.set r (.text program)).HoldsTexts := by
  intro r'
  by_cases same : r' = r
  · exact ⟨program, same ▸ get_set_self bank r _⟩
  · obtain ⟨other, text⟩ := h r'
    exact ⟨other, (get_set_other same _).trans text⟩

theorem holdsTexts_preset : Preset.bank.HoldsTexts := by
  have empty : Bank.empty.HoldsTexts := fun r => ⟨[], get_empty r⟩
  exact ((empty.set _ _).set _ _).set _ _

end Bank

namespace Config

/-- Look at names one after the other. -/
def checkNames (names : List Text) : Except ConfigError Unit :=
  names.forM fun name => discard (Register.named name)

theorem checkNames_cons_letter (r : Register) (names : List Text) :
    checkNames ([r.letter] :: names) = checkNames names := by
  rw [checkNames, List.forM_eq_forM, List.forM_cons, r.named_letter]
  rfl

theorem checkNames_cons_other {name : Text} (bad : ¬ name.IsLetter) (names : List Text) :
    checkNames (name :: names) = .error (.notRegister name) := by
  rw [checkNames, List.forM_eq_forM, List.forM_cons, Register.named_of_not_isLetter bad]
  rfl

theorem checkNames_append {names : List Text} (good : ∀ name ∈ names, Text.IsLetter name)
    (others : List Text) : checkNames (names ++ others) = checkNames others := by
  induction names with
  | nil => rfl
  | cons name names ih =>
      obtain ⟨r, rfl⟩ := Register.exists_letter (good name List.mem_cons_self)
      rw [List.cons_append, checkNames_cons_letter]
      exact ih fun other member => good other (List.mem_cons_of_mem _ member)

/-- A name that is a letter passes both checks, of the name and of the slot. -/
theorem override_letter (bank : Bank) (r : Register) (program : Text) :
    override bank ([r.letter], program) = .ok (bank.set r (.text program)) := by
  simp only [override, r.named_letter, bank.store?_letter]
  rfl

/-- Putting texts into a bank fails where a look at their names does. -/
theorem map_foldlM_override (entries : List (Text × Text)) (bank : Bank) :
    (entries.foldlM override bank).map (fun _ => ()) = checkNames (entries.map Prod.fst) := by
  induction entries generalizing bank with
  | nil => rfl
  | cons entry entries ih =>
      obtain ⟨name, program⟩ := entry
      rw [List.foldlM_cons, List.map_cons]
      by_cases good : name.IsLetter
      · obtain ⟨r, rfl⟩ := Register.exists_letter good
        rw [override_letter, checkNames_cons_letter]
        exact ih (bank.set r (.text program))
      · rw [override, Register.named_of_not_isLetter good, checkNames_cons_other good]
        rfl

/-- The first bad name of an overridden register, in the order of names. -/
structure FirstBad (config : Config) (name : Text) : Prop where
  mem : name ∈ config.overrides
  bad : ¬ name.IsLetter
  first : ∀ other ∈ config.overrides, compare other name = .lt → Text.IsLetter other

theorem FirstBad.unique {config : Config} {name other : Text} (h : config.FirstBad name)
    (h' : config.FirstBad other) : name = other := by
  cases order : compare name other with
  | lt => exact absurd (h'.first name h.mem order) h.bad
  | eq => exact Std.LawfulEqOrd.eq_of_compare order
  | gt => exact absurd (h.first other h'.mem (Std.OrientedCmp.lt_of_gt order)) h'.bad

/-- Names stand in ascending order, so what comes before another is what is smaller. -/
theorem firstBad_of_keys {config : Config} {before after : List Text} {name : Text}
    (split : config.overrides.keys = before ++ name :: after) (bad : ¬ name.IsLetter)
    (earlier : ∀ other ∈ before, Text.IsLetter other) : config.FirstBad name := by
  refine ⟨?_, bad, ?_⟩
  · rw [← Std.TreeMap.mem_keys, split]
    exact List.mem_append_right _ List.mem_cons_self
  · intro other member smaller
    have ordered := Std.TreeMap.ordered_keys (t := config.overrides)
    rw [split, List.pairwise_append, List.pairwise_cons] at ordered
    rw [← Std.TreeMap.mem_keys, split, List.mem_append, List.mem_cons] at member
    obtain inFront | rfl | behind := member
    · exact earlier other inFront
    · rw [Std.compare_self] at smaller
      cases smaller
    · have larger := Std.OrientedCmp.gt_of_lt (ordered.2.1.1 other behind)
      rw [smaller] at larger
      cases larger

/-- A look at all overridden names finds the first bad one, if there is any. -/
theorem checkNames_keys (config : Config) :
    ((∀ name ∈ config.overrides, Text.IsLetter name) ∧
      checkNames config.overrides.keys = .ok ()) ∨
    ∃ name, config.FirstBad name ∧
      checkNames config.overrides.keys = .error (.notRegister name) := by
  classical
  cases found : config.overrides.keys.find? fun name => ¬ Text.IsLetter name with
  | none =>
      have good : ∀ name ∈ config.overrides.keys, Text.IsLetter name := by
        simpa using List.find?_eq_none.1 found
      have checked := checkNames_append good []
      rw [List.append_nil] at checked
      exact .inl ⟨fun name member => good name (Std.TreeMap.mem_keys.2 member), checked⟩
  | some name =>
      obtain ⟨bad, before, after, split, earlier⟩ := List.find?_eq_some_iff_append.1 found
      simp only [decide_not, Bool.not_not, Bool.not_eq_true', decide_eq_false_iff_not,
        decide_eq_true_eq] at bad earlier
      refine .inr ⟨name, firstBad_of_keys split bad earlier, ?_⟩
      rw [split, checkNames_append earlier, checkNames_cons_other bad]

section Override

variable {entries : List (Text × Text)}

/-- Texts under different names all get into the bank, and nothing else changes. -/
theorem exists_foldlM_override (good : ∀ entry ∈ entries, Text.IsLetter entry.1)
    (distinct : entries.Pairwise fun entry other => entry.1 ≠ other.1) (bank : Bank) :
    ∃ bank', entries.foldlM override bank = .ok bank' ∧ ∀ r : Register,
      (∀ program, ([r.letter], program) ∈ entries → bank' r = .text program) ∧
      ((∀ program, ([r.letter], program) ∉ entries) → bank' r = bank r) := by
  induction entries generalizing bank with
  | nil => exact ⟨bank, rfl, fun r => ⟨fun _ => nofun, fun _ => rfl⟩⟩
  | cons entry entries ih =>
      obtain ⟨name, text⟩ := entry
      obtain ⟨r₀, rfl⟩ := Register.exists_letter (good _ List.mem_cons_self)
      have others := List.pairwise_cons.1 distinct
      have good' := fun other member => good other (List.mem_cons_of_mem _ member)
      obtain ⟨bank', folded, reads⟩ := ih good' others.2 (bank.set r₀ (.text text))
      refine ⟨bank', ?_, fun r => ⟨?_, ?_⟩⟩
      · rw [List.foldlM_cons, override_letter]
        exact folded
      · intro program member
        obtain head | tail := List.mem_cons.1 member
        · obtain ⟨name, rfl⟩ := Prod.mk.inj head
          obtain rfl := Register.eq_of_letter_eq (List.singleton_inj.1 name)
          -- The name at the head does not come again, so the other entries leave its text there.
          have once : ∀ program, ([r.letter], program) ∉ entries :=
            fun program again => others.1 _ again rfl
          rw [(reads r).2 once, Bank.get_set_self]
        · exact (reads r).1 program tail
      · intro absent
        have other : r ≠ r₀ := by
          rintro rfl
          exact absent text List.mem_cons_self
        rw [(reads r).2 fun program member => absent program (List.mem_cons_of_mem _ member),
          Bank.get_set_other other]

end Override

section Bank

variable {config : Config}

theorem map_bank (config : Config) :
    config.bank.map (fun _ => ()) = checkNames config.overrides.keys := by
  rw [Config.bank, map_foldlM_override, Std.TreeMap.map_fst_toList_eq_keys]

theorem bank_eq_error {err : ConfigError}
    (h : checkNames config.overrides.keys = .error err) : config.bank = .error err := by
  rw [← map_bank] at h
  cases bank : config.bank with
  | error err' =>
      rw [bank] at h
      cases h
      rfl
  | ok _ =>
      rw [bank] at h
      cases h

theorem exists_bank (good : ∀ name ∈ config.overrides, Text.IsLetter name) :
    ∃ bank, config.bank = .ok bank ∧ ∀ r : Register,
      bank r = (config.overrides[[r.letter]]?).elim (Preset.bank r) .text := by
  have good' : ∀ entry ∈ config.overrides.toList, Text.IsLetter entry.1 := by
    intro entry member
    have key := List.mem_map_of_mem (f := Prod.fst) member
    rw [Std.TreeMap.map_fst_toList_eq_keys, Std.TreeMap.mem_keys] at key
    exact good entry.1 key
  have distinct : config.overrides.toList.Pairwise fun entry other => entry.1 ≠ other.1 :=
    Std.TreeMap.distinct_keys_toList.imp fun differ same => differ (by rw [same, Std.compare_self])
  obtain ⟨bank, built, reads⟩ := exists_foldlM_override good' distinct Preset.bank
  refine ⟨bank, built, fun r => ?_⟩
  simp only [Std.TreeMap.mem_toList_iff_getElem?_eq_some] at reads
  cases present : config.overrides[[r.letter]]? with
  | none => exact (reads r).2 fun program found => by cases present.symm.trans found
  | some program => exact (reads r).1 program present

end Bank

/-- The engine that a configuration stands for. -/
structure Describes {κ : Type} (config : Config) (console : κ) (e : Engine κ) : Prop where
  stack_eq : e.stack = .empty
  mode_eq : e.mode = .execution
  console_eq : e.console = console
  /-- A register holds its override, or else what is preset. -/
  read_eq : ∀ c, Text.IsLetter [c] →
    e.bank.read c = (config.overrides[[c]]?).elim (Preset.bank.read c) .text
  /-- The registers are listed with their values, each once and in order. -/
  entries_eq : (e.bank.entries.map fun entry => (entry.1.letter, entry.2)) =
    Bank.alphabet.map fun c => (c, e.bank.read c)
  /-- The tape is the text of the boot register. -/
  tape_eq : ∃ c program, config.boot = [c] ∧ e.bank.read c = .text program ∧
    e.tape = .ofText program

section Engine

variable {κ : Type} {config : Config} (console : κ)

theorem exists_text {bank : Bank} {r : Register}
    (h : bank r = (config.overrides[[r.letter]]?).elim (Preset.bank r) .text) :
    ∃ program, bank r = .text program := by
  rw [h]
  cases config.overrides[[r.letter]]? with
  | none => exact Bank.holdsTexts_preset r
  | some program => exact ⟨program, rfl⟩

theorem exists_describes (good : ∀ name ∈ config.overrides, Text.IsLetter name)
    (boot : config.boot.IsLetter) :
    ∃ e, Engine.ofConfig config console = .ok e ∧ config.Describes console e := by
  obtain ⟨bank, built, reads⟩ := exists_bank good
  obtain ⟨r, named⟩ := Register.exists_letter boot
  obtain ⟨program, text⟩ := exists_text (reads r)
  refine ⟨Engine.boot bank r.letter console, ?_, rfl, rfl, rfl, ?_, ?_, ?_⟩
  · rw [Engine.ofConfig, built, bootRegister, named, r.named_letter]
    rfl
  · intro c letter
    obtain ⟨r', same⟩ := Register.exists_letter letter
    rw [List.singleton_inj.1 same]
    exact reads r'
  · exact Bank.entries_eq bank
  · refine ⟨r.letter, program, named, ?_, ?_⟩
    · exact text
    · have read : bank.read r.letter = .text program := text
      simp only [Engine.boot, read]

/-- The three ways that a configuration can go. -/
theorem ofConfig_cases (config : Config) :
    (∃ name, config.FirstBad name ∧
      Engine.ofConfig config console = .error (.notRegister name)) ∨
    ((∀ name ∈ config.overrides, Text.IsLetter name) ∧ ¬ config.boot.IsLetter ∧
      Engine.ofConfig config console = .error (.notRegister config.boot)) ∨
    ((∀ name ∈ config.overrides, Text.IsLetter name) ∧ config.boot.IsLetter ∧
      ∃ e, Engine.ofConfig config console = .ok e ∧ config.Describes console e) := by
  obtain ⟨good, _⟩ | ⟨name, first, checked⟩ := config.checkNames_keys
  · by_cases boot : config.boot.IsLetter
    · exact .inr (.inr ⟨good, boot, exists_describes console good boot⟩)
    · obtain ⟨bank, built, _⟩ := exists_bank good
      refine .inr (.inl ⟨good, boot, ?_⟩)
      rw [Engine.ofConfig, built, bootRegister, Register.named_of_not_isLetter boot]
      rfl
  · refine .inl ⟨name, first, ?_⟩
    rw [Engine.ofConfig, bank_eq_error checked]
    rfl

variable {console}

theorem ofConfig_eq_error {err : ConfigError}
    (failed : Engine.ofConfig config console = .error err) :
    (∃ name, config.FirstBad name ∧ err = .notRegister name) ∨
      ((∀ name ∈ config.overrides, Text.IsLetter name) ∧ ¬ config.boot.IsLetter ∧
        err = .notRegister config.boot) := by
  obtain ⟨name, first, h⟩ | ⟨good, boot, h⟩ | ⟨_, _, e, h, _⟩ := ofConfig_cases console config
  · exact .inl ⟨name, first, Except.error.inj (failed.symm.trans h)⟩
  · exact .inr ⟨good, boot, Except.error.inj (failed.symm.trans h)⟩
  · cases failed.symm.trans h

theorem ofConfig_eq_ok {e : Engine κ} (built : Engine.ofConfig config console = .ok e) :
    ((∀ name ∈ config.overrides, Text.IsLetter name) ∧ config.boot.IsLetter) ∧
      config.Describes console e := by
  obtain ⟨name, _, h⟩ | ⟨_, _, h⟩ | ⟨good, boot, e', h, described⟩ := ofConfig_cases console config
  · cases built.symm.trans h
  · cases built.symm.trans h
  · cases built.symm.trans h
    exact ⟨⟨good, boot⟩, described⟩

variable (config console) in
theorem exists_ofConfig_iff : (∃ e, Engine.ofConfig config console = .ok e) ↔
    (∀ name ∈ config.overrides, Text.IsLetter name) ∧ config.boot.IsLetter := by
  constructor
  · intro ⟨e, built⟩
    exact (ofConfig_eq_ok built).1
  · intro ⟨good, boot⟩
    obtain ⟨e, built, _⟩ := exists_describes console good boot
    exact ⟨e, built⟩

end Engine

/-- The configuration that `read?` finds in a text, with every name in it checked. -/
def ofReader (read? : Text → Option Config) (s : Text) : Except ConfigError Config :=
  match read? s with
  | none => .error .malformed
  | some config => config.check.map fun _ => config

theorem ofToml_eq_ofReader (s : Text) :
    ofToml s = ofReader (fun s => (Toml.draft? s).map Toml.Draft.config) s := by
  cases draft : Toml.draft? s <;> simp [ofToml, ofReader, draft]

theorem check_of_boot {config : Config} (boot : config.boot.IsLetter) :
    config.check = checkNames config.overrides.keys := by
  obtain ⟨r, named⟩ := Register.exists_letter boot
  rw [check, bootRegister, named, r.named_letter]
  rfl

theorem check_of_bad_boot {config : Config} (boot : ¬ config.boot.IsLetter) :
    config.check = .error (.notRegister config.boot) := by
  rw [check, bootRegister, Register.named_of_not_isLetter boot]
  rfl

theorem isLetter_of_check {config : Config} (h : config.check = .ok ()) :
    (∀ name ∈ config.overrides, Text.IsLetter name) ∧ config.boot.IsLetter := by
  by_cases boot : config.boot.IsLetter
  · obtain ⟨good, _⟩ | ⟨name, _, rejected⟩ := config.checkNames_keys
    · exact ⟨good, boot⟩
    · rw [check_of_boot boot, rejected] at h
      cases h
  · rw [check_of_bad_boot boot] at h
    cases h

theorem ofReader_eq_ok {read? : Text → Option Config} {s : Text} {config : Config}
    (h : ofReader read? s = .ok config) : config.check = .ok () := by
  rw [ofReader] at h
  split at h
  · cases h
  · rename_i config' _
    cases checked : config'.check with
    | error err =>
        rw [checked] at h
        cases h
    | ok _ =>
        rw [checked] at h
        cases h
        exact checked

theorem ofReader_of_error {read? : Text → Option Config} {s : Text} {config : Config}
    (found : read? s = some config) {err : ConfigError} (h : config.check = .error err) :
    ofReader read? s = .error err := by
  simp [ofReader, found, h, Except.map]

theorem check_of_firstBad {config : Config} (boot : config.boot.IsLetter) {name : Text}
    (first : config.FirstBad name) : config.check = .error (.notRegister name) := by
  obtain ⟨good, _⟩ | ⟨name', first', rejected⟩ := config.checkNames_keys
  · exact absurd (good name first.mem) first.bad
  · rw [check_of_boot boot, rejected, first'.unique first]

/-- A configuration builds an engine exactly if every name in it is a single letter, and then it is
the engine that the configuration stands for. Else the first bad name of an override is reported,
and the name of the boot register if there is none. However a configuration is read from a text,
one that is accepted builds an engine, and there a bad boot register is reported first. -/
theorem configuration_builds {κ : Type} (config : Config) (console : κ) :
    ((∃ e, Engine.ofConfig config console = .ok e) ↔
      (∀ name ∈ config.overrides, Text.IsLetter name) ∧ config.boot.IsLetter) ∧
    (∀ err, Engine.ofConfig config console = .error err →
      (∃ name, config.FirstBad name ∧ err = .notRegister name) ∨
      ((∀ name ∈ config.overrides, Text.IsLetter name) ∧ ¬ config.boot.IsLetter ∧
        err = .notRegister config.boot)) ∧
    (∀ e, Engine.ofConfig config console = .ok e → config.Describes console e) ∧
    (∀ s, ofToml s = ofReader (fun s => (Toml.draft? s).map Toml.Draft.config) s) ∧
    ∀ (read? : Text → Option Config) (s : Text),
      (ofReader read? s = .ok config → ∃ e, Engine.ofConfig config console = .ok e) ∧
      (read? s = some config →
        (¬ config.boot.IsLetter → ofReader read? s = .error (.notRegister config.boot)) ∧
        (config.boot.IsLetter → ∀ name, config.FirstBad name →
          ofReader read? s = .error (.notRegister name))) := by
  refine ⟨exists_ofConfig_iff config console, fun err => ofConfig_eq_error,
    fun e built => (ofConfig_eq_ok built).2, ofToml_eq_ofReader, ?_⟩
  intro read? s
  constructor
  · intro accepted
    exact (exists_ofConfig_iff config console).2 (isLetter_of_check (ofReader_eq_ok accepted))
  · intro found
    exact ⟨fun boot => ofReader_of_error found (check_of_bad_boot boot),
      fun boot name first => ofReader_of_error found (check_of_firstBad boot first)⟩

theorem mem_overrides_withRegister (name other program : Text) :
    other ∈ (withRegister {} name program).overrides ↔ other = name := by
  rw [withRegister, Std.TreeMap.mem_insert, Std.compare_eq_iff_eq, eq_comm]
  simp

/-- With two bad names, building reports the override and reading the boot register. -/
theorem configuration_builds_two_bad_names : ∃ good bad : Config,
    good = (withRegister {} ['Z'] "(zed)".toList).withBoot ['Z'] ∧
    bad = (withRegister {} "ab".toList "1".toList).withBoot ['7'] ∧
    (∃ e : Engine Script, Engine.ofConfig good {} = .ok e ∧ e.mode = .execution ∧
      e.bank.read 'Z' = .text "(zed)".toList ∧ e.bank.read 'c' = .text Preset.conditional ∧
      e.tape = .ofText "(zed)".toList) ∧
    Engine.ofConfig bad ({} : Script) = .error (.notRegister "ab".toList) ∧
    ofReader (fun _ => some bad) [] = .error (.notRegister ['7']) := by
  let good := (withRegister {} ['Z'] "(zed)".toList).withBoot ['Z']
  let bad := (withRegister {} "ab".toList "1".toList).withBoot ['7']
  have letter : Text.IsLetter ['Z'] := ⟨'Z', rfl, by decide⟩
  have digit : ¬ Text.IsLetter ['7'] := by
    rintro ⟨c, same, range⟩
    cases same
    exact absurd range (by decide)
  have pair : ¬ Text.IsLetter "ab".toList := by
    rintro ⟨c, same, _⟩
    cases same
  obtain ⟨builds, _, describes, _⟩ := configuration_builds good ({} : Script)
  obtain ⟨accepts, fails, _, _, reads⟩ := configuration_builds bad ({} : Script)
  refine ⟨good, bad, rfl, rfl, ?_, ?_, ?_⟩
  · obtain ⟨e, built⟩ := builds.2 ⟨fun name member =>
      (mem_overrides_withRegister _ _ _).1 member ▸ letter, letter⟩
    have described := describes e built
    have read : e.bank.read 'Z' = .text "(zed)".toList := described.read_eq 'Z' letter
    obtain ⟨c, program, boot, text, tape⟩ := described.tape_eq
    cases boot
    cases read.symm.trans text
    exact ⟨e, built, described.mode_eq, read, described.read_eq 'c' ⟨'c', rfl, by decide⟩, tape⟩
  · cases result : Engine.ofConfig bad ({} : Script) with
    | ok e => exact absurd (accepts.1 ⟨e, result⟩).2 digit
    | error err =>
        obtain ⟨name, first, rfl⟩ | ⟨letters, _⟩ := fails err result
        · rw [(mem_overrides_withRegister _ _ _).1 first.mem]
        · exact absurd (letters _ ((mem_overrides_withRegister _ _ _).2 rfl)) pair
  · exact ((reads (fun _ => some bad) []).2 rfl).1 digit

end Config

end TapeCalc
