import TapeCalc.Proofs.LineText

/-!
The preset that takes a line apart. It goes through the text one character at a time and keeps six
values: what is left of the text, four counts and the characters so far in reverse. At every entry
of its loop these are the figures of the characters already taken off, so that at the end they are
the figures of the whole line. A character that the language cannot attach to a text empties the
reversed text, which therefore holds what comes after the last such character.
-/

namespace TapeCalc

namespace Value

theorem logic_and_flag (a b : Bool) : logic .and (flag a) (flag b) = flag (a && b) := by
  cases a <;> cases b <;> rfl

theorem logic_or_flag (a b : Bool) : logic .or (flag a) (flag b) = flag (a || b) := by
  cases a <;> cases b <;> rfl

theorem falsyFlag_flag (a : Bool) : falsyFlag (flag a) = flag (!a) := by
  cases a <;> rfl

/-- Codes are compared as the natural numbers that they are. -/
theorem order_code (c : Char) {n : Nat} (small : n < 2 ^ 63) :
    order (code c) (.int (Int64.ofNat n)) = some (compare c.toNat n) := by
  have fits : c.toNat < 2 ^ 32 := c.val.toNat_lt
  exact order_ofNat (by omega) small

theorem add_flag_count (p : Char → Bool) (c : Char) (t : Text) :
    add (flag (p c)) (.int (Int64.ofNat (t.countP p))) =
      .int (Int64.ofNat ((t ++ [c]).countP p)) := by
  rw [List.countP_append, List.countP_singleton, Nat.add_comm, Int64.ofNat_add]
  cases p c <;> rfl

end Value

namespace Preset

def isLetter (c : Char) : Bool :=
  (65 ≤ c.toNat && c.toNat ≤ 90) || (97 ≤ c.toNat && c.toNat ≤ 122)

def isDigit (c : Char) : Bool :=
  48 ≤ c.toNat && c.toNat ≤ 57

def isSpace (c : Char) : Bool :=
  c.toNat = 9 || c.toNat = 32

def isSpecial (c : Char) : Bool :=
  !(isLetter c || isDigit c || isSpace c)

/-- The language can put the character in front of a text. -/
def isAttachable (c : Char) : Bool :=
  c.toNat ≤ 128

def classifyProgram : Program :=
  [⟨some 1, .op .copy⟩, ⟨some 0, .op .modulo⟩,
    -- letters
    ⟨some 1, .op .copy⟩, ⟨some 64, .op .greater⟩, ⟨some 2, .op .copy⟩, ⟨some 91, .op .less⟩,
    ⟨none, .op .and⟩, ⟨some 2, .op .copy⟩, ⟨some 96, .op .greater⟩, ⟨some 3, .op .copy⟩,
    ⟨some 123, .op .less⟩, ⟨none, .op .and⟩, ⟨none, .op .or⟩,
    -- digits
    ⟨some 2, .op .copy⟩, ⟨some 47, .op .greater⟩, ⟨some 3, .op .copy⟩, ⟨some 58, .op .less⟩,
    ⟨none, .op .and⟩,
    -- white space
    ⟨some 3, .op .copy⟩, ⟨some 32, .op .equal⟩, ⟨some 4, .op .copy⟩, ⟨some 9, .op .equal⟩,
    ⟨none, .op .or⟩,
    -- none of these
    ⟨some 1, .op .copy⟩, ⟨some 3, .op .copy⟩, ⟨some 5, .op .copy⟩, ⟨none, .op .or⟩,
    ⟨none, .op .or⟩, ⟨none, .op .isFalsy⟩]

theorem text_classifyProgram : classifyProgram.text = analysisClassify := rfl

/-- The flags as the program computes them from the first character. -/
theorem eval?_classifyProgram_flags (bank : Bank) (c : Char) (t : Text) (vs : List Value) :
    classifyProgram.eval? bank (.text (c :: t) :: vs) =
      let compared (op : Op) (n : Nat) : Value :=
        .flag (Value.comparison op (Value.code c) (.int (Int64.ofNat n)))
      let letter := Value.logic .or
        (Value.logic .and (compared .greater 64) (compared .less 91))
        (Value.logic .and (compared .greater 96) (compared .less 123))
      let digit := Value.logic .and (compared .greater 47) (compared .less 58)
      let space := Value.logic .or (compared .equal 32) (compared .equal 9)
      some (Value.falsyFlag (Value.logic .or space (Value.logic .or digit letter)) ::
        space :: digit :: letter :: Value.code c :: .text (c :: t) :: vs, []) := rfl

theorem eval?_classifyProgram (bank : Bank) (c : Char) (t : Text) (vs : List Value) :
    classifyProgram.eval? bank (.text (c :: t) :: vs) =
      some (.flag (isSpecial c) :: .flag (isSpace c) :: .flag (isDigit c) :: .flag (isLetter c) ::
        Value.code c :: .text (c :: t) :: vs, []) := by
  have letter : (decide (64 < c.toNat) && decide (c.toNat < 91) ||
      decide (96 < c.toNat) && decide (c.toNat < 123)) = isLetter c := by
    grind [isLetter]
  have digit : (decide (47 < c.toNat) && decide (c.toNat < 58)) = isDigit c := by
    grind [isDigit]
  have space : (decide (c.toNat = 32) || decide (c.toNat = 9)) = isSpace c := by
    grind [isSpace]
  have special : (!(isSpace c || (isDigit c || isLetter c))) = isSpecial c := by
    grind [isSpecial]
  rw [eval?_classifyProgram_flags]
  simp (disch := decide) only [Value.comparison, Value.order_code, Option.some.injEq,
    Nat.compare_eq_lt, Nat.compare_eq_gt, Nat.compare_eq_eq, Value.logic_and_flag,
    Value.logic_or_flag, Value.falsyFlag_flag, letter, digit, space, special]

/-- The characters after the last one that cannot be attached, in reverse. -/
def attached (t : Text) : Text :=
  t.reverse.takeWhile isAttachable

theorem attached_append (u : Text) {v : Text} (h : ∀ c ∈ v, c.toNat ≤ 128) :
    attached (u ++ v) = v.reverse ++ attached u := by
  rw [attached, List.reverse_append, List.takeWhile_append_of_pos]
  · rfl
  · simpa [isAttachable] using h

theorem attached_concat (t : Text) (c : Char) :
    attached (t ++ [c]) = if c.toNat ≤ 128 then c :: attached t else [] := by
  by_cases attachable : c.toNat ≤ 128 <;> simp [attached, isAttachable, attachable]

theorem count_classes (t : Text) :
    t.countP isLetter + t.countP isDigit + t.countP isSpace + t.countP isSpecial = t.length := by
  induction t with
  | nil => rfl
  | cons c t ih =>
      simp only [List.countP_cons, List.length_cons]
      have one : (if isLetter c = true then 1 else 0) + (if isDigit c = true then 1 else 0) +
          (if isSpace c = true then 1 else 0) + (if isSpecial c = true then 1 else 0) = 1 := by
        grind [isLetter, isDigit, isSpace, isSpecial]
      omega

end Preset

structure Figures where
  reversed : Text
  letters : Int64
  digits : Int64
  spaces : Int64
  specials : Int64

namespace Figures

open Preset

def ofText (t : Text) : Figures where
  reversed := attached t
  letters := Int64.ofNat (t.countP isLetter)
  digits := Int64.ofNat (t.countP isDigit)
  spaces := Int64.ofNat (t.countP isSpace)
  specials := Int64.ofNat (t.countP isSpecial)

/-- The figures as they lie on the stack, the topmost first. -/
def values (f : Figures) : List Value :=
  [.int f.specials, .int f.spaces, .int f.digits, .int f.letters, .text f.reversed]

def item (label : String) (figure : Text) : Text :=
  label.toList ++ figure ++ ['\n']

def lines (reversed letters digits spaces specials : Text) : Text :=
  item "Reversed: " reversed ++ item "Letters: " letters ++ item "Digits: " digits ++
    item "Whitespace: " spaces ++ item "Special: " specials

/-- What the write operator makes of the figures. -/
def printed (f : Figures) : Text :=
  lines f.reversed (Value.toText (.int f.letters)) (Value.toText (.int f.digits))
    (Value.toText (.int f.spaces)) (Value.toText (.int f.specials))

/-- The report on a text, with its counts in decimal digits. -/
def report (t : Text) : Text :=
  lines (attached t) (Text.ofNat (t.countP isLetter)) (Text.ofNat (t.countP isDigit))
    (Text.ofNat (t.countP isSpace)) (Text.ofNat (t.countP isSpecial))

theorem printed_ofText {t : Text} (small : t.length < 2 ^ 63) : (ofText t).printed = report t := by
  have count (p : Char → Bool) :
      Value.toText (.int (Int64.ofNat (t.countP p))) = Text.ofNat (t.countP p) :=
    Value.toText_ofNat (Nat.lt_of_le_of_lt List.countP_le_length small)
  simp only [printed, report, ofText, count]

/-- The four counts are right, and the reversed text is that of the longest end of `t` whose
characters can all be attached. -/
structure Describes (f : Figures) (t : Text) : Prop where
  letters : f.letters.toInt = t.countP isLetter
  digits : f.digits.toInt = t.countP isDigit
  spaces : f.spaces.toInt = t.countP isSpace
  specials : f.specials.toInt = t.countP isSpecial
  total : f.letters.toInt + f.digits.toInt + f.spaces.toInt + f.specials.toInt = t.length
  suffix : f.reversed.reverse <:+ t
  attachable : ∀ c ∈ f.reversed, c.toNat ≤ 128
  longest : ∀ v, v <:+ t → (∀ c ∈ v, c.toNat ≤ 128) → v.length ≤ f.reversed.length
  whole : (∀ c ∈ t, c.toNat ≤ 128) → f.reversed = t.reverse

theorem describes_ofText {t : Text} (small : t.length < 2 ^ 63) : (ofText t).Describes t := by
  have count (p : Char → Bool) : (Int64.ofNat (t.countP p)).toInt = t.countP p :=
    Int64.toInt_ofNat_of_lt (Nat.lt_of_le_of_lt List.countP_le_length small)
  refine ⟨count _, count _, count _, count _, ?_, ?_, ?_, ?_, ?_⟩
  · have total := count_classes t
    simp only [ofText, count]
    omega
  · rw [← List.reverse_prefix, List.reverse_reverse]
    exact List.takeWhile_prefix _
  · intro c hc
    have attachable := List.all_eq_true.1 List.all_takeWhile c hc
    simpa [isAttachable] using attachable
  · rintro v ⟨u, rfl⟩ attachable
    simp [ofText, attached_append u attachable]
  · intro attachable
    simpa [ofText, attached] using attached_append [] attachable

end Figures

namespace Preset

def updateProgram : Program :=
  [⟨some 5, .op .copy⟩, ⟨some 12, .op .copy⟩, ⟨none, .op .multiply⟩] ++
    (List.replicate 4
      [⟨some 5, .op .copy⟩, ⟨some 12, .op .copy⟩, ⟨none, .op .add⟩]).flatten ++
    [⟨some 1, .blank⟩, ⟨some 12, .op .copy⟩, ⟨none, .op .subtract⟩]

def discardProgram : Program :=
  List.replicate 11 ⟨some 7, .op .delete⟩

def takeProgram : Program :=
  classifyProgram ++ updateProgram ++ discardProgram

theorem text_updateProgram : updateProgram.text = analysisUpdate := rfl

theorem text_discardProgram : discardProgram.text = analysisDiscard := rfl

theorem eval?_updateProgram (bank : Bank) (fs fw fd fl code t s w d l r : Value) :
    updateProgram.eval? bank [fs, fw, fd, fl, code, t, s, w, d, l, r] =
      some ([Value.subtract (.int 1) t, Value.add fs s, Value.add fw w, Value.add fd d,
        Value.add fl l, Value.multiply code r] ++ [fs, fw, fd, fl, code, t, s, w, d, l, r], []) :=
  rfl

theorem eval?_delete_seventh (bank : Bank) (t s w d l r : Value) (old : List Value) :
    Program.eval? bank (List.replicate old.length ⟨some 7, .op .delete⟩)
        ([t, s, w, d, l, r] ++ old) = some ([t, s, w, d, l, r], []) := by
  induction old with
  | nil => rfl
  | cons v old ih => exact (Program.eval?_cons_silent rfl).trans ih

/-- One turn of the loop: the first character leaves the text and enters the figures. -/
theorem eval?_takeProgram (bank : Bank) (taken : Text) (c : Char) (t : Text) :
    takeProgram.eval? bank (.text (c :: t) :: (Figures.ofText taken).values) =
      some (.text t :: (Figures.ofText (taken ++ [c])).values, []) := by
  have classified := eval?_classifyProgram bank c t (Figures.ofText taken).values
  rw [takeProgram, List.append_assoc, Program.eval?_append_silent classified, Figures.values,
    Program.eval?_append_silent (eval?_updateProgram bank _ _ _ _ _ _ _ _ _ _ _)]
  have rest : Value.subtract (.int 1) (.text (c :: t)) = .text t := rfl
  refine (eval?_delete_seventh bank _ _ _ _ _ _ [_, _, _, _, _, _, _, _, _, _, _]).trans ?_
  simp only [Figures.values, Figures.ofText, Value.add_flag_count, Value.multiply_code,
    attached_concat, rest]

/-- A line of the report: a label and the value at depth `n`. -/
def itemProgram (label : Text) (balanced : label.Balanced) (n : Nat) : Program :=
  sayProgram label balanced ++ [⟨some n, .op .copy⟩, ⟨none, .op .write⟩] ++ newlineProgram

def reportProgram : Program :=
  [⟨some 1, .op .delete⟩] ++ itemProgram "Reversed: ".toList (by decide) 5 ++
    itemProgram "Letters: ".toList (by decide) 4 ++ itemProgram "Digits: ".toList (by decide) 3 ++
    itemProgram "Whitespace: ".toList (by decide) 2 ++
    itemProgram "Special: ".toList (by decide) 1

theorem text_itemProgram (label : Text) (balanced : label.Balanced) (n : Nat) :
    (itemProgram label balanced n).text =
      '(' :: label ++ ")\"".toList ++ Text.ofNat n ++ "!\"".toList ++ newline := by
  rw [itemProgram, Program.text_append, text_newlineProgram]
  simp [sayProgram, Program.text, Instruction.text, Action.text, Op.symbol]

theorem text_reportProgram : reportProgram.text = analysisReport := by
  simp only [reportProgram, Program.text_append, text_itemProgram]
  rfl

theorem eval?_itemProgram (bank : Bank) (label : Text) (balanced : label.Balanced) {n : Nat}
    (positive : 1 ≤ n) (small : n < 2 ^ 63) {v : Value} {vs : List Value}
    (found : vs[n - 1]? = some v) :
    (itemProgram label balanced n).eval? bank vs = some (vs, [label, v.toText, ['\n']]) := by
  have shown : Program.eval? bank [⟨some n, .op .copy⟩, ⟨none, .op .write⟩] vs =
      some (vs, [v.toText]) := by
    simp [Program.eval?, Instruction.eval?, Action.eval?, Op.eval?,
      Stack.depthOf?_ofNat positive small, found]
  rw [itemProgram, List.append_assoc, Program.eval?_append (eval?_sayProgram bank _ _ vs),
    Program.eval?_append shown, eval?_newlineProgram]
  rfl

theorem eval?_reportProgram (bank : Bank) (f : Figures) :
    ∃ out, reportProgram.eval? bank (.text [] :: f.values) = some (f.values, out) ∧
      out.flatten = f.printed := by
  have dropped : Program.eval? bank [⟨some 1, .op .delete⟩] (.text [] :: f.values) =
      some (f.values, []) := rfl
  have reversed : f.values[5 - 1]? = some (.text f.reversed) := rfl
  have letters : f.values[4 - 1]? = some (.int f.letters) := rfl
  have digits : f.values[3 - 1]? = some (.int f.digits) := rfl
  have spaces : f.values[2 - 1]? = some (.int f.spaces) := rfl
  have specials : f.values[1 - 1]? = some (.int f.specials) := rfl
  simp only [reportProgram, List.append_assoc]
  rw [Program.eval?_append_silent dropped,
    Program.eval?_append (eval?_itemProgram bank _ _ (by decide) (by decide) reversed),
    Program.eval?_append (eval?_itemProgram bank _ _ (by decide) (by decide) letters),
    Program.eval?_append (eval?_itemProgram bank _ _ (by decide) (by decide) digits),
    Program.eval?_append (eval?_itemProgram bank _ _ (by decide) (by decide) spaces),
    eval?_itemProgram bank _ _ (by decide) (by decide) specials]
  simp only [Option.map_some]
  have plain : Value.toText (.text f.reversed) = f.reversed := rfl
  refine ⟨_, rfl, ?_⟩
  simp only [plain, Figures.printed, Figures.lines, Figures.item, List.flatten_append,
    List.flatten_cons, List.flatten_nil, List.append_nil, List.append_assoc]

def stepProgram : Program :=
  takeProgram ++ jumpProgram analysisSetup.length analysisRegister ++ [⟨none, .op .applyNow⟩]

theorem text_takeProgram :
    analysisStep = takeProgram.text ++ jump analysisSetup.length analysisRegister := by
  rw [takeProgram, Program.text_append, Program.text_append, text_classifyProgram,
    text_updateProgram, text_discardProgram]
  rfl

theorem text_stepProgram : stepProgram.text = analysisStep := by
  rw [stepProgram, Program.text_append, Program.text_append, text_takeProgram, text_jumpProgram,
    List.append_assoc]
  rfl

/-- The loop up to its choice between the report and one more turn. -/
def testProgram : Program :=
  [⟨some 1, .op .copy⟩, ⟨none, .op .isFalsy⟩,
    ⟨none, .quote reportProgram.text reportProgram.balanced_text⟩,
    ⟨none, .quote stepProgram.text stepProgram.balanced_text⟩]

theorem text_testProgram : analysisBody = testProgram.text ++ choose := by
  have body : analysisBody =
      "1!_(".toList ++ analysisReport ++ ")(".toList ++ analysisStep ++ ")".toList ++ choose := rfl
  rw [body, ← text_reportProgram, ← text_stepProgram]
  simp [testProgram, Program.text, Instruction.text, Action.text, Op.symbol]
  rfl

theorem eval?_testProgram (bank : Bank) (t : Text) (vs : List Value) :
    testProgram.eval? bank (.text t :: vs) =
      some (.text stepProgram.text :: .text reportProgram.text :: .flag t.isEmpty ::
        .text t :: vs, []) := rfl

section Loop

open Engine

variable {bank : Bank}

theorem reaches_test (helper : bank conditionalRegister = .text conditional) (t : Text)
    (vs : List Value) (base : Stack) (k : Script) :
    Reaches (ready bank ((Stack.ofList (.text t :: vs)).above base) k analysisBody)
      (ready bank ((Stack.ofList (.text t :: vs)).above base) k
        (if t.isEmpty then analysisReport else analysisStep)) := by
  have tested := reaches_program (k := k) (eval?_testProgram bank t vs) rfl base choose
  have chosen := reaches_choose helper (.flag t.isEmpty) reportProgram.text stepProgram.text
    (.text t :: vs) base k []
  rw [← text_testProgram] at tested
  rw [Value.isFalsy_flag, text_reportProgram, text_stepProgram, List.append_nil,
    List.append_nil] at chosen
  rw [text_reportProgram, text_stepProgram] at tested
  refine tested.trans ?_
  cases ht : t.isEmpty <;> simpa [ht] using chosen

theorem drop_stringAnalysis : stringAnalysis.drop analysisSetup.length = analysisBody :=
  List.drop_left

theorem reaches_turn (own : bank analysisRegister = .text stringAnalysis)
    (helper : bank conditionalRegister = .text conditional) (taken : Text) (c : Char) (t : Text)
    (base : Stack) (k : Script) :
    Reaches
      (ready bank ((Stack.ofList (.text (c :: t) :: (Figures.ofText taken).values)).above base) k
        analysisBody)
      (ready bank ((Stack.ofList (.text t :: (Figures.ofText (taken ++ [c])).values)).above base) k
        analysisBody) := by
  have tested := reaches_test helper (c :: t) (Figures.ofText taken).values base k
  rw [List.isEmpty_cons, if_neg Bool.false_ne_true, text_takeProgram] at tested
  have took := reaches_program (k := k) (eval?_takeProgram bank taken c t) rfl base
    (jump analysisSetup.length analysisRegister)
  have jumped := reaches_jump own analysisSetup.length (by decide)
    ((Stack.ofList (.text t :: (Figures.ofText (taken ++ [c])).values)).above base) k []
  rw [drop_stringAnalysis, List.append_nil, List.append_nil] at jumped
  exact tested.trans (took.trans jumped)

/-- The invariant of the loop: the figures are those of the characters already taken. -/
theorem reaches_turns (own : bank analysisRegister = .text stringAnalysis)
    (helper : bank conditionalRegister = .text conditional) (taken t : Text) (base : Stack)
    (k : Script) :
    Reaches
      (ready bank ((Stack.ofList (.text t :: (Figures.ofText taken).values)).above base) k
        analysisBody)
      (ready bank ((Stack.ofList (.text [] :: (Figures.ofText (taken ++ t)).values)).above base) k
        analysisBody) := by
  induction t generalizing taken with
  | nil =>
      rw [List.append_nil]
      exact .refl _
  | cons c t ih =>
      have rest := ih (taken ++ [c])
      rw [List.append_assoc, List.singleton_append] at rest
      exact (reaches_turn own helper taken c t base k).trans rest

theorem reaches_report (helper : bank conditionalRegister = .text conditional) (f : Figures)
    (base : Stack) {k : Script} (sound : k.Faultless) :
    Reaches (ready bank ((Stack.ofList (.text [] :: f.values)).above base) k analysisBody)
      (ready bank ((Stack.ofList f.values).above base) (k.print f.printed) []) := by
  obtain ⟨out, evaluated, printed⟩ := eval?_reportProgram bank f
  have reported := reaches_printing evaluated sound base []
  rw [text_reportProgram, List.append_nil, printed] at reported
  exact (reaches_test helper [] f.values base k).trans reported

def greeting : Text :=
  "String analysis\nEnter a line to analyze: ".toList

def greetingProgram : Program :=
  sayProgram "String analysis".toList (by decide) ++ newlineProgram ++
    sayProgram "Enter a line to analyze: ".toList (by decide)

/-- Lay out the values of the loop above the value that was read. -/
def layoutProgram : Program :=
  [⟨none, .quote [] Text.balanced_nil⟩, ⟨none, .op .add⟩, ⟨none, .quote [] Text.balanced_nil⟩,
    ⟨some 0, .blank⟩, ⟨some 0, .blank⟩, ⟨some 0, .blank⟩, ⟨some 0, .blank⟩,
    ⟨some 6, .op .copy⟩, ⟨some 7, .op .delete⟩]

theorem text_greetingProgram :
    stringAnalysis =
      greetingProgram.text ++ Op.read.symbol :: (layoutProgram.text ++ analysisBody) := by
  have setup : analysisSetup =
      greetingProgram.text ++ Op.read.symbol :: layoutProgram.text := by
    decide +kernel
  rw [stringAnalysis, setup, List.append_assoc, List.cons_append]

theorem eval?_greetingProgram (bank : Bank) (vs : List Value) :
    ∃ out, greetingProgram.eval? bank vs = some (vs, out) ∧ out.flatten = greeting :=
  ⟨_, rfl, by decide⟩

theorem eval?_layoutProgram (bank : Bank) (v : Value) :
    layoutProgram.eval? bank [v] = some (.text v.joinText :: (Figures.ofText []).values, []) := by
  rw [← Value.add_empty]
  rfl

theorem reaches_greeting (bank : Bank) (base : Stack) {k : Script} (sound : k.Faultless) :
    Reaches (ready bank base k stringAnalysis)
      (ready bank base (k.print greeting)
        (Op.read.symbol :: (layoutProgram.text ++ analysisBody))) := by
  obtain ⟨out, evaluated, printed⟩ := eval?_greetingProgram bank []
  have greeted := reaches_printing evaluated sound base
    (Op.read.symbol :: (layoutProgram.text ++ analysisBody))
  rw [← text_greetingProgram, Stack.ofList_nil_above, printed] at greeted
  exact greeted

theorem reaches_layout (bank : Bank) (base : Stack) {k : Script} (sound : k.Faultless) :
    Reaches (ready bank base k (Op.read.symbol :: (layoutProgram.text ++ analysisBody)))
      (ready bank
        ((Stack.ofList (.text k.nextValue.joinText :: (Figures.ofText []).values)).above base)
        k.dropLine analysisBody) := by
  have read := reaches_read bank base sound (layoutProgram.text ++ analysisBody)
  have laid := reaches_program (k := k.dropLine) (eval?_layoutProgram bank k.nextValue) rfl base
    analysisBody
  rw [Stack.ofList_singleton_above] at laid
  exact read.trans laid

theorem reaches_stringAnalysis (own : bank analysisRegister = .text stringAnalysis)
    (helper : bank conditionalRegister = .text conditional) (base : Stack) {k : Script}
    (sound : k.Faultless) :
    Reaches (ready bank base k stringAnalysis)
      (ready bank ((Stack.ofList (Figures.ofText k.nextValue.joinText).values).above base)
        (k.dropLine.print (greeting ++ (Figures.ofText k.nextValue.joinText).printed)) []) := by
  have sound' := sound.print greeting
  have laid := reaches_layout bank base sound'
  rw [Script.dropLine_print, Script.nextValue_print] at laid
  have turned := reaches_turns own helper [] k.nextValue.joinText base (k.dropLine.print greeting)
  have reported := reaches_report helper (Figures.ofText k.nextValue.joinText) base sound'.dropLine
  rw [Script.dropLine_print, Script.print_print] at reported
  exact (reaches_greeting bank base sound).trans (laid.trans (turned.trans reported))

end Loop

end Preset

namespace Engine

open Preset

/-- The analysis is right for every line. It ends well, it leaves the figures of the text above
what was on the stack and prints them, and it takes one line off the input, or none at its end.
The text is what the line contributes when it is joined to another text. -/
theorem executes_stringAnalysis (e : Engine Script)
    (own : e.bank analysisRegister = .text stringAnalysis)
    (helper : e.bank conditionalRegister = .text conditional) (outside : e.mode = .execution)
    (sound : e.console.Faultless) :
    ∃ t out, e.console.NextText t ∧
      Executes e stringAnalysis (.done { e with
        stack := (Stack.ofList (Figures.ofText t).values).above e.stack
        tape := .empty
        console := e.console.dropLine.print (greeting ++ out) }) ∧
      (t.length < 2 ^ 63 → (Figures.ofText t).Describes t ∧ out = Figures.report t) := by
  refine ⟨_, _, Script.nextText_iff.2 rfl, ?_, fun small =>
    ⟨Figures.describes_ofText small, Figures.printed_ofText small⟩⟩
  have reaches := reaches_stringAnalysis own helper e.stack sound
  rw [executes_iff_halts, load_eq_ready outside, reaches.halts_iff, outside]
  exact halts_of_exhausted rfl

/-- A line between blanks with a character that cannot be attached, and a line with a number. -/
theorem executes_stringAnalysis_foreign_letter :
    (∃ e e' : Engine Script, e.console.lines = [" 1é a%\t".toList] ∧
      Executes e stringAnalysis (.done e') ∧
      e'.stack.values = [.int 2, .int 1, .int 1, .int 1, .text "%a ".toList] ∧
      e'.console.lines = [] ∧
      (Figures.ofText "1é a%".toList).Describes "1é a%".toList) ∧
    ∃ e e' : Engine Script, e.console.lines = [" +042".toList, ['x']] ∧
      Executes e stringAnalysis (.done e') ∧
      e'.stack.values = [.int 0, .int 0, .int 2, .int 0, .text "24".toList] ∧
      e'.console.lines = [['x']] ∧
      e'.console.written = greeting ++
        "Reversed: 24\nLetters: 0\nDigits: 2\nWhitespace: 0\nSpecial: 0\n".toList := by
  constructor
  · let e : Engine Script := ofPreset { lines := [" 1é a%\t".toList] }
    obtain ⟨t, out, next, analysed, figures⟩ := executes_stringAnalysis e rfl rfl rfl ⟨rfl, rfl⟩
    obtain rfl : t = "1é a%".toList := Script.nextText_iff.1 next
    exact ⟨e, _, rfl, analysed, rfl, rfl, (figures (by decide)).1⟩
  · let e : Engine Script := ofPreset { lines := [" +042".toList, ['x']] }
    obtain ⟨t, out, next, analysed, figures⟩ := executes_stringAnalysis e rfl rfl rfl ⟨rfl, rfl⟩
    obtain rfl : t = "42".toList := Script.nextText_iff.1 next
    obtain ⟨_, rfl⟩ := figures (by decide)
    exact ⟨e, _, rfl, analysed, rfl, rfl, rfl⟩

end Engine

end TapeCalc
