import TapeCalc.Command.Job
import TapeCalc.Proofs.LineValue

/-!
Stacks can be told apart by what is printed of them. A quoted text is read back character by
character, in a listing as in JSON: no spelling of a character begins like that of another one or
with a quote. An integer ends where its digits do. So the texts of two stacks that hold integers
and texts agree only if the stacks do, whatever commas, brackets, quotes and backslashes the texts
hold.
-/

namespace TapeCalc

namespace Text

theorem hex_digitChar {d : Nat} (h : d < 16) :
    Toml.isHex (Nat.digitChar d) = true ∧ Toml.hexValue (Nat.digitChar d) = d := by
  revert d
  decide

theorem hex_hexDigits (n : Nat) : (∀ c ∈ hexDigits n, Toml.isHex c = true) ∧
    (hexDigits n).foldl (fun n c => 16 * n + Toml.hexValue c) 0 = n := by
  induction n using Nat.strongRecOn with
  | ind n ih =>
      rw [hexDigits, Nat.toDigits_eq_if (by decide)]
      split
      · rename_i small
        simp [hex_digitChar small]
      · rename_i large
        obtain ⟨digits, value⟩ := ih (n / 16) (by omega)
        rw [hexDigits] at digits value
        obtain ⟨digit, lowest⟩ := hex_digitChar (Nat.mod_lt n (by decide : 0 < 16))
        constructor
        · intro c inside
          obtain inside | inside := List.mem_append.1 inside
          · exact digits c inside
          · rwa [List.mem_singleton.1 inside]
        · rw [List.foldl_append, value, List.foldl_cons, List.foldl_nil, lowest]
          exact Nat.div_add_mod n 16

theorem charOfHex?_hexDigits (c : Char) : Toml.charOfHex? (hexDigits c.toNat) = some c := by
  have valid : c.toNat.isValidChar := c.valid
  obtain ⟨digits, value⟩ := hex_hexDigits c.toNat
  simp only [Toml.charOfHex?, List.all_eq_true, value]
  rw [if_pos ⟨digits, valid⟩, Char.ofNat_toNat]

/-- The character that an escape of a listed text stands for, after its backslash. What is not
particular to listings is written as it is in a basic string. -/
def listedEscape? : Text → Option (Char × Text)
  | '0' :: s => some ('\x00', s)
  | 'u' :: '\x7b' :: s =>
    (Toml.charOfHex? (s.takeWhile Toml.isHex)).map fun c => (c, (s.dropWhile Toml.isHex).drop 1)
  | s => Toml.escape? s

/-- The next character of a quoted text, and nothing at the closing quote. -/
def quoted? : Text → Option (Char × Text)
  | [] => none
  | '"' :: _ => none
  | '\\' :: s => listedEscape? s
  | c :: s => some (c, s)

/-- Every character is spelled so that it is read again, whatever follows. -/
def Spells (spell : Char → Text) : Prop :=
  ∀ c s, quoted? (spell c ++ s) = some (c, s)

theorem quoted?_plain {c : Char} (quote : c ≠ '"') (backslash : c ≠ '\\') (s : Text) :
    quoted? (c :: s) = some (c, s) := by
  unfold quoted?
  split <;> simp_all

theorem spells_escape : Spells escape := by
  intro c s
  unfold escape
  iterate 6
    split
    · rename_i same
      rw [same]
      rfl
  split
  · have closing : ∀ d ∈ ('\x7d' :: s).head?, Toml.isHex d = false := by
      rintro _ ⟨⟩
      rfl
    obtain ⟨digits, rest⟩ := span_append (hex_hexDigits c.toNat).1 closing
    simp [quoted?, listedEscape?, digits, rest, charOfHex?_hexDigits]
  · rename_i quote backslash _
    exact quoted?_plain quote backslash s

/-- The spellings of a character between the quotes of a JSON text: itself, unless it is a quote, a
backslash or a control, its short escape if it has one, and its code in four hexadecimal digits. -/
inductive JsonSpelling : Char → Text → Prop
  | plain {c : Char} (quote : c ≠ '"') (backslash : c ≠ '\\') (printable : 0x20 ≤ c.toNat) :
      JsonSpelling c [c]
  | quote : JsonSpelling '"' ['\\', '"']
  | backslash : JsonSpelling '\\' ['\\', '\\']
  | backspace : JsonSpelling '\x08' ['\\', 'b']
  | tab : JsonSpelling '\t' ['\\', 't']
  | lineFeed : JsonSpelling '\n' ['\\', 'n']
  | formFeed : JsonSpelling '\x0c' ['\\', 'f']
  | carriageReturn : JsonSpelling '\r' ['\\', 'r']
  | code {c : Char} {digits : Text} (four : digits.length = 4)
      (hex : Toml.charOfHex? digits = some c) : JsonSpelling c ('\\' :: 'u' :: digits)

theorem JsonSpelling.quoted?_append {c : Char} {u : Text} (h : JsonSpelling c u) (s : Text) :
    quoted? (u ++ s) = some (c, s) := by
  cases h with
  | plain quote backslash _ => exact quoted?_plain quote backslash s
  | quote | backslash | backspace | tab | lineFeed | formFeed | carriageReturn => rfl
  | @code _ digits four hex =>
      match digits, four with
      | [d, d₁, d₂, d₃], _ =>
          have digit : Toml.isHex d = true := by
            unfold Toml.charOfHex? at hex
            dsimp only at hex
            split at hex
            · rename_i valid
              exact List.all_eq_true.1 valid.1 d List.mem_cons_self
            · cases hex
          -- A code without braces does not begin like the code of a listed character.
          have unbraced : d ≠ '\x7b' := by
            rintro rfl
            cases digit
          simp [quoted?, listedEscape?, Toml.escape?, unbraced, hex]

theorem jsonSpelling_escapeJson (c : Char) : JsonSpelling c (escapeJson c) := by
  unfold escapeJson
  iterate 7
    split
    · rename_i same
      rw [same]
      constructor
  split
  · rename_i control
    obtain ⟨digit, value⟩ := hex_digitChar (d := c.toNat / 16) (by omega)
    obtain ⟨digit', value'⟩ := hex_digitChar (Nat.mod_lt c.toNat (by decide : 0 < 16))
    have code : 16 * (c.toNat / 16) + c.toNat % 16 = c.toNat := Nat.div_add_mod c.toNat 16
    have zero : Toml.isHex '0' = true ∧ Toml.hexValue '0' = 0 := by decide
    have valid : c.toNat.isValidChar := c.valid
    have hex : Toml.charOfHex?
        ['0', '0', Nat.digitChar (c.toNat / 16), Nat.digitChar (c.toNat % 16)] = some c := by
      simp [Toml.charOfHex?, digit, digit', value, value', zero, code, valid]
    exact .code rfl hex
  · rename_i quote backslash _ _ _ _ _ control
    exact .plain quote backslash (Nat.le_of_not_lt control)

variable {spell : Char → Text}

theorem Spells.flatMap_inj (h : Spells spell) {a b s t : Text}
    (same : a.flatMap spell ++ '"' :: s = b.flatMap spell ++ '"' :: t) : a = b ∧ s = t := by
  have closed (c : Char) (u : Text) : '"' :: s ≠ spell c ++ u ∧ '"' :: t ≠ spell c ++ u := by
    constructor <;>
    · intro same
      have read := h c u
      rw [← same] at read
      cases read
  induction a generalizing b with
  | nil =>
      cases b with
      | nil =>
          cases same
          exact ⟨rfl, rfl⟩
      | cons d b =>
          rw [List.flatMap_cons, List.append_assoc] at same
          exact absurd same (closed d _).1
  | cons c a ih =>
      rw [List.flatMap_cons, List.append_assoc] at same
      cases b with
      | nil => exact absurd same.symm (closed c _).2
      | cons d b =>
          rw [List.flatMap_cons, List.append_assoc] at same
          have read := congrArg quoted? same
          rw [h, h] at read
          obtain ⟨rfl, rest⟩ := Prod.mk.inj (Option.some.inj read)
          obtain ⟨rfl, rfl⟩ := ih rest
          exact ⟨rfl, rfl⟩

/-- The characters of integers. -/
def isNumeral (c : Char) : Bool :=
  c.isDigit || c = '+' || c = '-'

theorem isNumeral_of_mem_ofInt {n : Int} {c : Char} (inside : c ∈ ofInt n) :
    isNumeral c = true := by
  simpa [isNumeral, or_assoc] using (Numeral.integerText_ofInt n).digit_or_sign inside

theorem readInt?_ofInt (n : Int) : Numeral.readInt? (ofInt n) = some n :=
  Numeral.readInt?_eq_some_iff.2 (Numeral.integerText_ofInt n)

theorem exists_ofInt_eq_cons (n : Int) : ∃ c s, ofInt n = c :: s ∧ isNumeral c = true := by
  have read := readInt?_ofInt n
  cases written : ofInt n with
  | nil =>
      rw [written] at read
      cases read
  | cons c s => exact ⟨c, s, rfl, isNumeral_of_mem_ofInt (n := n) (by simp [written])⟩

/-- The text goes on after a value: with another one, or with the end of the row. -/
def Continues (s : Text) : Prop :=
  s.head? = some ',' ∨ s.head? = some ']'

theorem Continues.boundary {s : Text} (h : Continues s) : ∀ c ∈ s.head?, isNumeral c = false := by
  intro c first
  obtain comma | bracket := h
  · cases comma.symm.trans first
    rfl
  · cases bracket.symm.trans first
    rfl

theorem ofInt_append_inj {m n : Int} {s t : Text} (hs : Continues s) (ht : Continues t)
    (same : ofInt m ++ s = ofInt n ++ t) : m = n ∧ s = t := by
  obtain ⟨digits, rest⟩ := span_append (fun _ => isNumeral_of_mem_ofInt (n := m)) hs.boundary
  obtain ⟨digits', rest'⟩ := span_append (fun _ => isNumeral_of_mem_ofInt (n := n)) ht.boundary
  rw [same, digits'] at digits
  rw [same, rest'] at rest
  have value := readInt?_ofInt m
  rw [← digits, readInt?_ofInt] at value
  exact ⟨(Option.some.inj value).symm, rest.symm⟩

theorem join_cons (sep part : Text) (parts : List Text) :
    join sep (part :: parts) = part ++ parts.flatMap (sep ++ ·) := by
  induction parts generalizing part with
  | nil => simp [join]
  | cons next parts ih =>
      rw [join, List.intercalate_cons_of_ne_nil (List.cons_ne_nil _ _), List.flatMap_cons,
        List.append_assoc, List.append_assoc, ← ih next, join]

end Text

namespace Value

open Text (Continues)

/-- The forms in which stacks are printed: integers by their digits, and texts between quotes by
the spelling of their characters. -/
structure Writes (write : Value → Text) (spell : Char → Text) : Prop where
  spells : Text.Spells spell
  int (n : Int64) : write (.int n) = Text.ofInt n.toInt
  text (s : Text) : write (.text s) = '"' :: (s.flatMap spell ++ ['"'])

theorem writes_listed : Writes listed Text.escape :=
  ⟨Text.spells_escape, fun _ => rfl, fun _ => rfl⟩

/-- What is relied on of a JSON writer: a row is written without blanks, an integer by its digits,
and a text between quotes by spellings of its characters. -/
structure WritesJson (json : List Value → Except String Text) (write : Value → Text)
    (spell : Char → Text) : Prop where
  row (vs : List Value) : json vs = .ok ('[' :: (Text.join [','] (vs.map write) ++ [']']))
  int (n : Int64) : write (.int n) = Text.ofInt n.toInt
  text (s : Text) : write (.text s) = '"' :: (s.flatMap spell ++ ['"'])
  spelled (c : Char) : Text.JsonSpelling c (spell c)

theorem WritesJson.writes {json : List Value → Except String Text} {write : Value → Text}
    {spell : Char → Text} (h : WritesJson json write spell) : Writes write spell :=
  ⟨fun c s => (h.spelled c).quoted?_append s, h.int, h.text⟩

theorem writesJson_process : WritesJson Command.Library.process.json toJson Text.escapeJson where
  row _ := rfl
  int _ := rfl
  text _ := rfl
  spelled := Text.jsonSpelling_escapeJson

/-- What follows the first value of a row: the others, each after a comma, and the end. -/
def further (write : Value → Text) (gap : Text) (vs : List Value) : Text :=
  (vs.map write).flatMap (',' :: gap ++ ·) ++ [']']

theorem further_cons (write : Value → Text) (gap : Text) (v : Value) (vs : List Value) :
    further write gap (v :: vs) = ',' :: (gap ++ (write v ++ further write gap vs)) := by
  simp [further]

theorem continues_further (write : Value → Text) (gap : Text) (vs : List Value) :
    Continues (further write gap vs) := by
  cases vs with
  | nil => exact .inr rfl
  | cons v vs => exact .inl rfl

theorem join_cons_append (write : Value → Text) (gap : Text) (v : Value) (vs : List Value) :
    Text.join (',' :: gap) ((v :: vs).map write) ++ [']'] = write v ++ further write gap vs := by
  rw [List.map_cons, Text.join_cons, List.append_assoc]
  rfl

namespace Writes

variable {write : Value → Text} {spell : Char → Text} (h : Writes write spell)
include h

/-- The first character tells an integer from a text, and both from the end of the row. -/
theorem exists_head {v : Value} (hv : v.kind ≠ .float) :
    ∃ c s, write v = c :: s ∧ c ≠ ']' ∧ (c = '"' ↔ v.isText = true) := by
  cases v with
  | float x => exact absurd rfl hv
  | int n =>
      obtain ⟨c, s, written, numeral⟩ := Text.exists_ofInt_eq_cons n.toInt
      have other {d : Char} (hd : Text.isNumeral d = false) : c ≠ d := by
        rintro rfl
        exact Bool.false_ne_true (hd.symm.trans numeral)
      have quote : c ≠ '"' := other rfl
      exact ⟨c, s, (h.int n).trans written, other rfl, by simp [isText, quote]⟩
  | text s => exact ⟨'"', _, h.text s, by decide, by simp [isText]⟩

theorem append_inj {v w : Value} (hv : v.kind ≠ .float) (hw : w.kind ≠ .float) {s t : Text}
    (hs : Continues s) (ht : Continues t) (same : write v ++ s = write w ++ t) :
    v = w ∧ s = t := by
  obtain ⟨c, u, written, _, quote⟩ := h.exists_head hv
  obtain ⟨d, u', written', _, quote'⟩ := h.exists_head hw
  have first : c = d := by
    rw [written, written'] at same
    exact (List.cons.inj same).1
  rw [first, quote'] at quote
  cases v with
  | float x => exact absurd rfl hv
  | int m =>
      cases w with
      | float y => exact absurd rfl hw
      | text t => simp [isText] at quote
      | int n =>
          rw [h.int, h.int] at same
          obtain ⟨value, rest⟩ := Text.ofInt_append_inj hs ht same
          exact ⟨congrArg Value.int (Int64.toInt_inj.1 value), rest⟩
  | text a =>
      cases w with
      | float y => exact absurd rfl hw
      | int n => simp [isText] at quote
      | text b =>
          rw [h.text, h.text, List.cons_append, List.cons_append, List.append_assoc,
            List.append_assoc] at same
          obtain ⟨rfl, rest⟩ := h.spells.flatMap_inj (List.cons.inj same).2
          exact ⟨rfl, rest⟩

theorem further_inj {vs ws : List Value} (hvs : ∀ v ∈ vs, v.kind ≠ .float)
    (hws : ∀ w ∈ ws, w.kind ≠ .float) {gap : Text}
    (same : further write gap vs = further write gap ws) : vs = ws := by
  induction vs generalizing ws with
  | nil =>
      cases ws with
      | nil => rfl
      | cons w ws => cases same
  | cons v vs ih =>
      cases ws with
      | nil => cases same
      | cons w ws =>
          rw [List.forall_mem_cons] at hvs hws
          rw [further_cons, further_cons, List.cons.injEq, List.append_cancel_left_eq] at same
          obtain ⟨rfl, rest⟩ := h.append_inj hvs.1 hws.1 (continues_further write gap vs)
            (continues_further write gap ws) same.2
          rw [ih hvs.2 hws.2 rest]

theorem row_inj {vs ws : List Value} (hvs : ∀ v ∈ vs, v.kind ≠ .float)
    (hws : ∀ w ∈ ws, w.kind ≠ .float) {gap : Text}
    (same : Text.join (',' :: gap) (vs.map write) ++ [']'] =
      Text.join (',' :: gap) (ws.map write) ++ [']']) : vs = ws := by
  -- An empty row ends where another one has its first value.
  have nonempty {v : Value} (hv : v.kind ≠ .float) (s : Text) : [']'] ≠ write v ++ s := by
    obtain ⟨c, u, written, bracket, _⟩ := h.exists_head hv
    rw [written]
    intro same
    exact bracket (List.cons.inj same).1.symm
  cases vs with
  | nil =>
      cases ws with
      | nil => rfl
      | cons w ws =>
          rw [join_cons_append] at same
          exact absurd same (nonempty (hws w List.mem_cons_self) _)
  | cons v vs =>
      rw [join_cons_append] at same
      cases ws with
      | nil => exact absurd same.symm (nonempty (hvs v List.mem_cons_self) _)
      | cons w ws =>
          rw [join_cons_append] at same
          rw [List.forall_mem_cons] at hvs hws
          obtain ⟨rfl, rest⟩ := h.append_inj hvs.1 hws.1 (continues_further write gap vs)
            (continues_further write gap ws) same
          rw [h.further_inj hvs.2 hws.2 rest]

end Writes

end Value

namespace Stack

theorem eq_of_bottomUp {s t : Stack} (h : s.bottomUp = t.bottomUp) : s = t :=
  ext (List.reverse_inj.1 h)

/-- A stack of integers and texts is determined by its listing, and by its JSON text, whichever
JSON writer the process uses. -/
theorem printed_unambiguous {s t : Stack} (hs : ∀ v ∈ s.values, v.kind ≠ .float)
    (ht : ∀ v ∈ t.values, v.kind ≠ .float) :
    (s.listing = t.listing → s = t) ∧
    ∀ {json : List Value → Except String Text} {write : Value → Text} {spell : Char → Text},
      Value.WritesJson json write spell → json s.bottomUp = json t.bottomUp → s = t := by
  have upward {s : Stack} (hs : ∀ v ∈ s.values, v.kind ≠ .float) :
      ∀ v ∈ s.bottomUp, v.kind ≠ .float := by
    intro v inside
    exact hs v (List.mem_reverse.1 inside)
  constructor
  · intro same
    have rows := Value.writes_listed.row_inj (upward hs) (upward ht) (List.cons.inj same).2
    exact eq_of_bottomUp rows
  · intro json write spell writes same
    rw [writes.row, writes.row] at same
    have rows := writes.writes.row_inj (upward hs) (upward ht)
      (List.cons.inj (Except.ok.inj same)).2
    exact eq_of_bottomUp rows

/-- One text that looks like two when its quotes are not escaped, and two texts. -/
theorem printed_unambiguous_embedded_quotes :
    let s := ofList [.text "a\", \"b".toList]
    let t := ofList [.text ['b'], .text ['a']]
    let json := Command.Library.process.json
    Value.WritesJson json Value.toJson Text.escapeJson ∧
      json s.bottomUp = .ok "[\"a\\\", \\\"b\"]".toList ∧
      s.listing ≠ t.listing ∧ json s.bottomUp ≠ json t.bottomUp := by
  intro s t json
  have distinct : s ≠ t := by
    intro same
    cases congrArg Stack.depth same
  have writes : Value.WritesJson json Value.toJson Text.escapeJson := Value.writesJson_process
  have unambiguous := printed_unambiguous (s := s) (t := t) (by decide) (by decide)
  exact ⟨writes, rfl, fun same => distinct (unambiguous.1 same),
    fun same => distinct (unambiguous.2 writes same)⟩

end Stack

end TapeCalc
