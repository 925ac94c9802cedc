/-
# The grammar of templates

What a template is, said without a parser.  Inside an interpolation a text is a row of tokens
with blanks between them (`Lexes`).  A token is as long as it can be: digits do not stop before
a digit, and a name does not stop before a character that it could go on with (`Token.Ends`).
Over the tokens stands a grammar with one relation for each of its rules, from `Sum` down to
`Primary`.  Operators group to the left because the rules for them are left recursive.

Every relation carries a bound on nesting.  What stands behind a minus sign, in parentheses, in
brackets or among arguments is derived with a smaller bound.  `Sum n ts e` so says that the
tokens `ts` are an expression with the tree `e`, nested at most `n` levels deep.

Over the interpolations stands the template: `Reads` takes a text apart into characters and
expressions, and `Derives` puts the characters together into literals that are nonempty and as
long as possible.

The rest of the file is about `Lexes` alone: how rows of tokens are put together
(`Lexes.append`) and taken apart (`Lexes.split`, `Lexes.uncons`).
-/
import TemplatedConfig.Template.Parser

namespace TemplatedConfig.Grammar

open Template Text

/-! ## 1. Tokens -/

/-- The tokens of an interpolation, with what they stand for. -/
inductive Token where
  | integer (value : Nat)
  | float (value : Float)
  | string (text : String)
  | name (text : String)
  | symbol (c : Char)

/-- A nonempty run of characters of one class. -/
def Run (p : Char → Bool) (text : List Char) : Prop := text ≠ [] ∧ ∀ c ∈ text, p c = true

/-- What a string literal stands for, and how it is written after its opening quote. -/
inductive Quoted : List Char → List Char → Prop where
  | close : Quoted [] ['\x22']
  | plain {c : Char} {s body : List Char} :
      c ≠ '\x22' → c ≠ '\\' → Quoted s body → Quoted (c :: s) (c :: body)
  | escape {c e : Char} {s body : List Char} :
      escaped? c = some e → Quoted s body → Quoted (e :: s) ('\\' :: c :: body)

/-- The characters that are tokens by themselves. -/
def symbols : List Char := ['+', '-', '*', '/', '%', '(', ')', '[', ']', ',']

/-- How a token is written. -/
inductive Spelled : Token → List Char → Prop where
  | integer {digits : List Char} :
      Run Char.isDigit digits → Spelled (.integer (Decimal.digitsValue digits)) digits
  /-- The value is the double next to the decimal number. -/
  | float {whole fraction : List Char} :
      Run Char.isDigit whole → Run Char.isDigit fraction →
      Spelled (.float
          (Decimal.nearest (Decimal.digitsValue (whole ++ fraction)) (-fraction.length)))
        (whole ++ '.' :: fraction)
  | string {s body : List Char} :
      Quoted s body → Spelled (.string (String.ofList s)) ('\x22' :: body)
  | name {c : Char} {rest : List Char} :
      startsName c = true → (∀ d ∈ rest, continuesName d = true) →
      Spelled (.name (String.ofList (c :: rest))) (c :: rest)
  | symbol {c : Char} : c ∈ symbols → Spelled (.symbol c) [c]

/-- The text does not go on with a character of the class. -/
def Stops (p : Char → Bool) (text : List Char) : Prop := ∀ c ∈ text.head?, p c = false

/-- What may stand directly behind a token: nothing by which the token could be longer. -/
def Token.Ends : Token → List Char → Prop
  | integer _, text =>
    Stops Char.isDigit text ∧ ∀ rest, text = '.' :: rest → Stops Char.isDigit rest
  | float _, text => Stops Char.isDigit text
  | name _, text => Stops continuesName text
  | string _, _ => True
  | symbol _, _ => True

/-- A text begins with a row of tokens, and `rest` follows them.  Blanks may stand before every
token, and behind the last. -/
inductive Lexes : List Char → List Token → List Char → Prop where
  | done {rest : List Char} : Lexes rest [] rest
  | blank {c : Char} {text rest : List Char} {ts : List Token} :
      isBlank c = true → Lexes text ts rest → Lexes (c :: text) ts rest
  | token {t : Token} {spelling text rest : List Char} {ts : List Token} :
      Spelled t spelling → t.Ends text → Lexes text ts rest →
      Lexes (spelling ++ text) (t :: ts) rest

/-! ## 2. Expressions -/

mutual

/-- `expr := product (("+" | "-") product)*` -/
inductive Sum : Nat → List Token → Expr → Prop where
  | single {n : Nat} {ts : List Token} {e : Expr} : Product n ts e → Sum n ts e
  | join {n : Nat} {op : Operator} {ts ts' : List Token} {l r : Expr} :
      op = .add ∨ op = .sub → Sum n ts l → Product n ts' r →
      Sum n (ts ++ .symbol op.symbol :: ts') (.arithmetic op l r)

/-- `product := unary (("*" | "/" | "%") unary)*` -/
inductive Product : Nat → List Token → Expr → Prop where
  | single {n : Nat} {ts : List Token} {e : Expr} : Unary n ts e → Product n ts e
  | join {n : Nat} {op : Operator} {ts ts' : List Token} {l r : Expr} :
      op = .mul ∨ op = .div ∨ op = .mod → Product n ts l → Unary n ts' r →
      Product n (ts ++ .symbol op.symbol :: ts') (.arithmetic op l r)

/-- `unary := "-" unary | indexed`, where a numeral takes the sign into itself. -/
inductive Unary : Nat → List Token → Expr → Prop where
  | plain {n : Nat} {ts : List Token} {e : Expr} : Indexed n ts e → Unary n ts e
  | minus {m n : Nat} {ts : List Token} {e : Expr} :
      m < n → Unary m ts e → Unary n (.symbol '-' :: ts) (negated e)

/-- `indexed := primary ("[" expr "]")*` -/
inductive Indexed : Nat → List Token → Expr → Prop where
  | plain {n : Nat} {ts : List Token} {e : Expr} : Primary n ts e → Indexed n ts e
  | index {m n : Nat} {ts ts' : List Token} {target key : Expr} :
      m < n → Indexed n ts target → Sum m ts' key →
      Indexed n (ts ++ .symbol '[' :: (ts' ++ [.symbol ']'])) (.index target key)

/-- `primary := number | string | "true" | "false" | name "(" [arguments] ")" | name
| "(" expr ")"`, where a number without a point must be in the range of integers.  The two words
are no variables, but they may be called. -/
inductive Primary : Nat → List Token → Expr → Prop where
  | integer {n value : Nat} : value ≤ maxInteger →
      Primary n [.integer value] (.literal (.integer (Int64.ofNat value)))
  | float {n : Nat} {value : Float} : Primary n [.float value] (.literal (.float value))
  | string {n : Nat} {text : String} : Primary n [.string text] (.literal (.string text))
  | trueWord {n : Nat} : Primary n [.name "true"] (.literal (.bool true))
  | falseWord {n : Nat} : Primary n [.name "false"] (.literal (.bool false))
  | bareCall {n : Nat} {function : String} :
      Primary n [.name function, .symbol '(', .symbol ')'] (.call function [])
  | call {n : Nat} {function : String} {ts : List Token} {es : List Expr} :
      Arguments n ts es →
      Primary n (.name function :: .symbol '(' :: (ts ++ [.symbol ')'])) (.call function es)
  | name {n : Nat} {text : String} : text ≠ "true" → text ≠ "false" →
      Primary n [.name text] (.variable text)
  | parenthesized {m n : Nat} {ts : List Token} {e : Expr} :
      m < n → Sum m ts e → Primary n (.symbol '(' :: (ts ++ [.symbol ')'])) e

/-- `arguments := expr ("," expr)*` -/
inductive Arguments : Nat → List Token → List Expr → Prop where
  | last {m n : Nat} {ts : List Token} {e : Expr} : m < n → Sum m ts e → Arguments n ts [e]
  | more {m n : Nat} {ts ts' : List Token} {e : Expr} {es : List Expr} :
      m < n → Sum m ts e → Arguments n ts' es →
      Arguments n (ts ++ .symbol ',' :: ts') (e :: es)

end

/-! ## 3. Templates -/

/-- The pieces of a template: a character that stands for itself, or an expression. -/
inductive Piece where
  | character (c : Char)
  | expression (e : Expr)

/-- The pieces that a text is made of.  `$${` stands for the two characters `${`, and only `${`
opens an interpolation, which is closed by the brace behind its tokens. -/
inductive Reads (limit : Nat) : List Char → List Piece → Prop where
  | nil : Reads limit [] []
  | escape {text : List Char} {pieces : List Piece} : Reads limit text pieces →
      Reads limit ('$' :: '$' :: '{' :: text) (.character '$' :: .character '{' :: pieces)
  | interpolation {n : Nat} {text rest : List Char} {ts : List Token} {e : Expr}
      {pieces : List Piece} :
      n < limit → Sum n ts e → Lexes text ts ('}' :: rest) → Reads limit rest pieces →
      Reads limit ('$' :: '{' :: text) (.expression e :: pieces)
  | character {c : Char} {text : List Char} {pieces : List Piece} :
      atOpening (c :: text) = false → Reads limit text pieces →
      Reads limit (c :: text) (.character c :: pieces)

/-- The pieces that the parts of a template hold. -/
def spread : List Part → List Piece
  | [] => []
  | .literal text :: rest => text.toList.map .character ++ spread rest
  | .interpolation e :: rest => .expression e :: spread rest

/-- Literals are nonempty, and no two of them stand side by side. -/
def Merged : List Part → Prop
  | [] => True
  | .interpolation _ :: rest => Merged rest
  | .literal text :: rest => text ≠ "" ∧ Merged rest ∧ ∀ t, rest.head? ≠ some (.literal t)

/-- **The derivations of the grammar.**  The parts of a text, with all expressions in it nested
less than `limit` levels deep. -/
def Derives (limit : Nat) (text : List Char) (parts : List Part) : Prop :=
  Reads limit text (spread parts) ∧ Merged parts

/-! ## 4. How a token begins -/

/-- A letter is no blank. -/
theorem isBlank_of_isAlphabetic {c : Char} (h : isAlphabetic c = true) : isBlank c = false := by
  cases hc : isBlank c with
  | false => rfl
  | true =>
    have hdisjoint : isAlphabetic c = false :=
      Ranges.not_contains_of_contains (by decide +kernel) hc
    rw [h] at hdisjoint
    cases hdisjoint

/-- The digits are those of Basic Latin. -/
theorem toNat_of_isDigit {c : Char} (h : c.isDigit = true) : 0x30 ≤ c.toNat ∧ c.toNat ≤ 0x39 := by
  simp only [Char.isDigit, Bool.and_eq_true, decide_eq_true_eq, ge_iff_le,
    UInt32.le_iff_toNat_le] at h
  exact h

/-- A digit is no blank either. -/
theorem isBlank_of_isDigit {c : Char} (h : c.isDigit = true) : isBlank c = false := by
  obtain ⟨hlow, hhigh⟩ := toNat_of_isDigit h
  have hdigit : Ranges.contains [(0x30, 0x39)] c.toNat = true := by
    simp only [Ranges.contains, if_neg (Nat.not_lt.mpr hlow), if_pos hhigh]
  exact Ranges.not_contains_of_contains (by decide) hdigit

/-- Letters come behind the signs and digits of Basic Latin. -/
theorem le_of_startsName {c : Char} (h : startsName c = true) : 0x41 ≤ c.toNat := by
  rw [startsName, Bool.or_eq_true, decide_eq_true_eq] at h
  rcases h with hletter | rfl
  · exact Ranges.le_of_contains hletter
  · decide

/-- The characters that a token can begin with. -/
def Token.Begins : Token → Char → Prop
  | integer _, c => c.isDigit = true
  | float _, c => c.isDigit = true
  | string _, c => c = '\x22'
  | name _, c => startsName c = true
  | symbol s, c => c = s ∧ s ∈ symbols

/-- Every token begins with one of its characters. -/
theorem Spelled.begins {t : Token} {spelling : List Char} (h : Spelled t spelling) :
    ∃ c rest, spelling = c :: rest ∧ t.Begins c := by
  cases h with
  | integer hrun =>
    obtain ⟨c, rest, rfl⟩ := List.exists_cons_of_ne_nil hrun.1
    exact ⟨c, rest, rfl, hrun.2 c List.mem_cons_self⟩
  | float hwhole _ =>
    obtain ⟨c, rest, rfl⟩ := List.exists_cons_of_ne_nil hwhole.1
    exact ⟨c, _, rfl, hwhole.2 c List.mem_cons_self⟩
  | string _ => exact ⟨_, _, rfl, rfl⟩
  | name hc _ => exact ⟨_, _, rfl, hc⟩
  | symbol hc => exact ⟨_, _, rfl, rfl, hc⟩

/-- No token begins with a blank. -/
theorem Token.Begins.isBlank_eq_false {t : Token} {c : Char} (h : t.Begins c) :
    isBlank c = false := by
  cases t with
  | integer _ => exact isBlank_of_isDigit h
  | float _ => exact isBlank_of_isDigit h
  | string _ => rw [show c = '\x22' from h]; decide
  | name _ =>
    rw [Begins, startsName, Bool.or_eq_true, decide_eq_true_eq] at h
    rcases h with hletter | rfl
    · exact isBlank_of_isAlphabetic hletter
    · decide
  | symbol s =>
    obtain ⟨rfl, hs⟩ := h
    have hall : symbols.all (fun s => !isBlank s) = true := by decide
    simpa using List.all_eq_true.mp hall c hs

/-- Characters that no number and no name goes on with. -/
def delimiters : List Char := [' ', '+', '(', ')', '[', ']', ',', '}']

/-- Before a delimiter every token ends. -/
theorem Token.ends_delimiter (t : Token) {c : Char} (hc : c ∈ delimiters) (rest : List Char) :
    t.Ends (c :: rest) := by
  have hall : delimiters.all (fun c => !c.isDigit && c != '.' && !continuesName c) = true := by
    decide +kernel
  obtain ⟨⟨hdigit, hpoint⟩, hname⟩ :
      (c.isDigit = false ∧ c ≠ '.') ∧ continuesName c = false := by
    simpa using List.all_eq_true.mp hall c hc
  cases t with
  | integer _ =>
    refine ⟨fun d hd => ?_, fun more hmore => absurd (List.cons.inj hmore).1 hpoint⟩
    cases hd
    exact hdigit
  | float _ =>
    rintro d ⟨⟩
    exact hdigit
  | name _ =>
    rintro d ⟨⟩
    exact hname
  | string _ => trivial
  | symbol _ => trivial

/-! ## 5. Rows of tokens -/

/-- Blanks at the start do not matter. -/
theorem skipBlanks_of_isBlank {c : Char} {text : List Char} (h : isBlank c = true) :
    skipBlanks (c :: text) = skipBlanks text := by
  rw [skipBlanks, List.dropWhile_cons, if_pos h, skipBlanks]

theorem skipBlanks_of_not_isBlank {c : Char} {text : List Char} (h : isBlank c = false) :
    skipBlanks (c :: text) = c :: text := by
  rw [skipBlanks, List.dropWhile_cons, if_neg (by simp [h])]

@[simp] theorem skipBlanks_skipBlanks (text : List Char) :
    skipBlanks (skipBlanks text) = skipBlanks text := by
  induction text with
  | nil => rfl
  | cons c rest ih =>
    cases hc : isBlank c with
    | true => rw [skipBlanks_of_isBlank hc, ih]
    | false => rw [skipBlanks_of_not_isBlank hc, skipBlanks_of_not_isBlank hc]

namespace Lexes

variable {text mid rest : List Char} {t : Token} {ts ts' : List Token}

/-- One row of tokens after another is a row of tokens. -/
theorem append (h : Lexes text ts mid) (h' : Lexes mid ts' rest) :
    Lexes text (ts ++ ts') rest := by
  induction h with
  | done => exact h'
  | blank hc _ ih => exact .blank hc (ih h')
  | token hs hends _ ih => exact .token hs hends (ih h')

/-- A symbol before other tokens. -/
theorem cons_symbol {c : Char} (hc : c ∈ symbols) (h : Lexes text ts rest) :
    Lexes (c :: text) (.symbol c :: ts) rest := .token (.symbol hc) trivial h

/-- A symbol behind other tokens. -/
theorem append_symbol {c : Char} (hc : c ∈ symbols) (h : Lexes text ts (c :: rest)) :
    Lexes text (ts ++ [.symbol c]) rest := h.append (.cons_symbol hc .done)

/-- A row of tokens can be cut anywhere. -/
theorem split (h : Lexes text (ts ++ ts') rest) :
    ∃ mid, Lexes text ts mid ∧ Lexes mid ts' rest := by
  generalize hall : ts ++ ts' = all at h
  induction h generalizing ts with
  | done =>
    obtain ⟨rfl, rfl⟩ := List.append_eq_nil_iff.mp hall
    exact ⟨_, .done, .done⟩
  | blank hc _ ih =>
    obtain ⟨mid, hfirst, hsecond⟩ := ih hall
    exact ⟨mid, .blank hc hfirst, hsecond⟩
  | token hs hends hrest ih =>
    cases ts with
    | nil =>
      rw [List.nil_append] at hall
      exact ⟨_, .done, hall ▸ .token hs hends hrest⟩
    | cons t ts =>
      obtain ⟨rfl, htail⟩ := List.cons.inj hall
      obtain ⟨mid, hfirst, hsecond⟩ := ih htail
      exact ⟨mid, .token hs hends hfirst, hsecond⟩

/-- Blanks may be put in front. -/
theorem of_skipBlanks (h : Lexes (skipBlanks text) ts rest) : Lexes text ts rest := by
  induction text with
  | nil => exact h
  | cons c more ih =>
    cases hc : isBlank c with
    | true => exact .blank hc (ih (skipBlanks_of_isBlank hc ▸ h))
    | false => exact skipBlanks_of_not_isBlank hc ▸ h

/-- Blanks alone are no token. -/
theorem blanks (text : List Char) : Lexes text [] (skipBlanks text) := of_skipBlanks .done

/-- Only blanks stand where there is no token. -/
theorem skipBlanks_eq (h : Lexes text [] rest) : skipBlanks text = skipBlanks rest := by
  generalize hts : ([] : List Token) = ts at h
  induction h with
  | done => rfl
  | blank hc _ ih => rw [skipBlanks_of_isBlank hc, ih hts]
  | token => cases hts

/-- **The first token** stands behind the blanks. -/
theorem uncons (h : Lexes text (t :: ts) rest) :
    ∃ spelling more, skipBlanks text = spelling ++ more ∧ Spelled t spelling ∧ t.Ends more
      ∧ Lexes more ts rest := by
  generalize hts : t :: ts = all at h
  induction h with
  | done => cases hts
  | blank hc _ ih => rw [skipBlanks_of_isBlank hc]; exact ih hts
  | @token t' spelling text' _ ts' hs hends hrest ih =>
    cases hts
    obtain ⟨c, more, rfl, hbegins⟩ := hs.begins
    exact ⟨c :: more, text', skipBlanks_of_not_isBlank hbegins.isBlank_eq_false, hs, hends, hrest⟩

/-- Blanks before the first token may be left out. -/
theorem skip (h : Lexes text (t :: ts) rest) : Lexes (skipBlanks text) (t :: ts) rest := by
  obtain ⟨spelling, more, htext, hs, hends, hrest⟩ := h.uncons
  rw [htext]
  exact .token hs hends hrest

/-- What follows the tokens is the end of the text. -/
theorem suffix (h : Lexes text ts rest) : rest <:+ text := by
  induction h with
  | done => exact List.suffix_refl _
  | blank _ _ ih => exact ih.trans (List.suffix_cons ..)
  | token _ _ _ ih => exact ih.trans (List.suffix_append ..)

end Lexes

end TemplatedConfig.Grammar
