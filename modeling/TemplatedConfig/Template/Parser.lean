/-
# Parsing templates

The grammar of an interpolation, blanks being allowed before every token:

    expr     := product (("+" | "-") product)*
    product  := unary (("*" | "/" | "%") unary)*
    unary    := "-" unary | indexed
    indexed  := primary ("[" expr "]")*
    primary  := number | string | name | name "(" [expr ("," expr)*] ")" | "(" expr ")"

Every production is a function from text to a tree and the text that follows, packed with the
proof that it takes up at least one character (`Production`); that proof is what lets the
loops of the grammar end.  Parentheses, indexes, arguments and minus signs nest at most
`maxNesting` deep: a production for one level is built from the productions for the level
below, so the nesting left over is the argument of the recursion, and at level zero stands a
production that refuses (`refused`).

A fault is reported with the text that was still unread when it was found, which gives its
column.
-/
import TemplatedConfig.Template.Basic
import TemplatedConfig.Fault
import TemplatedConfig.Text.Classes
import TemplatedConfig.Decimal.Nearest

namespace TemplatedConfig.Template

open Text

/-- A problem with the text left unread, or a result with the text that follows it. -/
abbrev Reading (α : Type) := Except (Problem × List Char) (α × List Char)

/-- The same reading with another tree. -/
def Reading.mapTree {α β : Type} (f : α → β) : Reading α → Reading β
  | .ok (a, rest) => .ok (f a, rest)
  | .error e => .error e

theorem Reading.mapTree_eq_ok {α β : Type} {f : α → β} {x : Reading α} {b : β}
    {rest : List Char} :
    x.mapTree f = .ok (b, rest) ↔ ∃ a, x = .ok (a, rest) ∧ f a = b := by
  match x with
  | .error e => simp [mapTree]
  | .ok (a, r) => simp [mapTree]; grind

/-- A grammar rule that takes up text whenever it succeeds. -/
structure Production (α : Type) where
  run : List Char → Reading α
  consumes : ∀ {text : List Char} {a : α} {rest : List Char},
    run text = .ok (a, rest) → rest.length < text.length

/-- The rule below the deepest level. -/
def refused : Production Expr where
  run text := .error (.tooDeep, text)
  consumes h := by cases h

/-! ## 1. Tokens -/

/-- A character that a name goes on with. -/
def continuesName (c : Char) : Bool :=
  isAlphabetic c || isNumeric c || c = '_' || c = '-' || c = '.' || c = '*'

/-- A character that a name starts with. -/
def startsName (c : Char) : Bool := isAlphabetic c || c = '_'

/-- What a name stands for when no argument list follows it. -/
def named (name : String) : Expr :=
  if name = "true" then .literal (.bool true)
  else if name = "false" then .literal (.bool false)
  else .variable name

/-- The largest integer literal. -/
def maxInteger : Nat := Nat.pow 2 63 - 1

/-- An integer literal, given its digits. -/
def integerLiteral (digits rest : List Char) : Reading Expr :=
  if Decimal.digitsValue digits ≤ maxInteger then
    .ok (.literal (.integer (Int64.ofNat (Decimal.digitsValue digits))), rest)
  else .error (.integerOutOfRange (String.ofList digits), rest)

/-- A number: digits, and after them a point if a digit follows it, and more digits. -/
def number (text : List Char) : Reading Expr :=
  let digits := text.takeWhile Char.isDigit
  match text.dropWhile Char.isDigit with
  | '.' :: d :: rest =>
    if d.isDigit then
      let fraction := (d :: rest).takeWhile Char.isDigit
      .ok (.literal (.float
          (Decimal.nearest (Decimal.digitsValue (digits ++ fraction)) (-fraction.length))),
        (d :: rest).dropWhile Char.isDigit)
    else integerLiteral digits ('.' :: d :: rest)
  | rest => integerLiteral digits rest

/-- The character that an escape stands for. -/
def escaped? : Char → Option Char
  | '\x22' => some '\x22'
  | '\\' => some '\\'
  | 'n' => some '\n'
  | 't' => some '\t'
  | _ => none

/-- The rest of a string literal after its opening quote. -/
def stringBody : List Char → Reading (List Char)
  | [] => .error (.unterminatedString, [])
  | '\x22' :: rest => .ok ([], rest)
  | ['\\'] => .error (.unterminatedString, [])
  | '\\' :: c :: rest =>
    match escaped? c with
    | some e => (stringBody rest).mapTree (e :: ·)
    | none => .error (.invalidEscape c, c :: rest)
  | c :: rest => (stringBody rest).mapTree (c :: ·)

/-! ## 2. Rules for one level of nesting -/

/-- The arguments of a call after the opening parenthesis or after a comma. -/
def argumentsFrom (nested : Production Expr) (function : String) (text : List Char) :
    Reading (List Expr) :=
  match _h : nested.run text with
  | .error e => .error e
  | .ok (e, rest) =>
    match _hs : skipBlanks rest with
    | ',' :: more =>
      (argumentsFrom nested function more).mapTree (e :: ·)
    | ')' :: more => .ok ([e], more)
    | other => .error (.badArguments function, other)
termination_by text.length
decreasing_by
  have h1 := nested.consumes _h
  have h2 := length_skipBlanks_le rest
  rw [_hs] at h2
  simp only [List.length_cons] at h2
  omega

/-- The argument list of a call after its opening parenthesis. -/
def arguments (nested : Production Expr) (function : String) (text : List Char) :
    Reading (List Expr) :=
  match skipBlanks text with
  | ')' :: rest => .ok ([], rest)
  | text => argumentsFrom nested function text

/-- A name, or a call if an argument list follows the name. -/
def nameOrCall (nested : Production Expr) (text : List Char) : Reading Expr :=
  let name := String.ofList (text.takeWhile continuesName)
  match skipBlanks (text.dropWhile continuesName) with
  | '(' :: rest =>
    (arguments nested name rest).mapTree (.call name)
  | rest => .ok (named name, rest)

/-- An expression in parentheses, after the opening one. -/
def parenthesized (nested : Production Expr) (text : List Char) : Reading Expr :=
  match nested.run text with
  | .error e => .error e
  | .ok (e, rest) =>
    match skipBlanks rest with
    | ')' :: more => .ok (e, more)
    | other => .error (.unclosedParenthesis, other)

/-- The rule `primary`. -/
def primaryFrom (nested : Production Expr) (text : List Char) : Reading Expr :=
  match skipBlanks text with
  | [] => .error (.unexpectedEnd, [])
  | c :: rest =>
    if c.isDigit then number (c :: rest)
    else if c = '\x22' then
      (stringBody rest).mapTree fun s => .literal (.string (String.ofList s))
    else if c = '(' then parenthesized nested rest
    else if startsName c then nameOrCall nested (c :: rest)
    else .error (.unexpected c, c :: rest)

/-- The indexes that follow a target. -/
def indexesFrom (nested : Production Expr) (target : Expr) (text : List Char) : Reading Expr :=
  match _hs : skipBlanks text with
  | '[' :: rest =>
    match _h : nested.run rest with
    | .error e => .error e
    | .ok (key, rest') =>
      match _hs' : skipBlanks rest' with
      | ']' :: more => indexesFrom nested (.index target key) more
      | other => .error (.unclosedIndex, other)
  | other => .ok (target, other)
termination_by text.length
decreasing_by
  have h1 := length_skipBlanks_le text
  have h2 := nested.consumes _h
  have h3 := length_skipBlanks_le rest'
  rw [_hs] at h1; rw [_hs'] at h3
  simp only [List.length_cons] at h1 h3
  omega

/-- The operators and operands that follow a first operand, grouped to the left. -/
def chainFrom (operator? : Char → Option Operator) (operand : Production Expr) (left : Expr)
    (text : List Char) : Reading Expr :=
  match _hs : skipBlanks text with
  | [] => .ok (left, [])
  | c :: rest =>
    match operator? c with
    | none => .ok (left, c :: rest)
    | some op =>
      match _h : operand.run rest with
      | .error e => .error e
      | .ok (right, more) => chainFrom operator? operand (.arithmetic op left right) more
termination_by text.length
decreasing_by
  have h1 := length_skipBlanks_le text
  have h2 := operand.consumes _h
  rw [_hs] at h1
  simp only [List.length_cons] at h1
  omega

/-- A minus sign in front of a tree.  A numeral takes the sign into itself. -/
def negated : Expr → Expr
  | .literal (.integer n) => .literal (.integer (-n))
  | .literal (.float x) => .literal (.float (-x))
  | e => .negate e

/-! ## 3. The rules take up text -/

theorem stringBody_length {text s rest : List Char} (h : stringBody text = .ok (s, rest)) :
    rest.length < text.length := by
  fun_induction stringBody text generalizing s with
  | case1 => cases h
  | case2 r => cases h; simp
  | case3 => cases h
  | case4 c r e he ih =>
    obtain ⟨s', hb, -⟩ := Reading.mapTree_eq_ok.mp h
    have := ih hb
    simp only [List.length_cons]; omega
  | case5 => cases h
  | case6 c r _ _ _ ih =>
    obtain ⟨s', hb, -⟩ := Reading.mapTree_eq_ok.mp h
    have := ih hb
    simp only [List.length_cons]; omega

theorem argumentsFrom_length {nested : Production Expr} {function : String}
    {text rest : List Char} {es : List Expr}
    (h : argumentsFrom nested function text = .ok (es, rest)) : rest.length < text.length := by
  fun_induction argumentsFrom nested function text generalizing es with
  | case1 => cases h
  | case2 text e r hr more hm ih =>
    obtain ⟨es', hb, -⟩ := Reading.mapTree_eq_ok.mp h
    have h1 := nested.consumes hr
    have h2 := length_skipBlanks_le r
    have h3 := ih hb
    rw [hm] at h2
    simp only [List.length_cons] at h2; omega
  | case3 text e r hr more hm =>
    cases h
    have h1 := nested.consumes hr
    have h2 := length_skipBlanks_le r
    rw [hm] at h2
    simp only [List.length_cons] at h2; omega
  | case4 => cases h

theorem arguments_length {nested : Production Expr} {function : String}
    {text rest : List Char} {es : List Expr}
    (h : arguments nested function text = .ok (es, rest)) : rest.length < text.length := by
  have hs := length_skipBlanks_le text
  unfold arguments at h
  split at h
  · rename_i r hr
    cases h
    rw [hr] at hs
    simp only [List.length_cons] at hs; omega
  · have := argumentsFrom_length h; omega

theorem nameOrCall_length {nested : Production Expr} {c : Char} {text rest : List Char}
    {e : Expr} (hc : startsName c = true) (h : nameOrCall nested (c :: text) = .ok (e, rest)) :
    rest.length < (c :: text).length := by
  have hcont : continuesName c = true := by
    simp only [startsName, Bool.or_eq_true, decide_eq_true_eq] at hc
    rcases hc with hc | hc <;> simp [continuesName, hc]
  have hd : ((c :: text).dropWhile continuesName).length ≤ text.length := by
    rw [List.dropWhile_cons, if_pos hcont]
    exact (List.dropWhile_sublist _).length_le
  have hs := length_skipBlanks_le ((c :: text).dropWhile continuesName)
  unfold nameOrCall at h
  simp only at h
  split at h
  · rename_i r hr
    obtain ⟨es, hb, -⟩ := Reading.mapTree_eq_ok.mp h
    have := arguments_length hb
    rw [hr] at hs
    simp only [List.length_cons] at hs ⊢; omega
  · cases h
    simp only [List.length_cons]; omega

theorem integerLiteral_rest {digits rest rest' : List Char} {e : Expr}
    (h : integerLiteral digits rest = .ok (e, rest')) : rest' = rest := by
  unfold integerLiteral at h
  split at h
  · cases h; rfl
  · cases h

theorem number_length {c : Char} {text rest : List Char} {e : Expr} (hc : c.isDigit = true)
    (h : number (c :: text) = .ok (e, rest)) : rest.length < (c :: text).length := by
  have hd : ((c :: text).dropWhile Char.isDigit).length ≤ text.length := by
    rw [List.dropWhile_cons, if_pos hc]
    exact (List.dropWhile_sublist _).length_le
  unfold number at h
  simp only at h
  split at h
  · rename_i d r hr
    rw [hr] at hd
    simp only [List.length_cons] at hd ⊢
    split at h
    · have := (List.dropWhile_sublist Char.isDigit (l := d :: r)).length_le
      cases h
      simp only [List.length_cons] at this; omega
    · rw [integerLiteral_rest h]
      simp only [List.length_cons]; omega
  · rw [integerLiteral_rest h]
    simp only [List.length_cons]; omega

theorem parenthesized_length {nested : Production Expr} {text rest : List Char} {e : Expr}
    (h : parenthesized nested text = .ok (e, rest)) : rest.length < text.length := by
  unfold parenthesized at h
  split at h
  · cases h
  · rename_i e' r hr
    have h1 := nested.consumes hr
    have h2 := length_skipBlanks_le r
    split at h
    · rename_i more hm
      cases h
      rw [hm] at h2
      simp only [List.length_cons] at h2; omega
    · cases h

theorem primaryFrom_length {nested : Production Expr} {text rest : List Char} {e : Expr}
    (h : primaryFrom nested text = .ok (e, rest)) : rest.length < text.length := by
  have hs := length_skipBlanks_le text
  unfold primaryFrom at h
  split at h
  · cases h
  · rename_i c r hr
    rw [hr] at hs
    split at h
    · rename_i hc; have := number_length hc h; omega
    · split at h
      · obtain ⟨s, hb, -⟩ := Reading.mapTree_eq_ok.mp h
        have := stringBody_length hb
        simp only [List.length_cons] at hs; omega
      · split at h
        · have := parenthesized_length h
          simp only [List.length_cons] at hs; omega
        · split at h
          · rename_i hc; have := nameOrCall_length hc h; omega
          · cases h

theorem indexesFrom_length {nested : Production Expr} {target e : Expr}
    {text rest : List Char} (h : indexesFrom nested target text = .ok (e, rest)) :
    rest.length ≤ text.length := by
  fun_induction indexesFrom nested target text with
  | case1 => cases h
  | case2 target text r hr key r' hk more hm ih =>
    have h1 := length_skipBlanks_le text
    have h2 := nested.consumes hk
    have h3 := length_skipBlanks_le r'
    have h4 := ih h
    rw [hr] at h1; rw [hm] at h3
    simp only [List.length_cons] at h1 h3; omega
  | case3 => cases h
  | case4 target text =>
    cases h
    exact length_skipBlanks_le text

theorem chainFrom_length {operator? : Char → Option Operator} {operand : Production Expr}
    {left e : Expr} {text rest : List Char}
    (h : chainFrom operator? operand left text = .ok (e, rest)) :
    rest.length ≤ text.length := by
  fun_induction chainFrom operator? operand left text with
  | case1 => cases h; simp
  | case2 left text c r hr =>
    cases h
    have := length_skipBlanks_le text
    rwa [hr] at this
  | case3 => cases h
  | case4 left text c r hr op hop right more hm ih =>
    have h1 := length_skipBlanks_le text
    have h2 := operand.consumes hm
    have h3 := ih h
    rw [hr] at h1
    simp only [List.length_cons] at h1; omega

/-! ## 4. The productions -/

/-- `primary`, with `nested` for what stands inside parentheses and argument lists. -/
def primary (nested : Production Expr) : Production Expr where
  run := primaryFrom nested
  consumes := primaryFrom_length

/-- A production followed by a loop that may take up more. -/
def Production.andThen (first : Production Expr) (more : Expr → List Char → Reading Expr)
    (hmore : ∀ {e e' : Expr} {text rest : List Char},
      more e text = .ok (e', rest) → rest.length ≤ text.length) : Production Expr where
  run text :=
    match first.run text with
    | .error e => .error e
    | .ok (e, rest) => more e rest
  consumes {text a rest} h := by
    split at h
    · cases h
    · rename_i e r hr
      have h1 := first.consumes hr
      have h2 := hmore h
      omega

/-- `indexed` -/
def indexed (nested : Production Expr) : Production Expr :=
  (primary nested).andThen (indexesFrom nested) indexesFrom_length

/-- The operators of a product. -/
def productOperator? : Char → Option Operator
  | '*' => some .mul
  | '/' => some .div
  | '%' => some .mod
  | _ => none

/-- The operators of a sum. -/
def sumOperator? : Char → Option Operator
  | '+' => some .add
  | '-' => some .sub
  | _ => none

/-- Operands joined by the operators of one rank. -/
def joined (operator? : Char → Option Operator) (operand : Production Expr) : Production Expr :=
  operand.andThen (chainFrom operator? operand) chainFrom_length

/-- `expr` at a level whose `unary` is given. -/
def sum (unary : Production Expr) : Production Expr :=
  joined sumOperator? (joined productOperator? unary)

/-- `unary`, given the rules for the level below: `signed` stands after a minus sign and
`nested` inside brackets.  What a minus sign makes of the tree behind it is `sign`. -/
def unaryFrom (sign : Expr → Expr) (signed nested : Production Expr) : Production Expr where
  run text :=
    match skipBlanks text with
    | '-' :: rest => (signed.run rest).mapTree sign
    | rest => (indexed nested).run rest
  consumes {text a rest} h := by
    have hs := length_skipBlanks_le text
    split at h
    · rename_i r hr
      obtain ⟨e, hb, -⟩ := Reading.mapTree_eq_ok.mp h
      have := signed.consumes hb
      rw [hr] at hs
      simp only [List.length_cons] at hs; omega
    · have := (indexed nested).consumes h
      omega

/-- `unary` with so many levels of nesting left, for a given rule for signs. -/
def unaryWith (sign : Expr → Expr) : Nat → Production Expr
  | 0 => unaryFrom sign refused refused
  | n + 1 => unaryFrom sign (unaryWith sign n) (sum (unaryWith sign n))

/-- `expr` with so many levels of nesting left.  It takes up one of them itself. -/
def expressionWith (sign : Expr → Expr) : Nat → Production Expr
  | 0 => refused
  | n + 1 => sum (unaryWith sign n)

/-- `unary`, where numerals take up the signs before them. -/
def unary : Nat → Production Expr := unaryWith negated

/-- `expr`, where numerals take up the signs before them. -/
def expression : Nat → Production Expr := expressionWith negated

/-! ## 5. Templates -/

/-- Puts text in front of the pieces of a template, joining it with text that stands there. -/
def consText (text : List Char) : List Part → List Part
  | .literal t :: rest => .literal (String.ofList text ++ t) :: rest
  | parts => .literal (String.ofList text) :: parts

/-- Whether an interpolation or an escaped opening starts here. -/
def atOpening : List Char → Bool
  | '$' :: '$' :: '{' :: _ => true
  | '$' :: '{' :: _ => true
  | _ => false

/-- The text up to the next opening, escaped or not, and what follows it. -/
def literalRun : List Char → List Char × List Char
  | [] => ([], [])
  | c :: rest =>
    if atOpening (c :: rest) then ([], c :: rest)
    else
      let (run, more) := literalRun rest
      (c :: run, more)

theorem literalRun_length (text : List Char) : (literalRun text).2.length ≤ text.length := by
  induction text with
  | nil => simp [literalRun]
  | cons c rest ih =>
    unfold literalRun
    split
    · simp
    · simp only [List.length_cons]; omega

/-- One interpolation after its opening: an expression and a closing brace. -/
def interpolation (expression : Production Expr) (text : List Char) : Reading Expr :=
  match skipBlanks text with
  | '}' :: rest => .error (.emptyInterpolation, '}' :: rest)
  | text =>
    match expression.run text with
    | .error e => .error e
    | .ok (e, rest) =>
      match skipBlanks rest with
      | '}' :: more => .ok (e, more)
      | c :: more => .error (.unexpected c, c :: more)
      | [] => .error (.unexpectedEnd, [])

theorem interpolation_length {expression : Production Expr} {text rest : List Char} {e : Expr}
    (h : interpolation expression text = .ok (e, rest)) : rest.length < text.length := by
  have hs := length_skipBlanks_le text
  unfold interpolation at h
  split at h
  · cases h
  · split at h
    · cases h
    · rename_i e' r hr
      have h1 := expression.consumes hr
      have h2 := length_skipBlanks_le r
      split at h
      · rename_i more hm
        cases h
        rw [hm] at h2
        simp only [List.length_cons] at h2; omega
      · cases h
      · cases h

/-- The pieces of a template. -/
def partsFrom (expression : Production Expr) (text : List Char) :
    Except (Problem × List Char) (List Part) :=
  match text with
  | [] => .ok []
  | '$' :: '$' :: '{' :: rest => (partsFrom expression rest).map (consText opening)
  | '$' :: '{' :: rest =>
    match _h : interpolation expression rest with
    | .error e => .error e
    | .ok (e, more) => (partsFrom expression more).map (.interpolation e :: ·)
  | c :: rest =>
    (partsFrom expression (literalRun rest).2).map (consText (c :: (literalRun rest).1))
termination_by text.length
decreasing_by
  · simp only [List.length_cons]; omega
  · have := interpolation_length _h
    simp only [List.length_cons]; omega
  · have := literalRun_length rest
    simp only [List.length_cons]; omega

/-- The deepest nesting of parentheses, indexes, arguments and minus signs. -/
def maxNesting : Nat := 128

/-- Parses a template, given the rule for what its interpolations hold. -/
def parseWith (expression : Production Expr) (source : String) : Except Fault Template :=
  match partsFrom expression source.toList with
  | .ok parts => .ok { source, parts }
  | .error (problem, rest) =>
    let column := source.toList.length - rest.length + 1
    .error (Fault.of (.template problem column source))

/-- Parses a template with a given limit on nesting. -/
def parseWithin (limit : Nat) (source : String) : Except Fault Template :=
  parseWith (expression limit) source

/-- Parses a template. -/
def parse (source : String) : Except Fault Template := parseWithin maxNesting source

/-- A parsed template keeps the text that it was parsed from. -/
theorem source_of_parse {source : String} {t : Template} (h : parse source = .ok t) :
    t.source = source := by
  unfold parse parseWithin parseWith at h
  split at h
  · cases h
    rfl
  · cases h

/-- A text that is no template is a fault about the text. -/
theorem exists_cause_of_parse_error {source : String} {fault : Fault}
    (h : parse source = .error fault) :
    ∃ problem column, fault = Fault.of (.template problem column source) := by
  unfold parse parseWithin parseWith at h
  split at h
  · cases h
  · cases h
    exact ⟨_, _, rfl⟩

/-- A text that is no template is a syntax error. -/
theorem kind_of_parse_error {source : String} {fault : Fault} (h : parse source = .error fault) :
    fault.kind = .parse := by
  obtain ⟨problem, column, rfl⟩ := exists_cause_of_parse_error h
  rfl

end TemplatedConfig.Template
