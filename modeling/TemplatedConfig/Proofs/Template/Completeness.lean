/-
# What the grammar derives is read by the parser

The parser looks one character ahead, so whether it reads a derivation depends on what follows.
`Avoids blocked text` says that the next character behind blanks is none of `blocked`.  With it
each rule of the grammar gets one statement:

* a production without a loop takes up the whole derivation (`Accepts`), unless something
  follows by which an operand would be longer;
* a production with a loop arrives in its loop, with the whole derivation read and the tree of it
  in hand (`Continues`).

The second form is what fits the left recursive rules: a longer row of operands is one more turn
of the loop.  The statements are proved together, by recursion over the derivation
(`sum_complete` and the theorems after it), for every level of nesting from the bound of the
derivation on.

The parser never has a choice, so a text has one derivation at most, and the main statement is
an equivalence: `parse_iff_derives`.
-/
import TemplatedConfig.Proofs.Template.Soundness

namespace TemplatedConfig.Grammar

open Template Text

/-! ## 1. What comes next -/

/-- The next character, blanks apart, is none of these. -/
def Avoids (blocked text : List Char) : Prop := ∀ c ∈ blocked, ∀ rest, skipBlanks text ≠ c :: rest

theorem Avoids.mono {blocked blocked' text : List Char} (h : Avoids blocked text)
    (hsub : blocked' ⊆ blocked) : Avoids blocked' text :=
  fun c hc => h c (hsub hc)

/-- A text with a known next character avoids all others. -/
theorem avoids_of_next {blocked text rest : List Char} {c : Char}
    (h : skipBlanks text = c :: rest) (hc : c ∉ blocked) : Avoids blocked text := by
  intro d hd rest' hd'
  rw [h] at hd'
  cases hd'
  exact hc hd

/-- A symbol is the next character. -/
theorem Lexes.uncons_symbol {c : Char} {text rest : List Char} {ts : List Token}
    (h : Lexes text (.symbol c :: ts) rest) :
    ∃ more, skipBlanks text = c :: more ∧ Lexes more ts rest := by
  obtain ⟨spelling, more, htext, hs, -, hmore⟩ := h.uncons
  cases hs
  exact ⟨more, htext, hmore⟩

/-- The tokens that a primary can begin with. -/
def Token.Opens : Token → Prop
  | symbol c => c = '('
  | _ => True

/-- A primary does not begin with a minus sign, and neither does it with a closing sign. -/
theorem Token.Opens.not_mem {t : Token} {c : Char} (h : t.Opens) (hc : t.Begins c) :
    c ∉ ['-', ')', '}'] := by
  have hdigit : ∀ d : Char, d.isDigit = true → d ∉ ['-', ')', '}'] := by
    intro d hd hmem
    simp only [List.mem_cons, List.not_mem_nil, or_false] at hmem
    rcases hmem with rfl | rfl | rfl <;> exact absurd hd (by decide)
  cases t with
  | integer _ => exact hdigit c hc
  | float _ => exact hdigit c hc
  | string _ => rw [show c = '\x22' from hc]; decide
  | name _ =>
    intro hmem
    simp only [List.mem_cons, List.not_mem_nil, or_false] at hmem
    rw [Begins] at hc
    rcases hmem with rfl | rfl | rfl <;> exact absurd hc (by decide +kernel)
  | symbol s => rw [hc.1, show s = '(' from h]; decide

/-- The first token of a primary opens it. -/
theorem Primary.first {n : Nat} {ts : List Token} {e : Expr} (h : Primary n ts e) :
    ∃ t rest, ts = t :: rest ∧ t.Opens := by
  cases h with
  | integer _ => exact ⟨_, _, rfl, trivial⟩
  | float => exact ⟨_, _, rfl, trivial⟩
  | string => exact ⟨_, _, rfl, trivial⟩
  | trueWord => exact ⟨_, _, rfl, trivial⟩
  | falseWord => exact ⟨_, _, rfl, trivial⟩
  | name _ _ => exact ⟨_, _, rfl, trivial⟩
  | bareCall => exact ⟨_, _, rfl, trivial⟩
  | call _ => exact ⟨_, _, rfl, trivial⟩
  | parenthesized _ _ => exact ⟨_, _, rfl, rfl⟩

mutual

theorem Indexed.first : ∀ {n : Nat} {ts : List Token} {e : Expr}, Indexed n ts e →
    ∃ t rest, ts = t :: rest ∧ t.Opens
  | _, _, _, .plain h => h.first
  | _, _, _, .index _ htarget _ => by
    obtain ⟨t, rest, rfl, ht⟩ := Indexed.first htarget
    exact ⟨t, _, rfl, ht⟩

/-- The first token of a signed operand opens it, if it is no minus sign. -/
theorem Unary.first : ∀ {n : Nat} {ts : List Token} {e : Expr}, Unary n ts e →
    ∃ t rest, ts = t :: rest ∧ (t = .symbol '-' ∨ t.Opens)
  | _, _, _, .plain h => by
    obtain ⟨t, rest, rfl, ht⟩ := Indexed.first h
    exact ⟨t, rest, rfl, .inr ht⟩
  | _, _, _, .minus _ _ => ⟨_, _, rfl, .inl rfl⟩

theorem Product.first : ∀ {n : Nat} {ts : List Token} {e : Expr}, Product n ts e →
    ∃ t rest, ts = t :: rest ∧ (t = .symbol '-' ∨ t.Opens)
  | _, _, _, .single h => Unary.first h
  | _, _, _, .join _ hl _ => by
    obtain ⟨t, rest, rfl, ht⟩ := Product.first hl
    exact ⟨t, _, rfl, ht⟩

theorem Sum.first : ∀ {n : Nat} {ts : List Token} {e : Expr}, Sum n ts e →
    ∃ t rest, ts = t :: rest ∧ (t = .symbol '-' ∨ t.Opens)
  | _, _, _, .single h => Product.first h
  | _, _, _, .join _ hl _ => by
    obtain ⟨t, rest, rfl, ht⟩ := Sum.first hl
    exact ⟨t, _, rfl, ht⟩

end

/-- An indexed primary is not mistaken for a signed operand. -/
theorem Indexed.avoids {n : Nat} {ts : List Token} {e : Expr} {text rest : List Char}
    (h : Indexed n ts e) (hts : Lexes text ts rest) : Avoids ['-'] text := by
  obtain ⟨t, ts', rfl, ht⟩ := h.first
  obtain ⟨spelling, more, htext, hs, -, -⟩ := hts.uncons
  obtain ⟨c, spelling', rfl, hbegins⟩ := hs.begins
  refine avoids_of_next htext fun hc => ht.not_mem hbegins ?_
  rw [List.mem_singleton.mp hc]
  exact List.mem_cons_self

/-- Blanks before an indexed primary may be left out. -/
theorem Indexed.skip {n : Nat} {ts : List Token} {e : Expr} {text rest : List Char}
    (h : Indexed n ts e) (hts : Lexes text ts rest) : Lexes (skipBlanks text) ts rest := by
  obtain ⟨t, ts', rfl, -⟩ := h.first
  exact hts.skip

/-- An expression is not mistaken for the end of one. -/
theorem Sum.avoids {n : Nat} {ts : List Token} {e : Expr} {text rest : List Char}
    (h : Sum n ts e) (hts : Lexes text ts rest) : Avoids [')', '}'] text := by
  obtain ⟨t, ts', rfl, ht⟩ := h.first
  obtain ⟨spelling, more, htext, hs, -, -⟩ := hts.uncons
  obtain ⟨c, spelling', rfl, hbegins⟩ := hs.begins
  refine avoids_of_next htext fun hc => ?_
  rcases ht with rfl | ht
  · rw [hbegins.1] at hc
    revert hc
    decide
  · exact ht.not_mem hbegins (List.mem_cons_of_mem _ hc)

/-! ## 2. Tokens are read as far as they go -/

/-- A run is cut off where it stops. -/
theorem takeWhile_dropWhile_of_stops {p : Char → Bool} {run rest : List Char}
    (hrun : ∀ c ∈ run, p c = true) (hrest : Stops p rest) :
    (run ++ rest).takeWhile p = run ∧ (run ++ rest).dropWhile p = rest := by
  have hstop : rest.takeWhile p = [] ∧ rest.dropWhile p = rest := by
    cases rest with
    | nil => exact ⟨rfl, rfl⟩
    | cons c more => simp [hrest c rfl]
  rw [List.takeWhile_append_of_pos hrun, List.dropWhile_append_of_pos hrun, hstop.1, hstop.2,
    List.append_nil]
  exact ⟨rfl, rfl⟩

/-- What stands in quotes is read up to the closing quote. -/
theorem stringBody_of_quoted {s body : List Char} (h : Quoted s body) (rest : List Char) :
    stringBody (body ++ rest) = .ok (s, rest) := by
  induction h with
  | close => rfl
  | plain hquote hbackslash _ ih =>
    rw [List.cons_append, stringBody, ih]
    · rfl
    · exact hquote
    · exact fun h _ => hbackslash h
    · exact fun _ _ h _ => hbackslash h
  | escape he _ ih =>
    rw [List.cons_append, List.cons_append, stringBody]
    simp only [he, ih]
    rfl

/-- An integer literal is read as far as its digits go. -/
theorem number_of_integer {digits rest : List Char} (hdigits : Run Char.isDigit digits)
    (hends : Token.Ends (.integer (Decimal.digitsValue digits)) rest)
    (hrange : Decimal.digitsValue digits ≤ maxInteger) :
    number (digits ++ rest)
      = .ok (.literal (.integer (Int64.ofNat (Decimal.digitsValue digits))), rest) := by
  obtain ⟨hstops, hpoint⟩ := hends
  obtain ⟨htake, hdrop⟩ := takeWhile_dropWhile_of_stops hdigits.2 hstops
  have hliteral : ∀ rest, integerLiteral digits rest
      = .ok (.literal (.integer (Int64.ofNat (Decimal.digitsValue digits))), rest) :=
    fun rest => if_pos hrange
  rw [number, htake, hdrop]
  split
  · rename_i d more
    have hd : d.isDigit = false := hpoint _ rfl d rfl
    rw [if_neg (by simp [hd]), hliteral]
  · exact hliteral rest

/-- A float literal is read as far as its digits go. -/
theorem number_of_float {whole fraction rest : List Char} (hwhole : Run Char.isDigit whole)
    (hfraction : Run Char.isDigit fraction) (hstops : Stops Char.isDigit rest) :
    number ((whole ++ '.' :: fraction) ++ rest)
      = .ok (.literal (.float (Decimal.nearest (Decimal.digitsValue (whole ++ fraction))
          (-fraction.length))), rest) := by
  obtain ⟨d, more, rfl⟩ := List.exists_cons_of_ne_nil hfraction.1
  have hd : d.isDigit = true := hfraction.2 d List.mem_cons_self
  have hpoint : Stops Char.isDigit ('.' :: d :: (more ++ rest)) := by
    intro c hc
    cases hc
    decide
  obtain ⟨htake, hdrop⟩ := takeWhile_dropWhile_of_stops hwhole.2 hpoint
  obtain ⟨htake', hdrop'⟩ := takeWhile_dropWhile_of_stops hfraction.2 hstops
  rw [List.cons_append] at htake' hdrop'
  rw [List.append_assoc, List.cons_append, List.cons_append, number, htake, hdrop]
  simp only [hd, if_true, htake', hdrop']

section

variable {nested : Production Expr} {c : Char} {text rest : List Char}

/-- The four ways in which a primary begins. -/
theorem primary_run_of_isDigit (htext : skipBlanks text = c :: rest) (hc : c.isDigit = true) :
    (primary nested).run text = number (c :: rest) := by
  change primaryFrom nested text = _
  rw [primaryFrom, htext]
  exact if_pos hc

theorem primary_run_of_quote (htext : skipBlanks text = '\x22' :: rest) :
    (primary nested).run text
      = (stringBody rest).mapTree fun s => .literal (.string (String.ofList s)) := by
  change primaryFrom nested text = _
  rw [primaryFrom, htext]
  rfl

theorem primary_run_of_open (htext : skipBlanks text = '(' :: rest) :
    (primary nested).run text = parenthesized nested rest := by
  change primaryFrom nested text = _
  rw [primaryFrom, htext]
  rfl

theorem primary_run_of_startsName (htext : skipBlanks text = c :: rest)
    (hc : startsName c = true) : (primary nested).run text = nameOrCall nested (c :: rest) := by
  -- digits, quotes and parentheses come before all letters
  have hlow := le_of_startsName hc
  have hdigit : ¬ c.isDigit = true := fun h => by
    have hhigh := (toNat_of_isDigit h).2
    omega
  have hquote : c ≠ '\x22' := by
    rintro rfl
    exact absurd hlow (by decide)
  have hopen : c ≠ '(' := by
    rintro rfl
    exact absurd hlow (by decide)
  change primaryFrom nested text = _
  rw [primaryFrom, htext]
  simp only [if_neg hdigit, if_neg hquote, if_neg hopen, if_pos hc]

/-- A name is read as far as it goes, and a parenthesis behind it makes it a call. -/
theorem nameOrCall_of_open {name : List Char} (hname : ∀ d ∈ name, continuesName d = true)
    (hstops : Stops continuesName text) (htext : skipBlanks text = '(' :: rest) :
    nameOrCall nested (name ++ text)
      = (arguments nested (String.ofList name) rest).mapTree (.call (String.ofList name)) := by
  obtain ⟨htake, hdrop⟩ := takeWhile_dropWhile_of_stops hname hstops
  simp only [nameOrCall, htake, hdrop, htext]

theorem nameOrCall_of_avoids {name : List Char} (hname : ∀ d ∈ name, continuesName d = true)
    (hstops : Stops continuesName text) (htext : Avoids ['('] text) :
    nameOrCall nested (name ++ text) = .ok (named (String.ofList name), skipBlanks text) := by
  obtain ⟨htake, hdrop⟩ := takeWhile_dropWhile_of_stops hname hstops
  simp only [nameOrCall, htake, hdrop]
  split
  · rename_i more hmore
    exact absurd hmore (htext '(' (by decide) more)
  · rfl

/-! ## 3. Turns of the loops -/

/-- The loop for arguments, with the proofs left out that make it end. -/
theorem argumentsFrom_eq (nested : Production Expr) (function : String) (text : List Char) :
    argumentsFrom nested function text = (nested.run text).bind fun (e, rest) =>
      match skipBlanks rest with
      | ',' :: more => (argumentsFrom nested function more).mapTree (e :: ·)
      | ')' :: more => .ok ([e], more)
      | other => .error (.badArguments function, other) := by
  rw [argumentsFrom]
  split
  · rename_i hrun
    rw [hrun]
    rfl
  · rename_i hrun
    simp only [hrun, Except.bind]
    split
    · simp_all
    · simp_all
    · split <;> simp_all

/-- The same for the loop for indexes, -/
theorem indexesFrom_eq (nested : Production Expr) (target : Expr) (text : List Char) :
    indexesFrom nested target text =
      match skipBlanks text with
      | '[' :: inner => (nested.run inner).bind fun (key, rest) =>
        match skipBlanks rest with
        | ']' :: more => indexesFrom nested (.index target key) more
        | other => .error (.unclosedIndex, other)
      | other => .ok (target, other) := by
  rw [indexesFrom]
  split
  · rename_i hopen
    simp only [hopen]
    split
    · rename_i hrun
      rw [hrun]
      rfl
    · rename_i hrun
      simp only [hrun, Except.bind]
      split
      · simp_all
      · split <;> simp_all
  · split <;> simp_all

/-- and for the loop for operators. -/
theorem chainFrom_eq (operator? : Char → Option Operator) (operand : Production Expr)
    (left : Expr) (text : List Char) :
    chainFrom operator? operand left text =
      match skipBlanks text with
      | [] => .ok (left, [])
      | c :: rest =>
        match operator? c with
        | none => .ok (left, c :: rest)
        | some op => (operand.run rest).bind fun (right, more) =>
          chainFrom operator? operand (.arithmetic op left right) more := by
  rw [chainFrom]
  split
  · rename_i htext
    rw [htext]
  · rename_i c rest htext
    simp only [htext]
    cases operator? c with
    | none => rfl
    | some op =>
      simp only
      split
      · rename_i hrun
        rw [hrun]
        rfl
      · rename_i hrun
        rw [hrun]
        rfl

/-- One more argument. -/
theorem argumentsFrom_of_comma {function : String} {e : Expr} {mid : List Char}
    (hrun : nested.run text = .ok (e, mid)) (hmid : skipBlanks mid = ',' :: rest) :
    argumentsFrom nested function text
      = (argumentsFrom nested function rest).mapTree (e :: ·) := by
  rw [argumentsFrom_eq, hrun]
  simp only [Except.bind, hmid]

/-- The last argument. -/
theorem argumentsFrom_of_close {function : String} {e : Expr} {mid : List Char}
    (hrun : nested.run text = .ok (e, mid)) (hmid : skipBlanks mid = ')' :: rest) :
    argumentsFrom nested function text = .ok ([e], rest) := by
  rw [argumentsFrom_eq, hrun]
  simp only [Except.bind, hmid]

/-- One more index. -/
theorem indexesFrom_of_index {target key : Expr} {inner mid : List Char}
    (htext : skipBlanks text = '[' :: inner) (hrun : nested.run inner = .ok (key, mid))
    (hmid : skipBlanks mid = ']' :: rest) :
    indexesFrom nested target text = indexesFrom nested (.index target key) rest := by
  rw [indexesFrom_eq]
  simp only [htext, hrun, Except.bind, hmid]

/-- No further index. -/
theorem indexesFrom_of_avoids {target : Expr} (htext : Avoids ['['] text) :
    indexesFrom nested target text = .ok (target, skipBlanks text) := by
  rw [indexesFrom_eq]
  split
  · rename_i more hmore
    exact absurd hmore (htext '[' (by decide) more)
  · rfl

end

section

variable {operator? : Char → Option Operator} {operand : Production Expr} {left : Expr}
  {text rest : List Char}

/-- One more operand. -/
theorem chainFrom_of_operator {c : Char} {op : Operator} {right : Expr} {mid : List Char}
    (htext : skipBlanks text = c :: mid) (hc : operator? c = some op)
    (hrun : operand.run mid = .ok (right, rest)) :
    chainFrom operator? operand left text
      = chainFrom operator? operand (.arithmetic op left right) rest := by
  rw [chainFrom_eq]
  simp only [htext, hc, hrun, Except.bind]

/-- No further operand. -/
theorem chainFrom_of_no_operator
    (htext : ∀ c rest, skipBlanks text = c :: rest → operator? c = none) :
    chainFrom operator? operand left text = .ok (left, skipBlanks text) := by
  rw [chainFrom_eq]
  split
  · rename_i h
    rw [h]
  · rename_i c rest' h
    rw [htext c rest' h, h]

end

/-! ## 4. Taking up a derivation -/

/-- The production takes up a text, with the tree `e`, up to where `rest` is left.  It may leave
the blanks before `rest` out. -/
def Accepts (p : Production Expr) (e : Expr) (text rest : List Char) : Prop :=
  ∃ rest', p.run text = .ok (e, rest') ∧ skipBlanks rest' = skipBlanks rest

/-- The production arrives in its loop, with the tree `e` in hand, where `rest` is left. -/
def Continues (p : Production Expr) (loop : Expr → List Char → Reading Expr) (e : Expr)
    (text rest : List Char) : Prop :=
  ∃ rest', p.run text = loop e rest' ∧ skipBlanks rest' = skipBlanks rest

section

variable {p operand nested : Production Expr} {operator? : Char → Option Operator}
  {e left right target key : Expr} {text rest mid mid' : List Char}

/-- What the first operand is made of is in hand when the loop for operators begins. -/
theorem Accepts.joined (h : Accepts operand e text rest) :
    Continues (joined operator? operand) (chainFrom operator? operand) e text rest := by
  obtain ⟨rest', hrun, hskip⟩ := h
  exact ⟨rest', by simp only [Template.joined, Production.andThen, hrun], hskip⟩

/-- One more turn of the loop for operators. -/
theorem Continues.operator {c : Char} {op : Operator}
    (h : Continues p (chainFrom operator? operand) left text mid)
    (hmid : skipBlanks mid = c :: mid') (hc : operator? c = some op)
    (hright : Accepts operand right mid' rest) :
    Continues p (chainFrom operator? operand) (.arithmetic op left right) text rest := by
  obtain ⟨rest₁, hrun, hskip⟩ := h
  obtain ⟨rest₂, hrun', hskip'⟩ := hright
  refine ⟨rest₂, ?_, hskip'⟩
  rw [hrun]
  exact chainFrom_of_operator (hskip.trans hmid) hc hrun'

/-- The loop for operators ends. -/
theorem Continues.no_operator {blocked : List Char}
    (h : Continues p (chainFrom operator? operand) e text rest)
    (hblocked : ∀ c op, operator? c = some op → c ∈ blocked) (hrest : Avoids blocked rest) :
    Accepts p e text rest := by
  obtain ⟨rest', hrun, hskip⟩ := h
  refine ⟨skipBlanks rest', ?_, by rw [skipBlanks_skipBlanks, hskip]⟩
  rw [hrun]
  refine chainFrom_of_no_operator fun c more hmore => ?_
  cases hc : operator? c with
  | none => rfl
  | some op => exact absurd (hskip.symm.trans hmore) (hrest c (hblocked c op hc) more)

/-- The same for the loop for indexes. -/
theorem Accepts.indexed (h : Accepts (primary nested) e text rest) :
    Continues (indexed nested) (indexesFrom nested) e text rest := by
  obtain ⟨rest', hrun, hskip⟩ := h
  exact ⟨rest', by simp only [Template.indexed, Production.andThen, hrun], hskip⟩

/-- One more turn of the loop for indexes. -/
theorem Continues.index {rest' : List Char}
    (h : Continues p (indexesFrom nested) target text mid) (hmid : skipBlanks mid = '[' :: mid')
    {behind : List Char} (hkey : Accepts nested key mid' behind)
    (hend : skipBlanks behind = ']' :: rest') (hrest : Lexes rest' [] rest) :
    Continues p (indexesFrom nested) (.index target key) text rest := by
  obtain ⟨rest₁, hrun, hskip⟩ := h
  obtain ⟨rest₂, hrun', hskip'⟩ := hkey
  refine ⟨rest', ?_, hrest.skipBlanks_eq⟩
  rw [hrun]
  exact indexesFrom_of_index (hskip.trans hmid) hrun' (hskip'.trans hend)

/-- The loop for indexes ends. -/
theorem Continues.no_index (h : Continues p (indexesFrom nested) e text rest)
    (hrest : Avoids ['['] rest) : Accepts p e text rest := by
  obtain ⟨rest', hrun, hskip⟩ := h
  refine ⟨skipBlanks rest', ?_, by rw [skipBlanks_skipBlanks, hskip]⟩
  rw [hrun]
  refine indexesFrom_of_avoids fun c hc more hmore => ?_
  exact hrest c hc more (hskip.symm.trans hmore)

/-- The loop of a product ends where no operator of a product follows. -/
theorem Continues.end_product
    (h : Continues (joined productOperator? operand) (chainFrom productOperator? operand) e text
      rest)
    (hrest : Avoids ['*', '/', '%'] rest) :
    Accepts (joined productOperator? operand) e text rest := by
  refine h.no_operator (fun c op hc => ?_) hrest
  obtain ⟨hop, rfl⟩ := productOperator?_eq_some_iff.mp hc
  rcases hop with rfl | rfl | rfl <;> decide

/-- The loop of a sum ends where no operator of a sum follows. -/
theorem Continues.end_sum
    (h : Continues (sum operand) (chainFrom sumOperator? (joined productOperator? operand)) e text
      rest)
    (hrest : Avoids ['+', '-'] rest) : Accepts (sum operand) e text rest := by
  refine h.no_operator (fun c op hc => ?_) hrest
  obtain ⟨hop, rfl⟩ := sumOperator?_eq_some_iff.mp hc
  rcases hop with rfl | rfl <;> decide

/-! ## 5. Primaries -/

theorem accepts_integer {value : Nat} (hrange : value ≤ maxInteger)
    (hts : Lexes text [.integer value] rest) :
    Accepts (primary nested) (.literal (.integer (Int64.ofNat value))) text rest := by
  obtain ⟨spelling, more, htext, hs, hends, hmore⟩ := hts.uncons
  cases hs with
  | integer hdigits =>
    obtain ⟨c, digits, rfl⟩ := List.exists_cons_of_ne_nil hdigits.1
    refine ⟨more, ?_, hmore.skipBlanks_eq⟩
    rw [primary_run_of_isDigit htext (hdigits.2 c List.mem_cons_self)]
    exact number_of_integer hdigits hends hrange

theorem accepts_float {value : Float} (hts : Lexes text [.float value] rest) :
    Accepts (primary nested) (.literal (.float value)) text rest := by
  obtain ⟨spelling, more, htext, hs, hends, hmore⟩ := hts.uncons
  cases hs with
  | float hwhole hfraction =>
    refine ⟨more, ?_, hmore.skipBlanks_eq⟩
    have hnumber := number_of_float hwhole hfraction hends
    obtain ⟨c, digits, rfl⟩ := List.exists_cons_of_ne_nil hwhole.1
    rw [primary_run_of_isDigit htext (hwhole.2 c List.mem_cons_self)]
    exact hnumber

theorem accepts_string {s : String} (hts : Lexes text [.string s] rest) :
    Accepts (primary nested) (.literal (.string s)) text rest := by
  obtain ⟨spelling, more, htext, hs, -, hmore⟩ := hts.uncons
  cases hs with
  | string hbody =>
    rw [List.cons_append] at htext
    refine ⟨more, ?_, hmore.skipBlanks_eq⟩
    rw [primary_run_of_quote htext, stringBody_of_quoted hbody]
    rfl

/-- A name alone, if no parenthesis follows. -/
theorem accepts_name {name : String} (hts : Lexes text [.name name] rest)
    (hrest : Avoids ['('] rest) : Accepts (primary nested) (named name) text rest := by
  obtain ⟨spelling, more, htext, hs, hends, hmore⟩ := hts.uncons
  cases hs with
  | @name c name hc hname =>
    have havoids : Avoids ['('] more := fun d hd rest' hrest' =>
      hrest d hd rest' (hmore.skipBlanks_eq.symm.trans hrest')
    refine ⟨skipBlanks more, ?_, by rw [skipBlanks_skipBlanks, hmore.skipBlanks_eq]⟩
    rw [primary_run_of_startsName htext hc]
    exact nameOrCall_of_avoids (forall_continuesName hc hname) hends havoids

theorem accepts_variable {name : String} (htrue : name ≠ "true") (hfalse : name ≠ "false")
    (hts : Lexes text [.name name] rest) (hrest : Avoids ['('] rest) :
    Accepts (primary nested) (.variable name) text rest := by
  have hnamed : named name = .variable name := by rw [named, if_neg htrue, if_neg hfalse]
  rw [← hnamed]
  exact accepts_name hts hrest

/-- A call, if its arguments are taken up. -/
theorem accepts_call {function : String} {ts : List Token} {es : List Expr}
    (hts : Lexes text (.name function :: .symbol '(' :: (ts ++ [.symbol ')'])) rest)
    (harguments : ∀ inner mid more, Lexes inner ts mid → skipBlanks mid = ')' :: more →
      arguments nested function inner = .ok (es, more)) :
    Accepts (primary nested) (.call function es) text rest := by
  obtain ⟨spelling, more, htext, hs, hends, hmore⟩ := hts.uncons
  obtain ⟨inner, hopen, hinner⟩ := hmore.uncons_symbol
  obtain ⟨mid, hlexes, hmid⟩ := hinner.split
  obtain ⟨rest', hclose, hrest'⟩ := hmid.uncons_symbol
  cases hs with
  | @name c name hc hname =>
    refine ⟨rest', ?_, hrest'.skipBlanks_eq⟩
    rw [primary_run_of_startsName htext hc]
    refine (nameOrCall_of_open (forall_continuesName hc hname) hends hopen).trans ?_
    rw [harguments inner mid rest' hlexes hclose]
    rfl

/-- An expression in parentheses, if it is taken up. -/
theorem accepts_parenthesized {ts : List Token}
    (hts : Lexes text (.symbol '(' :: (ts ++ [.symbol ')'])) rest)
    (hnested : ∀ inner mid more, Lexes inner ts mid → skipBlanks mid = ')' :: more →
      Accepts nested e inner mid) : Accepts (primary nested) e text rest := by
  obtain ⟨inner, hopen, hinner⟩ := hts.uncons_symbol
  obtain ⟨mid, hts, hmid⟩ := hinner.split
  obtain ⟨rest', hclose, hrest'⟩ := hmid.uncons_symbol
  obtain ⟨mid', hrun, hskip⟩ := hnested inner mid rest' hts hclose
  refine ⟨rest', ?_, hrest'.skipBlanks_eq⟩
  rw [primary_run_of_open hopen]
  unfold parenthesized
  simp only [hrun, hskip, hclose]

end

/-! ## 6. The rules -/

/-- What would make a product longer, or an operand in it. -/
def productBlocked : List Char := ['(', '[', '*', '/', '%']

/-- What would make a sum longer, or an operand in it. -/
def sumBlocked : List Char := ['(', '[', '*', '/', '%', '+', '-']

/-- Behind a minus sign stands an operand of the level below. -/
theorem unary_run_of_minus {k : Nat} {text rest : List Char}
    (htext : skipBlanks text = '-' :: rest) :
    (unary (k + 1)).run text = ((unary k).run rest).mapTree negated := by
  change (unaryFrom negated (unary k) (sum (unary k))).run text = _
  simp only [unaryFrom, htext]

/-- Without a minus sign stands an indexed primary. -/
theorem unary_run_of_avoids {k : Nat} {text : List Char} (htext : Avoids ['-'] text) :
    (unary k).run text = (indexed (expression k)).run (skipBlanks text) := by
  have hrun : ∀ signed nested : Production Expr,
      (unaryFrom negated signed nested).run text = (indexed nested).run (skipBlanks text) := by
    intro signed nested
    simp only [unaryFrom]
    split
    · rename_i rest hrest
      exact absurd hrest (htext '-' List.mem_cons_self rest)
    · rfl
  cases k with
  | zero => exact hrun _ _
  | succ k => exact hrun _ _

/-- A nested expression is a sum of the level below. -/
theorem accepts_expression {m k : Nat} {e : Expr} {text rest : List Char} (hk : m < k)
    (h : ∀ k', m ≤ k' → Avoids productBlocked rest → Continues (sum (unary k'))
      (chainFrom sumOperator? (joined productOperator? (unary k'))) e text rest)
    (hrest : Avoids sumBlocked rest) : Accepts (expression k) e text rest := by
  cases k with
  | zero => omega
  | succ k =>
    exact (h k (by omega) (hrest.mono (by decide))).end_sum (hrest.mono (by decide))

/-- Arguments do not begin with the parenthesis that ends them. -/
theorem Arguments.avoids {n : Nat} {ts : List Token} {es : List Expr} {text rest : List Char}
    (h : Arguments n ts es) (hts : Lexes text ts rest) : Avoids [')'] text := by
  cases h with
  | last _ hsum => exact (hsum.avoids hts).mono (by decide)
  | more _ hsum _ =>
    obtain ⟨mid, hfirst, -⟩ := hts.split
    exact (hsum.avoids hfirst).mono (by decide)

/-- Blanks before arguments may be left out. -/
theorem Arguments.skip {n : Nat} {ts : List Token} {es : List Expr} {text rest : List Char}
    (h : Arguments n ts es) (hts : Lexes text ts rest) : Lexes (skipBlanks text) ts rest := by
  cases h with
  | last _ hsum =>
    obtain ⟨t, ts', rfl, -⟩ := hsum.first
    exact hts.skip
  | more _ hsum _ =>
    obtain ⟨t, ts', rfl, -⟩ := hsum.first
    exact hts.skip

mutual

/-- **Sums**: the parser arrives in the loop for `+` and `-`. -/
theorem sum_complete : ∀ {n : Nat} {ts : List Token} {e : Expr}, Sum n ts e →
    ∀ {k : Nat}, n ≤ k → ∀ {text rest : List Char}, Lexes text ts rest →
    Avoids productBlocked rest →
    Continues (sum (unary k)) (chainFrom sumOperator? (joined productOperator? (unary k))) e text
      rest
  | _, _, _, .single h, _, hk, _, _, hts, hrest => by
    have hproduct := product_complete h hk hts (hrest.mono (by decide))
    exact (hproduct.end_product (hrest.mono (by decide))).joined
  | _, _, _, .join hop hl hr, _, hk, _, _, hts, hrest => by
    obtain ⟨mid, hleft, hmid⟩ := hts.split
    obtain ⟨mid', hsymbol, hright⟩ := hmid.uncons_symbol
    -- the sign that follows the left part makes no product longer
    have hblocked : Avoids productBlocked mid :=
      avoids_of_next hsymbol (by rcases hop with rfl | rfl <;> decide)
    have hproduct := product_complete hr hk hright (hrest.mono (by decide))
    exact (sum_complete hl hk hleft hblocked).operator hsymbol
      (sumOperator?_eq_some_iff.mpr ⟨hop, rfl⟩) (hproduct.end_product (hrest.mono (by decide)))

/-- **Products**: the parser arrives in the loop for `*`, `/` and `%`. -/
theorem product_complete : ∀ {n : Nat} {ts : List Token} {e : Expr}, Product n ts e →
    ∀ {k : Nat}, n ≤ k → ∀ {text rest : List Char}, Lexes text ts rest →
    Avoids ['(', '['] rest →
    Continues (joined productOperator? (unary k)) (chainFrom productOperator? (unary k)) e text
      rest
  | _, _, _, .single h, _, hk, _, _, hts, hrest => (unary_complete h hk hts hrest).joined
  | _, _, _, .join hop hl hr, _, hk, _, _, hts, hrest => by
    obtain ⟨mid, hleft, hmid⟩ := hts.split
    obtain ⟨mid', hsymbol, hright⟩ := hmid.uncons_symbol
    have hblocked : Avoids ['(', '['] mid :=
      avoids_of_next hsymbol (by rcases hop with rfl | rfl | rfl <;> decide)
    exact (product_complete hl hk hleft hblocked).operator hsymbol
      (productOperator?_eq_some_iff.mpr ⟨hop, rfl⟩) (unary_complete hr hk hright hrest)

/-- **Signed operands** are taken up. -/
theorem unary_complete : ∀ {n : Nat} {ts : List Token} {e : Expr}, Unary n ts e →
    ∀ {k : Nat}, n ≤ k → ∀ {text rest : List Char}, Lexes text ts rest →
    Avoids ['(', '['] rest → Accepts (unary k) e text rest
  | _, _, _, .plain h, _, hk, _, _, hts, hrest => by
    have hindexed := indexed_complete h hk (h.skip hts) (hrest.mono (by decide))
    obtain ⟨rest', hrest', hskip'⟩ := hindexed.no_index (hrest.mono (by decide))
    exact ⟨rest', (unary_run_of_avoids (h.avoids hts)).trans hrest', hskip'⟩
  | _, _, _, .minus hm h, k, hk, _, _, hts, hrest => by
    obtain ⟨more, hsymbol, hmore⟩ := hts.uncons_symbol
    -- the operand is nested less deeply, so there is a level left for it
    obtain ⟨k, rfl⟩ : ∃ k', k = k' + 1 := ⟨k - 1, by omega⟩
    obtain ⟨rest', hrun, hskip⟩ := unary_complete h (k := k) (by omega) hmore hrest
    exact ⟨rest', by rw [unary_run_of_minus hsymbol, hrun]; rfl, hskip⟩

/-- **Indexed primaries**: the parser arrives in the loop for indexes. -/
theorem indexed_complete : ∀ {n : Nat} {ts : List Token} {e : Expr}, Indexed n ts e →
    ∀ {k : Nat}, n ≤ k → ∀ {text rest : List Char}, Lexes text ts rest → Avoids ['('] rest →
    Continues (indexed (expression k)) (indexesFrom (expression k)) e text rest
  | _, _, _, .plain h, _, hk, _, _, hts, hrest => (primary_complete h hk hts hrest).indexed
  | _, _, _, .index hm htarget hkey, _, hk, _, _, hts, hrest => by
    obtain ⟨mid, hbefore, hmid⟩ := hts.split
    obtain ⟨inner, hopen, hinner⟩ := hmid.uncons_symbol
    obtain ⟨mid', hbetween, hmid'⟩ := hinner.split
    obtain ⟨rest', hclose, hrest'⟩ := hmid'.uncons_symbol
    have hblocked : Avoids ['('] mid := avoids_of_next hopen (by decide)
    have hblocked' : Avoids sumBlocked mid' := avoids_of_next hclose (by decide)
    have hexpression : Accepts (expression _) _ inner mid' :=
      accepts_expression (Nat.lt_of_lt_of_le hm hk)
        (fun _ hk' => sum_complete hkey hk' hbetween) hblocked'
    exact (indexed_complete htarget hk hbefore hblocked).index hopen hexpression hclose hrest'

/-- **Primaries** are taken up. -/
theorem primary_complete : ∀ {n : Nat} {ts : List Token} {e : Expr}, Primary n ts e →
    ∀ {k : Nat}, n ≤ k → ∀ {text rest : List Char}, Lexes text ts rest → Avoids ['('] rest →
    Accepts (primary (expression k)) e text rest
  | _, _, _, .integer hrange, _, _, _, _, hts, _ => accepts_integer hrange hts
  | _, _, _, .float, _, _, _, _, hts, _ => accepts_float hts
  | _, _, _, .string, _, _, _, _, hts, _ => accepts_string hts
  | _, _, _, .trueWord, _, _, _, _, hts, hrest => accepts_name hts hrest
  | _, _, _, .falseWord, _, _, _, _, hts, hrest => accepts_name hts hrest
  | _, _, _, .name htrue hfalse, _, _, _, _, hts, hrest =>
    accepts_variable htrue hfalse hts hrest
  | _, _, _, .bareCall, _, _, _, _, hts, _ => by
    have hts' : Lexes _ (.name _ :: .symbol '(' :: ([] ++ [.symbol ')'])) _ := hts
    refine accepts_call hts' fun inner mid more hinner hmid => ?_
    unfold arguments
    rw [hinner.skipBlanks_eq, hmid]
    rfl
  | _, _, _, .call h, _, hk, _, _, hts, _ => by
    refine accepts_call hts fun inner mid more hinner hmid => ?_
    unfold arguments
    split
    · rename_i rest hrest
      exact absurd hrest (h.avoids hinner ')' List.mem_cons_self rest)
    · exact arguments_complete h hk (h.skip hinner) hmid
  | _, _, _, .parenthesized hm h, _, hk, _, _, hts, _ =>
    accepts_parenthesized hts fun _ _ _ hinner hmid =>
      have hblocked : Avoids sumBlocked _ := avoids_of_next hmid (by decide)
      accepts_expression (Nat.lt_of_lt_of_le hm hk)
        (fun _ hk' => sum_complete h hk' hinner) hblocked

/-- **Arguments** are taken up, with the parenthesis behind them. -/
theorem arguments_complete : ∀ {n : Nat} {ts : List Token} {es : List Expr}, Arguments n ts es →
    ∀ {k : Nat}, n ≤ k → ∀ {function : String} {text mid rest : List Char}, Lexes text ts mid →
    skipBlanks mid = ')' :: rest →
    argumentsFrom (expression k) function text = .ok (es, rest)
  | _, _, _, .last hm h, _, hk, _, _, _, _, hts, hmid => by
    have hblocked : Avoids sumBlocked _ := avoids_of_next hmid (by decide)
    obtain ⟨mid', hrun, hskip⟩ := accepts_expression (Nat.lt_of_lt_of_le hm hk)
      (fun _ hk' => sum_complete h hk' hts) hblocked
    exact argumentsFrom_of_close hrun (hskip.trans hmid)
  | _, _, _, .more hm h hrest, _, hk, _, _, _, _, hts, hmid => by
    obtain ⟨mid₁, hfirst, hmid₁⟩ := hts.split
    obtain ⟨more, hcomma, hmore⟩ := hmid₁.uncons_symbol
    have hblocked : Avoids sumBlocked mid₁ := avoids_of_next hcomma (by decide)
    obtain ⟨mid', hrun, hskip⟩ := accepts_expression (Nat.lt_of_lt_of_le hm hk)
      (fun _ hk' => sum_complete h hk' hfirst) hblocked
    rw [argumentsFrom_of_comma hrun (hskip.trans hcomma), arguments_complete hrest hk hmore hmid]
    rfl

end

/-! ## 7. Templates -/

/-- An interpolation is read up to its closing brace. -/
theorem interpolation_complete {n limit : Nat} {text rest : List Char} {ts : List Token}
    {e : Expr} (hn : n < limit) (h : Sum n ts e) (hts : Lexes text ts ('}' :: rest)) :
    interpolation (expression limit) text = .ok (e, rest) := by
  have hbrace : skipBlanks ('}' :: rest) = '}' :: rest := skipBlanks_of_not_isBlank (by decide)
  have hblocked : Avoids sumBlocked ('}' :: rest) := avoids_of_next hbrace (by decide)
  have hskip : Lexes (skipBlanks text) ts ('}' :: rest) := by
    obtain ⟨t, ts', rfl, -⟩ := h.first
    exact hts.skip
  obtain ⟨rest', hrun, hrest'⟩ := accepts_expression hn
    (fun _ hk' => sum_complete h hk' hskip) hblocked
  unfold interpolation
  split
  · rename_i more hmore
    exact absurd hmore (h.avoids hts '}' (by decide) more)
  · simp only [hrun, hrest', hbrace]

/-- Putting text in front twice is putting it in front once. -/
theorem consText_consText (text text' : List Char) (parts : List Part) :
    consText text (consText text' parts) = consText (text ++ text') parts := by
  cases parts with
  | nil => simp [consText]
  | cons part rest => cases part <;> simp [consText, String.append_assoc]

/-- Where nothing opens, text is taken up to the next opening. -/
theorem partsFrom_of_not_opening {p : Production Expr} {c : Char} {text : List Char}
    (h : atOpening (c :: text) = false) :
    partsFrom p (c :: text)
      = (partsFrom p (literalRun text).2).map (consText (c :: (literalRun text).1)) := by
  rw [partsFrom]
  · rintro rest ⟨⟩ rfl
    cases h
  · rintro rest ⟨⟩ rfl
    cases h

/-- Where an interpolation opens, its expression is taken up. -/
theorem partsFrom_of_interpolation (p : Production Expr) (text : List Char) :
    partsFrom p ('$' :: '{' :: text) = (interpolation p text).bind fun (e, more) =>
      (partsFrom p more).map (.interpolation e :: ·) := by
  rw [partsFrom]
  split <;> rename_i hrun <;> rw [hrun] <;> rfl

/-- The text up to the next opening may be taken up one character at a time. -/
theorem partsFrom_cons {p : Production Expr} {c : Char} {text : List Char}
    (h : atOpening (c :: text) = false) :
    partsFrom p (c :: text) = (partsFrom p text).map (consText [c]) := by
  rw [partsFrom_of_not_opening h]
  cases text with
  | nil => rfl
  | cons d rest =>
    rw [literalRun]
    by_cases hd : atOpening (d :: rest) = true
    · rw [if_pos hd]
    · rw [if_neg hd, partsFrom_of_not_opening (by simpa using hd)]
      cases partsFrom p (literalRun rest).2 with
      | error e => rfl
      | ok parts => simp only [Except.map, consText_consText, List.singleton_append]

/-- The parts that pieces are put together to. -/
def gather : List Piece → List Part
  | [] => []
  | .character c :: rest => consText [c] (gather rest)
  | .expression e :: rest => .interpolation e :: gather rest

/-- Characters in a row are gathered into one literal. -/
theorem gather_characters {text : List Char} (htext : text ≠ []) (pieces : List Piece) :
    gather (text.map .character ++ pieces) = consText text (gather pieces) := by
  induction text with
  | nil => exact absurd rfl htext
  | cons c rest ih =>
    rw [List.map_cons, List.cons_append, gather]
    cases rest with
    | nil => rfl
    | cons d more => rw [ih (by simp), consText_consText, List.singleton_append]

/-- Merged parts are the only ones with their pieces. -/
theorem gather_spread : ∀ parts : List Part, Merged parts → gather (spread parts) = parts
  | [], _ => rfl
  | .interpolation e :: rest, h => by rw [spread, gather, gather_spread rest h]
  | .literal text :: rest, ⟨htext, hrest, hhead⟩ => by
    have hchars : text.toList ≠ [] := fun h => htext (String.toList_eq_nil_iff.mp h)
    rw [spread, gather_characters hchars, gather_spread rest hrest]
    cases rest with
    | nil => simp [consText]
    | cons part more =>
      cases part with
      | literal t => exact absurd rfl (hhead t)
      | interpolation e => simp [consText]

/-- What reads as pieces is parsed to the parts that they are put together to. -/
theorem partsFrom_of_reads {limit : Nat} {text : List Char} {pieces : List Piece}
    (h : Reads limit text pieces) : partsFrom (expression limit) text = .ok (gather pieces) := by
  induction h with
  | nil => rw [partsFrom]; rfl
  | escape _ ih =>
    rw [partsFrom, ih, gather, gather, consText_consText]
    rfl
  | interpolation hn hsum hts _ ih =>
    rw [partsFrom_of_interpolation, interpolation_complete hn hsum hts]
    simp only [Except.bind, ih]
    rfl
  | character hopening _ ih =>
    rw [partsFrom_cons hopening, ih]
    rfl

/-- **The parser reads every derivation.** -/
theorem partsFrom_of_derives {limit : Nat} {text : List Char} {parts : List Part}
    (h : Derives limit text parts) : partsFrom (expression limit) text = .ok parts := by
  rw [partsFrom_of_reads h.1, gather_spread parts h.2]

/-- Parsing is reading the parts of the text. -/
theorem parseWithin_eq_ok_iff {limit : Nat} {source : String} {t : Template} :
    parseWithin limit source = .ok t
      ↔ t.source = source ∧ partsFrom (expression limit) source.toList = .ok t.parts := by
  unfold parseWithin parseWith
  constructor
  · intro h
    split at h
    · rename_i parts hparts
      cases h
      exact ⟨rfl, hparts⟩
    · cases h
  · rintro ⟨rfl, hparts⟩
    rw [hparts]

/-- Parsing is reading the pieces of the text and gathering them. -/
theorem parseWithin_eq_ok_iff_reads {limit : Nat} {source : String} {t : Template} :
    parseWithin limit source = .ok t
      ↔ ∃ pieces, Reads limit source.toList pieces ∧ t = ⟨source, gather pieces⟩ := by
  rw [parseWithin_eq_ok_iff]
  constructor
  · rintro ⟨rfl, hparts⟩
    obtain ⟨hreads, hmerged⟩ := derives_of_partsFrom hparts
    exact ⟨spread t.parts, hreads, by rw [gather_spread t.parts hmerged]⟩
  · rintro ⟨pieces, hreads, rfl⟩
    exact ⟨rfl, partsFrom_of_reads hreads⟩

/-- A bound on nesting may be raised. -/
theorem Reads.mono {limit limit' : Nat} {text : List Char} {pieces : List Piece}
    (h : Reads limit text pieces) (hle : limit ≤ limit') : Reads limit' text pieces := by
  induction h with
  | nil => exact .nil
  | escape _ ih => exact .escape ih
  | interpolation hn hsum hts _ ih =>
    exact .interpolation (Nat.lt_of_lt_of_le hn hle) hsum hts ih
  | character hopening _ ih => exact .character hopening ih

/-- **Parsing is the grammar.**  A text parses to a template exactly if the parts of the template
are derived from the text, with expressions nested less than `maxNesting` levels deep.  And a
text has one derivation at most, however deep it is nested. -/
theorem parse_iff_derives (source : String) :
    (∀ t : Template, parse source = .ok t
      ↔ t.source = source ∧ Derives maxNesting source.toList t.parts)
    ∧ ∀ (limit limit' : Nat) (parts parts' : List Part), Derives limit source.toList parts →
      Derives limit' source.toList parts' → parts = parts' := by
  refine ⟨fun t => ⟨fun h => ?_, fun ⟨hsource, hderives⟩ => ?_⟩, ?_⟩
  · unfold parse parseWithin parseWith at h
    split at h
    · rename_i parts hparts
      cases h
      exact ⟨rfl, derives_of_partsFrom hparts⟩
    · cases h
  · obtain ⟨source', parts⟩ := t
    cases hsource
    unfold parse parseWithin parseWith
    rw [partsFrom_of_derives hderives]
  · intro limit limit' parts parts' h h'
    have hparts := partsFrom_of_derives ⟨h.1.mono (Nat.le_max_left limit limit'), h.2⟩
    have hparts' := partsFrom_of_derives ⟨h'.1.mono (Nat.le_max_right limit limit'), h'.2⟩
    rw [hparts] at hparts'
    exact Except.ok.inj hparts'

namespace Example

/-- The tokens of a product with a sign in it. -/
def tokens : List Token := [.symbol '-', .integer 2, .symbol '*', .name "x"]

/-- Their tree.  The sign is part of the numeral. -/
def tree : Expr := .arithmetic .mul (.literal (.integer (-2))) (.variable "x")

theorem lexes_tokens : Lexes [' ', '-', '2', ' ', '*', 'x', '}'] tokens ['}'] := by
  have hx : Lexes ['x', '}'] [.name "x"] ['}'] := by
    refine @Lexes.token _ ['x'] _ _ _ (.name (by decide) (by simp)) ?_ .done
    rintro c ⟨⟩
    decide +kernel
  have htimes : Lexes [' ', '*', 'x', '}'] [.symbol '*', .name "x"] ['}'] :=
    .blank (by decide) (@Lexes.token _ ['*'] _ _ _ (.symbol (by decide)) trivial hx)
  have htwo : Lexes ['2', ' ', '*', 'x', '}'] [.integer 2, .symbol '*', .name "x"] ['}'] := by
    have hdigit : Spelled (.integer 2) ['2'] :=
      @Spelled.integer ['2'] ⟨by simp, List.forall_mem_singleton.mpr (by decide)⟩
    refine @Lexes.token _ _ _ _ _ hdigit ⟨?_, ?_⟩ htimes
    · rintro c ⟨⟩
      decide
    · rintro rest ⟨⟩
  exact .blank (by decide) (@Lexes.token _ ['-'] _ _ _ (.symbol (by decide)) trivial htwo)

theorem sum_tokens : Sum 1 tokens tree := by
  have htwo : Unary 0 [.integer 2] (.literal (.integer 2)) :=
    .plain (.plain (.integer (by decide)))
  have hx : Unary 1 [.name "x"] (.variable "x") :=
    .plain (.plain (.name (by decide) (by decide)))
  exact .single (@Product.join _ _ [.symbol '-', .integer 2] _ _ _ (.inl rfl)
    (.single (.minus Nat.zero_lt_one htwo)) hx)

/-- A literal, and an interpolation with blanks in it. -/
theorem parse_product :
    Derives maxNesting "a${ -2 *x}".toList [.literal "a", .interpolation tree]
      ∧ parse "a${ -2 *x}" = .ok ⟨"a${ -2 *x}", [.literal "a", .interpolation tree]⟩ := by
  have hderives : Derives maxNesting "a${ -2 *x}".toList [.literal "a", .interpolation tree] := by
    constructor
    · exact .character (by decide) (.interpolation (by decide) sum_tokens lexes_tokens .nil)
    · exact ⟨by decide, trivial, fun t h => nomatch h⟩
  exact ⟨hderives, ((parse_iff_derives "a${ -2 *x}").1 _).mpr ⟨rfl, hderives⟩⟩

end Example

end TemplatedConfig.Grammar
