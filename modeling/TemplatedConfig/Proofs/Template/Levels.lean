/-
# Levels of nesting in a row of tokens

How deep an interpolation nests is a matter of its text: parentheses leave no trace in the tree,
and neither does the minus sign of a numeral.  This file reads it off the tokens, from left to
right and without a grammar.  A bracket encloses what stands up to its counterpart, and a minus
sign encloses its operand, which ends at the next operator, comma or closing bracket that is not
inside brackets of its own.  The `level` of a token is the number of brackets and signs around it,
and `nestingOf` is the highest level of a number, a string or a name.

A minus sign is a sign if an operand is awaited and an operator otherwise, so the reader keeps
track of that (`Place`).

* What a rule of the grammar derives is read back to the place where it began, and its deepest
  operand is as deep as the smallest bound of the rule (`sum_levels` and the theorems after it).
  So `nestingOf` is the least bound that an expression is derived with (`Sum.nestingOf_le`,
  `Sum.of_nestingOf_le`).
* A text has one row of tokens only (`Lexes.unique`), because every token is as long as it can be.
-/
import TemplatedConfig.Proofs.Template.Completeness

namespace TemplatedConfig.Grammar

open Template Text

/-! ## 1. Places between tokens -/

/-- A place between two tokens, with what encloses the next token. -/
structure Place where
  /-- The levels of the brackets that are open, the innermost first. -/
  opened : List Nat
  /-- The level of the next token. -/
  level : Nat
  /-- Whether an operand is to come next. -/
  awaiting : Bool

/-- Where an operand is to come that no sign stands before. -/
def Place.start (opened : List Nat) : Place :=
  { opened
    level := match opened with
      | [] => 0
      | level :: _ => level + 1
    awaiting := true }

/-- The place behind a token. -/
def Place.after (p : Place) : Token → Place
  | .symbol c =>
    if c = '(' ∨ c = '[' then .start (p.level :: p.opened)
    else if c = ')' ∨ c = ']' then
      { opened := p.opened.tail, level := p.opened.headD 0, awaiting := false }
    else if c = '-' ∧ p.awaiting then { p with level := p.level + 1 }
    else .start p.opened
  | _ => { p with awaiting := false }

/-- The place behind a row of tokens. -/
def Place.afterAll (p : Place) (ts : List Token) : Place := ts.foldl Place.after p

theorem Place.afterAll_append (p : Place) (ts ts' : List Token) :
    p.afterAll (ts ++ ts') = (p.afterAll ts).afterAll ts' := List.foldl_append

theorem Place.afterAll_cons (p : Place) (t : Token) (ts : List Token) :
    p.afterAll (t :: ts) = (p.after t).afterAll ts := rfl

/-- The level of a token, if it is an operand. -/
def Token.levelAt (p : Place) : Token → Nat
  | symbol _ => 0
  | _ => p.level

/-- The highest level of an operand, read from a place on. -/
def deepestFrom (p : Place) : List Token → Nat
  | [] => 0
  | t :: ts => max (t.levelAt p) (deepestFrom (p.after t) ts)

/-- The highest number of brackets and minus signs around a number, a string or a name.  An empty
list of arguments is around nothing. -/
def nestingOf (ts : List Token) : Nat := deepestFrom (.start []) ts

theorem deepestFrom_append (p : Place) (ts ts' : List Token) :
    deepestFrom p (ts ++ ts') = max (deepestFrom p ts) (deepestFrom (p.afterAll ts) ts') := by
  induction ts generalizing p with
  | nil =>
    rw [List.nil_append, deepestFrom, Nat.zero_max]
    rfl
  | cons t ts ih =>
    rw [List.cons_append, deepestFrom, ih, deepestFrom, Nat.max_assoc, Place.afterAll_cons]

/-! ## 2. What the rules of the grammar are read as

An operand ends where it began.  A signed operand ends on the level of its last sign, and so may a
row of operands; but what follows them leads back to the level of the row. -/

/-- The tokens are one operand, with operands in it at most `d` levels further in. -/
def OperandSpans (ts : List Token) (d : Nat) : Prop :=
  ∀ opened level,
    (Place.mk opened level true).afterAll ts = ⟨opened, level, false⟩
      ∧ deepestFrom ⟨opened, level, true⟩ ts = level + d

/-- The same for an operand with signs before it. -/
def SignedSpans (ts : List Token) (d : Nat) : Prop :=
  ∀ opened level,
    (∃ level', (Place.mk opened level true).afterAll ts = ⟨opened, level', false⟩)
      ∧ deepestFrom ⟨opened, level, true⟩ ts = level + d

/-- The same for operands with operators or commas between them. -/
def RowSpans (ts : List Token) (d : Nat) : Prop :=
  ∀ opened,
    (∃ level', (Place.start opened).afterAll ts = ⟨opened, level', false⟩)
      ∧ deepestFrom (.start opened) ts = (Place.start opened).level + d

theorem OperandSpans.signed {ts : List Token} {d : Nat} (h : OperandSpans ts d) :
    SignedSpans ts d :=
  fun opened level => ⟨⟨level, (h opened level).1⟩, (h opened level).2⟩

theorem SignedSpans.row {ts : List Token} {d : Nat} (h : SignedSpans ts d) : RowSpans ts d :=
  fun opened => h opened (Place.start opened).level

/-- A number, a string or a name. -/
theorem OperandSpans.single {t : Token} (h : ∀ c, t ≠ .symbol c) : OperandSpans [t] 0 := by
  intro opened level
  cases t with
  | symbol c => exact absurd rfl (h c)
  | _ => exact ⟨rfl, Nat.max_zero _⟩

/-- What brackets enclose is one level further in. -/
theorem RowSpans.brackets {ts : List Token} {d : Nat} (h : RowSpans ts d) {c c' : Char}
    (hc : c = '(' ∨ c = '[') (hc' : c' = ')' ∨ c' = ']') (opened : List Nat) (level : Nat)
    (awaiting : Bool) :
    (Place.mk opened level awaiting).afterAll (.symbol c :: (ts ++ [.symbol c']))
        = ⟨opened, level, false⟩
      ∧ deepestFrom ⟨opened, level, awaiting⟩ (.symbol c :: (ts ++ [.symbol c']))
        = level + (d + 1) := by
  obtain ⟨⟨level', hend⟩, hdeepest⟩ := h (level :: opened)
  have hopen : (Place.mk opened level awaiting).after (.symbol c) = .start (level :: opened) :=
    if_pos hc
  have hclose : (Place.mk (level :: opened) level' false).after (.symbol c')
      = ⟨opened, level, false⟩ := by
    rcases hc' with rfl | rfl <;> rfl
  constructor
  · rw [Place.afterAll_cons, hopen, Place.afterAll_append, hend, Place.afterAll_cons, hclose]
    rfl
  · rw [deepestFrom, hopen, deepestFrom_append, hdeepest]
    change max 0 (max (level + 1 + d) (max 0 0)) = level + (d + 1)
    omega

/-- Operands with a sign or a comma between them. -/
theorem RowSpans.join {ts ts' : List Token} {d d' : Nat} (h : RowSpans ts d)
    (h' : RowSpans ts' d') {c : Char} (hc : c ∈ ['+', '-', '*', '/', '%', ',']) :
    RowSpans (ts ++ .symbol c :: ts') (max d d') := by
  intro opened
  obtain ⟨⟨level, hend⟩, hdeepest⟩ := h opened
  obtain ⟨⟨level', hend'⟩, hdeepest'⟩ := h' opened
  have hafter : (Place.mk opened level false).after (.symbol c) = .start opened := by
    simp only [List.mem_cons, List.not_mem_nil, or_false] at hc
    rcases hc with rfl | rfl | rfl | rfl | rfl | rfl <;> rfl
  refine ⟨⟨level', ?_⟩, ?_⟩
  · rw [Place.afterAll_append, hend, Place.afterAll_cons, hafter, hend']
  · rw [deepestFrom_append, hdeepest, hend, deepestFrom, hafter, hdeepest']
    change max ((Place.start opened).level + d) (max 0 ((Place.start opened).level + d')) = _
    omega

/-- An index behind a target stands on the level of the target. -/
theorem OperandSpans.index {ts ts' : List Token} {d d' : Nat} (h : OperandSpans ts d)
    (h' : RowSpans ts' d') :
    OperandSpans (ts ++ .symbol '[' :: (ts' ++ [.symbol ']'])) (max d (d' + 1)) := by
  intro opened level
  obtain ⟨hend, hdeepest⟩ := h opened level
  obtain ⟨hend', hdeepest'⟩ := h'.brackets (.inr rfl) (.inr rfl) opened level false
  constructor
  · rw [Place.afterAll_append, hend, hend']
  · rw [deepestFrom_append, hdeepest, hend, hdeepest']
    omega

/-- A name with arguments stands on the level of the name. -/
theorem RowSpans.call {ts : List Token} {d : Nat} (h : RowSpans ts d) (function : String) :
    OperandSpans (.name function :: .symbol '(' :: (ts ++ [.symbol ')'])) (d + 1) := by
  intro opened level
  obtain ⟨hend, hdeepest⟩ := h.brackets (.inl rfl) (.inl rfl) opened level false
  refine ⟨hend, ?_⟩
  rw [deepestFrom]
  change max level (deepestFrom ⟨opened, level, false⟩ _) = _
  rw [hdeepest]
  omega

/-- A minus sign encloses what it stands before. -/
theorem SignedSpans.minus {ts : List Token} {d : Nat} (h : SignedSpans ts d) :
    SignedSpans (.symbol '-' :: ts) (d + 1) := by
  intro opened level
  obtain ⟨hend, hdeepest⟩ := h opened (level + 1)
  refine ⟨hend, ?_⟩
  change max 0 (deepestFrom ⟨opened, level + 1, true⟩ ts) = _
  rw [hdeepest]
  omega

/-! ## 3. The least bound of a derivation -/

mutual

/-- **The levels of a sum** are the least bound that it is derived with. -/
theorem sum_levels : ∀ {n : Nat} {ts : List Token} {e : Expr}, Sum n ts e →
    ∃ d ≤ n, RowSpans ts d ∧ ∀ k, d ≤ k → Sum k ts e
  | _, _, _, .single h => by
    obtain ⟨d, hd, hspans, hleast⟩ := product_levels h
    exact ⟨d, hd, hspans, fun k hk => .single (hleast k hk)⟩
  | _, _, _, .join hop hl hr => by
    obtain ⟨d, hd, hspans, hleast⟩ := sum_levels hl
    obtain ⟨d', hd', hspans', hleast'⟩ := product_levels hr
    refine ⟨max d d', by omega, hspans.join hspans' ?_, fun k hk => ?_⟩
    · rcases hop with rfl | rfl <;> decide
    · exact .join hop (hleast k (by omega)) (hleast' k (by omega))

theorem product_levels : ∀ {n : Nat} {ts : List Token} {e : Expr}, Product n ts e →
    ∃ d ≤ n, RowSpans ts d ∧ ∀ k, d ≤ k → Product k ts e
  | _, _, _, .single h => by
    obtain ⟨d, hd, hspans, hleast⟩ := unary_levels h
    exact ⟨d, hd, hspans.row, fun k hk => .single (hleast k hk)⟩
  | _, _, _, .join hop hl hr => by
    obtain ⟨d, hd, hspans, hleast⟩ := product_levels hl
    obtain ⟨d', hd', hspans', hleast'⟩ := unary_levels hr
    refine ⟨max d d', by omega, hspans.join hspans'.row ?_, fun k hk => ?_⟩
    · rcases hop with rfl | rfl | rfl <;> decide
    · exact .join hop (hleast k (by omega)) (hleast' k (by omega))

theorem unary_levels : ∀ {n : Nat} {ts : List Token} {e : Expr}, Unary n ts e →
    ∃ d ≤ n, SignedSpans ts d ∧ ∀ k, d ≤ k → Unary k ts e
  | _, _, _, .plain h => by
    obtain ⟨d, hd, hspans, hleast⟩ := indexed_levels h
    exact ⟨d, hd, hspans.signed, fun k hk => .plain (hleast k hk)⟩
  | _, _, _, .minus hm h => by
    obtain ⟨d, hd, hspans, hleast⟩ := unary_levels h
    exact ⟨d + 1, by omega, hspans.minus, fun k hk => .minus hk (hleast d (Nat.le_refl d))⟩

theorem indexed_levels : ∀ {n : Nat} {ts : List Token} {e : Expr}, Indexed n ts e →
    ∃ d ≤ n, OperandSpans ts d ∧ ∀ k, d ≤ k → Indexed k ts e
  | _, _, _, .plain h => by
    obtain ⟨d, hd, hspans, hleast⟩ := primary_levels h
    exact ⟨d, hd, hspans, fun k hk => .plain (hleast k hk)⟩
  | _, _, _, .index hm htarget hkey => by
    obtain ⟨d, hd, hspans, hleast⟩ := indexed_levels htarget
    obtain ⟨d', hd', hspans', hleast'⟩ := sum_levels hkey
    refine ⟨max d (d' + 1), by omega, hspans.index hspans', fun k hk => ?_⟩
    exact .index (m := d') (by omega) (hleast k (by omega)) (hleast' d' (Nat.le_refl d'))

theorem primary_levels : ∀ {n : Nat} {ts : List Token} {e : Expr}, Primary n ts e →
    ∃ d ≤ n, OperandSpans ts d ∧ ∀ k, d ≤ k → Primary k ts e
  | _, _, _, .integer hrange =>
    ⟨0, Nat.zero_le _, .single (by simp), fun _ _ => .integer hrange⟩
  | _, _, _, .float => ⟨0, Nat.zero_le _, .single (by simp), fun _ _ => .float⟩
  | _, _, _, .string => ⟨0, Nat.zero_le _, .single (by simp), fun _ _ => .string⟩
  | _, _, _, .trueWord => ⟨0, Nat.zero_le _, .single (by simp), fun _ _ => .trueWord⟩
  | _, _, _, .falseWord => ⟨0, Nat.zero_le _, .single (by simp), fun _ _ => .falseWord⟩
  | _, _, _, .name htrue hfalse =>
    ⟨0, Nat.zero_le _, .single (by simp), fun _ _ => .name htrue hfalse⟩
  | _, _, _, .bareCall =>
    ⟨0, Nat.zero_le _, fun _ _ => ⟨rfl, by simp [deepestFrom, Token.levelAt]⟩, fun _ _ => .bareCall⟩
  | _, _, _, .call h => by
    obtain ⟨d, hd, hspans, hleast⟩ := arguments_levels h
    exact ⟨d + 1, hd, hspans.call _, fun k hk => .call (hleast k hk)⟩
  | _, _, _, .parenthesized hm h => by
    obtain ⟨d, hd, hspans, hleast⟩ := sum_levels h
    refine ⟨d + 1, by omega, fun opened level => ?_, fun k hk => ?_⟩
    · exact hspans.brackets (.inl rfl) (.inl rfl) opened level true
    · exact .parenthesized hk (hleast d (Nat.le_refl d))

/-- Arguments stand on the level inside their parentheses. -/
theorem arguments_levels : ∀ {n : Nat} {ts : List Token} {es : List Expr}, Arguments n ts es →
    ∃ d < n, RowSpans ts d ∧ ∀ k, d < k → Arguments k ts es
  | _, _, _, .last hm h => by
    obtain ⟨d, hd, hspans, hleast⟩ := sum_levels h
    exact ⟨d, by omega, hspans, fun k hk => .last hk (hleast d (Nat.le_refl d))⟩
  | _, _, _, .more hm h hrest => by
    obtain ⟨d, hd, hspans, hleast⟩ := sum_levels h
    obtain ⟨d', hd', hspans', hleast'⟩ := arguments_levels hrest
    refine ⟨max d d', by omega, hspans.join hspans' (by decide), fun k hk => ?_⟩
    exact .more (m := d) (by omega) (hleast d (Nat.le_refl d)) (hleast' k (by omega))

end

/-- **The nesting of the tokens is the least bound** of a derivation: no smaller one will do, -/
theorem Sum.nestingOf_le {n : Nat} {ts : List Token} {e : Expr} (h : Sum n ts e) :
    nestingOf ts ≤ n := by
  obtain ⟨d, hd, hspans, -⟩ := sum_levels h
  have hdeepest : nestingOf ts = 0 + d := (hspans []).2
  omega

/-- and every bound from it on does. -/
theorem Sum.of_nestingOf_le {n k : Nat} {ts : List Token} {e : Expr} (h : Sum n ts e)
    (hk : nestingOf ts ≤ k) : Sum k ts e := by
  obtain ⟨d, -, hspans, hleast⟩ := sum_levels h
  have hdeepest : nestingOf ts = 0 + d := (hspans []).2
  exact hleast k (by omega)

/-- In `-(x[-1]) - 2` the deepest operand is inside a sign, parentheses, brackets and a sign, and
the second minus is an operator. -/
example : nestingOf [.symbol '-', .symbol '(', .name "x", .symbol '[', .symbol '-', .integer 1,
    .symbol ']', .symbol ')', .symbol '-', .integer 2] = 4 := by decide

/-! ## 4. A text has one row of tokens -/

/-- A run ends where it stops, so there is one way to cut it off. -/
theorem run_unique {p : Char → Bool} {run run' rest rest' : List Char}
    (hrun : ∀ c ∈ run, p c = true) (hrun' : ∀ c ∈ run', p c = true) (hrest : Stops p rest)
    (hrest' : Stops p rest') (h : run ++ rest = run' ++ rest') : run = run' ∧ rest = rest' := by
  obtain ⟨htake, hdrop⟩ := takeWhile_dropWhile_of_stops hrun hrest
  obtain ⟨htake', hdrop'⟩ := takeWhile_dropWhile_of_stops hrun' hrest'
  rw [h] at htake hdrop
  exact ⟨htake.symm.trans htake', hdrop.symm.trans hdrop'⟩

/-- A point is no digit. -/
theorem stops_point (rest : List Char) : Stops Char.isDigit ('.' :: rest) := by
  rintro c ⟨⟩
  decide

/-- Digits that a point and a digit follow are no integer. -/
theorem integer_ne_float {digits whole fraction rest rest' : List Char} {value : Nat}
    (hdigits : Run Char.isDigit digits) (hwhole : Run Char.isDigit whole)
    (hfraction : Run Char.isDigit fraction) (hends : Token.Ends (.integer value) rest) :
    digits ++ rest ≠ (whole ++ '.' :: fraction) ++ rest' := by
  intro h
  rw [List.append_assoc, List.cons_append] at h
  obtain ⟨-, hrest⟩ := run_unique hdigits.2 hwhole.2 hends.1 (stops_point _) h
  obtain ⟨d, more, rfl⟩ := List.exists_cons_of_ne_nil hfraction.1
  have hstops : d.isDigit = false := hends.2 _ hrest d rfl
  rw [hfraction.2 d List.mem_cons_self] at hstops
  cases hstops

/-- What the first character says about the kind of a token. -/
def kindOf (c : Char) : Nat :=
  if c.isDigit then 0 else if c = '\x22' then 1 else if startsName c then 2 else 3

/-- The kind of a token. -/
def Token.kind : Token → Nat
  | integer _ => 0
  | float _ => 0
  | string _ => 1
  | name _ => 2
  | symbol _ => 3

/-- Tokens of different kinds begin with different characters. -/
theorem Token.Begins.kindOf_eq {t : Token} {c : Char} (h : t.Begins c) : kindOf c = t.kind := by
  cases t with
  | integer _ => exact if_pos h
  | float _ => exact if_pos h
  | string _ => rw [show c = '\x22' from h]; rfl
  | name _ =>
    -- digits and quotes come before all letters
    have hlow := le_of_startsName h
    have hdigit : ¬ c.isDigit = true := fun hc => by
      have hhigh := (toNat_of_isDigit hc).2
      omega
    have hquote : c ≠ '\x22' := by
      rintro rfl
      exact absurd hlow (by decide)
    rw [kindOf, if_neg hdigit, if_neg hquote, if_pos (show startsName c = true from h)]
    rfl
  | symbol s =>
    obtain ⟨rfl, hs⟩ := h
    have hall : symbols.all (fun s => kindOf s == 3) = true := by decide +kernel
    exact eq_of_beq (List.all_eq_true.mp hall c hs)

/-- **A text begins with one token** only. -/
theorem Spelled.unique {t t' : Token} {spelling spelling' rest rest' : List Char}
    (h : Spelled t spelling) (h' : Spelled t' spelling') (hends : t.Ends rest)
    (hends' : t'.Ends rest') (htext : spelling ++ rest = spelling' ++ rest') :
    t = t' ∧ rest = rest' := by
  have hkind : t.kind = t'.kind := by
    obtain ⟨c, more, rfl, hc⟩ := h.begins
    obtain ⟨c', more', rfl, hc'⟩ := h'.begins
    obtain ⟨rfl, -⟩ := List.cons.inj htext
    rw [← hc.kindOf_eq, hc'.kindOf_eq]
  cases h with
  | integer hdigits =>
    cases h' with
    | integer hdigits' =>
      obtain ⟨rfl, rfl⟩ := run_unique hdigits.2 hdigits'.2 hends.1 hends'.1 htext
      exact ⟨rfl, rfl⟩
    | float hwhole hfraction =>
      exact absurd htext (integer_ne_float hdigits hwhole hfraction hends)
    | _ => cases hkind
  | float hwhole hfraction =>
    cases h' with
    | integer hdigits =>
      exact absurd htext.symm (integer_ne_float hdigits hwhole hfraction hends')
    | float hwhole' hfraction' =>
      rw [List.append_assoc, List.append_assoc] at htext
      obtain ⟨rfl, hpoint⟩ := run_unique hwhole.2 hwhole'.2 (stops_point _) (stops_point _) htext
      obtain ⟨rfl, rfl⟩ :=
        run_unique hfraction.2 hfraction'.2 hends hends' (List.cons.inj hpoint).2
      exact ⟨rfl, rfl⟩
    | _ => cases hkind
  | string hbody =>
    cases h' with
    | string hbody' =>
      have hread := stringBody_of_quoted hbody rest
      have htext' : _ ++ rest = _ ++ rest' := (List.cons.inj htext).2
      rw [htext', stringBody_of_quoted hbody' rest'] at hread
      cases hread
      exact ⟨rfl, rfl⟩
    | _ => cases hkind
  | @name c name hc hname =>
    cases h' with
    | @name c' name' hc' hname' =>
      have hrun := forall_continuesName hc hname
      have hrun' := forall_continuesName hc' hname'
      obtain ⟨hspelling, rfl⟩ := run_unique hrun hrun' hends hends' htext
      exact ⟨by rw [hspelling], rfl⟩
    | _ => cases hkind
  | symbol hc =>
    cases h' with
    | symbol hc' =>
      cases htext
      exact ⟨rfl, rfl⟩
    | _ => cases hkind

/-- No token begins with the closing brace. -/
theorem Spelled.ne_brace {t : Token} {spelling rest rest' : List Char} (h : Spelled t spelling) :
    spelling ++ rest ≠ '}' :: rest' := by
  intro hbrace
  obtain ⟨c, more, rfl, hc⟩ := h.begins
  obtain ⟨rfl, -⟩ := List.cons.inj hbrace
  have hkind : t.kind = 3 := hc.kindOf_eq.symm.trans (by decide +kernel)
  cases t with
  | symbol s =>
    obtain ⟨rfl, hs⟩ := hc
    exact absurd hs (by decide)
  | _ => cases hkind

/-- **Up to the closing brace there is one row of tokens** only. -/
theorem Lexes.unique {text rest rest' : List Char} {ts ts' : List Token}
    (h : Lexes text ts ('}' :: rest)) (h' : Lexes text ts' ('}' :: rest')) :
    ts = ts' ∧ rest = rest' := by
  have hbrace : ∀ rest, skipBlanks ('}' :: rest) = '}' :: rest :=
    fun rest => skipBlanks_of_not_isBlank (by decide)
  induction ts generalizing text ts' with
  | nil =>
    have htext := h.skipBlanks_eq.trans (hbrace rest)
    cases ts' with
    | nil =>
      cases htext.symm.trans (h'.skipBlanks_eq.trans (hbrace rest'))
      exact ⟨rfl, rfl⟩
    | cons t' ts' =>
      obtain ⟨spelling', more', htext', hs', -, -⟩ := h'.uncons
      exact absurd (htext'.symm.trans htext) hs'.ne_brace
  | cons t ts ih =>
    obtain ⟨spelling, more, htext, hs, hends, hmore⟩ := h.uncons
    cases ts' with
    | nil =>
      have htext' := h'.skipBlanks_eq.trans (hbrace rest')
      exact absurd (htext.symm.trans htext') hs.ne_brace
    | cons t' ts' =>
      obtain ⟨spelling', more', htext', hs', hends', hmore'⟩ := h'.uncons
      obtain ⟨rfl, rfl⟩ := hs.unique hs' hends hends' (htext.symm.trans htext')
      obtain ⟨rfl, rfl⟩ := ih hmore hmore'
      exact ⟨rfl, rfl⟩

end TemplatedConfig.Grammar
