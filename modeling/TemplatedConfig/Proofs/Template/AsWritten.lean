/-
# Templates as they are written

The parser does not keep a minus sign before a numeral: `-2` is one literal, and `--2` is the
literal two again (`negated`).  With another rule for signs it keeps them (`parseAsWritten`).  Every
minus sign is a node of its own then, the tree shows all signs that the text has, and the numerals
in it have none (`Unsigned`).

No rule looks at the trees that it puts together.  So taking the signs in can wait until the whole
text has been read, which is what `Expr.folded` does.  The functions of the parser are gone through
one by one: each gives the folded tree if the productions that it is built from do (`Folds`), and
the levels of nesting follow by induction (`folds_unary`).

Main statements: `parse_eq_map_folded` and `unsigned_of_parse`.  The first is about all texts.
Those that are refused are refused by both parsers, for the same reason and at the same column.
-/
import TemplatedConfig.Proofs.Template.Limit

namespace TemplatedConfig

/-! ## 1. Trees without signs and with the signs taken in -/

/-- A literal that has no sign: a number is what digits stand for, with a point or without one. -/
def Literal.Unsigned : Literal → Prop
  | integer n => 0 ≤ n
  | float x => ∃ (digits : Nat) (exponent : Int), x = Decimal.nearest digits exponent
  | _ => True

/-- Among these nodes, no literal has a sign. -/
def Unsigned (nodes : List Expr) : Prop := ∀ v, .literal v ∈ nodes → v.Unsigned

theorem unsigned_nil : Unsigned [] := fun _ hv => nomatch hv

theorem unsigned_literal {v : Literal} (h : v.Unsigned) : Unsigned (Expr.literal v).nodes := by
  intro v' hv
  obtain rfl : v' = v := by simpa [Expr.nodes] using hv
  exact h

theorem Unsigned.mono {nodes nodes' : List Expr} (h : Unsigned nodes) (hsub : nodes' ⊆ nodes) :
    Unsigned nodes' := fun v hv => h v (hsub hv)

theorem unsigned_append {nodes nodes' : List Expr} (h : Unsigned nodes) (h' : Unsigned nodes') :
    Unsigned (nodes ++ nodes') := by
  intro v hv
  exact (List.mem_append.mp hv).elim (h v) (h' v)

theorem unsigned_cons {node : Expr} {nodes : List Expr} (hnode : ∀ v, .literal v ≠ node)
    (h : Unsigned nodes) : Unsigned (node :: nodes) := by
  intro v hv
  rcases List.mem_cons.mp hv with heq | hv
  · exact absurd heq (hnode v)
  · exact h v hv

namespace Expr

mutual

/-- The tree in which every numeral has taken the signs before it into itself. -/
def folded : Expr → Expr
  | .literal v => .literal v
  | .variable name => .variable name
  | .index target key => .index target.folded key.folded
  | .call function arguments => .call function (foldedAll arguments)
  | .arithmetic op left right => .arithmetic op left.folded right.folded
  | .negate operand => Template.negated operand.folded

/-- The same for several expressions. -/
def foldedAll : List Expr → List Expr
  | [] => []
  | e :: rest => e.folded :: foldedAll rest

end

end Expr

/-- The part with the signs of its expression taken in. -/
def Part.folded : Part → Part
  | .literal text => .literal text
  | .interpolation e => .interpolation e.folded

namespace Template

/-- The template with the signs of its expressions taken in. -/
def folded (t : Template) : Template := { t with parts := t.parts.map Part.folded }

/-- Parses a template and leaves every minus sign standing. -/
def parseAsWritten (source : String) : Except Fault Template :=
  parseWith (expressionWith .negate maxNesting) source

end Template

namespace Grammar

open Template Text

/-! ## 2. Rules carry the folding on -/

/-- The second of two readings follows the first: it gives what the first gives, turned into
something else by `f`, or it fails as the first does.  What the first gives has the property `P`. -/
inductive Follows {α β : Type} (P : α → Prop) (f : α → β) : Reading α → Reading β → Prop where
  | ok {a : α} (rest : List Char) : P a → Follows P f (.ok (a, rest)) (.ok (f a, rest))
  | error (e : Problem × List Char) : Follows P f (.error e) (.error e)

namespace Follows

variable {α β γ δ : Type} {P : α → Prop} {Q : γ → Prop} {f : α → β} {g : γ → δ}
  {x : Reading α} {y : Reading β}

/-- Longer readings follow one another if the steps behind do. -/
theorem bind (h : Follows P f x y) {next : α × List Char → Reading γ}
    {next' : β × List Char → Reading δ}
    (hnext : ∀ a rest, x = .ok (a, rest) → P a → Follows Q g (next (a, rest)) (next' (f a, rest))) :
    Follows Q g (x.bind next) (y.bind next') := by
  cases h with
  | ok rest ha => exact hnext _ rest rfl ha
  | error e => exact .error e

/-- What has been read may be built on, if both build on it in the same way. -/
theorem mapTree (h : Follows P f x y) {k : α → γ} {k' : β → δ} (hk : ∀ a, k' (f a) = g (k a))
    (hQ : ∀ a, P a → Q (k a)) : Follows Q g (x.mapTree k) (y.mapTree k') := by
  cases h with
  | ok rest ha =>
    simp only [Reading.mapTree, hk]
    exact .ok rest (hQ _ ha)
  | error e => exact .error e

theorem eq_mapTree (h : Follows P f x y) : y = x.mapTree f := by
  cases h with
  | ok rest _ => rfl
  | error e => rfl

theorem of_eq_ok (h : Follows P f x y) {a : α} {rest : List Char} (hx : x = .ok (a, rest)) :
    P a := by
  cases h with
  | ok rest ha =>
    cases hx
    exact ha
  | error e => cases hx

/-- Whatever the second reading gives comes from the first. -/
theorem exists_of_eq_ok (h : Follows P f x y) {b : β} {rest : List Char}
    (hy : y = .ok (b, rest)) : ∃ a, P a ∧ f a = b := by
  cases h with
  | ok rest ha =>
    cases hy
    exact ⟨_, ha, rfl⟩
  | error e => cases hy

end Follows

/-- One expression follows another: it is the other, which has no signs in its literals, folded. -/
abbrev FollowsFolded (x y : Reading Expr) : Prop :=
  Follows (fun e => Unsigned e.nodes) Expr.folded x y

/-- The production `q` reads what `p` reads, and folds the tree. -/
def Folds (p q : Production Expr) : Prop := ∀ text, FollowsFolded (p.run text) (q.run text)

section

variable {p q : Production Expr}

theorem folds_refused : Folds refused refused := fun _ => .error _

/-- A name is no number. -/
theorem follows_named (name : String) (rest : List Char) :
    FollowsFolded (.ok (named name, rest)) (.ok (named name, rest)) := by
  unfold named
  split
  · exact .ok rest (unsigned_literal trivial)
  · split
    · exact .ok rest (unsigned_literal trivial)
    · exact .ok rest (unsigned_cons (by simp) unsigned_nil)

/-- Numerals in range are not negative. -/
theorem follows_integerLiteral (digits rest : List Char) :
    FollowsFolded (integerLiteral digits rest) (integerLiteral digits rest) := by
  unfold integerLiteral
  split
  · rename_i hrange
    refine .ok rest (unsigned_literal ?_)
    have hmax : maxInteger = 2 ^ 63 - 1 := by decide
    have hvalue := Int64.toInt_ofNat_of_lt (n := Decimal.digitsValue digits) (by omega)
    change 0 ≤ Int64.ofNat (Decimal.digitsValue digits)
    rw [Int64.le_iff_toInt_le, hvalue]
    exact Int.natCast_nonneg _
  · exact .error _

theorem follows_number (text : List Char) : FollowsFolded (number text) (number text) := by
  unfold number
  simp only
  split
  · split
    · exact .ok _ (unsigned_literal ⟨_, _, rfl⟩)
    · exact follows_integerLiteral _ _
  · exact follows_integerLiteral _ _

/-- A string has no sign. -/
theorem follows_stringBody (text : List Char) :
    Follows (fun _ => True) id (stringBody text) (stringBody text) := by
  cases stringBody text with
  | error e => exact .error e
  | ok r => exact .ok r.2 trivial

/-- The loop for arguments.  Every turn takes up text, so the induction is on the length of what is
left. -/
theorem follows_argumentsFrom (h : Folds p q) (function : String) (text : List Char) :
    Follows (fun es => Unsigned (Expr.nodesOfAll es)) Expr.foldedAll
      (argumentsFrom p function text) (argumentsFrom q function text) := by
  rw [argumentsFrom_eq p, argumentsFrom_eq q]
  refine (h text).bind ?_
  intro e rest hrun he
  have hrest := p.consumes hrun
  simp only
  split
  · rename_i more hmore
    have hlength := length_lt_of_next hmore
    refine (follows_argumentsFrom h function more).mapTree (fun _ => rfl) ?_
    intro es hes
    exact unsigned_append he hes
  · exact .ok _ (unsigned_append he unsigned_nil)
  · exact .error _
termination_by text.length
decreasing_by omega

theorem follows_arguments (h : Folds p q) (function : String) (text : List Char) :
    Follows (fun es => Unsigned (Expr.nodesOfAll es)) Expr.foldedAll
      (arguments p function text) (arguments q function text) := by
  unfold arguments
  split
  · exact .ok _ unsigned_nil
  · exact follows_argumentsFrom h function _

theorem follows_nameOrCall (h : Folds p q) (text : List Char) :
    FollowsFolded (nameOrCall p text) (nameOrCall q text) := by
  unfold nameOrCall
  simp only
  split
  · rename_i rest hopen
    refine (follows_arguments h _ rest).mapTree (fun _ => rfl) ?_
    intro es hes
    exact unsigned_cons (by simp) hes
  · exact follows_named _ _

theorem follows_parenthesized (h : Folds p q) (text : List Char) :
    FollowsFolded (parenthesized p text) (parenthesized q text) := by
  rw [parenthesized_eq, parenthesized_eq]
  refine (h text).bind ?_
  intro e rest _ he
  simp only
  split
  · exact .ok _ he
  · exact .error _

theorem folds_primary (h : Folds p q) : Folds (primary p) (primary q) := by
  intro text
  change FollowsFolded (primaryFrom p text) (primaryFrom q text)
  unfold primaryFrom
  split
  · exact .error _
  · rename_i c rest _
    split
    · exact follows_number _
    · split
      · refine (follows_stringBody rest).mapTree (fun _ => rfl) ?_
        intro s _
        exact unsigned_literal trivial
      · split
        · exact follows_parenthesized h rest
        · split
          · exact follows_nameOrCall h (c :: rest)
          · exact .error _

theorem follows_indexesFrom (h : Folds p q) {target : Expr} (htarget : Unsigned target.nodes)
    (text : List Char) :
    FollowsFolded (indexesFrom p target text) (indexesFrom q target.folded text) := by
  rw [indexesFrom_eq p, indexesFrom_eq q]
  split
  · rename_i inner hopen
    have hinner := length_lt_of_next hopen
    refine (h inner).bind ?_
    intro key rest hrun hkey
    have hrest := p.consumes hrun
    simp only
    split
    · rename_i more hclose
      have hlength := length_lt_of_next hclose
      have hindex : Unsigned (Expr.index target key).nodes :=
        unsigned_cons (by simp) (unsigned_append htarget hkey)
      exact follows_indexesFrom h hindex more
    · exact .error _
  · exact .ok _ htarget
termination_by text.length
decreasing_by omega

theorem follows_chainFrom (h : Folds p q) (operator? : Char → Option Operator) {left : Expr}
    (hleft : Unsigned left.nodes) (text : List Char) :
    FollowsFolded (chainFrom operator? p left text) (chainFrom operator? q left.folded text) := by
  rw [chainFrom_eq, chainFrom_eq]
  split
  · exact .ok _ hleft
  · rename_i c rest hnext
    have hlength := length_lt_of_next hnext
    split
    · exact .ok _ hleft
    · rename_i op _
      refine (h rest).bind ?_
      intro right more hrun hright
      have hmore := p.consumes hrun
      have hjoined : Unsigned (Expr.arithmetic op left right).nodes :=
        unsigned_cons (by simp) (unsigned_append hleft hright)
      exact follows_chainFrom h operator? hjoined more
termination_by text.length
decreasing_by omega

/-- A production and a loop behind it, if both carry the folding on. -/
theorem Folds.andThen {first first' : Production Expr}
    {more more' : Expr → List Char → Reading Expr} {hmore hmore'} (h : Folds first first')
    (hloop : ∀ {e}, Unsigned e.nodes → ∀ text, FollowsFolded (more e text) (more' e.folded text)) :
    Folds (first.andThen more hmore) (first'.andThen more' hmore') := by
  intro text
  rw [andThen_run, andThen_run]
  refine (h text).bind ?_
  intro e rest _ he
  exact hloop he rest

theorem folds_indexed (h : Folds p q) : Folds (indexed p) (indexed q) :=
  (folds_primary h).andThen (follows_indexesFrom h)

theorem folds_joined (h : Folds p q) (operator? : Char → Option Operator) :
    Folds (joined operator? p) (joined operator? q) :=
  h.andThen (follows_chainFrom h operator?)

theorem folds_sum (h : Folds p q) : Folds (sum p) (sum q) :=
  folds_joined (folds_joined h productOperator?) sumOperator?

/-- **The one rule that differs.**  On one side a sign is left standing, on the other it is taken
in. -/
theorem folds_unaryFrom {signed signed' : Production Expr} (hs : Folds signed signed')
    (h : Folds p q) : Folds (unaryFrom .negate signed p) (unaryFrom negated signed' q) := by
  intro text
  simp only [unaryFrom]
  split
  · rename_i rest _
    refine (hs rest).mapTree (fun _ => rfl) ?_
    intro e he
    exact unsigned_cons (by simp) he
  · exact folds_indexed h _

end

/-- **Every level folds** what is written. -/
theorem folds_unary (n : Nat) : Folds (unaryWith .negate n) (unary n) := by
  induction n with
  | zero => exact folds_unaryFrom folds_refused folds_refused
  | succ n ih => exact folds_unaryFrom ih (folds_sum ih)

theorem folds_expression (limit : Nat) :
    Folds (expressionWith .negate limit) (expression limit) := by
  cases limit with
  | zero => exact folds_refused
  | succ n => exact folds_sum (folds_unary n)

/-! ## 3. Templates -/

section

variable {p q : Production Expr}

/-- What an interpolation holds is folded. -/
theorem follows_interpolation (h : Folds p q) (text : List Char) :
    FollowsFolded (interpolation p text) (interpolation q text) := by
  unfold interpolation
  split
  · exact .error _
  · have hrun := h (skipBlanks text)
    generalize p.run (skipBlanks text) = x, q.run (skipBlanks text) = y at hrun ⊢
    cases hrun with
    | error e => exact .error e
    | ok rest he =>
      simp only
      split
      · exact .ok _ he
      · exact .error _
      · exact .error _

/-- Text in front of the parts has no signs. -/
theorem map_folded_consText (text : List Char) (parts : List Part) :
    (consText text parts).map Part.folded = consText text (parts.map Part.folded) := by
  cases parts with
  | nil => rfl
  | cons part rest => cases part <;> rfl

/-- Two ways to map a result twice, which lead to the same. -/
theorem map_map_congr {ε α β γ δ : Type} {x : Except ε α} {f : α → β} {g : β → δ} {f' : α → γ}
    {g' : γ → δ} (h : ∀ a, g (f a) = g' (f' a)) : (x.map f).map g = (x.map f').map g' := by
  cases x with
  | error e => rfl
  | ok a => exact congrArg Except.ok (h a)

/-- **The parts of a template are folded part by part.** -/
theorem partsFrom_folded (h : Folds p q) (text : List Char) :
    partsFrom q text = (partsFrom p text).map (List.map Part.folded) := by
  fun_induction partsFrom p text with
  | case1 =>
    rw [partsFrom]
    rfl
  | case2 rest ih =>
    rw [partsFrom, ih]
    exact map_map_congr fun parts => (map_folded_consText _ parts).symm
  | case3 rest e hrun =>
    rw [partsFrom_of_interpolation, (follows_interpolation h rest).eq_mapTree, hrun]
    rfl
  | case4 rest e more hrun ih =>
    rw [partsFrom_of_interpolation, (follows_interpolation h rest).eq_mapTree, hrun]
    change (partsFrom q more).map _ = _
    rw [ih]
    exact map_map_congr fun parts => rfl
  | case5 c rest hescape hopening ih =>
    -- Both ways to open were tried before this case.
    have hliteral : atOpening (c :: rest) = false := by
      rcases atOpening_cases (c :: rest) with ⟨more, hmore⟩ | ⟨more, hmore⟩ | hliteral
      · cases hmore
        exact absurd rfl (hescape more rfl)
      · cases hmore
        exact absurd rfl (hopening more rfl)
      · exact hliteral
    rw [partsFrom_of_not_opening hliteral, ih]
    exact map_map_congr fun parts => (map_folded_consText _ parts).symm

/-- Text in front of the parts adds no expression. -/
theorem mem_consText_iff {text : List Char} {parts : List Part} {e : Expr} :
    .interpolation e ∈ consText text parts ↔ .interpolation e ∈ parts := by
  cases parts with
  | nil => simp [consText]
  | cons part rest => cases part <;> simp [consText]

theorem unsigned_of_partsFrom (h : Folds p q) {text : List Char} {parts : List Part}
    (hparts : partsFrom p text = .ok parts) {e : Expr} (he : .interpolation e ∈ parts) :
    Unsigned e.nodes := by
  fun_induction partsFrom p text generalizing parts with
  | case1 =>
    cases hparts
    cases he
  | case2 rest ih =>
    obtain ⟨parts', hparts', rfl⟩ := exists_of_map_eq_ok hparts
    exact ih hparts' (mem_consText_iff.mp he)
  | case3 rest e hrun => cases hparts
  | case4 rest first more hrun ih =>
    obtain ⟨parts', hparts', rfl⟩ := exists_of_map_eq_ok hparts
    rcases List.mem_cons.mp he with heq | he
    · cases heq
      exact (follows_interpolation h rest).of_eq_ok hrun
    · exact ih hparts' he
  | case5 c rest hescape hopening ih =>
    obtain ⟨parts', hparts', rfl⟩ := exists_of_map_eq_ok hparts
    exact ih hparts' (mem_consText_iff.mp he)

end

/-- **Parsing folds what is written**, and refuses what cannot be read in the same words. -/
theorem parse_eq_map_folded (source : String) :
    parse source = (parseAsWritten source).map Template.folded := by
  rw [parse, parseWithin, parseAsWritten, parseWith, parseWith,
    partsFrom_folded (folds_expression maxNesting)]
  cases partsFrom (expressionWith .negate maxNesting) source.toList with
  | error e => rfl
  | ok parts => rfl

/-- **No literal has a sign** in a template as it is written. -/
theorem unsigned_of_parse {source : String} {t : Template} (h : parseAsWritten source = .ok t)
    {e : Expr} (he : .interpolation e ∈ t.parts) : Unsigned e.nodes := by
  unfold parseAsWritten parseWith at h
  split at h
  · rename_i parts hparts
    cases h
    exact unsigned_of_partsFrom (folds_expression maxNesting) hparts he
  · cases h

end Grammar

end TemplatedConfig
