/-
# How deep the tree of an expression can be

The parser counts levels of nesting: a level for everything in parentheses, in brackets, among
arguments or behind a minus sign.  Whoever recurses over a parsed tree (`Expr.nodes`,
`Expr.print`, `Scope.eval`) pays for its height, which is another thing: a row of operators is
grouped to the left, so each operator adds a node on the way down to the first operand, and so
does each index behind a target.

`Expr.depth` measures a tree with a weight for each kind of edge, and `Expr.nesting`,
`Expr.height` and `Expr.rowHeight` are three choices of weights.

* Where the way to the left is free, the depth is bounded by the bound on nesting alone
  (`depth_le_of_sum`).  So accepted templates nest less than `maxNesting` levels deep, and their
  trees are at most `3 * maxNesting` high if a row of operators or indexes counts as one node.
* Rows of `k` operators make a tree at most `k + 1` times as high (`Expr.depth_le_of_rows`).
* Rows have no bound, so the height has none: `sumOfOnes n` is accepted for every `n`, without any
  nesting, and its tree is `n + 1` nodes high.

Main statements: `nesting_is_bounded` and `height_is_unbounded`.
-/
import TemplatedConfig.Proofs.Template.Completeness

namespace TemplatedConfig

/-! ## 1. Measures of a tree -/

/-- What each kind of edge adds to the depth of a tree.  A `left` edge goes to the left operand of
an operator or to the target of an index, a `right` edge to a right operand, and a `nested` edge to
a key, to an argument or to what a minus sign stands before. -/
structure EdgeWeights where
  left : Nat
  right : Nat
  nested : Nat

/-- What one level of nesting adds: the edge into it, and the two edges to the right that lead
through a sum and a product to an operand. -/
def EdgeWeights.perLevel (w : EdgeWeights) : Nat := w.nested + 2 * w.right

namespace EdgeWeights

/-- Only the edges into another level count. -/
def levels : EdgeWeights := { left := 0, right := 0, nested := 1 }

/-- Every edge counts. -/
def edges : EdgeWeights := { left := 1, right := 1, nested := 1 }

/-- Every edge counts but those along a row. -/
def rows : EdgeWeights := { left := 0, right := 1, nested := 1 }

end EdgeWeights

namespace Expr

mutual

/-- The weight of the heaviest way from the root of a tree to a leaf. -/
def depth (w : EdgeWeights) : Expr → Nat
  | .literal _ => 0
  | .variable _ => 0
  | .index target key => max (depth w target + w.left) (depth w key + w.nested)
  | .call _ arguments => depthOfAll w arguments
  | .arithmetic _ left right => max (depth w left + w.left) (depth w right + w.right)
  | .negate operand => depth w operand + w.nested

/-- The same for the arguments of a call. -/
def depthOfAll (w : EdgeWeights) : List Expr → Nat
  | [] => 0
  | e :: rest => max (depth w e + w.nested) (depthOfAll w rest)

end

/-- The levels of nesting in a tree: operators and indexes in a row stay on one level. -/
def nesting (e : Expr) : Nat := e.depth .levels

/-- The height of a tree in nodes, which is how many calls a recursion over it stacks up. -/
def height (e : Expr) : Nat := e.depth .edges + 1

/-- The height of a tree if a row of operators, or of indexes, counts as one node. -/
def rowHeight (e : Expr) : Nat := e.depth .rows + 1

/-- The length of the row that starts at a node: how many operators and indexes are grouped to
the left, one within another. -/
def row : Expr → Nat
  | .index target _ => row target + 1
  | .arithmetic _ left _ => row left + 1
  | _ => 0

/-- A minus sign adds one edge at most. -/
theorem depth_negated_le (w : EdgeWeights) (e : Expr) :
    (Template.negated e).depth w ≤ e.depth w + w.nested := by
  unfold Template.negated
  split
  · exact Nat.zero_le _
  · exact Nat.zero_le _
  · exact Nat.le_refl _

mutual

/-- A node starts a row no longer than the way to a leaf below it. -/
theorem row_le_depth : ∀ e : Expr, ∀ node ∈ e.nodes, node.row ≤ e.depth .edges
  | .literal v, node, h => by
    rw [List.mem_singleton.mp h]
    exact Nat.zero_le _
  | .variable name, node, h => by
    rw [List.mem_singleton.mp h]
    exact Nat.zero_le _
  | .index target key, node, h => by
    have htarget : target.row ≤ target.depth .edges := row_le_depth target _ target.self_mem_nodes
    rcases List.mem_cons.mp h with rfl | h
    · simp only [row, depth, EdgeWeights.edges] at htarget ⊢
      omega
    · rcases List.mem_append.mp h with h | h
      · have hnode := row_le_depth target node h
        rw [depth]
        omega
      · have hnode := row_le_depth key node h
        rw [depth]
        omega
  | .call function arguments, node, h => by
    rcases List.mem_cons.mp h with rfl | h
    · exact Nat.zero_le _
    · exact row_le_depthOfAll arguments node h
  | .arithmetic op left right, node, h => by
    have hleft : left.row ≤ left.depth .edges := row_le_depth left _ left.self_mem_nodes
    rcases List.mem_cons.mp h with rfl | h
    · simp only [row, depth, EdgeWeights.edges] at hleft ⊢
      omega
    · rcases List.mem_append.mp h with h | h
      · have hnode := row_le_depth left node h
        rw [depth]
        omega
      · have hnode := row_le_depth right node h
        rw [depth]
        omega
  | .negate operand, node, h => by
    rcases List.mem_cons.mp h with rfl | h
    · exact Nat.zero_le _
    · have hnode := row_le_depth operand node h
      rw [depth]
      omega

theorem row_le_depthOfAll : ∀ es : List Expr, ∀ node ∈ nodesOfAll es,
    node.row ≤ depthOfAll .edges es
  | [], _, h => nomatch h
  | e :: rest, node, h => by
    rw [depthOfAll]
    rcases List.mem_append.mp h with h | h
    · have hnode := row_le_depth e node h
      omega
    · have hnode := row_le_depthOfAll rest node h
      omega

end

/-- An edge that does not go along a row leaves room for a row behind it. -/
theorem succ_le_mul {d d' r k : Nat} (h : d ≤ d' * (k + 1) + r) (hr : r ≤ k) :
    d + 1 ≤ (d' + 1) * (k + 1) := by
  rw [Nat.succ_mul]
  omega

/-- A node in a row, with one edge along the row and one that does not go along it. -/
theorem max_le_mul {l l' r d d' k : Nat} (hl : l ≤ l' * (k + 1) + r)
    (hd : d + 1 ≤ (d' + 1) * (k + 1)) :
    max (l + 1) (d + 1) ≤ max l' (d' + 1) * (k + 1) + (r + 1) := by
  have hleft : l' * (k + 1) ≤ max l' (d' + 1) * (k + 1) :=
    Nat.mul_le_mul_right _ (Nat.le_max_left ..)
  have hright : (d' + 1) * (k + 1) ≤ max l' (d' + 1) * (k + 1) :=
    Nat.mul_le_mul_right _ (Nat.le_max_right ..)
  omega

mutual

/-- **Rows stretch a tree** by their length at most: if none is longer than `k`, an edge that does
not go along a row becomes `k + 1` of them. -/
theorem depth_le_of_rows {k : Nat} : ∀ e : Expr, (∀ node ∈ e.nodes, node.row ≤ k) →
    e.depth .edges ≤ e.depth .rows * (k + 1) + e.row
  | .literal _, _ => Nat.zero_le _
  | .variable _, _ => Nat.zero_le _
  | .index target key, h => by
    obtain ⟨htargets, hkeys⟩ := List.forall_mem_append.mp (List.forall_mem_cons.mp h).2
    have htarget := depth_le_of_rows target htargets
    have hkey := succ_le_mul (depth_le_of_rows key hkeys) (hkeys _ key.self_mem_nodes)
    exact max_le_mul htarget hkey
  | .call _ arguments, h => by
    have harguments := depthOfAll_le_of_rows arguments (List.forall_mem_cons.mp h).2
    rw [depth, depth]
    omega
  | .arithmetic _ left right, h => by
    obtain ⟨hlefts, hrights⟩ := List.forall_mem_append.mp (List.forall_mem_cons.mp h).2
    have hleft := depth_le_of_rows left hlefts
    have hright := succ_le_mul (depth_le_of_rows right hrights) (hrights _ right.self_mem_nodes)
    exact max_le_mul hleft hright
  | .negate operand, h => by
    have hnodes := (List.forall_mem_cons.mp h).2
    exact succ_le_mul (depth_le_of_rows operand hnodes) (hnodes _ operand.self_mem_nodes)

theorem depthOfAll_le_of_rows {k : Nat} : ∀ es : List Expr,
    (∀ node ∈ nodesOfAll es, node.row ≤ k) →
    depthOfAll .edges es ≤ depthOfAll .rows es * (k + 1)
  | [], _ => Nat.zero_le _
  | e :: rest, h => by
    obtain ⟨hnodes, hrests⟩ := List.forall_mem_append.mp h
    have he := succ_le_mul (depth_le_of_rows e hnodes) (hnodes _ e.self_mem_nodes)
    have hrest := depthOfAll_le_of_rows rest hrests
    rw [depthOfAll, depthOfAll]
    refine Nat.max_le.mpr ⟨Nat.le_trans he ?_, Nat.le_trans hrest ?_⟩
    · exact Nat.mul_le_mul_right _ (Nat.le_max_left ..)
    · exact Nat.mul_le_mul_right _ (Nat.le_max_right ..)

end

end Expr

namespace Grammar

open Template

/-! ## 2. Derivations bound the depth -/

/-- A level further in leaves room for the edges of that level. -/
theorem level_le (w : EdgeWeights) {m n : Nat} (h : m < n) :
    m * w.perLevel + 2 * w.right + w.nested ≤ n * w.perLevel := by
  have hlevels : (m + 1) * w.perLevel ≤ n * w.perLevel := Nat.mul_le_mul_right _ h
  rw [Nat.succ_mul] at hlevels
  unfold EdgeWeights.perLevel at hlevels ⊢
  omega

section

variable {w : EdgeWeights}

mutual

/-- **A derivation bounds the depth of its tree**, where edges to the left are free.  The operands
of a sum are products and the operands of a product are signed, so on one level at most two edges
go to the right. -/
theorem depth_le_of_sum (hleft : w.left = 0) :
    ∀ {n : Nat} {ts : List Token} {e : Expr}, Sum n ts e →
      e.depth w ≤ n * w.perLevel + 2 * w.right
  | _, _, _, .single h => by
    have hproduct := depth_le_of_product hleft h
    omega
  | _, _, _, .join _ hl hr => by
    have hl := depth_le_of_sum hleft hl
    have hr := depth_le_of_product hleft hr
    rw [Expr.depth, hleft]
    omega

theorem depth_le_of_product (hleft : w.left = 0) :
    ∀ {n : Nat} {ts : List Token} {e : Expr}, Product n ts e →
      e.depth w ≤ n * w.perLevel + w.right
  | _, _, _, .single h => by
    have hunary := depth_le_of_unary hleft h
    omega
  | _, _, _, .join _ hl hr => by
    have hl := depth_le_of_product hleft hl
    have hr := depth_le_of_unary hleft hr
    rw [Expr.depth, hleft]
    omega

theorem depth_le_of_unary (hleft : w.left = 0) :
    ∀ {n : Nat} {ts : List Token} {e : Expr}, Unary n ts e → e.depth w ≤ n * w.perLevel
  | _, _, _, .plain h => depth_le_of_indexed hleft h
  | _, _, _, @Unary.minus m n _ e hm h => by
    have hlevel := level_le w hm
    have hoperand := depth_le_of_unary hleft h
    have hsign := Expr.depth_negated_le w e
    omega

theorem depth_le_of_indexed (hleft : w.left = 0) :
    ∀ {n : Nat} {ts : List Token} {e : Expr}, Indexed n ts e → e.depth w ≤ n * w.perLevel
  | _, _, _, .plain h => depth_le_of_primary hleft h
  | _, _, _, .index hm htarget hkey => by
    have hlevel := level_le w hm
    have htarget := depth_le_of_indexed hleft htarget
    have hkey := depth_le_of_sum hleft hkey
    rw [Expr.depth, hleft]
    omega

theorem depth_le_of_primary (hleft : w.left = 0) :
    ∀ {n : Nat} {ts : List Token} {e : Expr}, Primary n ts e → e.depth w ≤ n * w.perLevel
  | _, _, _, .integer _ => Nat.zero_le _
  | _, _, _, .float => Nat.zero_le _
  | _, _, _, .string => Nat.zero_le _
  | _, _, _, .trueWord => Nat.zero_le _
  | _, _, _, .falseWord => Nat.zero_le _
  | _, _, _, .name _ _ => Nat.zero_le _
  | _, _, _, .bareCall => Nat.zero_le _
  | _, _, _, .call h => depth_le_of_arguments hleft h
  | _, _, _, .parenthesized hm h => by
    have hlevel := level_le w hm
    have hinner := depth_le_of_sum hleft h
    omega

theorem depth_le_of_arguments (hleft : w.left = 0) :
    ∀ {n : Nat} {ts : List Token} {es : List Expr}, Arguments n ts es →
      Expr.depthOfAll w es ≤ n * w.perLevel
  | _, _, _, .last hm h => by
    have hlevel := level_le w hm
    have he := depth_le_of_sum hleft h
    rw [Expr.depthOfAll, Expr.depthOfAll]
    omega
  | _, _, _, .more hm h hrest => by
    have hlevel := level_le w hm
    have he := depth_le_of_sum hleft h
    have hrest := depth_le_of_arguments hleft hrest
    rw [Expr.depthOfAll]
    omega

end

end

/-! ## 3. Accepted templates -/

/-- The expressions of a text are derived with less nesting than its limit. -/
theorem exists_sum_of_reads {limit : Nat} {text : List Char} {pieces : List Piece} {e : Expr}
    (h : Reads limit text pieces) (he : .expression e ∈ pieces) :
    ∃ n < limit, ∃ ts, Sum n ts e := by
  induction h with
  | nil => cases he
  | escape _ ih => exact ih (by simpa using he)
  | interpolation hn hsum _ _ ih =>
    rcases List.mem_cons.mp he with heq | he
    · cases heq
      exact ⟨_, hn, _, hsum⟩
    · exact ih he
  | character _ _ ih => exact ih (by simpa using he)

/-- Every interpolation is one of the pieces. -/
theorem mem_spread {parts : List Part} {e : Expr} (h : .interpolation e ∈ parts) :
    .expression e ∈ spread parts := by
  induction parts with
  | nil => cases h
  | cons first rest ih =>
    rcases List.mem_cons.mp h with rfl | hrest
    · exact List.mem_cons_self
    · cases first with
      | literal text => exact List.mem_append_right _ (ih hrest)
      | interpolation _ => exact List.mem_cons_of_mem _ (ih hrest)

/-- The expressions of a template are among its pieces. -/
theorem mem_spread_of_mem_exprs {t : Template} {e : Expr} (h : e ∈ t.exprs) :
    .expression e ∈ spread t.parts := by
  obtain ⟨part, hpart, he⟩ := List.mem_filterMap.mp h
  cases part with
  | literal text => cases he
  | interpolation e' =>
    cases he
    exact mem_spread hpart

/-- A limit may be raised. -/
theorem parseWithin_mono {limit limit' : Nat} {source : String} {t : Template}
    (h : parseWithin limit source = .ok t) (hle : limit ≤ limit') :
    parseWithin limit' source = .ok t := by
  obtain ⟨hsource, hparts⟩ := parseWithin_eq_ok_iff.mp h
  obtain ⟨hreads, hmerged⟩ := derives_of_partsFrom hparts
  exact parseWithin_eq_ok_iff.mpr ⟨hsource, partsFrom_of_derives ⟨hreads.mono hle, hmerged⟩⟩

/-- **An accepted expression is derived** with less nesting than the limit. -/
theorem exists_sum_of_parseWithin {limit : Nat} {source : String} {t : Template}
    (h : parseWithin limit source = .ok t) {e : Expr} (he : e ∈ t.exprs) :
    ∃ n < limit, ∃ ts, Sum n ts e :=
  exists_sum_of_reads (derives_of_partsFrom (parseWithin_eq_ok_iff.mp h).2).1
    (mem_spread_of_mem_exprs he)

/-- An accepted expression nests less deep than the limit. -/
theorem nesting_lt_of_parseWithin {limit : Nat} {source : String} {t : Template}
    (h : parseWithin limit source = .ok t) {e : Expr} (he : e ∈ t.exprs) :
    e.nesting < limit := by
  obtain ⟨n, hn, ts, hsum⟩ := exists_sum_of_parseWithin h he
  have hdepth : e.nesting ≤ n * 1 + 0 := depth_le_of_sum rfl hsum
  omega

/-- With rows counted as one node, it is at most three times as high as the limit. -/
theorem rowHeight_le_of_parseWithin {limit : Nat} {source : String} {t : Template}
    (h : parseWithin limit source = .ok t) {e : Expr} (he : e ∈ t.exprs) :
    e.rowHeight ≤ 3 * limit := by
  obtain ⟨n, hn, ts, hsum⟩ := exists_sum_of_parseWithin h he
  have hdepth : e.depth .rows ≤ n * 3 + 2 := depth_le_of_sum rfl hsum
  unfold Expr.rowHeight
  omega

/-- A text that opens an interpolation. -/
def opened (text : List Char) : String := String.ofList ('$' :: '{' :: text)

/-- A derived expression and the brace behind it make a template. -/
theorem parseWithin_opened {n limit : Nat} {text : List Char} {ts : List Token} {e : Expr}
    (hn : n < limit) (hsum : Sum n ts e) (hts : Lexes text ts ['}']) :
    parseWithin limit (opened text) = .ok ⟨opened text, [.interpolation e]⟩ := by
  refine parseWithin_eq_ok_iff.mpr ⟨rfl, partsFrom_of_derives ⟨?_, trivial⟩⟩
  rw [opened, String.toList_ofList]
  exact .interpolation hn hsum hts .nil

/-- With rows of `k` operators or indexes at most, it is at most `k + 1` times as high. -/
theorem height_le_of_parseWithin {limit k : Nat} {source : String} {t : Template}
    (h : parseWithin limit source = .ok t) {e : Expr} (he : e ∈ t.exprs)
    (hrows : ∀ node ∈ e.nodes, node.row ≤ k) : e.height ≤ 3 * limit * (k + 1) := by
  have hdepth := Expr.depth_le_of_rows e hrows
  have hrow := hrows e e.self_mem_nodes
  calc e.height
      ≤ e.rowHeight * (k + 1) := Expr.succ_le_mul hdepth hrow
    _ ≤ 3 * limit * (k + 1) := Nat.mul_le_mul_right _ (rowHeight_le_of_parseWithin h he)

/-- A template that only a higher limit accepts is the same under every limit that accepts it. -/
theorem parseWithin_det {limit limit' : Nat} {source : String} {t t' : Template}
    (h : parseWithin limit source = .ok t) (h' : parseWithin limit' source = .ok t') : t = t' := by
  have hhigh := parseWithin_mono h (Nat.le_max_left limit limit')
  have hhigh' := parseWithin_mono h' (Nat.le_max_right limit limit')
  rw [hhigh] at hhigh'
  exact Except.ok.inj hhigh'

/-- **Nesting is bounded, and the height is bounded as far as rows are.**  In an accepted template
every expression nests less than `maxNesting` levels deep.  If no row of operators or indexes in it
is longer than `k`, its tree is at most `3 * maxNesting * (k + 1)` nodes high, and no row is as
long as the tree is high.  A text that nests deeper, so that only a higher limit would accept it,
is a syntax error. -/
theorem nesting_is_bounded (source : String) :
    (∀ t, parse source = .ok t → ∀ e ∈ t.exprs,
      e.nesting < maxNesting
      ∧ (∀ k, (∀ node ∈ e.nodes, node.row ≤ k) → e.height ≤ 3 * maxNesting * (k + 1))
      ∧ ∀ node ∈ e.nodes, node.row < e.height)
    ∧ ∀ limit t, parseWithin limit source = .ok t → (∃ e ∈ t.exprs, maxNesting ≤ e.nesting) →
      ∃ fault, parse source = .error fault ∧ fault.kind = .parse := by
  refine ⟨fun t h e he => ⟨nesting_lt_of_parseWithin h he, ?_, ?_⟩,
    fun limit t h ⟨e, he, hdeep⟩ => ?_⟩
  · exact fun k hrows => height_le_of_parseWithin h he hrows
  · exact fun node hnode => Nat.lt_succ_of_le (Expr.row_le_depth e node hnode)
  · cases hparse : parse source with
    | error fault => exact ⟨fault, rfl, kind_of_parse_error hparse⟩
    | ok t' =>
      obtain rfl := parseWithin_det hparse h
      have hnesting : e.nesting < maxNesting := nesting_lt_of_parseWithin hparse he
      omega

namespace Example

/-- Signs in a row before a name, and the closing brace. -/
def signs (n : Nat) : List Char := List.replicate n '-' ++ ['x', '}']

/-- Their tree. -/
def signed : Nat → Expr
  | 0 => .variable "x"
  | n + 1 => .negate (signed n)

theorem lexes_signs (n : Nat) :
    Lexes (signs n) (List.replicate n (.symbol '-') ++ [.name "x"]) ['}'] := by
  induction n with
  | zero =>
    refine @Lexes.token _ ['x'] _ _ _ (.name (by decide) (by simp)) ?_ .done
    rintro c ⟨⟩
    decide +kernel
  | succ n ih => exact .cons_symbol (by decide) ih

theorem unary_signs (n : Nat) :
    Unary n (List.replicate n (.symbol '-') ++ [.name "x"]) (signed n) := by
  induction n with
  | zero => exact .plain (.plain (.name (by decide) (by decide)))
  | succ n ih =>
    have hminus := Unary.minus (Nat.lt_succ_self n) ih
    cases n <;> exact hminus

theorem nesting_signed (n : Nat) : (signed n).nesting = n := by
  induction n with
  | zero => rfl
  | succ n ih => exact congrArg (· + 1) ih

/-- One level below the limit signs are accepted, and at the limit they are refused. -/
theorem signs_at_the_limit :
    (signed 127).nesting < maxNesting
      ∧ ∃ fault, parse (opened (signs 128)) = .error fault ∧ fault.kind = .parse := by
  have hread (n limit : Nat) (hn : n < limit) :=
    parseWithin_opened hn (.single (.single (unary_signs n))) (lexes_signs n)
  refine ⟨((nesting_is_bounded _).1 _ (hread 127 128 (by decide)) _ List.mem_cons_self).1, ?_⟩
  exact (nesting_is_bounded _).2 129 _ (hread 128 129 (by decide))
    ⟨_, List.mem_cons_self, Nat.le_of_eq (nesting_signed 128).symm⟩

end Example

/-! ## 4. Rows of operators -/

/-- `1+1+…+1` with so many plus signs, and the closing brace. -/
def onesText (n : Nat) : List Char := '1' :: ((List.replicate n ['+', '1']).flatten ++ ['}'])

/-- Its tokens. -/
def onesTokens (n : Nat) : List Token :=
  .integer 1 :: (List.replicate n [.symbol '+', .integer 1]).flatten

/-- Its tree, grouped to the left. -/
def sumOfOnes : Nat → Expr
  | 0 => .literal (.integer 1)
  | n + 1 => .arithmetic .add (sumOfOnes n) (.literal (.integer 1))

/-- A one is a token before a delimiter. -/
theorem Lexes.one {c : Char} {text rest : List Char} {ts : List Token} (hc : c ∈ delimiters)
    (h : Lexes (c :: text) ts rest) : Lexes ('1' :: c :: text) (.integer 1 :: ts) rest := by
  have hone : Spelled (.integer 1) ['1'] :=
    @Spelled.integer ['1'] ⟨by simp, List.forall_mem_singleton.mpr (by decide)⟩
  exact .token hone (Token.ends_delimiter _ hc text) h

theorem lexes_ones (n : Nat) : Lexes (onesText n) (onesTokens n) ['}'] := by
  induction n with
  | zero => exact .one (by decide) .done
  | succ n ih =>
    exact .one (by decide) (.cons_symbol (by decide) ih)

/-- The sum is derived without nesting. -/
theorem sum_ones (n : Nat) : Sum 0 (onesTokens n) (sumOfOnes n) := by
  have hone : Unary 0 [.integer 1] (.literal (.integer 1)) :=
    .plain (.plain (.integer (by decide)))
  induction n with
  | zero => exact .single (.single hone)
  | succ n ih =>
    have htokens : onesTokens (n + 1)
        = onesTokens n ++ .symbol (Operator.symbol .add) :: [.integer 1] := by
      rw [onesTokens, List.replicate_succ', List.flatten_append]
      rfl
    rw [htokens]
    exact .join (.inl rfl) ih (.single hone)

/-- Every plus sign adds a node on the way to the first operand. -/
theorem height_sumOfOnes (n : Nat) : (sumOfOnes n).height = n + 1 := by
  have hdepth : (sumOfOnes n).depth .edges = n := by
    induction n with
    | zero => rfl
    | succ n ih =>
      change max ((sumOfOnes n).depth _ + 1) (0 + 1) = n + 1
      rw [ih]
      omega
  rw [Expr.height, hdepth]

/-- **There is no bound on the height of accepted expressions**: rows of operators are accepted at
any length, and their trees grow with them. -/
theorem height_is_unbounded :
    ¬ ∃ bound : Nat, ∀ (source : String) (t : Template), parse source = .ok t →
      ∀ e ∈ t.exprs, e.height ≤ bound := by
  rintro ⟨bound, h⟩
  have hparse := parseWithin_opened (show 0 < maxNesting by decide) (sum_ones bound)
    (lexes_ones bound)
  have hle := h _ _ hparse (sumOfOnes bound) List.mem_cons_self
  rw [height_sumOfOnes] at hle
  omega

end Grammar

end TemplatedConfig
