/-
# Minus signs that numerals take into themselves

A numeral takes the minus signs before it into itself (`negated`).  The parser negates in 64 bits
and does not ask whether the negative fits, while the evaluator asks and refuses.  Of the integers
only the least has a negative that does not fit, and negating it gives it back.

* **Literals.**  The numerals of a text have no sign, so none of them is the least integer, and a
  sign makes the least integer of the least integer only.  So it does not come up where signs are
  taken in (`least_not_mem_folded`), and whatever integer the parser negates, its negative fits.
* **Values.**  But for the least integer the parser negates as the evaluator does (`eval_negated`).
  By recursion over the tree, an expression as it is written (`parseAsWritten`) evaluates as it
  does with its signs taken in (`eval_folded`).

Faults can show the expression that they are about, and the expression can have lost its signs.  So
two faults are compared in everything but the text of their causes (`SameButForText`), and they do
differ there (`Example.signs_show_in_faults`).

Main statement: `folding_signs_is_safe`.
-/
import TemplatedConfig.Proofs.Scope.Exactness
import TemplatedConfig.Proofs.Scope.Strictness
import TemplatedConfig.Proofs.Template.AsWritten

namespace TemplatedConfig

namespace Grammar

open Template

/-! ## 1. The least integer -/

/-- Only the least integer is the negative of the least integer. -/
theorem neg_eq_minValue_iff {n : Int64} : -n = Int64.minValue ↔ n = Int64.minValue := by
  have hleast : -Int64.minValue = Int64.minValue := by decide
  constructor
  · intro h
    rw [← Int64.neg_inj, h, hleast]
  · rintro rfl
    exact hleast

/-- Every other integer has a negative. -/
theorem fits_neg {n : Int64} (h : n ≠ Int64.minValue) : Value.Fits (-n.toInt) := by
  have hleast : n.toInt ≠ -9223372036854775808 := by
    intro hn
    exact h (Int64.toInt_inj.mp hn)
  have hfits := Value.fits_toInt n
  rw [Value.fits_iff] at hfits ⊢
  omega

/-- The least integer as a literal, which no text stands for. -/
def least : Expr := .literal (.integer Int64.minValue)

/-- A sign does not make the least integer, and does not hide it. -/
theorem least_mem_nodes_negated {e : Expr} :
    least ∈ (negated e).nodes ↔ least ∈ e.nodes := by
  unfold negated
  split
  · rename_i n
    have hneg : Int64.minValue = -n ↔ Int64.minValue = n := by
      rw [eq_comm, neg_eq_minValue_iff, eq_comm]
    simpa only [Expr.nodes, least, List.mem_singleton, Expr.literal.injEq, Literal.integer.injEq]
  · simp [Expr.nodes, least]
  · simp [Expr.nodes, least]

/-- An integer without a sign is another. -/
theorem ne_minValue_of_nonneg {n : Int64} (h : 0 ≤ n) : n ≠ Int64.minValue := by
  rintro rfl
  exact absurd h (by decide)

mutual

/-- **No sign makes the least integer** of literals that have none. -/
theorem least_not_mem_folded : ∀ e : Expr, Unsigned e.nodes → least ∉ e.folded.nodes
  | .literal v, h => by
    intro hleast
    obtain rfl : .integer Int64.minValue = v := by
      simpa [Expr.folded, Expr.nodes, least] using hleast
    exact ne_minValue_of_nonneg (h _ List.mem_cons_self) rfl
  | .variable name, _ => by simp [Expr.folded, Expr.nodes, least]
  | .index target key, h => by
    have htarget := least_not_mem_folded target (h.mono (by simp [Expr.nodes]))
    have hkey := least_not_mem_folded key (h.mono (by simp [Expr.nodes]))
    simpa [Expr.folded, Expr.nodes, least] using ⟨htarget, hkey⟩
  | .call function arguments, h => by
    have harguments := least_not_mem_foldedAll arguments (h.mono (by simp [Expr.nodes]))
    simpa [Expr.folded, Expr.nodes, least] using harguments
  | .arithmetic op left right, h => by
    have hleft := least_not_mem_folded left (h.mono (by simp [Expr.nodes]))
    have hright := least_not_mem_folded right (h.mono (by simp [Expr.nodes]))
    simpa [Expr.folded, Expr.nodes, least] using ⟨hleft, hright⟩
  | .negate operand, h => by
    have hoperand := least_not_mem_folded operand (h.mono (by simp [Expr.nodes]))
    rwa [Expr.folded, least_mem_nodes_negated]

theorem least_not_mem_foldedAll : ∀ es : List Expr, Unsigned (Expr.nodesOfAll es) →
    least ∉ Expr.nodesOfAll (Expr.foldedAll es)
  | [], _ => by simp [Expr.foldedAll, Expr.nodesOfAll]
  | e :: rest, h => by
    have he := least_not_mem_folded e (h.mono (by simp [Expr.nodesOfAll]))
    have hrest := least_not_mem_foldedAll rest (h.mono (by simp [Expr.nodesOfAll]))
    simpa [Expr.foldedAll, Expr.nodesOfAll] using ⟨he, hrest⟩

end

end Grammar

/-! ## 2. Values -/

/-- The same result, or faults that differ in what they say of their cause at most: the causes are
of one kind, and path, place and help are the same. -/
inductive SameButForText {α : Type} : Except Fault α → Except Fault α → Prop where
  | result (a : α) : SameButForText (.ok a) (.ok a)
  | fault (fault : Fault) {cause : Cause} : cause.kind = fault.kind →
      SameButForText (.error fault) (.error { fault with cause })

namespace SameButForText

variable {α β : Type} {x y : Except Fault α}

theorem refl (x : Except Fault α) : SameButForText x x := by
  cases x with
  | error fault => exact .fault fault rfl
  | ok a => exact .result a

/-- What follows is compared for the same results only. -/
theorem bind (h : SameButForText x y) {f g : α → Except Fault β}
    (hf : ∀ a, SameButForText (f a) (g a)) : SameButForText (x.bind f) (y.bind g) := by
  cases h with
  | result a => exact hf a
  | fault fault hkind => exact .fault fault hkind

theorem map (h : SameButForText x y) (f : α → β) : SameButForText (x.map f) (y.map f) := by
  cases h with
  | result a => exact .result (f a)
  | fault fault hkind => exact .fault fault hkind

theorem mapM {f g : α → Except Fault β} {l : List α} (h : ∀ a ∈ l, SameButForText (f a) (g a)) :
    SameButForText (l.mapM f) (l.mapM g) := by
  induction l with
  | nil => exact .refl _
  | cons a rest ih =>
    obtain ⟨ha, hrest⟩ := List.forall_mem_cons.mp h
    rw [List.mapM_cons, List.mapM_cons]
    refine ha.bind ?_
    intro b
    refine (ih hrest).bind ?_
    intro bs
    exact .refl _

end SameButForText

namespace Operation

/-- The text of the indexed expression shows in faults only. -/
theorem index_sameButForText (expr expr' : String) (target key : Value) :
    SameButForText (index expr target key) (index expr' target key) := by
  unfold index
  split
  · split
    · exact .refl _
    · exact .fault _ rfl
  · exact .fault _ rfl
  · split
    · exact .refl _
    · exact .fault _ rfl
  · exact .fault _ rfl
  · exact .fault _ rfl

/-- The same goes for the text of an embedded expression. -/
theorem render_sameButForText (expr expr' : String) (v : Value) :
    SameButForText (render expr v) (render expr' v) := by
  unfold render
  split
  · exact .refl _
  · exact .refl _
  · exact .refl _
  · exact .refl _
  · exact .fault _ rfl

end Operation

namespace Scope

open Grammar (least)

variable (s : Scope)

theorem withBoth_sameButForText {a a' b b' : Except Fault Outcome}
    {use use' : Value → Value → Except Fault Outcome} (ha : SameButForText a a')
    (hb : SameButForText b b') (huse : ∀ l r, SameButForText (use l r) (use' l r)) :
    SameButForText (withBoth a b use) (withBoth a' b' use') := by
  refine ha.bind ?_
  intro left
  refine hb.bind ?_
  intro right
  cases left with
  | unknown => exact .refl _
  | known l =>
    cases right with
    | unknown => exact .refl _
    | known r => exact huse l r

/-- **The parser negates as the evaluator does**, but for the least integer. -/
theorem eval_negated {e : Expr} (h : least ∉ e.nodes) :
    s.eval (Template.negated e) = s.eval (.negate e) := by
  unfold Template.negated
  split
  · rename_i n
    have hn : n ≠ Int64.minValue := by
      rintro rfl
      exact h List.mem_cons_self
    change .ok (.known (.integer (-n))) = (Operation.negate (.integer n)).map Outcome.known
    rw [Operation.negate, if_pos (Grammar.fits_neg hn), Int64.ofInt_neg, Int64.ofInt_toInt]
    rfl
  · rfl
  · rfl

mutual

/-- **Folding changes no value** of an expression without signs in its literals, and of its faults
it changes the text at most. -/
theorem eval_folded : ∀ e : Expr, Unsigned e.nodes →
    SameButForText (s.eval e) (s.eval e.folded)
  | .literal _, _ => .refl _
  | .variable _, _ => .refl _
  | .index target key, h => by
    have htarget := eval_folded target (h.mono (by simp [Expr.nodes]))
    have hkey := eval_folded key (h.mono (by simp [Expr.nodes]))
    rw [Expr.folded, eval, eval]
    refine withBoth_sameButForText htarget hkey ?_
    intro t k
    exact (Operation.index_sameButForText _ _ t k).map _
  | .call function arguments, h => by
    have harguments := evalAll_folded arguments (h.mono (by simp [Expr.nodes]))
    rw [Expr.folded, eval, eval]
    refine harguments.bind ?_
    intro outcomes
    exact .refl _
  | .arithmetic op left right, h => by
    have hleft := eval_folded left (h.mono (by simp [Expr.nodes]))
    have hright := eval_folded right (h.mono (by simp [Expr.nodes]))
    rw [Expr.folded, eval, eval]
    refine withBoth_sameButForText hleft hright ?_
    intro l r
    exact .refl _
  | .negate operand, h => by
    have hunsigned : Unsigned operand.nodes := h.mono (by simp [Expr.nodes])
    -- The sign is taken in on one side only, where the operand is no least integer.
    rw [Expr.folded, eval_negated s (Grammar.least_not_mem_folded operand hunsigned), eval, eval]
    refine (eval_folded operand hunsigned).bind ?_
    intro outcome
    exact .refl _

theorem evalAll_folded : ∀ es : List Expr, Unsigned (Expr.nodesOfAll es) →
    SameButForText (s.evalAll es) (s.evalAll (Expr.foldedAll es))
  | [], _ => .refl _
  | e :: rest, h => by
    have he := eval_folded e (h.mono (by simp [Expr.nodesOfAll]))
    have hrest := evalAll_folded rest (h.mono (by simp [Expr.nodesOfAll]))
    rw [Expr.foldedAll, evalAll, evalAll]
    refine he.bind ?_
    intro v
    refine hrest.bind ?_
    intro vs
    exact .refl _

end

/-- A part of a template has the same text with its signs taken in. -/
theorem partText_folded {part : Part} (h : ∀ e, part = .interpolation e → Unsigned e.nodes) :
    SameButForText (s.partText part) (s.partText part.folded) := by
  cases part with
  | literal text => exact .refl _
  | interpolation e =>
    refine (eval_folded s e (h e rfl)).bind ?_
    intro outcome
    cases outcome with
    | known v => exact (Operation.render_sameButForText _ _ v).map _
    | unknown => exact .refl _

theorem singleExpr?_folded (t : Template) :
    t.folded.singleExpr? = t.singleExpr?.map Expr.folded := by
  obtain ⟨source, parts⟩ := t
  rcases parts with _ | ⟨part, _ | ⟨next, rest⟩⟩
  · rfl
  · cases part <;> rfl
  · cases part <;> rfl

/-- **Folding changes no template** without signs in its literals. -/
theorem fill_folded {t : Template} (h : ∀ e, .interpolation e ∈ t.parts → Unsigned e.nodes) :
    SameButForText (s.fill t) (s.fill t.folded) := by
  rw [fill, fill, singleExpr?_folded]
  cases hsingle : t.singleExpr? with
  | some e => exact eval_folded s e (h e (by simp [parts_of_singleExpr? hsingle]))
  | none =>
    simp only [Option.map_none, evalParts, Template.folded, List.mapM_map]
    have htexts : SameButForText (t.parts.mapM s.partText)
        (t.parts.mapM (s.partText ∘ Part.folded)) := by
      refine .mapM ?_
      intro part hpart
      refine partText_folded s ?_
      rintro e rfl
      exact h e hpart
    refine htexts.bind ?_
    intro texts
    exact .refl _

end Scope

/-! ## 3. Accepted templates -/

namespace Grammar

open Template

/-- The expressions of a folded template are folded. -/
theorem mem_exprs_folded_iff {t : Template} {e : Expr} :
    e ∈ t.folded.exprs ↔ ∃ written, .interpolation written ∈ t.parts ∧ written.folded = e := by
  rw [Scope.mem_exprs_iff, Template.folded, List.mem_map]
  constructor
  · rintro ⟨part, hpart, he⟩
    cases part with
    | literal text => cases he
    | interpolation written =>
      cases he
      exact ⟨written, hpart, rfl⟩
  · rintro ⟨written, hpart, rfl⟩
    exact ⟨_, hpart, rfl⟩

/-- **Taking signs in is safe and changes nothing.**  The least integer is no literal of an accepted
template.  Wherever the rule for signs reads an integer, at any level and in any text, its negative
fits, so no sign that the parser puts before one overflows.  And the accepted template is the one
that was written, with the signs taken in.  As it was written it has no literal with a sign, and in
every scope both give the same, or faults that differ in the texts of their causes at most. -/
theorem folding_signs_is_safe {source : String} {t : Template} (h : parse source = .ok t) :
    (∀ e ∈ t.exprs, ∀ n, .literal (.integer n) ∈ e.nodes → n ≠ Int64.minValue)
    ∧ (∀ level text rest n, (unary level).run text = .ok (.literal (.integer n), rest) →
      Value.Fits (-n.toInt))
    ∧ ∃ written, parseAsWritten source = .ok written ∧ written.folded = t
      ∧ (∀ e ∈ written.exprs, Unsigned e.nodes)
      ∧ ∀ s : Scope, SameButForText (s.fill written) (s.fill t) := by
  have hmap := parse_eq_map_folded source
  rw [h] at hmap
  obtain ⟨written, hwritten, rfl⟩ := exists_of_map_eq_ok hmap.symm
  have hunsigned : ∀ e, .interpolation e ∈ written.parts → Unsigned e.nodes :=
    fun e he => unsigned_of_parse hwritten he
  refine ⟨?_, ?_, written, hwritten, rfl, ?_, ?_⟩
  · rintro e he n hn rfl
    obtain ⟨e, hpart, rfl⟩ := mem_exprs_folded_iff.mp he
    exact least_not_mem_folded e (hunsigned e hpart) hn
  · intro level text rest n hrun
    obtain ⟨operand, hoperand, hfolded⟩ := (folds_unary level text).exists_of_eq_ok hrun
    refine fits_neg ?_
    rintro rfl
    exact least_not_mem_folded operand hoperand (hfolded ▸ List.mem_cons_self)
  · intro e he
    exact hunsigned e (Scope.mem_exprs_iff.mp he)
  · intro s
    exact s.fill_folded hunsigned

namespace Example

/-- A three with two signs before it, as it is written. -/
def signedTwice : Expr := .negate (.negate (.literal (.integer 3)))

/-- A difference of which it is the second operand. -/
def differenceText : String := "$\x7b4 - --3\x7d"

/-- The template of a difference from four. -/
def fourLess (operand : Expr) : Template :=
  ⟨differenceText, [.interpolation (.arithmetic .sub (.literal (.integer 4)) operand)]⟩

/-- Two signs are taken in, and in every scope the difference is one with and without them. -/
theorem two_signs_are_taken_in :
    parse differenceText = .ok (fourLess (.literal (.integer 3)))
      ∧ parseAsWritten differenceText = .ok (fourLess signedTwice)
      ∧ ∀ s : Scope, s.fill (fourLess (.literal (.integer 3))) = .ok (.known (.integer 1))
        ∧ SameButForText (s.fill (fourLess signedTwice))
          (s.fill (fourLess (.literal (.integer 3)))) := by
  have hparse : parse differenceText = .ok (fourLess (.literal (.integer 3))) := by
    with_unfolding_all rfl
  have hwritten : parseAsWritten differenceText = .ok (fourLess signedTwice) := by
    with_unfolding_all rfl
  obtain ⟨-, -, written, hsame, -, -, hfill⟩ := folding_signs_is_safe hparse
  obtain rfl : fourLess signedTwice = written := Except.ok.inj (hwritten.symm.trans hsame)
  exact ⟨hparse, hwritten, fun s => ⟨rfl, hfill s⟩⟩

/-- An index on a number, which has none. -/
def indexText : String := "$\x7b(--3)[0]\x7d"

/-- The template of an index on it. -/
def firstOf (target : Expr) : Template :=
  ⟨indexText, [.interpolation (.index target (.literal (.integer 0)))]⟩

/-- **Signs show in faults.**  The number cannot be indexed, and only the fault of the template as
it is written shows the signs. -/
theorem signs_show_in_faults :
    parse indexText = .ok (firstOf (.literal (.integer 3)))
      ∧ parseAsWritten indexText = .ok (firstOf signedTwice)
      ∧ ∀ s : Scope,
        s.fill (firstOf (.literal (.integer 3))) = .error (Fault.of (.notIndexable "3" .integer))
        ∧ s.fill (firstOf signedTwice) = .error (Fault.of (.notIndexable "--3" .integer)) := by
  refine ⟨?_, ?_, ?_⟩
  · with_unfolding_all rfl
  · with_unfolding_all rfl
  · intro s
    exact ⟨by with_unfolding_all rfl, by with_unfolding_all rfl⟩

end Example

end Grammar

end TemplatedConfig
