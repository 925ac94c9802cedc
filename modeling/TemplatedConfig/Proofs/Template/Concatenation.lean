/-
# Parsing and concatenation

Two templates written one after the other are parsed to the parts of the first and then the parts
of the second (`joinParts`): the parser never looks beyond the end of the first.  There are three
places where it might.

* Inside an interpolation a token goes on as far as it can.  But every token there stands before
  the closing brace, and with the brace in sight no token becomes longer (`Token.Ends.append`).
* Outside of them a dollar sign opens something if a brace follows it, so a dollar sign at the
  very end of the first template must be ruled out (`atOpening_append`).
* Literal text is gathered across the boundary, which is why two literals that meet there become
  one (`gather_append`).

Main statement: `parse_concatenated`.
-/
import TemplatedConfig.Proofs.Template.Completeness

namespace TemplatedConfig

namespace Template

/-- The parts of one template and those of another behind them.  Two literals that come to stand
side by side are fused into one. -/
def joinParts : List Part → List Part → List Part
  | [], behind => behind
  | [.literal text], .literal text' :: behind => .literal (text ++ text') :: behind
  | part :: parts, behind => part :: joinParts parts behind

/-- Text in front of the first template is text in front of both. -/
theorem consText_joinParts (text : List Char) (parts behind : List Part) :
    consText text (joinParts parts behind) = joinParts (consText text parts) behind := by
  fun_cases joinParts parts behind with
  | case1 =>
    cases behind with
    | nil => rfl
    | cons part more => cases part <;> rfl
  | case2 t u more => simp only [consText, joinParts, String.append_assoc]
  | case3 part parts _ hfused =>
    cases part with
    | interpolation e => rfl
    | literal t =>
      rw [consText, consText, joinParts]
      intro t' u more hbehind _ hparts
      exact hfused t u more hbehind rfl hparts

end Template

namespace Grammar

open Template

/-! ## 1. Nothing beyond the end matters -/

/-- A token that ends before a closing brace ends there whatever stands behind the brace. -/
theorem Token.Ends.append {t : Token} {text : List Char} (h : t.Ends text) (hbrace : '}' ∈ text)
    (more : List Char) : t.Ends (text ++ more) := by
  obtain ⟨c, rest, rfl⟩ := List.exists_cons_of_ne_nil (List.ne_nil_of_mem hbrace)
  cases t with
  | integer value =>
    obtain ⟨hstops, hpoint⟩ := h
    refine ⟨hstops, fun rest' hrest' => ?_⟩
    obtain ⟨rfl, rfl⟩ := List.cons.inj hrest'
    -- the brace is not the point, so something is left to look at behind the point
    have hbrace' : '}' ∈ rest := by simpa using hbrace
    obtain ⟨d, rest, rfl⟩ := List.exists_cons_of_ne_nil (List.ne_nil_of_mem hbrace')
    exact hpoint (d :: rest) rfl
  | float value => exact h
  | name text => exact h
  | string text => trivial
  | symbol c => trivial

/-- The tokens of an interpolation do not depend on what follows the closing brace. -/
theorem Lexes.append_text {text rest : List Char} {ts : List Token}
    (h : Lexes text ts ('}' :: rest)) (more : List Char) :
    Lexes (text ++ more) ts ('}' :: (rest ++ more)) := by
  generalize hend : '}' :: rest = tail at h
  induction h with
  | done =>
    subst hend
    exact .done
  | blank hc _ ih => exact .blank hc (ih hend)
  | token hs hends hrest ih =>
    have hbrace := hrest.suffix.mem (hend ▸ List.mem_cons_self)
    rw [List.append_assoc]
    exact .token hs (hends.append hbrace more) (ih hend)

/-- A character that opens nothing opens nothing when the text goes on, unless it is a dollar sign
among those at the very end. -/
theorem atOpening_append {c : Char} {text : List Char} (h : atOpening (c :: text) = false)
    (hend : ¬ ['$'] <:+ c :: text) (more : List Char) :
    atOpening (c :: (text ++ more)) = false := by
  unfold atOpening at h ⊢
  cases text with
  | nil =>
    have hc : c ≠ '$' := fun hc => hend (hc ▸ List.suffix_refl _)
    split <;> simp_all
  | cons d text =>
    cases text with
    | nil =>
      have hd : d ≠ '$' := fun hd => hend (hd ▸ List.suffix_cons _ _)
      split <;> simp_all
    | cons e text => split <;> simp_all

/-- **What two texts read as, they read as one after the other.** -/
theorem Reads.append {limit : Nat} {text text' : List Char} {pieces pieces' : List Piece}
    (h : Reads limit text pieces) (h' : Reads limit text' pieces') (hend : ¬ ['$'] <:+ text) :
    Reads limit (text ++ text') (pieces ++ pieces') := by
  induction h with
  | nil => exact h'
  | escape _ ih =>
    exact .escape (ih fun hsuffix => hend (hsuffix.trans ⟨['$', '$', '{'], rfl⟩))
  | @interpolation n text rest ts e pieces hn hsum hts _ ih =>
    have hrest : rest <:+ '$' :: '{' :: text :=
      ((List.suffix_cons '}' rest).trans hts.suffix).trans ⟨['$', '{'], rfl⟩
    exact .interpolation hn hsum (hts.append_text text') (ih fun hsuffix =>
      hend (hsuffix.trans hrest))
  | character hopening _ ih =>
    exact .character (atOpening_append hopening hend text')
      (ih fun hsuffix => hend (hsuffix.trans (List.suffix_cons ..)))

/-! ## 2. Literals meet at the boundary -/

/-- Pieces one after the other are gathered to parts that are joined. -/
theorem gather_append (pieces pieces' : List Piece) :
    gather (pieces ++ pieces') = joinParts (gather pieces) (gather pieces') := by
  induction pieces with
  | nil => rw [List.nil_append, gather, joinParts]
  | cons piece pieces ih =>
    cases piece with
    | character c => rw [List.cons_append, gather, ih, consText_joinParts, gather]
    | expression e =>
      rw [List.cons_append, gather, ih, gather, joinParts]
      intro _ _ _ _ hliteral
      cases hliteral

/-- **Parsing respects concatenation.**  If two texts are templates and the first does not end in a
dollar sign, the second written behind the first is a template too, with the parts of the first
and then those of the second, where a literal at the end of the first and one at the beginning of
the second are fused. -/
theorem parse_concatenated {first second : String} {t t' : Template}
    (h : parse first = .ok t) (h' : parse second = .ok t') (hend : ¬ ['$'] <:+ first.toList) :
    parse (first ++ second) = .ok ⟨first ++ second, joinParts t.parts t'.parts⟩ := by
  obtain ⟨pieces, hreads, rfl⟩ := parseWithin_eq_ok_iff_reads.mp h
  obtain ⟨pieces', hreads', rfl⟩ := parseWithin_eq_ok_iff_reads.mp h'
  refine parseWithin_eq_ok_iff_reads.mpr ⟨pieces ++ pieces', ?_, ?_⟩
  · rw [String.toList_append]
    exact hreads.append hreads' hend
  · rw [gather_append]

namespace Example

/-- A template that ends with an interpolation and a letter. -/
theorem parse_productFirst :
    parse "a${ -2 *x}b"
      = .ok ⟨"a${ -2 *x}b", [.literal "a", .interpolation tree, .literal "b"]⟩ := by
  refine parseWithin_eq_ok_iff_reads.mpr
    ⟨[.character 'a', .expression tree, .character 'b'], ?_, rfl⟩
  exact .character (by decide) (.interpolation (by decide) sum_tokens
    (lexes_tokens.append_text ['b']) (.character (by decide) .nil))

/-- A template that begins with a letter and ends with an escape. -/
theorem parse_escapeSecond : parse "c$$\x7b" = .ok ⟨"c$$\x7b", [.literal "c$\x7b"]⟩ := by
  refine parseWithin_eq_ok_iff_reads.mpr
    ⟨[.character 'c', .character '$', .character '\x7b'], ?_, rfl⟩
  exact .character (by decide) (.escape .nil)

/-- The letters meet in one literal. -/
theorem letters_meet :
    ¬ ['$'] <:+ "a${ -2 *x}b".toList
      ∧ parse ("a${ -2 *x}b" ++ "c$$\x7b")
        = .ok ⟨"a${ -2 *x}b" ++ "c$$\x7b",
            [.literal "a", .interpolation tree, .literal "bc$\x7b"]⟩ := by
  have hend : ¬ ['$'] <:+ "a${ -2 *x}b".toList := by decide
  exact ⟨hend, parse_concatenated parse_productFirst parse_escapeSecond hend⟩

end Example

end Grammar

end TemplatedConfig
