/-
# What the limit on nesting refuses

The parser refuses a text that opens more than `maxNesting` levels, the interpolation itself being
the first of them.  Here the parser is compared with itself under other limits.

* **Two limits.**  Under a lower limit every production does the same as under a higher one, or it
  refuses the text because it nests too deeply (`Cut`, `Within`).  Each function of the parser gets
  one lemma that says so if it holds of what the function is built from.  Every level takes up a
  character, so a limit that the text is shorter than refuses nothing, and no higher one makes a
  difference (`parseWithin_eq_parseUnbounded`).  This is the parser without a limit.
* **One text.**  An interpolation is accepted exactly if its tokens nest less deep than the limit
  (`Levels`), whatever stands around it (`reads_of_nestingOf_lt`, `nestingOf_lt_of_reads`).

Together: of the texts that are templates without a limit, the parser accepts those that nest less
deep than `maxNesting`, and it refuses all others for their depth (`nesting_limit_is_exact`).  A
text that nests exactly `maxNesting` levels deep is refused, because the level of the interpolation
counts too (`full_depth_is_refused`).
-/
import TemplatedConfig.Proofs.Template.Levels
import TemplatedConfig.Proofs.Template.Nesting

namespace TemplatedConfig

open Template Text

namespace Grammar

/-! ## 1. Results under a lower limit -/

section

variable {α β : Type} {reached reached' : Prop}

/-- A refusal of a text that nests too deeply. -/
def Refused (r : Except (Problem × List Char) α) : Prop := ∃ rest, r = .error (.tooDeep, rest)

/-- What becomes of the result `r'` under a lower limit.  It stays the same and is no refusal, or
it is a refusal now, which takes that the limit has been `reached`. -/
def Cut (reached : Prop) (r r' : Except (Problem × List Char) α) : Prop :=
  (r = r' ∧ ¬ Refused r) ∨ (reached ∧ Refused r)

theorem refused_of_map {r : Except (Problem × List Char) α} {f : α → β} (h : Refused (r.map f)) :
    Refused r := by
  obtain ⟨rest, hrest⟩ := h
  exact ⟨rest, map_eq_error_iff.mp hrest⟩

theorem refused_of_mapTree {r : Reading α} {f : α → β} (h : Refused (r.mapTree f)) :
    Refused r := by
  obtain ⟨rest, hrest⟩ := h
  cases r with
  | error e =>
    cases hrest
    exact ⟨rest, rfl⟩
  | ok a => cases hrest

namespace Cut

variable {r r' : Except (Problem × List Char) α}

theorem same (h : ¬ Refused r) : Cut reached r r := .inl ⟨rfl, h⟩

theorem ok (a : α) : Cut reached (.ok a) (.ok a : Except (Problem × List Char) α) :=
  same (by rintro ⟨_, ⟨⟩⟩)

theorem error {problem : Problem} (h : problem ≠ .tooDeep) (rest : List Char) :
    Cut reached (.error (problem, rest)) (.error (problem, rest) : Except _ α) :=
  same (by rintro ⟨_, hrest⟩; cases hrest; exact h rfl)

theorem mono (h : Cut reached r r') (himp : reached → reached') : Cut reached' r r' :=
  h.imp_right fun ⟨hreached, hrefused⟩ => ⟨himp hreached, hrefused⟩

/-- A refusal is passed on, and what follows another result is compared for itself. -/
theorem bind (h : Cut reached r r') {f f' : α → Except (Problem × List Char) β}
    (hf : ∀ a, r' = .ok a → Cut reached (f a) (f' a)) : Cut reached (r.bind f) (r'.bind f') := by
  rcases h with ⟨rfl, hrefused⟩ | ⟨hreached, rest, rfl⟩
  · cases r with
    | error e => exact same (by rintro ⟨rest, ⟨⟩⟩; exact hrefused ⟨rest, rfl⟩)
    | ok a => exact hf a rfl
  · exact .inr ⟨hreached, rest, rfl⟩

theorem map (h : Cut reached r r') (f : α → β) : Cut reached (r.map f) (r'.map f) := by
  rcases h with ⟨rfl, hrefused⟩ | ⟨hreached, rest, rfl⟩
  · exact same fun h => hrefused (refused_of_map h)
  · exact .inr ⟨hreached, rest, rfl⟩

theorem mapTree {r r' : Reading α} (h : Cut reached r r') (f : α → β) :
    Cut reached (r.mapTree f) (r'.mapTree f) := by
  rcases h with ⟨rfl, hrefused⟩ | ⟨hreached, rest, rfl⟩
  · exact same fun h => hrefused (refused_of_mapTree h)
  · exact .inr ⟨hreached, rest, rfl⟩

end Cut

end

/-! ## 2. Productions under a lower limit -/

/-- The production `p` is what becomes of `q` under a lower limit, which no text reaches that has
less than `n` characters. -/
def Within (n : Nat) (p q : Production Expr) : Prop :=
  ∀ text, Cut (n ≤ text.length) (p.run text) (q.run text)

/-- A text has a character more than what follows its next character. -/
theorem length_lt_of_next {c : Char} {text rest : List Char} (h : skipBlanks text = c :: rest) :
    rest.length < text.length := by
  have hskip := length_skipBlanks_le text
  rw [h, List.length_cons] at hskip
  omega

section

variable {n : Nat} {p q : Production Expr}

theorem within_refused : Within 0 refused q :=
  fun text => .inr ⟨Nat.zero_le _, text, rfl⟩

/-- The loop for arguments.  Every turn takes up text, so what is left reaches the limit only if the
whole text does. -/
theorem cut_argumentsFrom (h : Within n p q) (function : String) (text : List Char) :
    Cut (n ≤ text.length) (argumentsFrom p function text) (argumentsFrom q function text) := by
  rw [argumentsFrom_eq p, argumentsFrom_eq q]
  refine (h text).bind ?_
  rintro ⟨e, rest⟩ hrun
  have hrest := q.consumes hrun
  simp only
  split
  · rename_i more hmore
    have hlength := length_lt_of_next hmore
    have hmore := (cut_argumentsFrom h function more).mapTree (e :: ·)
    exact hmore.mono fun hn => by omega
  · exact .ok _
  · exact .error (by simp) _
termination_by text.length
decreasing_by omega

theorem cut_arguments (h : Within n p q) (function : String) (text : List Char) :
    Cut (n ≤ text.length) (arguments p function text) (arguments q function text) := by
  unfold arguments
  split
  · exact .ok _
  · have hskip := length_skipBlanks_le text
    exact (cut_argumentsFrom h function _).mono fun hn => by omega

theorem cut_nameOrCall (h : Within n p q) (text : List Char) :
    Cut (n < text.length) (nameOrCall p text) (nameOrCall q text) := by
  have hdrop := (List.dropWhile_sublist continuesName (l := text)).length_le
  unfold nameOrCall
  simp only
  split
  · rename_i rest hopen
    have hlength := length_lt_of_next hopen
    exact ((cut_arguments h _ rest).mapTree _).mono fun hn => by omega
  · exact .ok _

theorem parenthesized_eq (nested : Production Expr) (text : List Char) :
    parenthesized nested text = (nested.run text).bind fun (e, rest) =>
      match skipBlanks rest with
      | ')' :: more => .ok (e, more)
      | other => .error (.unclosedParenthesis, other) := by
  unfold parenthesized
  split <;> rename_i hrun <;> rw [hrun] <;> rfl

theorem cut_parenthesized (h : Within n p q) (text : List Char) :
    Cut (n ≤ text.length) (parenthesized p text) (parenthesized q text) := by
  rw [parenthesized_eq, parenthesized_eq]
  refine (h text).bind ?_
  rintro ⟨e, rest⟩ _
  simp only
  split
  · exact .ok _
  · exact .error (by simp) _

/-- Literals do not nest, so they are never refused for their depth. -/
theorem not_refused_stringBody (text : List Char) : ¬ Refused (stringBody text) := by
  fun_induction stringBody text with
  | case1 => rintro ⟨_, ⟨⟩⟩
  | case2 => rintro ⟨_, ⟨⟩⟩
  | case3 => rintro ⟨_, ⟨⟩⟩
  | case4 _ _ _ _ ih => exact fun h => ih (refused_of_mapTree h)
  | case5 => rintro ⟨_, ⟨⟩⟩
  | case6 _ _ _ _ _ ih => exact fun h => ih (refused_of_mapTree h)

theorem not_refused_integerLiteral (digits rest : List Char) :
    ¬ Refused (integerLiteral digits rest) := by
  rintro ⟨rest', hrefused⟩
  unfold integerLiteral at hrefused
  split at hrefused <;> cases hrefused

theorem not_refused_number (text : List Char) : ¬ Refused (number text) := by
  unfold number
  simp only
  split
  · split
    · rintro ⟨rest, ⟨⟩⟩
    · exact not_refused_integerLiteral _ _
  · exact not_refused_integerLiteral _ _

theorem within_primary (h : Within n p q) : Within (n + 1) (primary p) (primary q) := by
  intro text
  change Cut _ (primaryFrom p text) (primaryFrom q text)
  unfold primaryFrom
  split
  · exact .error (by simp) _
  · rename_i c rest hnext
    have hlength := length_lt_of_next hnext
    split
    · exact .same (not_refused_number _)
    · split
      · exact (Cut.same (not_refused_stringBody rest)).mapTree _
      · split
        · exact (cut_parenthesized h rest).mono fun hn => by omega
        · split
          · refine (cut_nameOrCall h (c :: rest)).mono fun hn => ?_
            rw [List.length_cons] at hn
            omega
          · exact .error (by simp) _

theorem cut_indexesFrom (h : Within n p q) (target : Expr) (text : List Char) :
    Cut (n + 1 ≤ text.length) (indexesFrom p target text) (indexesFrom q target text) := by
  rw [indexesFrom_eq p, indexesFrom_eq q]
  split
  · rename_i inner hopen
    have hinner := length_lt_of_next hopen
    refine ((h inner).mono fun hn => by omega).bind ?_
    rintro ⟨key, rest⟩ hrun
    have hrest := q.consumes hrun
    simp only
    split
    · rename_i more hclose
      have hlength := length_lt_of_next hclose
      exact (cut_indexesFrom h (.index target key) more).mono fun hn => by omega
    · exact .error (by simp) _
  · exact .ok _
termination_by text.length
decreasing_by omega

theorem cut_chainFrom (h : Within n p q) (operator? : Char → Option Operator) (left : Expr)
    (text : List Char) :
    Cut (n ≤ text.length) (chainFrom operator? p left text) (chainFrom operator? q left text) := by
  rw [chainFrom_eq, chainFrom_eq]
  split
  · exact .ok _
  · rename_i c rest hnext
    have hlength := length_lt_of_next hnext
    split
    · exact .ok _
    · refine ((h rest).mono fun hn => by omega).bind ?_
      rintro ⟨right, more⟩ hrun
      have hmore := q.consumes hrun
      exact (cut_chainFrom h operator? _ more).mono fun hn => by omega
termination_by text.length
decreasing_by omega

theorem andThen_run (first : Production Expr) (more : Expr → List Char → Reading Expr) (hmore)
    (text : List Char) :
    (first.andThen more hmore).run text = (first.run text).bind fun (e, rest) => more e rest := by
  simp only [Production.andThen]
  split <;> rename_i hrun <;> rw [hrun] <;> rfl

/-- A production and a loop behind it, if both are compared. -/
theorem Within.andThen {first first' : Production Expr}
    {more more' : Expr → List Char → Reading Expr} {hmore hmore'}
    (h : Within n first first')
    (hloop : ∀ e text, Cut (n ≤ text.length) (more e text) (more' e text)) :
    Within n (first.andThen more hmore) (first'.andThen more' hmore') := by
  intro text
  rw [andThen_run, andThen_run]
  refine (h text).bind ?_
  rintro ⟨e, rest⟩ hrun
  have hrest := first'.consumes hrun
  exact (hloop e rest).mono fun hn => by omega

theorem within_indexed (h : Within n p q) : Within (n + 1) (indexed p) (indexed q) :=
  (within_primary h).andThen (cut_indexesFrom h)

theorem within_joined (h : Within n p q) (operator? : Char → Option Operator) :
    Within n (joined operator? p) (joined operator? q) :=
  h.andThen (cut_chainFrom h operator?)

theorem within_sum (h : Within n p q) : Within n (sum p) (sum q) :=
  within_joined (within_joined h productOperator?) sumOperator?

/-- Signs and brackets take up a character, and the limit is reached later by one. -/
theorem within_unaryFrom {sign : Expr → Expr} {signed signed' : Production Expr}
    (hs : Within n signed signed') (h : Within n p q) :
    Within (n + 1) (unaryFrom sign signed p) (unaryFrom sign signed' q) := by
  intro text
  simp only [unaryFrom]
  split
  · rename_i rest hnext
    have hlength := length_lt_of_next hnext
    exact ((hs rest).mapTree sign).mono fun hn => by omega
  · have hskip := length_skipBlanks_le text
    exact (within_indexed h _).mono fun hn => by omega

/-- **Lower levels are cuts of higher ones.** -/
theorem within_unary {m : Nat} (h : n ≤ m) : Within (n + 1) (unary n) (unary m) := by
  induction n generalizing m with
  | zero =>
    cases m with
    | zero => exact within_unaryFrom within_refused within_refused
    | succ m => exact within_unaryFrom within_refused within_refused
  | succ n ih =>
    obtain ⟨m, rfl⟩ : ∃ m', m = m' + 1 := ⟨m - 1, by omega⟩
    have hunary := ih (Nat.le_of_succ_le_succ h)
    exact within_unaryFrom hunary (within_sum hunary)

theorem within_expression {m : Nat} (h : n ≤ m) : Within n (expression n) (expression m) := by
  cases n with
  | zero => exact within_refused
  | succ n =>
    obtain ⟨m, rfl⟩ : ∃ m', m = m' + 1 := ⟨m - 1, by omega⟩
    exact within_sum (within_unary (Nat.le_of_succ_le_succ h))

/-! ## 3. Templates under a lower limit -/

theorem cut_interpolation (h : Within n p q) (text : List Char) :
    Cut (n ≤ text.length) (interpolation p text) (interpolation q text) := by
  have hskip := length_skipBlanks_le text
  unfold interpolation
  split
  · exact .error (by simp) _
  · rcases h (skipBlanks text) with ⟨hsame, hrefused⟩ | ⟨hreached, rest, hrefused⟩
    · rw [hsame] at hrefused ⊢
      split
      · rename_i hrun
        rw [hrun] at hrefused
        refine .same ?_
        rintro ⟨rest, ⟨⟩⟩
        exact hrefused ⟨rest, rfl⟩
      · split
        · exact .ok _
        · exact .error (by simp) _
        · exact .error (by simp) _
    · rw [hrefused]
      exact .inr ⟨by omega, rest, rfl⟩

/-- A text opens an interpolation, escaped or not, or its first character is literal. -/
theorem atOpening_cases (text : List Char) :
    (∃ rest, text = '$' :: '$' :: '{' :: rest) ∨ (∃ rest, text = '$' :: '{' :: rest)
      ∨ atOpening text = false := by
  unfold atOpening
  split
  · exact .inl ⟨_, rfl⟩
  · exact .inr (.inl ⟨_, rfl⟩)
  · exact .inr (.inr rfl)

/-- **Under a lower limit a text has the same parts, or it is refused.** -/
theorem cut_partsFrom (h : Within n p q) (text : List Char) :
    Cut (n ≤ text.length) (partsFrom p text) (partsFrom q text) := by
  -- on the length, because what follows an interpolation is known by its length only
  induction hlength : text.length using Nat.strongRecOn generalizing text with
  | ind length ih =>
    subst hlength
    rcases atOpening_cases text with ⟨rest, rfl⟩ | ⟨rest, rfl⟩ | hliteral
    · rw [partsFrom, partsFrom]
      simp only [List.length_cons] at ih ⊢
      exact ((ih _ (by omega) rest rfl).map _).mono fun hn => by omega
    · rw [partsFrom_of_interpolation, partsFrom_of_interpolation]
      simp only [List.length_cons] at ih ⊢
      refine ((cut_interpolation h rest).mono fun hn => by omega).bind ?_
      rintro ⟨e, more⟩ hmore
      have hlength := interpolation_length hmore
      exact ((ih _ (by omega) more rfl).map _).mono fun hn => by omega
    · cases text with
      | nil =>
        rw [partsFrom, partsFrom]
        exact .ok _
      | cons c rest =>
        rw [partsFrom_cons hliteral, partsFrom_cons hliteral]
        simp only [List.length_cons] at ih ⊢
        exact ((ih _ (by omega) rest rfl).map _).mono fun hn => by omega

end

/-! ## 4. Without a limit -/

/-- A refusal of a template that nests too deeply, at some column of its text. -/
def IsTooDeep (source : String) (r : Except Fault Template) : Prop :=
  ∃ column, r = .error (Fault.of (.template .tooDeep column source))

/-- The parser without a limit: with one that is beyond the length of the text and so is never
reached (`parseUnbounded_not_tooDeep`, `parseWithin_eq_parseUnbounded`). -/
def parseUnbounded (source : String) : Except Fault Template :=
  parseWithin (source.toList.length + 1) source

/-- Under a lower limit the parser does the same, or it refuses the text. -/
theorem parseWithin_cut {n m : Nat} (h : n ≤ m) (source : String) :
    (parseWithin n source = parseWithin m source ∧ ¬ IsTooDeep source (parseWithin n source))
      ∨ (n ≤ source.toList.length ∧ IsTooDeep source (parseWithin n source)) := by
  unfold parseWithin parseWith
  rcases cut_partsFrom (within_expression h) source.toList with
    ⟨hsame, hrefused⟩ | ⟨hreached, rest, hrefused⟩
  · refine .inl ⟨by rw [hsame], fun ⟨column, hdeep⟩ => hrefused ?_⟩
    split at hdeep
    · cases hdeep
    · rename_i problem rest hparts
      cases hdeep
      exact ⟨rest, hparts⟩
  · exact .inr ⟨hreached, by rw [hrefused]; exact ⟨_, rfl⟩⟩

/-- A limit beyond the length of the text makes no difference. -/
theorem parseWithin_eq_parseUnbounded {limit : Nat} {source : String}
    (h : source.toList.length < limit) : parseWithin limit source = parseUnbounded source := by
  rcases parseWithin_cut h source with ⟨hsame, -⟩ | ⟨hreached, -⟩
  · exact hsame.symm
  · omega

/-- Without a limit no text is refused for its depth. -/
theorem parseUnbounded_not_tooDeep (source : String) :
    ¬ IsTooDeep source (parseUnbounded source) := by
  rcases parseWithin_cut (Nat.le_refl (source.toList.length + 1)) source with
    ⟨-, hdeep⟩ | ⟨hreached, -⟩
  · exact hdeep
  · omega

/-- With a limit a text is parsed as it is without one, or it is refused for its depth. -/
theorem parseWithin_eq_or_isTooDeep (limit : Nat) (source : String) :
    parseWithin limit source = parseUnbounded source
      ∨ IsTooDeep source (parseWithin limit source) := by
  rcases Nat.lt_or_ge source.toList.length limit with hlimit | hlimit
  · exact .inl (parseWithin_eq_parseUnbounded hlimit)
  · have hcut := parseWithin_cut (Nat.le_succ_of_le hlimit) source
    exact hcut.imp And.left And.right

/-- The parser without a limit accepts what it accepts with any limit. -/
theorem parseUnbounded_eq_ok_iff {source : String} {t : Template} :
    parseUnbounded source = .ok t ↔ ∃ limit, parseWithin limit source = .ok t := by
  refine ⟨fun h => ⟨_, h⟩, fun ⟨limit, h⟩ => ?_⟩
  rcases parseWithin_eq_or_isTooDeep limit source with hsame | ⟨column, hdeep⟩
  · rw [← hsame, h]
  · rw [h] at hdeep
    cases hdeep

/-! ## 5. Interpolations one by one -/

/-- The text of a template has an interpolation with these tokens. -/
inductive HasInterpolation : List Char → List Token → Prop where
  | here {n : Nat} {text rest : List Char} {ts : List Token} {e : Expr} :
      Sum n ts e → Lexes text ts ('}' :: rest) → HasInterpolation ('$' :: '{' :: text) ts
  | behind {n : Nat} {text rest : List Char} {ts ts' : List Token} {e : Expr} :
      Sum n ts e → Lexes text ts ('}' :: rest) → HasInterpolation rest ts' →
      HasInterpolation ('$' :: '{' :: text) ts'
  | escape {text : List Char} {ts : List Token} : HasInterpolation text ts →
      HasInterpolation ('$' :: '$' :: '{' :: text) ts
  | character {c : Char} {text : List Char} {ts : List Token} :
      atOpening (c :: text) = false → HasInterpolation text ts → HasInterpolation (c :: text) ts

/-- A text in which no interpolation nests deeper than the limit can be read within the limit. -/
theorem reads_of_nestingOf_lt {limit limit' : Nat} {text : List Char} {pieces : List Piece}
    (h : Reads limit' text pieces)
    (hnesting : ∀ ts, HasInterpolation text ts → nestingOf ts < limit) :
    Reads limit text pieces := by
  induction h with
  | nil => exact .nil
  | escape _ ih => exact .escape (ih fun ts hts => hnesting ts (.escape hts))
  | interpolation _ hsum hts _ ih =>
    have hleast := hsum.of_nestingOf_le (Nat.le_refl _)
    refine .interpolation (hnesting _ (.here hsum hts)) hleast hts ?_
    exact ih fun ts' hts' => hnesting ts' (.behind hsum hts hts')
  | character hopening _ ih =>
    exact .character hopening (ih fun ts hts => hnesting ts (.character hopening hts))

/-- No interpolation of a text that is read within a limit nests deeper. -/
theorem nestingOf_lt_of_reads {limit : Nat} {text : List Char} {pieces : List Piece}
    (h : Reads limit text pieces) {ts : List Token} (hts : HasInterpolation text ts) :
    nestingOf ts < limit := by
  induction h with
  | nil => cases hts
  | escape _ ih =>
    cases hts with
    | escape hts => exact ih hts
    | character hopening _ => cases hopening
  | interpolation hn hsum hlexes _ ih =>
    cases hts with
    | here hsum' hlexes' =>
      obtain ⟨rfl, rfl⟩ := hlexes.unique hlexes'
      exact Nat.lt_of_le_of_lt hsum.nestingOf_le hn
    | behind hsum' hlexes' hts =>
      obtain ⟨rfl, rfl⟩ := hlexes.unique hlexes'
      exact ih hts
    | character hopening _ => cases hopening
  | character hopening _ ih =>
    cases hts with
    | here _ _ => cases hopening
    | behind _ _ _ => cases hopening
    | escape _ => cases hopening
    | character _ hts => exact ih hts

/-- A template is parsed within a limit exactly if its interpolations nest less deep. -/
theorem parseWithin_eq_ok_iff_nestingOf_lt {limit : Nat} {source : String} {t : Template}
    (h : parseUnbounded source = .ok t) :
    parseWithin limit source = .ok t
      ↔ ∀ ts, HasInterpolation source.toList ts → nestingOf ts < limit := by
  constructor
  · intro hparse ts hts
    obtain ⟨pieces, hreads, -⟩ := parseWithin_eq_ok_iff_reads.mp hparse
    exact nestingOf_lt_of_reads hreads hts
  · intro hnesting
    obtain ⟨pieces, hreads, rfl⟩ := parseWithin_eq_ok_iff_reads.mp h
    exact parseWithin_eq_ok_iff_reads.mpr
      ⟨pieces, reads_of_nestingOf_lt hreads hnesting, rfl⟩

/-- **The limit on nesting is exact.**  A text that is a template without a limit is parsed to the
same template if in each of its interpolations parentheses, index keys, arguments and minus signs
nest less than `maxNesting` levels deep, and only then.  Otherwise it is refused because it nests
too deeply. -/
theorem nesting_limit_is_exact {source : String} {t : Template}
    (h : parseUnbounded source = .ok t) :
    (parse source = .ok t ↔ ∀ ts, HasInterpolation source.toList ts → nestingOf ts < maxNesting)
    ∧ ((∃ ts, HasInterpolation source.toList ts ∧ maxNesting ≤ nestingOf ts) →
      ∃ column, parse source = .error (Fault.of (.template .tooDeep column source))) := by
  refine ⟨parseWithin_eq_ok_iff_nestingOf_lt h, fun ⟨ts, hts, hdeep⟩ => ?_⟩
  rcases parseWithin_eq_or_isTooDeep maxNesting source with hsame | hrefused
  · have hlt := (parseWithin_eq_ok_iff_nestingOf_lt h).mp (hsame.trans h) ts hts
    omega
  · exact hrefused

/-! ## 6. At the limit -/

/-- A text of one interpolation has no other. -/
theorem hasInterpolation_opened {text : List Char} {ts ts' : List Token}
    (hts : Lexes text ts ['}']) (h : HasInterpolation (opened text).toList ts') : ts' = ts := by
  rw [opened, String.toList_ofList] at h
  cases h with
  | here _ hts' => exact (hts'.unique hts).1
  | behind _ hts' hrest =>
    obtain ⟨-, rfl⟩ := hts'.unique hts
    cases hrest
  | character hopening _ => cases hopening

namespace Example

/-- A one in so many parentheses, and the text behind them. -/
def enclosed : Nat → List Char → List Char
  | 0, rest => '1' :: rest
  | n + 1, rest => '(' :: enclosed n (')' :: rest)

/-- Its tokens. -/
def enclosedTokens : Nat → List Token
  | 0 => [.integer 1]
  | n + 1 => .symbol '(' :: (enclosedTokens n ++ [.symbol ')'])

/-- The template that interpolates it. -/
def enclosing (n : Nat) : String := opened (enclosed n ['}'])

/-- What the template is parsed to, which shows nothing of the parentheses. -/
def parsed (n : Nat) : Template := ⟨enclosing n, [.interpolation (.literal (.integer 1))]⟩

theorem lexes_enclosed (n : Nat) {c : Char} (hc : c ∈ delimiters) (rest : List Char) :
    Lexes (enclosed n (c :: rest)) (enclosedTokens n) (c :: rest) := by
  induction n generalizing c rest with
  | zero => exact .one hc .done
  | succ n ih =>
    have hinner := ih (c := ')') (by decide) (c :: rest)
    exact .cons_symbol (by decide) (hinner.append_symbol (by decide))

theorem sum_enclosed (n : Nat) : Sum n (enclosedTokens n) (.literal (.integer 1)) := by
  induction n with
  | zero => exact .single (.single (.plain (.plain (.integer (by decide)))))
  | succ n ih => exact .single (.single (.plain (.plain (.parenthesized (Nat.lt_succ_self n) ih))))

theorem nestingOf_enclosed (n : Nat) : nestingOf (enclosedTokens n) = n := by
  have hspans : RowSpans (enclosedTokens n) n := by
    induction n with
    | zero => exact (OperandSpans.single (by simp)).signed.row
    | succ n ih =>
      have hspans : OperandSpans (enclosedTokens (n + 1)) (n + 1) :=
        fun opened level => ih.brackets (.inl rfl) (.inl rfl) opened level true
      exact hspans.signed.row
  exact (hspans []).2.trans (Nat.zero_add n)

theorem parseUnbounded_enclosing (n : Nat) : parseUnbounded (enclosing n) = .ok (parsed n) :=
  parseUnbounded_eq_ok_iff.mpr
    ⟨n + 1, parseWithin_opened n.lt_succ_self (sum_enclosed n) (lexes_enclosed n (by decide) [])⟩

/-- The tokens in the parentheses are all that the template interpolates. -/
theorem hasInterpolation_enclosing (n : Nat) (ts : List Token) :
    HasInterpolation (enclosing n).toList ts ↔ ts = enclosedTokens n := by
  have hlexes := lexes_enclosed n (c := '}') (by decide) []
  refine ⟨hasInterpolation_opened hlexes, ?_⟩
  rintro rfl
  rw [enclosing, opened, String.toList_ofList]
  exact .here (sum_enclosed n) hlexes

/-- Inside 127 parentheses a one is accepted, and inside 128 it is refused. -/
theorem parentheses_at_the_limit :
    parse (enclosing 127) = .ok (parsed 127)
      ∧ ∃ column, parse (enclosing 128)
        = .error (Fault.of (.template .tooDeep column (enclosing 128))) := by
  constructor
  · refine (nesting_limit_is_exact (parseUnbounded_enclosing 127)).1.mpr fun ts hts => ?_
    rw [(hasInterpolation_enclosing 127 ts).mp hts, nestingOf_enclosed]
    decide
  · refine (nesting_limit_is_exact (parseUnbounded_enclosing 128)).2 ⟨enclosedTokens 128, ?_, ?_⟩
    · exact (hasInterpolation_enclosing 128 _).mpr rfl
    · rw [nestingOf_enclosed]
      decide

/-- **The last of the levels cannot be used.**  It is not so that the parser accepts whatever nests
at most `maxNesting` levels deep: it refuses a one in so many parentheses, because the
interpolation takes up a level of its own. -/
theorem full_depth_is_refused :
    ¬ ∀ (source : String) (t : Template), parseUnbounded source = .ok t →
      (parse source = .ok t
        ↔ ∀ ts, HasInterpolation source.toList ts → nestingOf ts ≤ maxNesting) := by
  intro h
  have hone := parseUnbounded_enclosing maxNesting
  have hparse : parse (enclosing maxNesting) = .ok (parsed maxNesting) := by
    refine (h _ _ hone).mpr fun ts hts => ?_
    have htokens := (hasInterpolation_enclosing _ ts).mp hts
    exact Nat.le_of_eq (by rw [htokens, nestingOf_enclosed])
  have hlt := (parseWithin_eq_ok_iff_nestingOf_lt hone).mp hparse (enclosedTokens maxNesting)
    ((hasInterpolation_enclosing _ _).mpr rfl)
  rw [nestingOf_enclosed] at hlt
  exact Nat.lt_irrefl _ hlt

end Example

end Grammar

end TemplatedConfig
