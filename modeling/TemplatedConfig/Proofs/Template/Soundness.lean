/-
# What the parser reads is a derivation

A production is sound for a rule if the text it takes up is a row of tokens that the rule derives
the tree from (`Sound`).  Each function of the parser gets one lemma: it is sound if the
productions it is built from are.  The loops for indexes, operators and arguments go by induction
on their own recursion, with a derivation of what was read so far as the invariant.  The levels
of nesting are tied together at the end, by induction on the level (`unary_sound`).

Main statement: `derives_of_partsFrom`.
-/
import TemplatedConfig.Proofs.Results
import TemplatedConfig.Proofs.Template.Grammar

namespace TemplatedConfig.Grammar

open Template Text

/-- Whatever the production reads is derived by the rule. -/
def Sound (p : Production Expr) (Rule : List Token → Expr → Prop) : Prop :=
  ∀ ⦃text rest : List Char⦄ ⦃e : Expr⦄, p.run text = .ok (e, rest) →
    ∃ ts, Lexes text ts rest ∧ Rule ts e

/-- What may stand where nesting goes one level deeper. -/
def Nested (n : Nat) (ts : List Token) (e : Expr) : Prop := ∃ m < n, Sum m ts e

/-! ## 1. Single tokens -/

/-- One token behind blanks. -/
theorem Lexes.single {t : Token} {spelling text rest : List Char}
    (htext : skipBlanks text = spelling ++ rest) (hs : Spelled t spelling) (hends : t.Ends rest) :
    Lexes text [t] rest := by
  refine .of_skipBlanks ?_
  rw [htext]
  exact .token hs hends .done

/-- A symbol behind blanks. -/
theorem Lexes.symbol {c : Char} {text rest : List Char} (htext : skipBlanks text = c :: rest)
    (hc : c ∈ symbols) : Lexes text [.symbol c] rest := by
  have hspelled : skipBlanks text = [c] ++ rest := htext
  exact .single hspelled (.symbol hc) trivial

/-- What is left behind a run does not go on with it. -/
theorem stops_dropWhile (p : Char → Bool) (text : List Char) : Stops p (text.dropWhile p) := by
  induction text with
  | nil => intro c hc; cases hc
  | cons d rest ih =>
    rw [List.dropWhile_cons]
    split
    · exact ih
    · rename_i hd
      intro c hc
      cases hc
      simpa using hd

/-- A run that begins is a run. -/
theorem run_takeWhile {p : Char → Bool} {c : Char} (hc : p c = true) (text : List Char) :
    Run p ((c :: text).takeWhile p) := by
  constructor
  · simp [hc]
  · exact fun d hd => (List.all_eq_true.mp List.all_takeWhile) d hd

/-- A string literal is read as it is written. -/
theorem quoted_of_stringBody {text s rest : List Char} (h : stringBody text = .ok (s, rest)) :
    ∃ body, Quoted s body ∧ text = body ++ rest := by
  fun_induction stringBody text generalizing s with
  | case1 => cases h
  | case2 more =>
    cases h
    exact ⟨_, .close, rfl⟩
  | case3 => cases h
  | case4 c more e he ih =>
    obtain ⟨s', hs', rfl⟩ := Reading.mapTree_eq_ok.mp h
    obtain ⟨body, hbody, rfl⟩ := ih hs'
    exact ⟨_, .escape he hbody, rfl⟩
  | case5 => cases h
  | case6 c more hquote hlast hescape ih =>
    obtain ⟨s', hs', rfl⟩ := Reading.mapTree_eq_ok.mp h
    obtain ⟨body, hbody, rfl⟩ := ih hs'
    -- a backslash would have been met by an earlier case, whatever follows it
    have hbackslash : c ≠ '\\' := by
      intro hc
      cases hbody with
      | close => exact hescape _ _ hc rfl
      | plain _ _ _ => exact hescape _ _ hc rfl
      | escape _ _ => exact hescape _ _ hc rfl
    exact ⟨_, .plain hquote hbackslash hbody, rfl⟩

/-- A numeral without a point is in the range of integers. -/
theorem of_integerLiteral {digits rest rest' : List Char} {e : Expr}
    (h : integerLiteral digits rest = .ok (e, rest')) :
    rest' = rest ∧ ∀ n, Primary n [.integer (Decimal.digitsValue digits)] e := by
  unfold integerLiteral at h
  split at h
  · rename_i hrange
    cases h
    exact ⟨rfl, fun _ => .integer hrange⟩
  · cases h

/-- A number is read as far as it goes. -/
theorem number_sound {c : Char} {text rest : List Char} {e : Expr} (hc : c.isDigit = true)
    (h : number (c :: text) = .ok (e, rest)) :
    ∃ t, Lexes (c :: text) [t] rest ∧ ∀ n, Primary n [t] e := by
  have hrun := run_takeWhile hc text
  have hstops := stops_dropWhile Char.isDigit (c :: text)
  have htext := List.takeWhile_append_dropWhile (p := Char.isDigit) (l := c :: text)
  unfold number at h
  simp only at h
  split at h
  · rename_i d more hmore
    rw [hmore] at htext hstops
    split at h
    · -- a point and a digit: the number goes on
      rename_i hd
      cases h
      refine ⟨_, ?_, fun _ => .float⟩
      have hlexes := Lexes.token (.float hrun (run_takeWhile hd more))
        (stops_dropWhile Char.isDigit (d :: more)) .done
      rwa [List.append_assoc, List.cons_append, List.takeWhile_append_dropWhile, htext] at hlexes
    · -- a point that no digit follows is left for others
      rename_i hd
      obtain ⟨rfl, hprimary⟩ := of_integerLiteral h
      refine ⟨_, ?_, hprimary⟩
      have hends : Token.Ends (.integer (Decimal.digitsValue ((c :: text).takeWhile Char.isDigit)))
          ('.' :: d :: more) := by
        refine ⟨hstops, ?_⟩
        rintro _ ⟨⟩ c' ⟨⟩
        simpa using hd
      have hlexes := Lexes.token (.integer hrun) hends .done
      rwa [htext] at hlexes
  · rename_i hpoint
    obtain ⟨rfl, hprimary⟩ := of_integerLiteral h
    refine ⟨_, ?_, hprimary⟩
    have hends : Token.Ends (.integer (Decimal.digitsValue ((c :: text).takeWhile Char.isDigit)))
        ((c :: text).dropWhile Char.isDigit) := by
      refine ⟨hstops, fun rest hrest c' hc' => ?_⟩
      cases rest with
      | nil => cases hc'
      | cons d more => exact absurd hrest (hpoint d more)
    have hlexes := Lexes.token (.integer hrun) hends .done
    rwa [htext] at hlexes

/-- A name goes on as it starts. -/
theorem continuesName_of_startsName {c : Char} (h : startsName c = true) :
    continuesName c = true := by
  rw [startsName, Bool.or_eq_true, decide_eq_true_eq] at h
  rcases h with hletter | rfl
  · simp [continuesName, hletter]
  · decide

theorem forall_continuesName {c : Char} {rest : List Char} (hc : startsName c = true)
    (hrest : ∀ d ∈ rest, continuesName d = true) : ∀ d ∈ c :: rest, continuesName d = true :=
  List.forall_mem_cons.mpr ⟨continuesName_of_startsName hc, hrest⟩

/-- A name is read as far as it goes. -/
theorem lexes_name {c : Char} (hc : startsName c = true) (text : List Char) :
    Lexes (c :: text) [.name (String.ofList ((c :: text).takeWhile continuesName))]
      ((c :: text).dropWhile continuesName) := by
  have htake : (c :: text).takeWhile continuesName = c :: text.takeWhile continuesName := by
    rw [List.takeWhile_cons, if_pos (continuesName_of_startsName hc)]
  have hspelled : Spelled (.name (String.ofList ((c :: text).takeWhile continuesName)))
      ((c :: text).takeWhile continuesName) := by
    rw [htake]
    exact .name hc fun d hd => (List.all_eq_true.mp List.all_takeWhile) d hd
  have hlexes := Lexes.token hspelled (stops_dropWhile continuesName (c :: text)) .done
  rwa [List.takeWhile_append_dropWhile] at hlexes

/-! ## 2. Primaries -/

section

variable {n : Nat} {nested : Production Expr}

/-- Arguments are expressions with commas between them, up to a parenthesis. -/
theorem argumentsFrom_sound (hn : Sound nested (Nested n)) {function : String}
    {text rest : List Char} {es : List Expr}
    (h : argumentsFrom nested function text = .ok (es, rest)) :
    ∃ ts, Lexes text (ts ++ [.symbol ')']) rest ∧ Arguments n ts es := by
  fun_induction argumentsFrom nested function text generalizing es with
  | case1 => cases h
  | case2 text e r hr more hmore ih =>
    obtain ⟨es', hes', rfl⟩ := Reading.mapTree_eq_ok.mp h
    obtain ⟨ts, hts, m, hm, hsum⟩ := hn hr
    obtain ⟨ts', hts', harguments⟩ := ih hes'
    refine ⟨ts ++ .symbol ',' :: ts', ?_, .more hm hsum harguments⟩
    have hcomma : Lexes r [.symbol ','] more := .symbol hmore (by decide)
    simpa using hts.append (hcomma.append hts')
  | case3 text e r hr more hmore =>
    cases h
    obtain ⟨ts, hts, m, hm, hsum⟩ := hn hr
    exact ⟨ts, hts.append (.symbol hmore (by decide)), .last hm hsum⟩
  | case4 => cases h

/-- A call is its name and its arguments. -/
theorem call_sound (hn : Sound nested (Nested n)) {function : String} {text rest : List Char}
    {es : List Expr} (h : arguments nested function text = .ok (es, rest)) :
    ∃ ts, Lexes text ts rest
      ∧ Primary n (.name function :: .symbol '(' :: ts) (.call function es) := by
  unfold arguments at h
  split at h
  · rename_i more hmore
    cases h
    exact ⟨_, .symbol hmore (by decide), .bareCall⟩
  · obtain ⟨ts, hts, harguments⟩ := argumentsFrom_sound hn h
    exact ⟨_, .of_skipBlanks hts, .call harguments⟩

/-- A name alone is one of the two words for a truth value, or a variable. -/
theorem primary_named (name : String) : Primary n [.name name] (named name) := by
  unfold named
  split
  · rename_i htrue
    subst htrue
    exact .trueWord
  · rename_i htrue
    split
    · rename_i hfalse
      subst hfalse
      exact .falseWord
    · rename_i hfalse
      exact .name htrue hfalse

theorem nameOrCall_sound (hn : Sound nested (Nested n)) {c : Char} {text rest : List Char}
    {e : Expr} (hc : startsName c = true) (h : nameOrCall nested (c :: text) = .ok (e, rest)) :
    ∃ ts, Lexes (c :: text) ts rest ∧ Primary n ts e := by
  have hname := lexes_name hc text
  unfold nameOrCall at h
  simp only at h
  split at h
  · rename_i more hmore
    obtain ⟨es, hes, rfl⟩ := Reading.mapTree_eq_ok.mp h
    obtain ⟨ts, hts, hprimary⟩ := call_sound hn hes
    have hopen : Lexes _ [.symbol '('] more := .symbol hmore (by decide)
    exact ⟨_, hname.append (hopen.append hts), hprimary⟩
  · cases h
    exact ⟨_, hname.append (.blanks _), primary_named _⟩

theorem parenthesized_sound (hn : Sound nested (Nested n)) {text rest : List Char} {e : Expr}
    (h : parenthesized nested text = .ok (e, rest)) :
    ∃ ts, Lexes text ts rest ∧ Primary n (.symbol '(' :: ts) e := by
  unfold parenthesized at h
  split at h
  · cases h
  · rename_i e' r hr
    obtain ⟨ts, hts, m, hm, hsum⟩ := hn hr
    split at h
    · rename_i more hmore
      cases h
      exact ⟨_, hts.append (.symbol hmore (by decide)), .parenthesized hm hsum⟩
    · cases h

/-- **Primaries are sound** if what stands inside parentheses is. -/
theorem primary_sound (hn : Sound nested (Nested n)) : Sound (primary nested) (Primary n) := by
  intro text rest e h
  change primaryFrom nested text = _ at h
  unfold primaryFrom at h
  split at h
  · cases h
  · rename_i c more hc
    have hskip : ∀ {ts rest}, Lexes (c :: more) ts rest → Lexes text ts rest :=
      fun hts => .of_skipBlanks (hc ▸ hts)
    split at h
    · rename_i hdigit
      obtain ⟨t, ht, hprimary⟩ := number_sound hdigit h
      exact ⟨_, hskip ht, hprimary n⟩
    · split at h
      · rename_i hquote
        obtain ⟨s, hs, rfl⟩ := Reading.mapTree_eq_ok.mp h
        obtain ⟨body, hbody, rfl⟩ := quoted_of_stringBody hs
        have hspelled : skipBlanks text = ('\x22' :: body) ++ rest := by rw [hc, hquote]; rfl
        exact ⟨_, .single hspelled (.string hbody) trivial, .string⟩
      · split at h
        · rename_i hopen
          obtain ⟨ts, hts, hprimary⟩ := parenthesized_sound hn h
          rw [hopen] at hc
          exact ⟨_, (Lexes.symbol hc (by decide)).append hts, hprimary⟩
        · split at h
          · rename_i hname
            obtain ⟨ts, hts, hprimary⟩ := nameOrCall_sound hn hname h
            exact ⟨_, hskip hts, hprimary⟩
          · cases h

/-! ## 3. Loops -/

/-- The loop for indexes carries a derivation of the target read so far. -/
theorem indexesFrom_sound (hn : Sound nested (Nested n)) {target e : Expr}
    {text rest : List Char} (h : indexesFrom nested target text = .ok (e, rest))
    {before : List Token} (htarget : Indexed n before target) :
    ∃ ts, Lexes text ts rest ∧ Indexed n (before ++ ts) e := by
  fun_induction indexesFrom nested target text generalizing before with
  | case1 => cases h
  | case2 target text r hr key r' hkey more hmore ih =>
    obtain ⟨ts, hts, m, hm, hsum⟩ := hn hkey
    obtain ⟨ts', hts', hindexed⟩ := ih h (.index hm htarget hsum)
    have hopen : Lexes text [.symbol '['] r := .symbol hr (by decide)
    have hclose : Lexes r' [.symbol ']'] more := .symbol hmore (by decide)
    refine ⟨_, hopen.append (hts.append (hclose.append hts')), ?_⟩
    simpa using hindexed
  | case3 => cases h
  | case4 target text =>
    cases h
    exact ⟨[], .blanks text, by rwa [List.append_nil]⟩

/-- **Indexed primaries are sound** if what stands inside brackets is. -/
theorem indexed_sound (hn : Sound nested (Nested n)) : Sound (indexed nested) (Indexed n) := by
  intro text rest e h
  simp only [indexed, Production.andThen] at h
  split at h
  · cases h
  · rename_i target r hr
    obtain ⟨ts, hts, hprimary⟩ := primary_sound hn hr
    obtain ⟨ts', hts', hindexed⟩ := indexesFrom_sound hn h (.plain hprimary)
    exact ⟨_, hts.append hts', hindexed⟩

end

/-- The loop for operators carries a derivation of the left operand read so far.  `Row` is the
rule for the whole row and `Operand` the rule for what stands between its operators. -/
theorem chainFrom_sound {operator? : Char → Option Operator} {operand : Production Expr}
    {Row Operand : List Token → Expr → Prop} (hoperand : Sound operand Operand)
    (hjoin : ∀ {c op ts ts' l r}, operator? c = some op → Row ts l → Operand ts' r →
      c ∈ symbols ∧ Row (ts ++ .symbol c :: ts') (.arithmetic op l r))
    {left e : Expr} {text rest : List Char}
    (h : chainFrom operator? operand left text = .ok (e, rest)) {before : List Token}
    (hleft : Row before left) : ∃ ts, Lexes text ts rest ∧ Row (before ++ ts) e := by
  fun_induction chainFrom operator? operand left text generalizing before with
  | case1 left text htext =>
    cases h
    exact ⟨[], htext ▸ .blanks text, by rwa [List.append_nil]⟩
  | case2 left text c r htext =>
    cases h
    exact ⟨[], htext ▸ .blanks text, by rwa [List.append_nil]⟩
  | case3 => cases h
  | case4 left text c r htext op hop right more hmore ih =>
    obtain ⟨ts, hts, hright⟩ := hoperand hmore
    obtain ⟨hc, hrow⟩ := hjoin hop hleft hright
    obtain ⟨ts', hts', hrow'⟩ := ih h hrow
    have hsymbol : Lexes text [.symbol c] r := .symbol htext hc
    refine ⟨_, hsymbol.append (hts.append hts'), ?_⟩
    simpa using hrow'

/-- **Rows of operands are sound** if the operands are. -/
theorem joined_sound {operator? : Char → Option Operator} {operand : Production Expr}
    {Row Operand : List Token → Expr → Prop} (hoperand : Sound operand Operand)
    (hsingle : ∀ {ts e}, Operand ts e → Row ts e)
    (hjoin : ∀ {c op ts ts' l r}, operator? c = some op → Row ts l → Operand ts' r →
      c ∈ symbols ∧ Row (ts ++ .symbol c :: ts') (.arithmetic op l r)) :
    Sound (joined operator? operand) Row := by
  intro text rest e h
  simp only [joined, Production.andThen] at h
  split at h
  · cases h
  · rename_i left r hr
    obtain ⟨ts, hts, hleft⟩ := hoperand hr
    obtain ⟨ts', hts', hrow⟩ := chainFrom_sound hoperand hjoin h (hsingle hleft)
    exact ⟨_, hts.append hts', hrow⟩

/-- The operators of a product, with their symbols. -/
theorem productOperator?_eq_some_iff {c : Char} {op : Operator} :
    productOperator? c = some op ↔ (op = .mul ∨ op = .div ∨ op = .mod) ∧ c = op.symbol := by
  unfold productOperator?
  split <;> cases op <;> simp_all [Operator.symbol]

/-- The operators of a sum, with their symbols. -/
theorem sumOperator?_eq_some_iff {c : Char} {op : Operator} :
    sumOperator? c = some op ↔ (op = .add ∨ op = .sub) ∧ c = op.symbol := by
  unfold sumOperator?
  split <;> cases op <;> simp_all [Operator.symbol]

/-- The sign of an operator is a token. -/
theorem symbol_mem_symbols (op : Operator) : op.symbol ∈ symbols := by
  cases op <;> decide

/-! ## 4. Levels of nesting -/

/-- Sums are sound over sound operands. -/
theorem sum_sound {n : Nat} {operand : Production Expr} (h : Sound operand (Unary n)) :
    Sound (sum operand) (Sum n) := by
  have hproduct : Sound (joined productOperator? operand) (Product n) := by
    refine joined_sound h .single fun hc hl hr => ?_
    obtain ⟨hop, rfl⟩ := productOperator?_eq_some_iff.mp hc
    exact ⟨symbol_mem_symbols _, .join hop hl hr⟩
  have hsum : Sound (joined sumOperator? (joined productOperator? operand)) (Sum n) := by
    refine joined_sound hproduct .single fun hc hl hr => ?_
    obtain ⟨hop, rfl⟩ := sumOperator?_eq_some_iff.mp hc
    exact ⟨symbol_mem_symbols _, .join hop hl hr⟩
  exact hsum

/-- Signed operands are sound if what they nest is. -/
theorem unaryFrom_sound {n : Nat} {signed nested : Production Expr}
    (hs : Sound signed fun ts e => ∃ m < n, Unary m ts e) (hn : Sound nested (Nested n)) :
    Sound (unaryFrom negated signed nested) (Unary n) := by
  intro text rest e h
  simp only [unaryFrom] at h
  split at h
  · rename_i more hmore
    obtain ⟨e', he', rfl⟩ := Reading.mapTree_eq_ok.mp h
    obtain ⟨ts, hts, m, hm, hunary⟩ := hs he'
    exact ⟨_, (Lexes.symbol hmore (by decide)).append hts, .minus hm hunary⟩
  · obtain ⟨ts, hts, hindexed⟩ := indexed_sound hn h
    exact ⟨ts, .of_skipBlanks hts, .plain hindexed⟩

/-- The rule that refuses everything is sound for any rule. -/
theorem refused_sound {Rule : List Token → Expr → Prop} : Sound refused Rule := by
  intro text rest e h
  cases h

/-- **Every level is sound.** -/
theorem unary_sound (n : Nat) : Sound (unary n) (Unary n) := by
  induction n with
  | zero => exact unaryFrom_sound refused_sound refused_sound
  | succ n ih =>
    refine unaryFrom_sound (fun _ _ _ h => ?_) fun _ _ _ h => ?_
    · obtain ⟨ts, hts, hunary⟩ := ih h
      exact ⟨ts, hts, n, Nat.lt_succ_self n, hunary⟩
    · obtain ⟨ts, hts, hsum⟩ := sum_sound ih h
      exact ⟨ts, hts, n, Nat.lt_succ_self n, hsum⟩

theorem expression_sound (n : Nat) : Sound (expression n) (Nested n) := by
  intro text rest e h
  cases n with
  | zero => cases h
  | succ n =>
    obtain ⟨ts, hts, hsum⟩ := sum_sound (unary_sound n) h
    exact ⟨ts, hts, n, Nat.lt_succ_self n, hsum⟩

/-! ## 5. Templates -/

/-- An interpolation is an expression and the brace behind it. -/
theorem interpolation_sound {limit : Nat} {text rest : List Char} {e : Expr}
    (h : interpolation (expression limit) text = .ok (e, rest)) :
    ∃ n < limit, ∃ ts, Sum n ts e ∧ Lexes text ts ('}' :: rest) := by
  unfold interpolation at h
  split at h
  · cases h
  · split at h
    · cases h
    · rename_i e' r hr
      obtain ⟨ts, hts, n, hn, hsum⟩ := expression_sound limit hr
      split at h
      · rename_i more hmore
        cases h
        have hend : Lexes r [] ('}' :: rest) := hmore ▸ .blanks r
        exact ⟨n, hn, ts ++ [], (List.append_nil ts).symm ▸ hsum,
          (Lexes.of_skipBlanks hts).append hend⟩
      · cases h
      · cases h

/-- Text in front of the parts is characters in front of the pieces. -/
theorem spread_consText (text : List Char) (parts : List Part) :
    spread (consText text parts) = text.map .character ++ spread parts := by
  unfold consText
  split
  · simp [spread]
  · simp [spread]

/-- Text in front of merged parts is merged with them. -/
theorem merged_consText {text : List Char} (htext : text ≠ []) {parts : List Part}
    (h : Merged parts) : Merged (consText text parts) := by
  unfold consText
  split
  · obtain ⟨-, hrest, hhead⟩ := h
    exact ⟨by simp [htext], hrest, hhead⟩
  · rename_i hparts
    refine ⟨by simp [htext], h, fun t ht => ?_⟩
    cases parts with
    | nil => cases ht
    | cons part rest =>
      cases ht
      exact hparts t rest rfl

/-- A run of literal text is read character by character. -/
theorem reads_literalRun {limit : Nat} {text : List Char} {pieces : List Piece}
    (h : Reads limit (literalRun text).2 pieces) :
    Reads limit text ((literalRun text).1.map .character ++ pieces) := by
  induction text with
  | nil => exact h
  | cons c rest ih =>
    rw [literalRun] at h ⊢
    by_cases hopening : atOpening (c :: rest) = true
    · rw [if_pos hopening] at h ⊢
      exact h
    · rw [if_neg hopening] at h ⊢
      exact .character (by simpa using hopening) (ih h)

/-- **The parts of a template are derived from its text.** -/
theorem derives_of_partsFrom {limit : Nat} {text : List Char} {parts : List Part}
    (h : partsFrom (expression limit) text = .ok parts) : Derives limit text parts := by
  fun_induction partsFrom (expression limit) text generalizing parts with
  | case1 =>
    cases h
    exact ⟨.nil, trivial⟩
  | case2 rest ih =>
    obtain ⟨parts', hparts', rfl⟩ := exists_of_map_eq_ok h
    obtain ⟨hreads, hmerged⟩ := ih hparts'
    refine ⟨?_, merged_consText (by decide) hmerged⟩
    rw [spread_consText]
    exact .escape hreads
  | case3 => cases h
  | case4 rest e more hmore ih =>
    obtain ⟨parts', hparts', rfl⟩ := exists_of_map_eq_ok h
    obtain ⟨hreads, hmerged⟩ := ih hparts'
    obtain ⟨n, hn, ts, hsum, hts⟩ := interpolation_sound hmore
    exact ⟨.interpolation hn hsum hts hreads, hmerged⟩
  | case5 c rest hescape hopening ih =>
    obtain ⟨parts', hparts', rfl⟩ := exists_of_map_eq_ok h
    obtain ⟨hreads, hmerged⟩ := ih hparts'
    refine ⟨?_, merged_consText (by simp) hmerged⟩
    rw [spread_consText]
    refine .character ?_ (reads_literalRun hreads)
    unfold atOpening
    split
    · rename_i h; cases h; exact absurd rfl (hescape _ rfl)
    · rename_i h; cases h; exact absurd rfl (hopening _ rfl)
    · rfl

end TemplatedConfig.Grammar
