/-
# The names in a template

Inside an interpolation a word is a run of letters, numerals and the signs `_`, `-`, `.` and `*`,
as long as it can be.  Nothing in it is told apart: a star that stands directly behind a letter is
part of the word, so `a*2` is one name and no product, and points need nothing between them.

* The words of a tree, which are its names and the literals `true` and `false`, are the names
  among the tokens, in the same order (`words_of_sum`).
* No name stands directly behind a number, a string or another name (`parted_of_sum`).  So the words
  stand in the text one behind another, each as long as it can be (`Holds`, `words_are_held`).
* A narrower grammar takes names to be segments with points between them (`Identifier`).  A name
  belongs to it as far as it keeps to Basic Latin, to stars behind a point and to nonempty segments
  (`identifier_iff`).  Each other name is accepted all the same (`parse_variable`,
  `star_is_taken_up`).

Main statement: `names_are_longest_runs`.
-/
import TemplatedConfig.Proofs.Template.Printing
import Mathlib.Data.List.Chain

namespace TemplatedConfig

/-! ## 1. The words of a tree -/

/-- The name that a node holds, of a variable or of a function. -/
def Expr.name? : Expr → Option String
  | .variable name => some name
  | .call function _ => some function
  | _ => none

/-- The word that a node is written with: its name, or a truth value. -/
def Expr.word? : Expr → Option String
  | .literal (.bool b) => some (Value.boolText b)
  | e => e.name?

/-- The words of an expression, from left to right. -/
def Expr.words (e : Expr) : List String := e.nodes.filterMap Expr.word?

@[simp] theorem Expr.words_arithmetic (op : Operator) (left right : Expr) :
    (Expr.arithmetic op left right).words = left.words ++ right.words := List.filterMap_append

@[simp] theorem Expr.words_index (target key : Expr) :
    (Expr.index target key).words = target.words ++ key.words := List.filterMap_append

/-- The names in a template. -/
def Template.names (t : Template) : List String :=
  t.exprs.flatMap fun e => e.nodes.filterMap Expr.name?

/-- The words of a template. -/
def Template.words (t : Template) : List String := t.exprs.flatMap Expr.words

/-- Every name is a word. -/
theorem Template.mem_words_of_mem_names {t : Template} {name : String} (h : name ∈ t.names) :
    name ∈ t.words := by
  obtain ⟨e, he, hname⟩ := List.mem_flatMap.mp h
  obtain ⟨node, hnode, hnamed⟩ := List.mem_filterMap.mp hname
  refine List.mem_flatMap.mpr ⟨e, he, List.mem_filterMap.mpr ⟨node, hnode, ?_⟩⟩
  unfold Expr.word?
  split
  · cases hnamed
  · exact hnamed

namespace Grammar

open Template Text

/-- The name that a token is. -/
def Token.name? : Token → Option String
  | .name text => some text
  | _ => none

/-- The names among tokens. -/
def namesAmong (ts : List Token) : List String := ts.filterMap Token.name?

theorem namesAmong_append (ts ts' : List Token) :
    namesAmong (ts ++ ts') = namesAmong ts ++ namesAmong ts' := List.filterMap_append

theorem namesAmong_symbol (c : Char) (ts : List Token) :
    namesAmong (.symbol c :: ts) = namesAmong ts := rfl

/-- A minus sign is no word. -/
theorem words_negated (e : Expr) : (negated e).words = e.words := by
  unfold negated
  split <;> rfl

mutual

/-- **The words of a tree are the names among its tokens.** -/
theorem words_of_sum : ∀ {n : Nat} {ts : List Token} {e : Expr}, Sum n ts e →
    e.words = namesAmong ts
  | _, _, _, .single h => words_of_product h
  | _, _, _, .join _ hl hr => by
    rw [Expr.words_arithmetic, words_of_sum hl, words_of_product hr, namesAmong_append,
      namesAmong_symbol]

theorem words_of_product : ∀ {n : Nat} {ts : List Token} {e : Expr}, Product n ts e →
    e.words = namesAmong ts
  | _, _, _, .single h => words_of_unary h
  | _, _, _, .join _ hl hr => by
    rw [Expr.words_arithmetic, words_of_product hl, words_of_unary hr, namesAmong_append,
      namesAmong_symbol]

theorem words_of_unary : ∀ {n : Nat} {ts : List Token} {e : Expr}, Unary n ts e →
    e.words = namesAmong ts
  | _, _, _, .plain h => words_of_indexed h
  | _, _, _, .minus _ h => by rw [words_negated, words_of_unary h, namesAmong_symbol]

theorem words_of_indexed : ∀ {n : Nat} {ts : List Token} {e : Expr}, Indexed n ts e →
    e.words = namesAmong ts
  | _, _, _, .plain h => words_of_primary h
  | _, _, _, .index _ htarget hkey => by
    rw [Expr.words_index, words_of_indexed htarget, words_of_sum hkey, namesAmong_append,
      namesAmong_symbol, namesAmong_append, namesAmong_symbol]
    exact congrArg (_ ++ ·) (List.append_nil _).symm

theorem words_of_primary : ∀ {n : Nat} {ts : List Token} {e : Expr}, Primary n ts e →
    e.words = namesAmong ts
  | _, _, _, .integer _ => rfl
  | _, _, _, .float => rfl
  | _, _, _, .string => rfl
  | _, _, _, .trueWord => rfl
  | _, _, _, .falseWord => rfl
  | _, _, _, .name _ _ => rfl
  | _, _, _, .bareCall => rfl
  | _, _, _, @Primary.call _ function ts _ h => by
    have hnames : namesAmong (.name function :: .symbol '(' :: (ts ++ [.symbol ')']))
        = function :: namesAmong ts := by
      refine congrArg (function :: ·) ?_
      rw [← namesAmong, namesAmong_symbol, namesAmong_append]
      exact List.append_nil _
    rw [hnames, ← words_of_arguments h]
    rfl
  | _, _, _, .parenthesized _ h => by
    rw [words_of_sum h, namesAmong_symbol, namesAmong_append]
    exact (List.append_nil _).symm

theorem words_of_arguments : ∀ {n : Nat} {ts : List Token} {es : List Expr}, Arguments n ts es →
    (Expr.nodesOfAll es).filterMap Expr.word? = namesAmong ts
  | _, _, _, .last _ h => by
    rw [← words_of_sum h, Expr.nodesOfAll, Expr.nodesOfAll, List.append_nil, Expr.words]
  | _, _, _, .more _ h hrest => by
    rw [namesAmong_append, namesAmong_symbol, ← words_of_sum h, ← words_of_arguments hrest,
      Expr.nodesOfAll, List.filterMap_append, Expr.words]

end

/-! ## 2. The words in a text -/

/-- Where one token may stand behind another: a name takes a symbol in front. -/
def BehindSymbol (t t' : Token) : Prop := t'.name? = none ∨ ∃ c, t = .symbol c

/-- Names stand at the start or behind symbols. -/
def Parted (ts : List Token) : Prop := ts.IsChain BehindSymbol

theorem parted_symbol {c : Char} {ts : List Token} (h : Parted ts) : Parted (.symbol c :: ts) :=
  List.isChain_cons.mpr ⟨fun _ _ => .inr ⟨c, rfl⟩, h⟩

theorem parted_join {c : Char} {ts ts' : List Token} (h : Parted ts) (h' : Parted ts') :
    Parted (ts ++ .symbol c :: ts') := by
  refine h.append (parted_symbol h') fun _ _ t ht => ?_
  cases ht
  exact .inl rfl

mutual

/-- **The tokens of an expression are parted.** -/
theorem parted_of_sum : ∀ {n : Nat} {ts : List Token} {e : Expr}, Sum n ts e → Parted ts
  | _, _, _, .single h => parted_of_product h
  | _, _, _, .join _ hl hr => parted_join (parted_of_sum hl) (parted_of_product hr)

theorem parted_of_product : ∀ {n : Nat} {ts : List Token} {e : Expr}, Product n ts e → Parted ts
  | _, _, _, .single h => parted_of_unary h
  | _, _, _, .join _ hl hr => parted_join (parted_of_product hl) (parted_of_unary hr)

theorem parted_of_unary : ∀ {n : Nat} {ts : List Token} {e : Expr}, Unary n ts e → Parted ts
  | _, _, _, .plain h => parted_of_indexed h
  | _, _, _, .minus _ h => parted_symbol (parted_of_unary h)

theorem parted_of_indexed : ∀ {n : Nat} {ts : List Token} {e : Expr}, Indexed n ts e → Parted ts
  | _, _, _, .plain h => parted_of_primary h
  | _, _, _, .index _ htarget hkey =>
    parted_join (parted_of_indexed htarget) (parted_join (parted_of_sum hkey) List.isChain_nil)

theorem parted_of_primary : ∀ {n : Nat} {ts : List Token} {e : Expr}, Primary n ts e → Parted ts
  | _, _, _, .integer _ => List.isChain_singleton _
  | _, _, _, .float => List.isChain_singleton _
  | _, _, _, .string => List.isChain_singleton _
  | _, _, _, .trueWord => List.isChain_singleton _
  | _, _, _, .falseWord => List.isChain_singleton _
  | _, _, _, .name _ _ => List.isChain_singleton _
  | _, _, _, .bareCall => parted_join (List.isChain_singleton _) (parted_symbol List.isChain_nil)
  | _, _, _, .call h =>
    parted_join (List.isChain_singleton _) (parted_join (parted_of_arguments h) List.isChain_nil)
  | _, _, _, .parenthesized _ h => parted_symbol (parted_join (parted_of_sum h) List.isChain_nil)

theorem parted_of_arguments : ∀ {n : Nat} {ts : List Token} {es : List Expr}, Arguments n ts es →
    Parted ts
  | _, _, _, .last _ h => parted_of_sum h
  | _, _, _, .more _ h hrest => parted_join (parted_of_sum h) (parted_of_arguments hrest)

end

/-- The characters of a name. -/
theorem exists_cons_of_isName {name : String} (h : IsName name) :
    ∃ c rest, name.toList = c :: rest ∧ startsName c = true
      ∧ ∀ d ∈ rest, continuesName d = true := by
  rw [IsName] at h
  generalize hspelling : name.toList = spelling at h
  cases h with
  | @name c rest hc hrest => exact ⟨c, rest, rfl, hc, hrest⟩

/-- The characters that a word can stand directly behind. -/
def PrecedesName (c : Char) : Prop := c = '{' ∨ isBlank c = true ∨ c ∈ symbols

/-- The words stand in the text, one behind another.  In front of each stands a character that parts
it from what is before, and no character that it could go on with follows it. -/
inductive Holds : List Char → List String → Prop where
  | nil {text : List Char} : Holds text []
  | cons {before after : List Char} {c : Char} {word : String} {words : List String} :
      PrecedesName c → IsName word → Stops continuesName after → Holds after words →
      Holds (before ++ c :: (word.toList ++ after)) (word :: words)

namespace Holds

variable {c : Char} {text : List Char} {words : List String}

/-- Other text may stand in front. -/
theorem behind (h : Holds text words) (front : List Char) : Holds (front ++ text) words := by
  cases h with
  | nil => exact .nil
  | cons hc hname hstops hrest =>
    rw [← List.append_assoc]
    exact .cons hc hname hstops hrest

/-- A character in front is not needed if no word stands directly behind it. -/
theorem tail (h : Holds (c :: text) words) (hstops : Stops continuesName text) :
    Holds text words := by
  generalize hall : c :: text = all at h
  cases h with
  | nil => exact .nil
  | @cons before after c' word words hc hname hends hrest =>
    cases before with
    | nil =>
      obtain ⟨-, rfl⟩ := List.cons.inj hall
      obtain ⟨d, rest, hword, hd, -⟩ := exists_cons_of_isName hname
      rw [hword] at hstops
      have hcontinues := continuesName_of_startsName hd
      rw [hstops d rfl] at hcontinues
      cases hcontinues
    | cons _ before =>
      obtain ⟨-, rfl⟩ := List.cons.inj hall
      exact .cons hc hname hends hrest

/-- Every word is a name. -/
theorem isName_of_mem (h : Holds text words) {word : String} (hword : word ∈ words) :
    IsName word := by
  induction h with
  | nil => cases hword
  | cons _ hname _ _ ih =>
    rcases List.mem_cons.mp hword with rfl | hword
    · exact hname
    · exact ih hword

end Holds

/-- Every token has a last character. -/
theorem Spelled.eq_concat {t : Token} {spelling : List Char} (h : Spelled t spelling) :
    ∃ front last, spelling = front ++ [last] := by
  obtain ⟨c, rest, rfl, -⟩ := h.begins
  exact ⟨_, _, (List.dropLast_concat_getLast (List.cons_ne_nil c rest)).symm⟩

/-- **A row of tokens holds the names among them.**  If the first token is a name, it takes a
character in front that parts it from what stands before. -/
theorem Lexes.holds {text rest : List Char} {ts : List Token} {words : List String}
    (h : Lexes text ts rest) (hparted : Parted ts) (hrest : Holds rest words) {c : Char}
    (hc : ∀ t ∈ ts.head?, t.name? = none ∨ PrecedesName c) :
    Holds (c :: text) (namesAmong ts ++ words) := by
  induction h generalizing c with
  | done => exact hrest.behind [c]
  | @blank b _ _ _ hblank _ ih =>
    have hholds := ih hparted hrest fun _ _ => .inr (.inr (.inl hblank))
    exact hholds.behind [c]
  | @token t spelling text _ ts hspelled hends _ ih =>
    obtain ⟨hbehind, htail⟩ := List.isChain_cons.mp hparted
    -- Behind anything but a symbol stands no name, whichever character comes last.
    have hnext : (∀ s, t ≠ .symbol s) → ∀ t' ∈ ts.head?, t'.name? = none :=
      fun hsymbol t' ht' => (hbehind t' ht').resolve_right (not_exists.mpr hsymbol)
    have hskip : (∀ s, t ≠ .symbol s) →
        Holds (c :: (spelling ++ text)) (namesAmong ts ++ words) := by
      intro hsymbol
      obtain ⟨front, last, rfl⟩ := hspelled.eq_concat
      have hholds := ih htail hrest (c := last) fun t' ht' => .inl (hnext hsymbol t' ht')
      rw [List.append_assoc]
      exact hholds.behind (c :: front)
    cases hspelled with
    | @name d more hd hmore =>
      have hname : IsName (String.ofList (d :: more)) := by
        rw [IsName, String.toList_ofList]
        exact .name hd hmore
      have hfront : PrecedesName c := (hc _ rfl).resolve_left (Option.some_ne_none _)
      have hfollow := hnext (by rintro s ⟨⟩)
      have hafter : Holds text (namesAmong ts ++ words) :=
        (ih htail hrest (c := c) fun t' ht' => .inl (hfollow t' ht')).tail hends
      have hholds : Holds ([] ++ c :: ((String.ofList (d :: more)).toList ++ text)) _ :=
        .cons hfront hname hends hafter
      rwa [String.toList_ofList] at hholds
    | symbol hs =>
      have hholds := ih htail hrest fun _ _ => .inr (.inr (.inr hs))
      exact hholds.behind [c]
    | integer _ => exact hskip (by rintro s ⟨⟩)
    | float _ _ => exact hskip (by rintro s ⟨⟩)
    | string _ => exact hskip (by rintro s ⟨⟩)

/-- The words of a piece. -/
def Piece.words : Piece → List String
  | .character _ => []
  | .expression e => e.words

/-- A text holds the words of its pieces. -/
theorem Reads.holds {limit : Nat} {text : List Char} {pieces : List Piece}
    (h : Reads limit text pieces) : Holds text (pieces.flatMap Piece.words) := by
  induction h with
  | nil => exact .nil
  | escape _ ih => exact ih.behind ['$', '$', '{']
  | @interpolation _ _ _ ts e pieces _ hsum hts _ ih =>
    rw [List.flatMap_cons, Piece.words, words_of_sum hsum]
    have hholds := hts.holds (parted_of_sum hsum) (ih.behind ['}']) fun _ _ => .inr (.inl rfl)
    exact hholds.behind ['$']
  | @character c _ _ _ _ ih => exact ih.behind [c]

/-- The parts of a template have its words. -/
theorem flatMap_words_spread (t : Template) : (spread t.parts).flatMap Piece.words = t.words := by
  rw [Template.words, Template.exprs]
  induction t.parts with
  | nil => rfl
  | cons part rest ih =>
    cases part with
    | literal text =>
      have hcharacters : (text.toList.map Piece.character).flatMap Piece.words = [] := by
        rw [List.flatMap_map]
        exact List.flatMap_eq_nil_iff.mpr fun _ _ => rfl
      rw [spread, List.flatMap_append, hcharacters, ih]
      rfl
    | interpolation e =>
      rw [spread, List.flatMap_cons, ih]
      rfl

/-- **An accepted text holds the words of its template.** -/
theorem words_are_held {limit : Nat} {source : String} {t : Template}
    (h : parseWithin limit source = .ok t) : Holds source.toList t.words := by
  obtain ⟨hreads, -⟩ := derives_of_partsFrom (parseWithin_eq_ok_iff.mp h).2
  exact flatMap_words_spread t ▸ hreads.holds

/-- **Every name is accepted**, whatever its characters are.  It is a variable, if it is no truth
value. -/
theorem parse_variable {name source : String} (h : IsName name) (htrue : name ≠ "true")
    (hfalse : name ≠ "false") (hsource : source.toList = '$' :: '{' :: (name.toList ++ ['}'])) :
    parse source = .ok ⟨source, [.interpolation (.variable name)]⟩ := by
  have hends : (Token.name name).Ends ['}'] := Token.ends_delimiter _ (by decide) []
  have hopened : source = opened (name.toList ++ ['}']) := by
    rw [opened, ← hsource, String.ofList_toList]
  rw [hopened]
  exact parseWithin_opened (n := 0) (by decide)
    (.single (.single (.plain (.plain (.name htrue hfalse))))) (.token h hends .done)

/-! ## 3. A narrower grammar -/

namespace Identifier

/-- `[A-Za-z_]` -/
def begins (c : Char) : Bool := ('A' ≤ c && c ≤ 'Z') || ('a' ≤ c && c ≤ 'z') || c = '_'

/-- `[A-Za-z0-9_-]` -/
def plain (c : Char) : Bool := begins c || ('0' ≤ c && c ≤ '9') || c = '-'

/-- `[A-Za-z0-9_*-]` -/
def starred (c : Char) : Bool := plain c || c = '*'

end Identifier

/-- `IDENT := [A-Za-z_][A-Za-z0-9_-]* ("." [A-Za-z0-9_*-]+)*` -/
def Identifier (text : List Char) : Prop :=
  ∃ (c : Char) (first : List Char) (groups : List (List Char)),
    text = (c :: first) ++ groups.flatMap ('.' :: ·)
      ∧ Identifier.begins c = true ∧ (∀ d ∈ first, Identifier.plain d = true)
      ∧ ∀ group ∈ groups, Run Identifier.starred group

/-- The characters of Basic Latin. -/
def Basic (c : Char) : Prop := c.toNat < 0x80

instance : DecidablePred Basic := fun c => inferInstanceAs (Decidable (c.toNat < 0x80))

namespace Identifier

variable {c : Char}

theorem plain_of_begins (h : begins c = true) : plain c = true := by
  rw [plain, h, Bool.true_or, Bool.true_or]

theorem starred_of_plain (h : plain c = true) : starred c = true := by
  rw [starred, h, Bool.true_or]

theorem ne_star_of_plain (h : plain c = true) : c ≠ '*' := by
  rintro rfl
  exact absurd h (by decide)

theorem ne_point_of_starred (h : starred c = true) : c ≠ '.' := by
  rintro rfl
  exact absurd h (by decide)

theorem basic_of_starred (h : starred c = true) : Basic c := by
  have hle : ∀ {d : Char}, Basic d → c ≤ d → Basic c := fun hd hcd =>
    Nat.lt_of_le_of_lt (UInt32.le_iff_toNat_le.mp hcd) hd
  simp only [starred, plain, begins, Bool.or_eq_true, Bool.and_eq_true, decide_eq_true_eq] at h
  rcases h with ((((⟨-, h⟩ | ⟨-, h⟩) | rfl) | ⟨-, h⟩) | rfl) | rfl
  · exact hle (by decide) h
  · exact hle (by decide) h
  · decide
  · exact hle (by decide) h
  · decide
  · decide

/-- In Basic Latin a name begins as in the narrower grammar. -/
theorem begins_eq_startsName (h : Basic c) : begins c = startsName c := by
  have hall : ∀ n < 0x80, begins (Char.ofNat n) = startsName (Char.ofNat n) := by decide +kernel
  have hc := hall c.toNat h
  rwa [Char.ofNat_toNat] at hc

/-- In Basic Latin it goes on with the same characters, points included. -/
theorem starred_or_eq_continuesName (h : Basic c) :
    (starred c || c = '.') = continuesName c := by
  have hall : ∀ n < 0x80, (starred (Char.ofNat n) || Char.ofNat n = '.')
      = continuesName (Char.ofNat n) := by decide +kernel
  have hc := hall c.toNat h
  rwa [Char.ofNat_toNat] at hc

/-- So what stands between points is a character of the narrower grammar. -/
theorem starred_of_continuesName (h : continuesName c = true) (hbasic : Basic c)
    (hpoint : c ≠ '.') : starred c = true := by
  rw [← starred_or_eq_continuesName hbasic, Bool.or_eq_true, decide_eq_true_eq] at h
  exact h.resolve_right hpoint

theorem plain_of_starred (h : starred c = true) (hstar : c ≠ '*') : plain c = true := by
  rw [starred, Bool.or_eq_true, decide_eq_true_eq] at h
  exact h.resolve_right hstar

end Identifier

/-! ## 4. Segments -/

section

variable {text first segment : List Char} {groups : List (List Char)}

/-- Segments with points between them. -/
theorem intercalate_eq (first : List Char) (groups : List (List Char)) :
    ['.'].intercalate (first :: groups) = first ++ groups.flatMap ('.' :: ·) := by
  induction groups generalizing first with
  | nil => simp
  | cons group rest ih =>
    rw [List.intercalate_cons_cons, ih, List.flatMap_cons, List.append_assoc]
    rfl

/-- A text is its segments with points between them. -/
theorem eq_append_of_splitOn (h : text.splitOn '.' = first :: groups) :
    text = first ++ groups.flatMap ('.' :: ·) := by
  rw [← intercalate_eq, ← h, List.intercalate_splitOn]

/-- What is in a segment is in the text. -/
theorem mem_of_mem_splitOn {d : Char} (h : segment ∈ text.splitOn '.') (hd : d ∈ segment) :
    d ∈ text := by
  obtain ⟨first, groups, hsplit⟩ := List.exists_cons_of_ne_nil (List.splitOn_ne_nil '.' text)
  rw [eq_append_of_splitOn hsplit]
  rcases List.mem_cons.mp (hsplit ▸ h) with rfl | hgroup
  · exact List.mem_append_left _ hd
  · exact List.mem_append_right _ (List.mem_flatMap.mpr ⟨_, hgroup, List.mem_cons_of_mem _ hd⟩)

/-- No segment holds a point. -/
theorem notMem_of_mem_splitOn (h : segment ∈ text.splitOn '.') : '.' ∉ segment := by
  induction text generalizing segment with
  | nil =>
    rw [List.splitOn_nil, List.mem_singleton] at h
    rw [h]
    exact List.not_mem_nil
  | cons c rest ih =>
    rw [List.splitOn_cons_eq_if_modifyHead] at h
    obtain ⟨first, more, hsplit⟩ := List.exists_cons_of_ne_nil (List.splitOn_ne_nil '.' rest)
    rw [hsplit] at h ih
    split at h
    · rcases List.mem_cons.mp h with rfl | h
      · exact List.not_mem_nil
      · exact ih h
    · rename_i hc
      rcases List.mem_cons.mp h with rfl | h
      · exact List.not_mem_cons_of_ne_of_not_mem (fun heq => hc (beq_iff_eq.mpr heq.symm))
          (ih List.mem_cons_self)
      · exact ih (List.mem_cons_of_mem _ h)

end

namespace Identifier

variable {text : List Char}

/-- The segments of a text in the narrower grammar. -/
theorem exists_splitOn_eq (h : Identifier text) :
    ∃ (first : List Char) (groups : List (List Char)), text.splitOn '.' = first :: groups
      ∧ Run plain first ∧ ∀ group ∈ groups, Run starred group := by
  obtain ⟨c, first, groups, rfl, hc, hfirst, hgroups⟩ := h
  have hplain : ∀ d ∈ c :: first, plain d = true :=
    List.forall_mem_cons.mpr ⟨plain_of_begins hc, hfirst⟩
  refine ⟨c :: first, groups, ?_, ⟨List.cons_ne_nil _ _, hplain⟩, hgroups⟩
  rw [← intercalate_eq]
  refine List.splitOn_intercalate '.' (List.forall_mem_cons.mpr ⟨fun hmem => ?_, ?_⟩)
    (List.cons_ne_nil _ _)
  · exact ne_point_of_starred (starred_of_plain (hplain _ hmem)) rfl
  · exact fun group hgroup hmem => ne_point_of_starred ((hgroups group hgroup).2 _ hmem) rfl

/-- The narrower grammar keeps to Basic Latin. -/
theorem basic_of_mem (h : Identifier text) : ∀ c ∈ text, Basic c := by
  obtain ⟨first, groups, hsplit, ⟨-, hfirst⟩, hgroups⟩ := h.exists_splitOn_eq
  rw [eq_append_of_splitOn hsplit]
  refine List.forall_mem_append.mpr ⟨fun c hc => ?_, fun c hc => ?_⟩
  · exact basic_of_starred (starred_of_plain (hfirst c hc))
  · obtain ⟨group, hgroup, hc⟩ := List.mem_flatMap.mp hc
    rcases List.mem_cons.mp hc with rfl | hc
    · decide
    · exact basic_of_starred ((hgroups group hgroup).2 c hc)

/-- In Basic Latin the segments of a name have the characters of the narrower grammar. -/
theorem starred_of_mem_splitOn (hname : ∀ c ∈ text, continuesName c = true)
    (hbasic : ∀ c ∈ text, Basic c) {segment : List Char} (h : segment ∈ text.splitOn '.') :
    ∀ d ∈ segment, starred d = true := by
  intro d hd
  have hmem := mem_of_mem_splitOn h hd
  refine starred_of_continuesName (hname d hmem) (hbasic d hmem) ?_
  rintro rfl
  exact notMem_of_mem_splitOn h hd

end Identifier

/-- **Which names belong to the narrower grammar**: those of Basic Latin that have no star in their
first segment and no empty segment. -/
theorem identifier_iff {name : String} (h : IsName name) :
    Identifier name.toList ↔ (∀ c ∈ name.toList, Basic c)
      ∧ (∀ first ∈ (name.toList.splitOn '.').head?, '*' ∉ first)
      ∧ [] ∉ name.toList.splitOn '.' := by
  constructor
  · intro hidentifier
    obtain ⟨first, groups, hsplit, ⟨hnonempty, hfirst⟩, hgroups⟩ := hidentifier.exists_splitOn_eq
    rw [hsplit]
    refine ⟨hidentifier.basic_of_mem, ?_, fun hempty => ?_⟩
    · rintro _ ⟨⟩ hstar
      exact Identifier.ne_star_of_plain (hfirst _ hstar) rfl
    · rcases List.mem_cons.mp hempty with hempty | hempty
      · exact hnonempty hempty.symm
      · exact (hgroups [] hempty).1 rfl
  · rintro ⟨hbasic, hstar, hempty⟩
    obtain ⟨c, rest, hname, hc, hrest⟩ := exists_cons_of_isName h
    have hrun : ∀ d ∈ name.toList, continuesName d = true := hname ▸ forall_continuesName hc hrest
    have hstarred : ∀ segment ∈ name.toList.splitOn '.', ∀ d ∈ segment,
        Identifier.starred d = true := fun _ hsegment =>
      Identifier.starred_of_mem_splitOn hrun hbasic hsegment
    obtain ⟨first, groups, hsplit⟩ := List.exists_cons_of_ne_nil
      (List.splitOn_ne_nil '.' name.toList)
    have htext := eq_append_of_splitOn hsplit
    rw [hsplit] at hstar hempty hstarred
    -- The first segment is nonempty, so the name begins with it.
    obtain ⟨d, more, rfl⟩ := List.exists_cons_of_ne_nil
      fun hnil : first = [] => hempty (hnil ▸ List.mem_cons_self)
    obtain ⟨rfl, -⟩ := List.cons.inj (hname.symm.trans htext)
    refine ⟨c, more, groups, htext, ?_, fun d hd => ?_, fun group hgroup => ⟨?_, ?_⟩⟩
    · rwa [Identifier.begins_eq_startsName (hbasic c (hname ▸ List.mem_cons_self))]
    · have hd := List.mem_cons_of_mem c hd
      refine Identifier.plain_of_starred (hstarred _ List.mem_cons_self d hd) ?_
      rintro rfl
      exact hstar _ rfl hd
    · rintro rfl
      exact hempty (List.mem_cons_of_mem _ hgroup)
    · exact hstarred group (List.mem_cons_of_mem _ hgroup)

/-- **Names are the longest runs.**  The words of an accepted template stand in its text, one behind
another, each as long as it can be, and the names are among them.  A name belongs to the narrower
grammar exactly if it is Basic Latin without a star in its first segment and without an empty
segment. -/
theorem names_are_longest_runs {source : String} {t : Template} (h : parse source = .ok t) :
    Holds source.toList t.words
      ∧ ∀ name ∈ t.names, name ∈ t.words ∧ IsName name
        ∧ (Identifier name.toList ↔ (∀ c ∈ name.toList, Basic c)
          ∧ (∀ first ∈ (name.toList.splitOn '.').head?, '*' ∉ first)
          ∧ [] ∉ name.toList.splitOn '.') := by
  have hholds : Holds source.toList t.words := words_are_held h
  refine ⟨hholds, fun name hname => ?_⟩
  have hword := mem_words_of_mem_names hname
  have hrun := hholds.isName_of_mem hword
  exact ⟨hword, hrun, identifier_iff hrun⟩

namespace Example

/-- A name of two segments, with a star in the second, is a word of its template and belongs to the
narrower grammar. -/
theorem allPorts_is_identifier :
    parse "$\x7bweb-1.port_*\x7d"
        = .ok ⟨"$\x7bweb-1.port_*\x7d", [.interpolation (.variable "web-1.port_*")]⟩
      ∧ Holds "$\x7bweb-1.port_*\x7d".toList ["web-1.port_*"]
      ∧ Identifier "web-1.port_*".toList := by
  have hname : IsName "web-1.port_*" :=
    isName_of_all 'w' "eb-1.port_*".toList (by decide +kernel) (by decide +kernel)
  have hparse : parse "$\x7bweb-1.port_*\x7d"
      = .ok ⟨"$\x7bweb-1.port_*\x7d", [.interpolation (.variable "web-1.port_*")]⟩ :=
    parse_variable hname (by decide) (by decide) (by decide)
  obtain ⟨hholds, hnames⟩ := names_are_longest_runs hparse
  have hbasic : ("web-1.port_*".toList.all fun c => decide (Basic c)) = true := by decide +kernel
  have hsplit : "web-1.port_*".toList.splitOn '.' = ["web-1".toList, "port_*".toList] := by
    decide +kernel
  refine ⟨hparse, hholds, (hnames "web-1.port_*" List.mem_cons_self).2.2.mpr ⟨?_, ?_, ?_⟩⟩
  · exact fun c hc => of_decide_eq_true (List.all_eq_true.mp hbasic c hc)
  · rw [hsplit]
    rintro _ ⟨⟩
    decide
  · rw [hsplit]
    decide

/-- **A star directly behind a name belongs to it**, and there is no product.  Points with nothing
between them and letters of other scripts belong to names as well. -/
theorem star_is_taken_up :
    (parse "$\x7ba*2\x7d" = .ok ⟨"$\x7ba*2\x7d", [.interpolation (.variable "a*2")]⟩
        ∧ ¬ Identifier "a*2".toList)
      ∧ (parse "$\x7ba..b\x7d" = .ok ⟨"$\x7ba..b\x7d", [.interpolation (.variable "a..b")]⟩
        ∧ ¬ Identifier "a..b".toList)
      ∧ parse "$\x7bé\x7d" = .ok ⟨"$\x7bé\x7d", [.interpolation (.variable "é")]⟩
        ∧ ¬ Identifier "é".toList := by
  have hstar : IsName "a*2" := isName_of_all 'a' ['*', '2'] (by decide) (by decide)
  have hpoints : IsName "a..b" := isName_of_all 'a' ['.', '.', 'b'] (by decide) (by decide)
  have hletter : IsName "é" := isName_of_all 'é' [] (by decide +kernel) rfl
  refine ⟨⟨?_, ?_⟩, ⟨?_, ?_⟩, ?_, ?_⟩
  · exact parse_variable hstar (by decide) (by decide) (by decide)
  · intro h
    exact ((identifier_iff hstar).mp h).2.1 ['a', '*', '2'] (by decide) (by decide)
  · exact parse_variable hpoints (by decide) (by decide) (by decide)
  · intro h
    exact ((identifier_iff hpoints).mp h).2.2 (by decide)
  · exact parse_variable hletter (by decide) (by decide) (by decide)
  · intro h
    exact absurd (h.basic_of_mem 'é' (by decide)) (by decide)

end Example

end Grammar

end TemplatedConfig
