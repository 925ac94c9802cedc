/-
# Printed expressions are read back

Messages show an expression as `Expr.print` writes it.  Nothing is lost in that text: put into an
interpolation, it is parsed to the expression again (`parse_print`).

Some trees cannot be written at all, and `Expr.Readable` leaves them out: numbers with a point,
whose digits are another matter; the smallest integer, which is out of range without its sign;
strings with characters that are escaped by their code point, an escape that the parser does not
know; names that are not one token, or that are read as truth values; a minus sign before a
numeral, which takes the sign into itself; and an index behind a minus sign, which is read first.

Two recursions over the tree meet in the tokens of the printed form (`Expr.tokens`).

* **Spacing.**  The printed form is made of these tokens, if it is cut off by a delimiter
  (`lexes_print`).  Names may hold `-`, `*` and points, so operators need the blanks around them.
* **Precedence.**  The tokens derive the expression as an operand, and as the target of an index if
  no minus sign comes first (`derived_tokens`).  Every operator is printed with parentheses around
  it, and every pair of them takes up a level of nesting (`Expr.printedNesting`).
-/
import TemplatedConfig.Template.Basic
import TemplatedConfig.Proofs.Template.Nesting

namespace TemplatedConfig

open Template Text Grammar

/-! ## 1. Expressions that can be read back -/

/-- A character that is shown as it is, or by an escape that the parser knows. -/
def Legible (c : Char) : Prop := isPrintable c = true ∨ c = '\n' ∨ c = '\t'

/-- Among them are the characters of Basic Latin but the controls. -/
theorem legible_of_basicLatin {c : Char} (hlow : 0x20 ≤ c.toNat) (hhigh : c.toNat ≤ 0x7e) :
    Legible c := by
  have hbasic : Ranges.contains [(0x20, 0x7e)] c.toNat = true := by
    simp only [Ranges.contains, if_neg (Nat.not_lt.mpr hlow), if_pos hhigh]
  have hshown : unprintableRanges.contains c.toNat = false :=
    Ranges.not_contains_of_contains (by decide +kernel) hbasic
  have hplain : extendingRanges.contains c.toNat = false :=
    Ranges.not_contains_of_contains (by decide +kernel) hbasic
  refine .inl ?_
  rw [isPrintable, hshown, hplain]
  rfl

/-- A name that is one token. -/
def IsName (name : String) : Prop := Spelled (.name name) name.toList

namespace Expr

/-- A number, which takes a minus sign into itself. -/
def IsNumeral : Expr → Prop
  | .literal (.integer _) => True
  | .literal (.float _) => True
  | _ => False

/-- Whether a minus sign is printed first. -/
def IsSigned : Expr → Prop
  | .literal (.integer n) => n < 0
  | .negate _ => True
  | _ => False

mutual

/-- The expressions that the parser can build and whose literals it can read. -/
def Readable : Expr → Prop
  | .literal (.integer n) => Int64.minValue < n
  | .literal (.bool _) => True
  | .literal (.string text) => ∀ c ∈ text.toList, Legible c
  | .literal (.float _) => False
  | .variable name => IsName name ∧ name ≠ "true" ∧ name ≠ "false"
  | .index target key => ¬ target.IsSigned ∧ target.Readable ∧ key.Readable
  | .call function arguments => IsName function ∧ AllReadable arguments
  | .arithmetic _ left right => left.Readable ∧ right.Readable
  | .negate operand => ¬ operand.IsNumeral ∧ operand.Readable

/-- The same for each of several expressions. -/
def AllReadable : List Expr → Prop
  | [] => True
  | e :: rest => e.Readable ∧ AllReadable rest

end

mutual

/-- How deep parentheses, brackets and minus signs nest in the printed form.  The sign of a negative
numeral counts, and the parentheses around every operator. -/
def printedNesting : Expr → Nat
  | .literal (.integer n) => if n < 0 then 1 else 0
  | .literal _ => 0
  | .variable _ => 0
  | .index target key => max target.printedNesting (key.printedNesting + 1)
  | .call _ arguments => printedNestingOfAll arguments
  | .arithmetic _ left right => max left.printedNesting right.printedNesting + 1
  | .negate operand => operand.printedNesting + 1

/-- The same for arguments, with the parentheses around them. -/
def printedNestingOfAll : List Expr → Nat
  | [] => 0
  | e :: rest => max (e.printedNesting + 1) (printedNestingOfAll rest)

end

mutual

/-- The tokens of the printed form. -/
def tokens : Expr → List Token
  | .literal (.integer n) =>
    if n < 0 then [.symbol '-', .integer n.toInt.natAbs] else [.integer n.toInt.natAbs]
  | .literal (.bool b) => [.name (Value.boolText b)]
  | .literal (.string text) => [.string text]
  | .literal (.float x) => [.float x]
  | .variable name => [.name name]
  | .index target key => target.tokens ++ .symbol '[' :: (key.tokens ++ [.symbol ']'])
  | .call function arguments =>
    .name function :: .symbol '(' :: (tokensOfAll arguments ++ [.symbol ')'])
  | .arithmetic op left right =>
    .symbol '(' :: ((left.tokens ++ .symbol op.symbol :: right.tokens) ++ [.symbol ')'])
  | .negate operand => .symbol '-' :: operand.tokens

/-- The tokens of several arguments, with commas between them. -/
def tokensOfAll : List Expr → List Token
  | [] => []
  | [e] => e.tokens
  | e :: e' :: rest => e.tokens ++ .symbol ',' :: tokensOfAll (e' :: rest)

end

/-- The template that interpolates the printed form. -/
def interpolated (e : Expr) : String := "$\x7b" ++ e.print ++ "\x7d"

end Expr

namespace Grammar

/-! ## 2. Literals and names -/

/-- A first character and others that go on with it are a name. -/
theorem isName_of_all (c : Char) (rest : List Char) (hc : startsName c = true)
    (hrest : rest.all continuesName = true) : IsName (String.ofList (c :: rest)) := by
  rw [IsName, String.toList_ofList]
  exact .name hc (List.all_eq_true.mp hrest)

/-- The word for a truth value is a name. -/
theorem isName_boolText (b : Bool) : IsName (Value.boolText b) := by
  cases b with
  | false => exact isName_of_all 'f' "alse".toList (by decide +kernel) (by decide +kernel)
  | true => exact isName_of_all 't' "rue".toList (by decide +kernel) (by decide +kernel)

/-- One character between the quotes is read back. -/
theorem Quoted.quoteChar {c : Char} {s body : List Char} (hc : Legible c) (h : Quoted s body) :
    Quoted (c :: s) (quoteChar c ++ body) := by
  unfold Text.quoteChar
  by_cases hnull : c = '\x00'
  · subst hnull
    exact absurd hc (by unfold Legible; decide +kernel)
  rw [if_neg hnull]
  by_cases htab : c = '\t'
  · subst htab
    exact .escape rfl h
  rw [if_neg htab]
  by_cases hnewline : c = '\n'
  · subst hnewline
    exact .escape rfl h
  rw [if_neg hnewline]
  by_cases hreturn : c = '\r'
  · subst hreturn
    exact absurd hc (by unfold Legible; decide +kernel)
  rw [if_neg hreturn]
  by_cases hquote : c = '\x22'
  · subst hquote
    exact .escape rfl h
  rw [if_neg hquote]
  by_cases hbackslash : c = '\\'
  · subst hbackslash
    exact .escape rfl h
  have hshown : isPrintable c = true := by
    rcases hc with hshown | hc | hc
    · exact hshown
    · exact absurd hc hnewline
    · exact absurd hc htab
  rw [if_neg hbackslash, if_pos hshown]
  exact .plain hquote hbackslash h

theorem quoted_flatMap_quoteChar {s : List Char} (h : ∀ c ∈ s, Legible c) :
    Quoted s (s.flatMap Text.quoteChar ++ ['\x22']) := by
  induction s with
  | nil => exact .close
  | cons c s ih =>
    obtain ⟨hc, hs⟩ := List.forall_mem_cons.mp h
    rw [List.flatMap_cons, List.append_assoc]
    exact .quoteChar hc (ih hs)

/-- **A quoted text is a token** for the text. -/
theorem spelled_quoted {text : String} (h : ∀ c ∈ text.toList, Legible c) :
    Spelled (.string text) (quoted text).toList := by
  have hspelled := Spelled.string (quoted_flatMap_quoteChar h)
  rwa [String.ofList_toList, ← String.toList_ofList (l := _ :: _)] at hspelled

/-- The digits of a number are a token for the number. -/
theorem spelled_toDigits (n : Nat) : Spelled (.integer n) (Nat.toDigits 10 n) := by
  have hvalue : Decimal.digitsValue (Nat.toDigits 10 n) = n := Nat.ofDigitChars_ten_toDigits
  have hdigits : Run Char.isDigit (Nat.toDigits 10 n) :=
    ⟨Nat.toDigits_ne_nil, fun c hc => Nat.isDigit_of_mem_toDigits (by decide) (by decide) hc⟩
  have hspelled := Spelled.integer hdigits
  rwa [hvalue] at hspelled

section

variable {n : Int64}

/-- A negative number is written with a sign before its digits, -/
theorem toList_integerText_of_neg (h : n < 0) :
    (Value.integerText n).toList = '-' :: Nat.toDigits 10 n.toInt.natAbs := by
  have hneg : n.toInt < 0 := Int64.lt_iff_toInt_lt.mp h
  have habs : (-n.toInt).toNat = n.toInt.natAbs := by omega
  rw [Value.integerText, Int.toString_eq_repr, Int.repr_eq_if, if_neg (by omega), habs,
    String.toList_append, Nat.toList_repr]
  rfl

/-- and every other without one. -/
theorem toList_integerText_of_not_neg (h : ¬ n < 0) :
    (Value.integerText n).toList = Nat.toDigits 10 n.toInt.natAbs := by
  have hneg : ¬ n.toInt < 0 := fun hneg => h (Int64.lt_iff_toInt_lt.mpr hneg)
  have habs : n.toInt.toNat = n.toInt.natAbs := by omega
  rw [Value.integerText, Int.toString_eq_repr, Int.repr_eq_if, if_pos (by omega), habs,
    Nat.toList_repr]

/-- What the digits stand for is the number, -/
theorem ofNat_natAbs_of_not_neg (h : ¬ n < 0) : Int64.ofNat n.toInt.natAbs = n := by
  have hneg : ¬ n.toInt < 0 := fun hneg => h (Int64.lt_iff_toInt_lt.mpr hneg)
  rw [← Int64.ofInt_eq_ofNat, Int.natAbs_of_nonneg (by omega), Int64.ofInt_toInt]

/-- or its opposite if a sign is before them. -/
theorem neg_ofNat_natAbs_of_neg (h : n < 0) : -Int64.ofNat n.toInt.natAbs = n := by
  have hneg : n.toInt < 0 := Int64.lt_iff_toInt_lt.mp h
  rw [← Int64.ofInt_eq_ofNat, Int.ofNat_natAbs_of_nonpos (by omega), Int64.ofInt_neg,
    Int64.ofInt_toInt, Int64.neg_neg]

/-- The digits of all integers but the smallest are in range. -/
theorem natAbs_le_maxInteger (h : Int64.minValue < n) : n.toInt.natAbs ≤ maxInteger := by
  have hlow : Int64.minValue.toInt < n.toInt := Int64.lt_iff_toInt_lt.mp h
  have hmin : Int64.minValue.toInt = -2 ^ 63 := by decide
  have hmax : maxInteger = 2 ^ 63 - 1 := by decide
  have hhigh := n.toInt_lt
  omega

end

/-! ## 3. The printed form is made of the tokens -/

/-- A name, a number or a string before a delimiter. -/
theorem lexes_of_spelled {t : Token} {spelling : List Char} (h : Spelled t spelling) {c : Char}
    (hc : c ∈ delimiters) (rest : List Char) :
    Lexes (spelling ++ c :: rest) [t] (c :: rest) :=
  .token h (t.ends_delimiter hc rest) .done

mutual

/-- **The printed form is made of its tokens**, whatever delimiter stands behind it. -/
theorem lexes_print : ∀ (e : Expr), e.Readable → ∀ {c : Char}, c ∈ delimiters →
    ∀ rest, Lexes (e.print.toList ++ c :: rest) e.tokens (c :: rest)
  | .literal (.integer n), _, c, hc, rest => by
    rw [Expr.print, Literal.print, Expr.tokens]
    by_cases hn : n < 0
    · rw [if_pos hn, toList_integerText_of_neg hn]
      exact .cons_symbol (by decide) (lexes_of_spelled (spelled_toDigits _) hc rest)
    · rw [if_neg hn, toList_integerText_of_not_neg hn]
      exact lexes_of_spelled (spelled_toDigits _) hc rest
  | .literal (.bool b), _, c, hc, rest => lexes_of_spelled (isName_boolText b) hc rest
  | .literal (.string _), h, c, hc, rest => lexes_of_spelled (spelled_quoted h) hc rest
  | .variable _, h, c, hc, rest => lexes_of_spelled h.1 hc rest
  | .index target key, h, c, hc, rest => by
    have hkey := lexes_print key h.2.2 (c := ']') (by decide) (c :: rest)
    have hclosed := hkey.append_symbol (by decide)
    have hindex := Lexes.cons_symbol (c := '[') (by decide) hclosed
    have htext : (Expr.index target key).print.toList ++ c :: rest
        = target.print.toList ++ '[' :: (key.print.toList ++ ']' :: c :: rest) := by
      simp [Expr.print]
    rw [htext, Expr.tokens]
    exact (lexes_print target h.2.1 (by decide) _).append hindex
  | .call function arguments, h, c, hc, rest => by
    have harguments := lexes_printAll arguments h.2 (c := ')') (by decide) (c :: rest)
    have hclosed := harguments.append_symbol (by decide)
    have hopen := Lexes.cons_symbol (c := '(') (by decide) hclosed
    have htext : (Expr.call function arguments).print.toList ++ c :: rest
        = function.toList
          ++ '(' :: ((", ".intercalate (Expr.printAll arguments)).toList ++ ')' :: c :: rest) := by
      simp [Expr.print]
    rw [htext, Expr.tokens]
    exact (lexes_of_spelled h.1 (c := '(') (by decide) _).append hopen
  | .arithmetic op left right, h, c, hc, rest => by
    have hright := lexes_print right h.2 (c := ')') (by decide) (c :: rest)
    have hclosed := hright.append_symbol (by decide)
    have hop := Lexes.cons_symbol (symbol_mem_symbols op) (.blank (c := ' ') (by decide) hclosed)
    have htext : (Expr.arithmetic op left right).print.toList ++ c :: rest
        = '(' :: (left.print.toList
          ++ ' ' :: op.symbol :: ' ' :: (right.print.toList ++ ')' :: c :: rest)) := by
      simp [Expr.print]
    rw [htext, Expr.tokens, List.append_assoc, List.cons_append]
    refine .cons_symbol (by decide) ?_
    exact (lexes_print left h.1 (by decide) _).append (.blank (by decide) hop)
  | .negate operand, h, c, hc, rest => by
    have htext : (Expr.negate operand).print.toList ++ c :: rest
        = '-' :: (operand.print.toList ++ c :: rest) := by
      simp [Expr.print]
    rw [htext, Expr.tokens]
    exact .cons_symbol (by decide) (lexes_print operand h.2 hc rest)

/-- Arguments are printed with a comma and a blank between them. -/
theorem lexes_printAll : ∀ (es : List Expr), Expr.AllReadable es → ∀ {c : Char}, c ∈ delimiters →
    ∀ rest, Lexes ((", ".intercalate (Expr.printAll es)).toList ++ c :: rest)
      (Expr.tokensOfAll es) (c :: rest)
  | [], _, _, _, _ => .done
  | [e], h, c, hc, rest => by
    rw [Expr.printAll, Expr.printAll, String.intercalate_singleton]
    exact lexes_print e h.1 hc rest
  | e :: e' :: es, h, c, hc, rest => by
    have hrest := lexes_printAll (e' :: es) h.2 hc rest
    have hcomma := Lexes.cons_symbol (c := ',') (by decide) (.blank (c := ' ') (by decide) hrest)
    have htext : (", ".intercalate (Expr.printAll (e :: e' :: es))).toList ++ c :: rest
        = e.print.toList
          ++ ',' :: ' ' :: ((", ".intercalate (Expr.printAll (e' :: es))).toList ++ c :: rest) := by
      rw [Expr.printAll, String.intercalate_cons_of_ne_nil (by simp [Expr.printAll])]
      simp
    rw [htext, Expr.tokensOfAll]
    exact (lexes_print e h.1 (by decide) _).append hcomma

end

/-! ## 4. The tokens derive the expression -/

/-- Where an expression can stand: as an operand, and as the target of an index if no minus sign
comes first. -/
def DerivedWithin (n : Nat) (e : Expr) : Prop :=
  Unary n e.tokens e ∧ (¬ e.IsSigned → Indexed n e.tokens e)

section

variable {n : Nat} {e : Expr}

theorem DerivedWithin.of_primary (h : Primary n e.tokens e) : DerivedWithin n e :=
  ⟨.plain (.plain h), fun _ => .plain h⟩

theorem DerivedWithin.sum (h : DerivedWithin n e) : Sum n e.tokens e := .single (.single h.1)

/-- Any two operands can be joined. -/
theorem sum_arithmetic {left right : Expr} (op : Operator) (hleft : DerivedWithin n left)
    (hright : DerivedWithin n right) :
    Sum n (left.tokens ++ .symbol op.symbol :: right.tokens) (.arithmetic op left right) := by
  have hproduct (hop : op = .mul ∨ op = .div ∨ op = .mod) :=
    Sum.single (.join hop (.single hleft.1) hright.1)
  cases op with
  | add => exact .join (.inl rfl) hleft.sum (.single hright.1)
  | sub => exact .join (.inr rfl) hleft.sum (.single hright.1)
  | mul => exact hproduct (.inl rfl)
  | div => exact hproduct (.inr (.inl rfl))
  | mod => exact hproduct (.inr (.inr rfl))

end

mutual

/-- **The tokens derive the expression**, nested as deep as they are printed. -/
theorem derived_tokens : ∀ (e : Expr), e.Readable → ∀ {n : Nat}, e.printedNesting ≤ n →
    DerivedWithin n e
  | .literal (.integer v), h, n, hn => by
    have hrange := natAbs_le_maxInteger h
    rw [Expr.printedNesting] at hn
    by_cases hv : v < 0
    · rw [if_pos hv] at hn
      have hminus : Unary n [.symbol '-', .integer v.toInt.natAbs] (.literal (.integer _)) :=
        .minus hn (.plain (.plain (.integer hrange)))
      rw [neg_ofNat_natAbs_of_neg hv] at hminus
      refine ⟨?_, fun hsigned => absurd hv hsigned⟩
      rwa [Expr.tokens, if_pos hv]
    · have hdigits : Primary n [.integer v.toInt.natAbs] _ := .integer hrange
      rw [ofNat_natAbs_of_not_neg hv] at hdigits
      refine .of_primary ?_
      rwa [Expr.tokens, if_neg hv]
  | .literal (.bool b), _, n, _ => by
    refine .of_primary ?_
    cases b with
    | false => exact .falseWord
    | true => exact .trueWord
  | .literal (.string _), _, _, _ => .of_primary .string
  | .variable name, h, _, _ => .of_primary (.name h.2.1 h.2.2)
  | .index target key, h, n, hn => by
    rw [Expr.printedNesting] at hn
    have htarget := (derived_tokens target h.2.1 (n := n) (by omega)).2 h.1
    have hkey := (derived_tokens key h.2.2 (Nat.le_refl _)).sum
    have hindex := Indexed.index (by omega) htarget hkey
    exact ⟨.plain hindex, fun _ => hindex⟩
  | .call function arguments, h, n, hn => by
    rw [Expr.printedNesting] at hn
    by_cases hempty : arguments = []
    · rw [hempty]
      exact .of_primary .bareCall
    · exact .of_primary (.call (arguments_tokens arguments h.2 hempty hn))
  | .arithmetic op left right, h, n, hn => by
    rw [Expr.printedNesting] at hn
    have hleft := derived_tokens left h.1 (Nat.le_max_left _ right.printedNesting)
    have hright := derived_tokens right h.2 (Nat.le_max_right left.printedNesting _)
    exact .of_primary (.parenthesized hn (sum_arithmetic op hleft hright))
  | .negate operand, h, n, hn => by
    have hoperand := derived_tokens operand h.2 (Nat.le_refl _)
    have hminus := Unary.minus hn hoperand.1
    have hsign : negated operand = .negate operand := by
      unfold negated
      split
      · exact absurd trivial h.1
      · exact absurd trivial h.1
      · rfl
    rw [hsign] at hminus
    exact ⟨hminus, fun hsigned => absurd trivial hsigned⟩

theorem arguments_tokens : ∀ (es : List Expr), Expr.AllReadable es → es ≠ [] → ∀ {n : Nat},
    Expr.printedNestingOfAll es ≤ n → Arguments n (Expr.tokensOfAll es) es
  | [], _, hempty, _, _ => absurd rfl hempty
  | [e], h, _, n, hn => by
    rw [Expr.printedNestingOfAll] at hn
    exact .last (by omega) (derived_tokens e h.1 (Nat.le_refl _)).sum
  | e :: e' :: es, h, _, n, hn => by
    rw [Expr.printedNestingOfAll] at hn
    have hes := arguments_tokens (e' :: es) h.2 (List.cons_ne_nil _ _) (n := n) (by omega)
    exact .more (by omega) (derived_tokens e h.1 (Nat.le_refl _)).sum hes

end

/-! ## 5. Templates of one printed expression -/

/-- The template opens an interpolation, and a brace closes it. -/
theorem interpolated_eq_opened (e : Expr) : e.interpolated = opened (e.print.toList ++ ['}']) := by
  rw [← String.toList_inj, opened, String.toList_ofList]
  simp [Expr.interpolated]

/-- **Printed expressions are read back.**  If an expression can be read back at all and its
printed form nests less than `maxNesting` levels deep, then the template that interpolates the
printed form is parsed, and it is one interpolation of the same expression. -/
theorem parse_print {e : Expr} (h : e.Readable) (hnesting : e.printedNesting < maxNesting) :
    parse e.interpolated = .ok ⟨e.interpolated, [.interpolation e]⟩ := by
  have hlexes := lexes_print e h (c := '}') (by decide) []
  have hsum := (derived_tokens e h (Nat.le_refl _)).sum
  rw [interpolated_eq_opened]
  exact parseWithin_opened hnesting hsum hlexes

namespace Example

/-- A minus sign, a name with operators in it, a negative argument, and a key with a quote, a brace
and the end of a line in it. -/
def difference : Expr :=
  .arithmetic .sub
    (.negate (.index (.call "f.g-*" [.variable "var.x", .literal (.integer (-7))])
      (.literal (.string "\"\x7d\n"))))
    (.arithmetic .div (.literal (.bool true)) (.literal (.integer 3)))

/-- The names are tokens, and the key is legible. -/
theorem readable_difference : difference.Readable := by
  have hfunction : IsName "f.g-*" :=
    isName_of_all 'f' ".g-*".toList (by decide +kernel) (by decide +kernel)
  have hvariable : IsName "var.x" :=
    isName_of_all 'v' "ar.x".toList (by decide +kernel) (by decide +kernel)
  have hkey : ∀ c ∈ ['\x22', '\x7d', '\n'], Legible c := by
    simp only [List.forall_mem_cons]
    exact ⟨legible_of_basicLatin (by decide) (by decide),
      legible_of_basicLatin (by decide) (by decide), .inr (.inl rfl), by simp⟩
  have harguments : Expr.AllReadable [.variable "var.x", .literal (.integer (-7))] :=
    ⟨⟨hvariable, by decide, by decide⟩, (by decide : Int64.minValue < -7), trivial⟩
  exact ⟨⟨id, id, ⟨hfunction, harguments⟩, hkey⟩, trivial, (by decide : Int64.minValue < 3)⟩

/-- Its text is read back. -/
theorem difference_is_read_back :
    difference.interpolated = "$\x7b(-f.g-*(var.x, -7)[\"\\\"\x7d\\n\"] - (true / 3))\x7d"
      ∧ difference.printedNesting = 4
      ∧ parse difference.interpolated
        = .ok ⟨difference.interpolated, [.interpolation difference]⟩ :=
  ⟨by decide +kernel, by decide +kernel,
    parse_print readable_difference (by decide +kernel)⟩

end Example

end Grammar

end TemplatedConfig
