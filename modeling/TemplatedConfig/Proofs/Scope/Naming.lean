/-
# Every name can be referred to

Four places have a notion of a name: the standard grammar, with letters of both cases and the two
characters that fold to one of them; the tokens of an expression, with letters of every script; the
splitting of a reference at its points; and the bindings, where any text is a name.  Whatever the
grammar accepts goes through all of them unchanged (`declarable_names_are_read`): between the braces
of a template it is one token behind `var.`, the token is a reference to the name, and the reference
is evaluated to what the name is bound to.

The grammar is compared with the others character by character.  What carries the rest is that the
characters of a name continue a token and are no points (`Reference.Referable`), which is all that
parsing and splitting need; so the results up to `Referable.fill` are about such names, and only the
last one is about the grammar.
-/
import Mathlib.Data.List.TakeWhile
import Mathlib.Tactic.Tauto
import TemplatedConfig.Name.Grammar
import TemplatedConfig.Scope.Evaluation
import TemplatedConfig.Proofs.Template.Nesting

namespace TemplatedConfig

/-! ## 1. The names of the standard grammar -/

namespace Name

/-- A character of a name: a letter or digit of Basic Latin, a hyphen or an underscore, or one of
the two characters beyond that have the same folding as a letter, the long s and the Kelvin sign. -/
def NameCharacter (c : Char) : Prop :=
  ('A' ≤ c ∧ c ≤ 'Z') ∨ ('a' ≤ c ∧ c ≤ 'z') ∨ ('0' ≤ c ∧ c ≤ '9') ∨ c = '-' ∨ c = '_'
    ∨ c = '\u017F' ∨ c = '\u212A'

namespace Grammar

theorem continuesName_iff {c : Char} : continuesName c = true ↔ NameCharacter c := by
  have hletter : c.isAlpha = (decide ('A' ≤ c ∧ c ≤ 'Z') || ('a' ≤ c && c ≤ 'z')) := rfl
  simp only [continuesName, startsName, isLetter, hletter, Char.isDigit, Bool.or_eq_true,
    Bool.and_eq_true, decide_eq_true_eq, NameCharacter, Char.le_def, ge_iff_le]
  tauto

/-- A name starts with any of its characters but the hyphen. -/
theorem startsName_iff {c : Char} : startsName c = true ↔ NameCharacter c ∧ c ≠ '-' := by
  rw [← continuesName_iff, continuesName, Bool.or_eq_true, decide_eq_true_eq]
  constructor
  · intro h
    refine ⟨.inl h, ?_⟩
    rintro rfl
    exact absurd h (by decide)
  · rintro ⟨h | h, hne⟩
    · exact h
    · exact absurd h hne

/-- **What the standard grammar accepts.** -/
theorem accepts_standard_iff {name : String} :
    standard.accepts name = true ↔
      name ≠ "" ∧ (∀ c ∈ name.toList, NameCharacter c) ∧ name.toList.head? ≠ some '-' := by
  show isStandardName name = true ↔ _
  unfold isStandardName
  rw [ne_eq, ← String.toList_eq_nil_iff]
  cases name.toList with
  | nil => simp
  | cons c rest =>
    simp only [Bool.and_eq_true, List.all_eq_true, startsName_iff, continuesName_iff,
      List.forall_mem_cons, List.head?_cons, ne_eq, Option.some.injEq, reduceCtorEq,
      not_false_eq_true, true_and]
    tauto

end Grammar

end Name

/-! ## 2. Names and values inside expressions -/

/-- A property of characters that holds all the way from one to another. -/
theorem forall_between {p : Char → Bool} {low high : Char}
    (h : ∀ i < high.toNat + 1 - low.toNat, p (Char.ofNat (low.toNat + i)) = true) {c : Char}
    (hc : low ≤ c ∧ c ≤ high) : p c = true := by
  have hlow : low.toNat ≤ c.toNat := hc.1
  have hhigh : c.toNat ≤ high.toNat := hc.2
  have hpoint := h (c.toNat - low.toNat) (by omega)
  rwa [Nat.add_sub_cancel' hlow, Char.ofNat_toNat] at hpoint

/-- The characters of a name go on with a name inside an expression, and no reference is split at
one of them. -/
theorem Name.NameCharacter.continues {c : Char} (h : NameCharacter c) :
    Template.continuesName c = true ∧ c ≠ '.' := by
  let p : Char → Bool := fun c => Template.continuesName c && c != '.'
  have hp : p c = true := by
    rcases h with h | h | h | rfl | rfl | rfl | rfl
    · exact forall_between (by decide +kernel) h
    · exact forall_between (by decide +kernel) h
    · exact forall_between (by decide +kernel) h
    all_goals decide +kernel
  simpa [p] using hp

/-- The mark stands for an unknown value, -/
theorem Outcome.ofValue_mark : ofValue (.string unknownMark) = .unknown :=
  if_pos (by simp [Value.isUnknown])

/-- and any other value for itself. -/
theorem Outcome.ofValue_of_ne_mark {v : Value} (h : v ≠ .string unknownMark) :
    ofValue v = .known v := by
  refine if_neg fun hunknown => h ?_
  cases v with
  | string s => rw [of_decide_eq_true hunknown]
  | _ => cases hunknown

namespace Reference

/-- A name that an expression can refer to. -/
structure Referable (name : String) : Prop where
  ne_empty : name ≠ ""
  continues : ∀ c ∈ name.toList, Template.continuesName c = true
  no_point : ∀ c ∈ name.toList, c ≠ '.'

theorem referable_of_accepts {name : String} (h : Name.Grammar.standard.accepts name = true) :
    Referable name := by
  obtain ⟨hne, hall, -⟩ := Name.Grammar.accepts_standard_iff.mp h
  exact ⟨hne, fun c hc => (hall c hc).continues.1, fun c hc => (hall c hc).continues.2⟩

/-! ## 3. The reference in a template -/

section

variable {name : String}

theorem toList_keyOf (name : String) : (keyOf name).toList = lead ++ name.toList := by
  rw [keyOf, String.toList_append, String.toList_ofList]

/-- A word that begins otherwise, such as one for a truth value, is no reference. -/
theorem keyOf_ne {word : String} (hhead : word.toList.head? ≠ some 'v') : keyOf name ≠ word := by
  rintro rfl
  rw [toList_keyOf] at hhead
  exact hhead rfl

/-- The template that reads a variable. -/
def reading (name : String) : Template :=
  ⟨"$\x7bvar." ++ name ++ "\x7d", [.interpolation (.variable ("var." ++ name))]⟩

open Grammar in
/-- **The full form of a reference is one token**, up to the brace that closes the template. -/
theorem Referable.lexes (h : Referable name) :
    Lexes (lead ++ name.toList ++ ['}']) [.name (keyOf name)] ['}'] := by
  have hname : ∀ c ∈ 'a' :: 'r' :: '.' :: name.toList, Template.continuesName c = true := by
    simp only [List.forall_mem_cons]
    exact ⟨by decide +kernel, by decide +kernel, by decide +kernel, h.continues⟩
  have hspelled := Spelled.name (show Template.startsName 'v' = true by decide +kernel) hname
  have hkey : String.ofList ('v' :: 'a' :: 'r' :: '.' :: name.toList) = keyOf name := by
    rw [← String.toList_inj, String.toList_ofList, toList_keyOf, lead]
    rfl
  rw [hkey] at hspelled
  exact .token hspelled (Token.ends_delimiter _ (by decide) []) .done

open Grammar in
theorem Referable.parse (h : Referable name) :
    Template.parse (reading name).source = .ok (reading name) := by
  have hsum : Sum 0 [.name (keyOf name)] (.variable (keyOf name)) :=
    .single (.single (.plain (.plain (.name (keyOf_ne (by decide)) (keyOf_ne (by decide))))))
  have hsource : (reading name).source = opened (lead ++ name.toList ++ ['}']) := by
    rw [← String.toList_inj, opened, String.toList_ofList]
    simp [reading, lead]
  have hparse := parseWithin_opened (show 0 < Template.maxNesting by decide) hsum h.lexes
  rw [← hsource] at hparse
  exact hparse

/-- **The reference is split behind the lead and nowhere else.** -/
theorem Referable.ofKey (h : Referable name) :
    ofKey (keyOf name) = .ok { name, key := keyOf name } := by
  have hdrop : name.toList.dropWhile (· ≠ '.') = [] :=
    List.dropWhile_eq_nil_iff.mpr fun c hc => decide_eq_true (h.no_point c hc)
  have hsplit : splitAtPoint name.toList = (name.toList, none) := by
    unfold splitAtPoint
    rw [hdrop]
  have hlead : Reference.ofKey (keyOf name) = ofRest (keyOf name) name.toList := by
    unfold Reference.ofKey
    rw [toList_keyOf]
    rfl
  rw [hlead, ofRest, hsplit]
  split
  next hnil => exact absurd (String.toList_eq_nil_iff.mp (Prod.mk.inj hnil).1) h.ne_empty
  next hwhole => rw [← (Prod.mk.inj hwhole).1, String.ofList_toList]
  next hpoint => cases (Prod.mk.inj hpoint).2

theorem Referable.allIn (h : Referable name) :
    allIn (.variable (keyOf name)) = .ok [{ name, key := keyOf name }] := by
  show [keyOf name].mapM Reference.ofKey = _
  rw [List.mapM_cons, h.ofKey]
  rfl

/-- **The reference is evaluated to what its name is bound to**, whatever the functions are. -/
theorem Referable.fill (h : Referable name) {b : Bindings} {v : Value} (hv : b.get? name = some v)
    (functions : Registry) :
    Scope.fill ⟨b, functions⟩ (reading name) = .ok (.ofValue v) := by
  show (Scope.lookup ⟨b, functions⟩ (keyOf name)).map Outcome.ofValue = _
  rw [Scope.lookup_of_ofKey h.ofKey, hv]
  rfl

end

/-! ## 4. Declared names -/

/-- **Every name that can be declared can be read.**  The standard grammar accepts a name that
is not empty, has no other characters than those of names and does not begin with a hyphen.  For
each such name the template `${var.name}` is one expression, the access of the variable; the one
reference in it has the full text `var.name`; and its value is what the name is bound to, unknown if
that is the mark. -/
theorem declarable_names_are_read :
    (∀ name, Name.Grammar.standard.accepts name = true ↔ name ≠ ""
      ∧ (∀ c ∈ name.toList, Name.NameCharacter c) ∧ name.toList.head? ≠ some '-')
    ∧ ∀ name, Name.Grammar.standard.accepts name = true →
      Template.parse ("$\x7bvar." ++ name ++ "\x7d") = .ok (reading name)
      ∧ (reading name).singleExpr? = some (.variable ("var." ++ name))
      ∧ (∃ r, Reference.allIn (.variable ("var." ++ name)) = .ok [r]
        ∧ r.fullText = "var." ++ name)
      ∧ ∀ (b : Bindings) (functions : Registry) (v : Value), b.get? name = some v →
        (v = .string unknownMark → Scope.fill ⟨b, functions⟩ (reading name) = .ok .unknown)
        ∧ (v ≠ .string unknownMark →
          Scope.fill ⟨b, functions⟩ (reading name) = .ok (.known v)) := by
  refine ⟨fun name => Name.Grammar.accepts_standard_iff, fun name haccepts => ?_⟩
  have h := referable_of_accepts haccepts
  refine ⟨h.parse, rfl, ⟨_, h.allIn, rfl⟩, fun b functions v hv => ⟨?_, fun hne => ?_⟩⟩
  · rintro rfl
    rw [h.fill hv, Outcome.ofValue_mark]
  · rw [h.fill hv, Outcome.ofValue_of_ne_mark hne]

namespace Example

/-- A digit first, then a hyphen and the two characters that fold to letters. -/
theorem folded_name_is_read :
    Name.Grammar.standard.accepts "2-\u017F\u212A" = true
      ∧ (Bindings.ofList [("2-\u017F\u212A", .integer 7)]).get? "2-\u017F\u212A"
        = some (.integer 7)
      ∧ Template.parse "$\x7bvar.2-\u017F\u212A\x7d" = .ok (reading "2-\u017F\u212A")
      ∧ Scope.fill ⟨.ofList [("2-\u017F\u212A", .integer 7)], .empty⟩ (reading "2-\u017F\u212A")
        = .ok (.known (.integer 7)) := by
  have haccepts : Name.Grammar.standard.accepts "2-\u017F\u212A" = true := by decide
  obtain ⟨hparse, -, -, hfill⟩ := declarable_names_are_read.2 _ haccepts
  exact ⟨haccepts, rfl, hparse, (hfill _ _ _ rfl).2 (by simp)⟩

end Example

end Reference

end TemplatedConfig
