/-
# Escaping undoes parsing

Any text can be written as a template that evaluates to it: every `${` in it gets one more dollar
sign in front (`escape`).  A run of dollar signs before the brace makes the two patterns of the
parser, `$${` and `${`, overlap.  But the escaped text opens nothing by itself: it begins with the
character that the text begins with, so a dollar sign that was followed by no brace is followed by
none (`atOpening_escapeOpenings`).  So it reads as the characters of the text, one after another
(`reads_escapeOpenings`), and these are gathered into one literal.

A text without any `${` is its own escape.  That is why a pass over a document may leave such
texts alone without parsing them.

Main statement: `escaping_is_undone`.
-/
import TemplatedConfig.Proofs.Template.Completeness
import TemplatedConfig.Scope.Evaluation
import TemplatedConfig.Function.Basic

namespace TemplatedConfig

namespace Template

/-- The text with one more dollar sign before each opening of an interpolation. -/
def escapeOpenings : List Char → List Char
  | '$' :: '{' :: rest => '$' :: '$' :: '{' :: escapeOpenings rest
  | c :: rest => c :: escapeOpenings rest
  | [] => []

/-- The template that stands for a text, `$$$${a}` for `$$${a}`. -/
def escape (text : String) : String := String.ofList (escapeOpenings text.toList)

/-- A text that opens no interpolation needs no escaping. -/
theorem escapeOpenings_eq_self {text : List Char} (h : hasOpening text = false) :
    escapeOpenings text = text := by
  fun_induction escapeOpenings text with
  | case1 rest _ => simp [hasOpening] at h
  | case2 c rest hopening ih =>
    have hrest : hasOpening rest = false := by
      rwa [hasOpening] at h
      exact hopening
    rw [ih hrest]
  | case3 => rfl

/-- Escaping leaves the first character in its place. -/
theorem head?_escapeOpenings (text : List Char) : (escapeOpenings text).head? = text.head? := by
  fun_cases escapeOpenings text <;> rfl

end Template

namespace Grammar

open Template

/-! ## 1. What an escaped text reads as -/

/-- A dollar sign that no brace follows opens nothing, neither before what follows is escaped nor
afterwards. -/
theorem atOpening_escapeOpenings {c : Char} {text : List Char}
    (h : ∀ rest, c = '$' → text = '{' :: rest → False) :
    atOpening (c :: escapeOpenings text) = false := by
  unfold atOpening
  split
  · -- `$${` could only come from a second dollar sign before a brace, which is escaped itself
    rename_i rest heq
    obtain ⟨rfl, hescaped⟩ := List.cons.inj heq
    fun_cases escapeOpenings text with
    | case1 more => simp [escapeOpenings] at hescaped
    | case2 d more hopening =>
      rw [escapeOpenings] at hescaped
      · obtain ⟨rfl, hbrace⟩ := List.cons.inj hescaped
        have hhead := head?_escapeOpenings more
        rw [hbrace] at hhead
        cases more with
        | nil => cases hhead
        | cons e more =>
          cases hhead
          exact (hopening more rfl rfl).elim
      · exact hopening
    | case3 => cases hescaped
  · rename_i rest heq
    obtain ⟨rfl, hescaped⟩ := List.cons.inj heq
    have hhead := head?_escapeOpenings text
    rw [hescaped] at hhead
    cases text with
    | nil => cases hhead
    | cons d more =>
      cases hhead
      exact (h more rfl rfl).elim
  · rfl

/-- **An escaped text reads as its characters.** -/
theorem reads_escapeOpenings (limit : Nat) (text : List Char) :
    Reads limit (escapeOpenings text) (text.map .character) := by
  fun_induction escapeOpenings text with
  | case1 rest ih => exact .escape ih
  | case2 c rest hopening ih => exact .character (atOpening_escapeOpenings hopening) ih
  | case3 => exact .nil

/-- The parts of a text that embeds nothing: one literal, or none if the text is empty. -/
theorem gather_map_character (text : List Char) :
    gather (text.map .character) = if text = [] then [] else [.literal (String.ofList text)] := by
  split
  · rename_i h
    rw [h]
    rfl
  · rename_i h
    have hgather := gather_characters h []
    rwa [List.append_nil] at hgather

end Grammar

/-! ## 2. What it evaluates to -/

/-- A template of one literal, or of nothing at all, is that text in every scope. -/
theorem Scope.fill_literal (s : Scope) (source : String) (text : List Char) :
    s.fill ⟨source, if text = [] then [] else [.literal (String.ofList text)]⟩
      = .ok (.known (.string (String.ofList text))) := by
  split
  · rename_i h
    rw [h]
    rfl
  · have htext : String.ofList text ++ "" = String.ofList text := String.append_empty
    change Except.ok (Outcome.known (.string (String.ofList text ++ ""))) = _
    rw [htext]

namespace Grammar

open Template

/-- Every text parses, once it is escaped, to a template that embeds nothing and evaluates to the
text. -/
theorem exists_parse_escape (s : Scope) (text : String) :
    ∃ t, parse (escape text) = .ok t ∧ (∀ e, .interpolation e ∉ t.parts)
      ∧ s.fill t = .ok (.known (.string text)) := by
  have hreads : Reads maxNesting (escape text).toList (text.toList.map .character) := by
    rw [escape, String.toList_ofList]
    exact reads_escapeOpenings maxNesting text.toList
  refine ⟨⟨escape text, gather (text.toList.map .character)⟩, ?_, ?_, ?_⟩
  · exact parseWithin_eq_ok_iff_reads.mpr ⟨_, hreads, rfl⟩
  · rw [gather_map_character]
    split <;> simp
  · rw [gather_map_character, Scope.fill_literal, String.ofList_toList]

/-- **Escaping is undone by parsing.**  The escape of a text parses to a template that embeds
nothing and evaluates to the text, in every scope.  A text in which nothing opens, not even an
escape, evaluates to itself. -/
theorem escaping_is_undone (s : Scope) (text : String) :
    (∃ t, parse (escape text) = .ok t ∧ (∀ e, .interpolation e ∉ t.parts)
      ∧ s.fill t = .ok (.known (.string text)))
    ∧ (isTemplate text = false →
      ∃ t, parse text = .ok t ∧ (∀ e, .interpolation e ∉ t.parts)
        ∧ s.fill t = .ok (.known (.string text))) := by
  refine ⟨exists_parse_escape s text, fun h => ?_⟩
  have hself : escape text = text := by
    rw [escape, escapeOpenings_eq_self h, String.ofList_toList]
  have hparse := exists_parse_escape s text
  rwa [hself] at hparse

namespace Example

/-- Nothing is bound, and the functions are the usual ones. -/
def emptyScope : Scope := ⟨Bindings.empty, Registry.builtins⟩

/-- Dollar signs and braces that do not stand together are no template. -/
theorem price_is_itself :
    isTemplate "$5 {each}$" = false
      ∧ ∃ t, parse "$5 {each}$" = .ok t ∧ (∀ e, .interpolation e ∉ t.parts)
        ∧ emptyScope.fill t = .ok (.known (.string "$5 {each}$")) := by
  have hplain : isTemplate "$5 {each}$" = false := by decide
  exact ⟨hplain, (escaping_is_undone emptyScope "$5 {each}$").2 hplain⟩

end Example

end Grammar

end TemplatedConfig
