/-
# Paths step by step

Paths are compared by their steps, and the comparison is written out step by step.  It is the order
that lists have anyway: steps are ordered by their keys (`Component.before_iff`), and lists of steps
as lists are, the first difference deciding (`notAfter_iff`).  So the comparison of paths is total
and transitive, and two paths of which neither comes before the other are the same path, though
maybe spelled in two ways (`le_iff`, `same_iff`).

The steps come from the pieces between the slashes of a path.  Splitting a text goes through its
bytes; `pieces_eq` says the same of its characters, so that the steps of a given path can be
computed.
-/
import Mathlib.Data.Prod.Lex
import Mathlib.Data.String.Basic
import TemplatedConfig.Files.PathName

namespace TemplatedConfig.Files.PathName

/-! ## 1. Order -/

namespace Component

/-- A step is determined by what it is ordered by. -/
theorem key_injective : Function.Injective key := by
  intro a b h
  cases a <;> cases b <;> simp_all [key]

instance : LinearOrder Component :=
  LinearOrder.lift' (fun c => toLex c.key) fun _ _ h => key_injective (toLex.injective h)

theorem before_iff {a b : Component} : a.before b = true ↔ a < b := by
  have hlt : a < b ↔ toLex a.key < toLex b.key := Iff.rfl
  rw [hlt, Prod.Lex.toLex_lt_toLex]
  simp [before]

end Component

/-- **Steps one after another are ordered as lists are.** -/
theorem notAfter_iff {as bs : List Component} : notAfter as bs = true ↔ as ≤ bs := by
  induction as generalizing bs with
  | nil => exact iff_of_true rfl (not_lt.mp (List.not_lt_nil bs))
  | cons a as ih =>
    cases bs with
    | nil => exact iff_of_false Bool.false_ne_true (not_le.mpr (List.nil_lt_cons a as))
    | cons b bs =>
      rw [notAfter, Bool.or_eq_true, Bool.and_eq_true, Component.before_iff, decide_eq_true_iff, ih,
        ← not_lt, ← not_lt, List.cons_lt_cons_iff]
      rcases lt_trichotomy a b with h | rfl | h
      · simp [h, h.not_gt, h.ne']
      · simp
      · simp [h, h.not_gt, h.ne']

theorem le_iff {a b : String} : le a b = true ↔ components a ≤ components b := notAfter_iff

theorem same_iff {a b : String} : same a b = true ↔ components a = components b :=
  decide_eq_true_iff

theorem le_transitive (a b c : String) (hab : le a b = true) (hbc : le b c = true) :
    le a c = true :=
  le_iff.mpr ((le_iff.mp hab).trans (le_iff.mp hbc))

theorem le_or_le (a b : String) : (le a b || le b a) = true := by
  rw [Bool.or_eq_true, le_iff, le_iff]
  exact le_total _ _

/-! ## 2. Pieces -/

open String

/-- Splitting goes on behind a piece that is not complete yet. -/
theorem splitOnAux_slash (done piece rest : List Char) (pieces : List String) :
    splitOnAux (ofList (done ++ piece ++ rest)) "/" ⟨utf8Len done⟩ ⟨utf8Len (done ++ piece)⟩ 0
        pieces
      = pieces.reverse ++ (List.splitOnPPrepend (· == '/') rest piece.reverse).map ofList := by
  have hpiece : ∀ done piece rest : List Char, Pos.Raw.extract (ofList (done ++ piece ++ rest))
      ⟨utf8Len done⟩ ⟨utf8Len (done ++ piece)⟩ = ofList piece := fun done piece rest => by
    rw [utf8Len_append]
    exact extract_of_valid done piece rest
  induction rest generalizing done piece pieces with
  | nil =>
    rw [splitOnAux, if_pos ((atEnd_of_valid (done ++ piece) []).mpr rfl), hpiece,
      List.splitOnPPrepend_nil, List.reverse_reverse]
    exact List.reverse_cons
  | cons c rest ih =>
    have hmore : ¬ Pos.Raw.atEnd (ofList (done ++ piece ++ c :: rest)) ⟨utf8Len (done ++ piece)⟩
        = true := by
      rw [atEnd_of_valid]
      exact List.cons_ne_nil c rest
    have hlength : utf8Len (done ++ piece) + c.utf8Size = utf8Len (done ++ piece ++ [c]) := by
      rw [utf8Len_append (done ++ piece), utf8Len_cons, utf8Len_nil, Nat.zero_add]
    have hslash : Pos.Raw.get "/" 0 = '/' := by decide
    rw [splitOnAux, if_neg hmore, get_of_valid, List.headD_cons, hslash,
      List.splitOnPPrepend_cons_eq_if]
    by_cases hc : (c == '/') = true
    · obtain rfl := eq_of_beq hc
      have hlast : Pos.Raw.atEnd "/" (Pos.Raw.next "/" 0) = true := by decide
      have hback : Pos.Raw.unoffsetBy ⟨utf8Len (done ++ piece) + Char.utf8Size '/'⟩
          (Pos.Raw.next "/" 0) = ⟨utf8Len (done ++ piece)⟩ := rfl
      have hnext := ih (done ++ piece ++ ['/']) [] (ofList piece :: pieces)
      rw [List.append_nil, List.append_assoc (done ++ piece) ['/'] rest, ← hlength] at hnext
      rw [if_pos hc, if_pos hc, next_of_valid, if_pos hlast, hback, hpiece]
      simpa using hnext
    · have hstay : Pos.Raw.unoffsetBy ⟨utf8Len (done ++ piece)⟩ 0 = ⟨utf8Len (done ++ piece)⟩ := rfl
      have hnext := ih done (piece ++ [c]) pieces
      rw [← List.append_assoc, ← hlength, List.append_assoc (done ++ piece) [c] rest,
        List.reverse_append] at hnext
      rw [if_neg hc, if_neg hc, hstay, next_of_valid]
      exact hnext

/-- **The pieces of a path are what stands between its slashes.** -/
theorem pieces_eq (path : String) : pieces path = (path.toList.splitOn '/').map ofList := by
  have hsplit := splitOnAux_slash [] [] path.toList []
  rw [pieces, splitOn, if_neg (by decide)]
  simpa [List.splitOn] using hsplit

end TemplatedConfig.Files.PathName
