/-
# Paths into a value

A path such as `nginx.ports[1]` names a place in a tree: keys are joined by points, positions
in a sequence stand in brackets, and the empty path names the tree itself.  The same form is
printed by the walks over a tree (`field`, `item`) and read by `Value.atPath`.

Reading yields the steps one by one, so a path is followed as far as it can be before a fault
further along in it matters.
-/
import TemplatedConfig.Fault

namespace TemplatedConfig

/-- One step from a value into one of its parts. -/
inductive Step where
  | key (name : String)
  | index (position : Nat)
  deriving DecidableEq

namespace Path

/-- The path of a field of the mapping at `parent`. -/
def field (parent key : String) : String :=
  if parent = "" then key else parent ++ "." ++ key

/-- The path of an item of the sequence at `parent`. -/
def item (parent : String) (position : Nat) : String :=
  parent ++ "[" ++ toString position ++ "]"

/-- The characters that end a key. -/
def endsKey (c : Char) : Bool := c = '.' || c = '[' || c = ']'

/-- A position in brackets: decimal digits, a plus sign before them being allowed, below
`2 ^ 64`. -/
def readPosition? (text : List Char) : Option Nat :=
  let digits := match text with
    | '+' :: r => r
    | r => r
  if digits ≠ [] ∧ digits.all Char.isDigit then
    let n := digits.foldl (fun n c => 10 * n + (c.toNat - '0'.toNat)) 0
    if n < Nat.pow 2 64 then some n else none
  else none

/-- The first step of a text that does not start with a joining point, and what follows it. -/
def readStep (text : List Char) : Except Cause (Step × List Char) :=
  match text with
  | '[' :: after =>
    match after.dropWhile (· ≠ ']') with
    | [] => .error (.unclosedPathIndex (String.ofList after))
    | _ :: rest =>
      match readPosition? (after.takeWhile (· ≠ ']')) with
      | some n => .ok (.index n, rest)
      | none => .error (.invalidPathIndex (String.ofList (after.takeWhile (· ≠ ']'))))
  | text =>
    match text.dropWhile (!endsKey ·) with
    | ']' :: _ => .error .strayPathBracket
    | rest => .ok (.key (String.ofList (text.takeWhile (!endsKey ·))), rest)

/-- A step is never followed by more text than it was read from, and by less unless the text
starts with a point, which only a second point in a row can make it do. -/
theorem readStep_length {text rest : List Char} {step : Step}
    (h : readStep text = .ok (step, rest)) :
    rest.length ≤ text.length
      ∧ (text.head? ≠ some '.' → text ≠ [] → rest.length < text.length) := by
  unfold readStep at h
  split at h
  · rename_i after
    split at h
    · cases h
    · rename_i c r hr
      have hs : (c :: r).length ≤ after.length := by
        rw [← hr]; exact (List.dropWhile_sublist _).length_le
      split at h
      · cases h; simp only [List.length_cons] at hs ⊢; omega
      · cases h
  · rename_i hb
    have hs := (List.dropWhile_sublist (fun c => !endsKey c) (l := text)).length_le
    split at h
    · cases h
    · rename_i hnot
      cases h
      refine ⟨hs, fun hdot hne => ?_⟩
      match text, hb, hnot, hdot, hne with
      | c :: r, hb, hnot, hdot, _ =>
        have hc : endsKey c = false := by
          have h1 : c ≠ '.' := fun e => hdot (by simp [e])
          have h2 : c ≠ '[' := fun e => hb r (by rw [e])
          have h3 : c ≠ ']' := fun e => by
            subst e
            exact hnot r (by simp [List.dropWhile, endsKey])
          simp [endsKey, h1, h2, h3]
        have := (List.dropWhile_sublist (fun c => !endsKey c) (l := r)).length_le
        simp only [List.dropWhile_cons, hc, Bool.not_false, if_true, List.length_cons]
        omega

/-- The text after the point that joins a step to the one before it. -/
def afterPoint : List Char → List Char
  | '.' :: r => r
  | text => text

/-- A step and the point before it take up text. -/
theorem length_lt_of_readStep {text rest : List Char} {step : Step} (hne : afterPoint text ≠ [])
    (h : readStep (afterPoint text) = .ok (step, rest)) : rest.length < text.length := by
  obtain ⟨h1, h2⟩ := readStep_length h
  match text with
  | [] => exact absurd rfl hne
  | c :: r =>
    by_cases hc : c = '.'
    · subst hc
      have : afterPoint ('.' :: r) = r := rfl
      rw [this] at h1
      simp only [List.length_cons]; omega
    · have hap : afterPoint (c :: r) = c :: r := by
        unfold afterPoint
        split
        · rename_i r' heq; cases heq; exact absurd rfl hc
        · rfl
      rw [hap] at h2
      exact h2 (by simpa using hc) (by simp)

/-- The steps of a path, ending at the first fault. -/
def steps (text : List Char) : List (Except Cause Step) :=
  if afterPoint text = [] then []
  else
    match _h : readStep (afterPoint text) with
    | .error cause => [.error cause]
    | .ok (step, rest) => .ok step :: steps rest
termination_by text.length
decreasing_by
  rename_i hne
  exact length_lt_of_readStep hne _h

end Path

namespace Value

/-- The part of a value that one step leads to. -/
def child? (v : Value) : Step → Option Value
  | .key name => v.fields?.bind fun fields => Fields.get? fields name
  | .index n => v.items?.bind fun items => items[n]?

/-- Follows the steps of a path; `path` is the path as it stands in a fault. -/
def follow (path : String) : Value → List (Except Cause Step) → Except Fault Value
  | v, [] => .ok v
  | _, .error cause :: _ => .error (Fault.of cause)
  | v, .ok step :: rest =>
    match v.child? step with
    | some w => follow path w rest
    | none => .error ((Fault.of (.pathNotFound path)).atPath path)

/-- The value at a path. -/
def atPath (v : Value) (path : String) : Except Fault Value :=
  v.follow path (Path.steps path.toList)

end Value

end TemplatedConfig
