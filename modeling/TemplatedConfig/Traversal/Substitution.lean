/-
# Substituting results for templates

`substitute` puts what each template of a tree evaluates to in its place.  A list that comes from
a template standing directly in a list becomes part of that list.  An unknown result leaves
the mark in its place, and the paths of all results that are unknown, or hold the mark, are
reported in the order of the pass.

The entries of a mapping are evaluated in ascending order of their keys, like the sites of
`Value.sites`, and afterwards stand where they stood before.  So the recursion over the tree first
builds one action for each entry (`fieldActions`), and `inKeyOrder` runs them.
-/
import TemplatedConfig.Traversal.Site
import TemplatedConfig.Scope.Bindings

namespace TemplatedConfig

/-- A tree after substitution, and the paths whose values are not known yet. -/
structure Substituted where
  value : Value
  unknownPaths : List String := []

namespace Traversal

variable {m : Type → Type} [Monad m]

/-- What a template at a path leaves behind. -/
def ofOutcome (path : String) : Outcome → Substituted
  | .unknown => { value := Value.unknown, unknownPaths := [path] }
  | .known v => { value := v, unknownPaths := if v.hasUnknown then [path] else [] }

/-- The items that one item of a sequence turns into. -/
def splice (item result : Value) : List Value :=
  match result with
  | .sequence items => if item.isTemplate then items else [result]
  | _ => [result]

/-- An entry of a mapping that is still to be evaluated, with its place in the mapping. -/
abbrev Pending (m : Type → Type) := (String × ExceptT Fault m Substituted) × Nat

/-- An entry of a mapping that has been evaluated, with its place in the mapping. -/
abbrev Finished := (String × Substituted) × Nat

/-- Runs the action of one entry. -/
def finish (entry : Pending m) : ExceptT Fault m Finished := do
  let result ← entry.1.2
  return ((entry.1.1, result), entry.2)

/-- The mapping of finished entries, put back where they stood. -/
def assemble (finished : List Finished) : Substituted where
  value := .mapping ((finished.mergeSort fun a b => a.2 ≤ b.2).map fun e =>
    (e.1.1, e.1.2.value))
  unknownPaths := finished.flatMap fun e => e.1.2.unknownPaths

/-- Runs the actions of the entries of a mapping in ascending order of the keys. -/
def inKeyOrder (actions : List (String × ExceptT Fault m Substituted)) :
    ExceptT Fault m Substituted := do
  let finished ← (actions.zipIdx.mergeSort fun a b => a.1.1 ≤ b.1.1).mapM finish
  return assemble finished

variable (eval : String → Template → ExceptT Fault m Outcome)

mutual

/-- Substitutes in a value that stands at a path. -/
def substituteAt (path : String) : Value → ExceptT Fault m Substituted
  | .string s =>
    if Template.isTemplate s then do
      let e ← visitSite eval ⟨path, s⟩
      return ofOutcome path e
    else return { value := .string s }
  | .sequence items => do
    let (out, unknownPaths) ← substituteItems path 0 items
    return { value := .sequence out, unknownPaths }
  | .mapping fields => inKeyOrder (fieldActions path fields)
  | v => return { value := v }

/-- Substitutes in the items of a sequence, from a position on. -/
def substituteItems (path : String) (position : Nat) :
    List Value → ExceptT Fault m (List Value × List String)
  | [] => return ([], [])
  | v :: rest => do
    let first ← substituteAt (Path.item path position) v
    let (out, unknownPaths) ← substituteItems path (position + 1) rest
    return (splice v first.value ++ out, first.unknownPaths ++ unknownPaths)

/-- One action for each entry of a mapping. -/
def fieldActions (path : String) : Fields Value → List (String × ExceptT Fault m Substituted)
  | [] => []
  | (key, v) :: rest =>
    (key, substituteAt (Path.field path key) v) :: fieldActions path rest

end

/-- Evaluates every template of a tree and substitutes the results. -/
def substitute (v : Value) : ExceptT Fault m Substituted := substituteAt eval "" v

end Traversal

end TemplatedConfig
